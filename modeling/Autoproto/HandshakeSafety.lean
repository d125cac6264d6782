import Autoproto.HandshakeConnection
import Autoproto.HandshakeHistory
import Autoproto.TransportAuthenticity

namespace Autoproto

open List BigNum ByteEncoding

/-!
# A handshake and a hostile server

Every byte of an answer is chosen by the other side. What enters a calculation
modulo a number is checked or of a fixed size, with two exceptions: the number
to factorize and the prime are moduli before they are checked. Otherwise only an
answer that is not awaited aborts the process.
-/

namespace Tl

variable {bytes rest : Bytes} {text : Bytes}

theorem fetchText_length {header textBegin size alignedSize : Nat}
    (fetched : fetchText header textBegin size alignedSize bytes = some (text, rest)) :
    text.length ≤ bytes.length ∧ rest.length ≤ bytes.length := by
  rw [fetchText] at fetched
  split at fetched
  · cases fetched
    simp only [length_take, length_drop]
    omega
  · cases fetched

theorem fetchString_length (fetched : fetchString bytes = some (text, rest)) :
    text.length ≤ bytes.length ∧ rest.length ≤ bytes.length := by
  cases bytes with
  | nil => cases fetched
  | cons first sized =>
    simp only [fetchString] at fetched
    split at fetched
    · cases fetched
    split at fetched
    · exact fetchText_length fetched
    split at fetched
    · exact fetchText_length fetched
    split at fetched
    · cases fetched
    · exact fetchText_length fetched

variable {width : Nat}

theorem fetchBinary_length {number : Nat}
    (fetched : fetchBinary width bytes = some (number, rest)) : rest.length ≤ bytes.length := by
  rw [fetchBinary] at fetched
  split at fetched
  · cases fetched
    rw [length_drop]
    omega
  · cases fetched

theorem fetchFixed_length {field : FixedBytes width}
    (fetched : fetchFixed width bytes = some (field, rest)) :
    width ≤ bytes.length ∧ rest.length ≤ bytes.length := by
  rw [fetchFixed] at fetched
  split at fetched
  · cases fetched
    rw [length_drop]
    omega
  · cases fetched

theorem fetchConstructor_length {id : Nat} (fetched : fetchConstructor id bytes = some rest) :
    rest.length ≤ bytes.length := by
  obtain ⟨⟨found, after⟩, first, fetched⟩ := Option.bind_eq_some_iff.mp fetched
  dsimp only at fetched
  split at fetched
  · cases fetched
    exact fetchBinary_length first
  · cases fetched

theorem storeString_ensures (short : text.length < 2 ^ 32) :
    Ensures (fun stored => stored.length ≤ text.length + 12) (storeString text) := by
  rw [storeString]
  split_ifs <;>
    simp only [Ensures, padding, length_append, length_cons, length_leOfNat, length_replicate] <;>
    omega

end Tl

namespace Mtproto

open Tl

variable {message : Bytes} {innerData : ServerDhInnerData} {handshake : AuthKeyHandshake}

theorem fetchResPq_length {answer : ResPq} (fetched : fetchResPq message = some answer) :
    answer.pq.length ≤ message.length := by
  simp only [fetchResPq, Option.bind_eq_bind, Option.bind_eq_some_iff, Prod.exists] at fetched
  obtain ⟨_, id, _, _, isNonce, _, _, isServerNonce, _, _, isPq, _, _, _, same⟩ := fetched
  cases same
  have first := fetchConstructor_length id
  have second := (fetchFixed_length isNonce).2
  have third := (fetchFixed_length isServerNonce).2
  have fourth := (fetchString_length isPq).1
  dsimp only
  omega

theorem fetchServerDhParams_length {answer : ServerDhParams}
    (fetched : fetchServerDhParams message = some answer) :
    answer.encryptedAnswer.length ≤ message.length := by
  simp only [fetchServerDhParams, Option.bind_eq_bind, Option.bind_eq_some_iff, Prod.exists]
    at fetched
  obtain ⟨_, id, _, _, isNonce, _, _, isServerNonce, _, _, isAnswer, same⟩ := fetched
  cases same
  have first := fetchConstructor_length id
  have second := (fetchFixed_length isNonce).2
  have third := (fetchFixed_length isServerNonce).2
  have fourth := (fetchString_length isAnswer).1
  dsimp only
  omega

theorem fetchAnswerWithHash_length {answer rest : Bytes} {answerSha1 : FixedBytes 20}
    (fetched : fetchAnswerWithHash answer = some (answerSha1, innerData, rest)) :
    20 ≤ answer.length ∧ innerData.dhPrime.length ≤ answer.length ∧
      innerData.gA.length ≤ answer.length := by
  simp only [fetchAnswerWithHash, fetchServerDhInnerData, Option.bind_eq_bind,
    Option.bind_eq_some_iff, Prod.exists] at fetched
  obtain ⟨_, _, isSha1, _, _, ⟨_, id, _, _, isNonce, _, _, isServerNonce, _, _, isG, _, _, isPrime,
    _, _, isGA, _, _, _, inner⟩, same⟩ := fetched
  cases inner
  cases same
  have hash := fetchFixed_length isSha1
  have first := fetchConstructor_length id
  have second := (fetchFixed_length isNonce).2
  have third := (fetchFixed_length isServerNonce).2
  have fourth := fetchBinary_length isG
  have fifth := fetchString_length isPrime
  have sixth := (fetchString_length isGA).1
  dsimp only
  omega

/-! ## The first answer -/

variable {number : Nat}

theorem length_toBinary_le {str : Bytes} (notLarger : number ≤ natOfBe str) :
    (toBinary number).length ≤ str.length := by
  have bound := natOfLe_lt str.reverse
  rw [length_reverse] at bound
  rw [toBinary, length_beOfNat, getNumBytes_le_iff]
  exact Nat.lt_of_le_of_lt notLarger bound

theorem factors_le {pq : Nat} (nonzero : pq ≠ 0) {factors : Nat × Nat}
    (isProduct : factors.1 * factors.2 = pq) :
    min factors.1 factors.2 ≤ pq ∧ max factors.1 factors.2 ≤ pq := by
  have first : factors.1 ≤ pq := Nat.le_of_dvd (by omega) ⟨factors.2, isProduct.symm⟩
  have second : factors.2 ≤ pq :=
    Nat.le_of_dvd (by omega) ⟨factors.1, by rw [Nat.mul_comm, isProduct]⟩
  omega

variable {draws : HandshakeDraws} {context : HandshakeContext}

theorem pqFactorize_ensures {pqStr : Bytes} (short : pqStr.length ≤ intMax)
    (nonzero : isBigPq pqStr = true → natOfBe pqStr ≠ 0) : Ensures
      (fun factors => ∀ p q, factors = some (p, q) → p.length < 2 ^ 32 ∧ q.length < 2 ^ 32)
      (pqFactorize draws pqStr) := by
  have small : pqStr.length < 2 ^ 32 := by
    rw [intMax] at short
    omega
  rw [pqFactorize]
  split
  · rename_i big
    rw [fromBinary_eq_ok short, ok_bind, modMul_eq_ok (nonzero big), ok_bind]
    intro p q found
    obtain ⟨factors, _, isPair⟩ := Option.map_eq_some_iff.mp found
    cases isPair
    have notLarger := factors_le (nonzero big) factors.property
    have first := length_toBinary_le notLarger.1
    have second := length_toBinary_le notLarger.2
    omega
  · dsimp only
    split
    · exact nofun
    · intro p q found
      cases found
      have second :=
        length_toBinary_le (Nat.div_le_self (natOfBe pqStr) (draws.factor (natOfBe pqStr)).toNat)
      have first : (toBinary (draws.factor (natOfBe pqStr)).toNat).length ≤ 8 := by
        rw [toBinary, length_beOfNat, getNumBytes_le_iff]
        exact AuthKey.word_fits _
      omega

theorem RsaKey.encrypt_ensures (rsa : RsaKey) {source : Bytes} (size : source.length = 256) :
    Ensures (fun encrypted => ∀ bytes, encrypted = some bytes → bytes.length = 256)
      (rsa.encrypt source) := by
  obtain ⟨lower, upper⟩ := rsa.size
  have bits : 2041 ≤ rsa.n.size ∧ rsa.n.size ≤ 2048 := by
    rw [Nat.size_le]
    exact ⟨Nat.lt_size.mpr lower, upper⟩
  have nonzero : rsa.n ≠ 0 := Nat.ne_of_gt (Nat.lt_of_lt_of_le (Nat.two_pow_pos 2040) lower)
  rw [RsaKey.encrypt, check_eq_ok size, ok_bind, check_eq_ok bits, ok_bind,
    fromBinary_eq_ok (by rw [size]; decide), ok_bind]
  split
  · rw [modExp_eq_ok nonzero, ok_bind, toBinary_eq_ok]
    · rintro bytes isBytes
      cases isBytes
      exact length_beOfNat ..
    · rw [pow_256]
      exact Nat.lt_trans (Nat.mod_lt _ (Nat.pos_of_ne_zero nonzero)) upper
  · exact nofun

variable (primitives : Primitives) {data : Bytes}

theorem innerDataBlock_ensures (size : data.length = 192) (aesKey : FixedBytes 32) :
    Ensures (·.length = 256) (innerDataBlock primitives data aesKey) := by
  have hashed : (data.reverse ++ (primitives.sha256 (aesKey.val ++ data)).val).length = 224 := by
    rw [length_append, length_reverse, size, (primitives.sha256 _).property]
  rw [innerDataBlock, aesIgeEncrypt, check_eq_ok (by rw [hashed]), ok_bind]
  change (xorBytes _ _ ++ _).length = 256
  rw [length_append, xorBytes, length_zipWith, aesKey.property,
    (primitives.sha256 _).property, primitives.length_igeEncrypt, hashed]
  rfl

theorem encryptInnerData_ensures (rsa : RsaKey) (size : data.length = 192)
    (aesKeys : List (FixedBytes 32)) :
    Ensures (·.length = 256) (encryptInnerData primitives rsa data aesKeys) := by
  induction aesKeys with
  | nil => exact rfl
  | cons aesKey aesKeys ih =>
    refine (innerDataBlock_ensures primitives size aesKey).bind fun block blockSize => ?_
    refine (rsa.encrypt_ensures blockSize).bind fun encrypted length => ?_
    cases encrypted with
    | none => exact ih
    | some bytes => exact length bytes rfl

/-- The inner data can be stored. -/
theorem pQInnerData_ensures {pq p q : Bytes} (pqShort : pq.length < 2 ^ 32)
    (pShort : p.length < 2 ^ 32) (qShort : q.length < 2 ^ 32) :
    Ensures (fun _ => True) (handshake.pQInnerData pq p q) := by
  rw [AuthKeyHandshake.pQInnerData]
  cases handshake.mode <;>
  · refine (storeString_ensures pqShort).bind fun _ _ => ?_
    refine (storeString_ensures pShort).bind fun _ _ => ?_
    exact (storeString_ensures qShort).bind fun _ _ => trivial

theorem sendReqDhParams_ensures (rsaKey : RsaKey) {pq p q : Bytes} (pqShort : pq.length < 2 ^ 32)
    (pShort : p.length < 2 ^ 32) (qShort : q.length < 2 ^ 32) :
    Ensures (fun _ => True)
      (AuthKeyHandshake.sendReqDhParams context draws handshake rsaKey pq p q) := by
  refine (pQInnerData_ensures pqShort pShort qShort).bind fun data _ => ?_
  split
  · trivial
  · rename_i notTooBig
    have padded : (data ++ (draws.secureBytes (192 - data.length)).val).length = 192 := by
      rw [length_append, (draws.secureBytes _).property]
      omega
    refine (encryptInnerData_ensures context.primitives rsaKey padded draws.aesKeys).bind
      fun encryptedData size => ?_
    have stored (nonce serverNonce : FixedBytes 16) : Ensures (fun _ => True)
          (reqDhParams nonce serverNonce p q rsaKey.fingerprint encryptedData) := by
      refine (storeString_ensures pShort).bind fun _ _ => ?_
      refine (storeString_ensures qShort).bind fun _ _ => ?_
      exact (storeString_ensures (by rw [size]; decide)).bind fun _ _ => trivial
    exact (stored _ _).bind fun _ _ => trivial

/-- The number to factorize that an answer brings to a modular multiplication is zero. -/
def ZeroPq (context : HandshakeContext) (draws : HandshakeDraws) (handshake : AuthKeyHandshake)
    (message : Bytes) : Prop :=
  ∃ answer rsaKey, draws.timeoutExpired = false ∧
      fetchResPq message = some answer ∧
      answer.nonce = handshake.nonce ∧
      context.getRsaKey answer.serverPublicKeyFingerprints = some rsaKey ∧
      isBigPq answer.pq = true ∧
      natOfBe answer.pq = 0

theorem onResPq_ensures (short : message.length ≤ intMax)
    (notZero : ¬ ZeroPq context draws handshake message) :
    Ensures (fun _ => True) (AuthKeyHandshake.onResPq context draws handshake message) := by
  rw [AuthKeyHandshake.onResPq]
  split
  · trivial
  rename_i notExpired
  split
  · trivial
  rename_i answer fetched
  split
  · trivial
  rename_i nonce
  split
  · trivial
  rename_i rsaKey known
  have pqShort := fetchResPq_length fetched
  have nonzero : isBigPq answer.pq = true → natOfBe answer.pq ≠ 0 := by
    intro big isZero
    exact notZero ⟨answer, rsaKey, Bool.eq_false_iff.mpr notExpired, fetched,
        Decidable.not_not.mp nonce, known, big, isZero⟩
  refine (pqFactorize_ensures (Nat.le_trans pqShort short) nonzero).bind fun factors lengths => ?_
  rcases factors with _ | ⟨p, q⟩
  · trivial
  · obtain ⟨pShort, qShort⟩ := lengths p q rfl
    refine sendReqDhParams_ensures _ ?_ pShort qShort
    rw [intMax] at short
    omega

/-! ## The second answer -/

/-- Reading the inner data does not abort. -/
theorem openServerDhParams_returns (handshake : AuthKeyHandshake) (message : Bytes) :
    Returns (handshake.openServerDhParams primitives message) := by
  rw [AuthKeyHandshake.openServerDhParams]
  split
  · exact returns_ok _
  split
  · exact returns_ok _
  split
  · exact returns_ok _
  split
  · exact returns_ok _
  rename_i aligned
  rw [aesIgeDecrypt, check_eq_ok (Decidable.not_not.mp aligned), ok_bind]
  dsimp only [pure_eq_ok, ok_bind]
  split
  · exact returns_ok _
  rename_i answerSha1 innerData rest fetchedInner
  split
  · exact returns_ok _
  rw [substr, check_eq_ok (fetchAnswerWithHash_length fetchedInner).1]
  dsimp only [pure_eq_ok, ok_bind]
  split_ifs <;> exact returns_ok _

theorem innerData_lengths {primitives : Primitives}
    (opened : handshake.openServerDhParams primitives message = .ok (.ok innerData)) :
    innerData.dhPrime.length ≤ message.length ∧ innerData.gA.length ≤ message.length := by
  obtain ⟨answer, opens⟩ := AuthKeyHandshake.opens_of_openServerDhParams opened
  obtain ⟨decrypted, answerSha1, rest, isDecrypted, fetched, _, _⟩ := opens.hash
  have inner := fetchAnswerWithHash_length fetched
  have outer := fetchServerDhParams_length opens.fetched
  rw [isDecrypted, primitives.length_igeDecrypt] at inner
  omega

variable {dh : DhHandshake}

theorem runChecks_ensures (hasGA : dh.hasGA = true) (hasConfig : dh.hasConfig = true) :
    Ensures (fun checked => checked.status = .ok () → dh.prime.size = 2048)
      (dh.runChecks context.isPrime false context.dhCallback) := by
  rw [DhHandshake.runChecks, check_eq_ok ⟨hasGA, hasConfig⟩, ok_bind]
  split
  · exact nofun
  simp only [Bool.false_eq_true, if_false]
  split
  · rename_i failure failed
    intro ok
    rw [failed] at ok
    cases ok
  · rename_i _ passed
    have bits : dh.prime.size = 2048 := by
      by_contra notBits
      rw [DhHandshake.checkConfig, if_pos notBits] at passed
      cases passed
    obtain ⟨status, checked⟩ : Returns (DhHandshake.dhCheck dh.prime dh.gA dh.gB) := by
      rw [DhHandshake.dhCheck, check_eq_ok bits, ok_bind]
      dsimp only
      split <;> exact returns_ok _
    rw [checked, ok_bind]
    exact fun _ => bits

theorem encryptedClientDhInnerData_ensures {gB : Bytes} (short : gB.length ≤ 256) :
    Ensures (·.length < 2 ^ 32)
      (AuthKeyHandshake.encryptedClientDhInnerData context.primitives draws handshake gB) := by
  have isData : Ensures (·.length ≤ 312)
        (clientDhInnerData handshake.nonce handshake.serverNonce 0 gB) := by
    refine (storeString_ensures (by omega)).bind fun stored length => ?_
    change List.length _ ≤ 312
    simp only [List.length_append, length_leOfNat, handshake.nonce.property,
      handshake.serverNonce.property]
    omega
  refine isData.bind fun data length => ?_
  have size : ((context.primitives.sha1 data).val ++ data ++
        (draws.secureBytes ((20 + data.length + 15) / 16 * 16 - (20 + data.length))).val).length =
        (20 + data.length + 15) / 16 * 16 := by
    rw [length_append, length_append, (context.primitives.sha1 data).property,
      (draws.secureBytes _).property]
    omega
  rw [aesIgeEncrypt, check_eq_ok (by rw [size]; omega), ok_bind]
  change List.length _ < 2 ^ 32
  rw [context.primitives.length_igeEncrypt, size]
  omega

/-- The prime that an answer brings to a modular exponentiation is zero. -/
def ZeroPrime (context : HandshakeContext) (draws : HandshakeDraws) (handshake : AuthKeyHandshake)
    (message : Bytes) : Prop :=
  ∃ innerData, draws.timeoutExpired = false ∧
      handshake.openServerDhParams context.primitives message = .ok (.ok innerData) ∧
      natOfBe innerData.dhPrime = 0

/-- A handshake whose numbers are those of an answer. -/
structure Configured (dh : DhHandshake) (dhPrime : Bytes) : Prop where
  hasConfig : dh.hasConfig = true
  prime : dh.prime = natOfBe dhPrime
  gB : dh.gB < dh.prime

variable {dhPrime : Bytes}

theorem setConfig_ensures {g : Int32} {b : Nat} (short : dhPrime.length ≤ intMax)
    (nonzero : natOfBe dhPrime ≠ 0) :
    Ensures (Configured · dhPrime) (DhHandshake.setConfig {} b g dhPrime) := by
  rw [DhHandshake.setConfig, check_eq_ok short, ok_bind]
  dsimp only
  rw [modExp_eq_ok nonzero, ok_bind]
  exact ⟨rfl, rfl, Nat.mod_lt _ (Nat.pos_of_ne_zero nonzero)⟩

theorem setGA_ensures {configured : DhHandshake} {gA : Bytes}
    (isConfigured : Configured configured dhPrime) (short : gA.length ≤ intMax) :
    Ensures (fun dh => dh.hasGA = true ∧ Configured dh dhPrime)
      (configured.setGA context.primitives gA) := by
  rw [DhHandshake.setGA, fromBinary_eq_ok short, ok_bind]
  exact ⟨rfl, isConfigured.hasConfig, isConfigured.prime, isConfigured.gB⟩

theorem fits_of_bits {prime : Nat} (bits : prime.size = 2048) (below : number < prime) :
    number < 256 ^ 256 := by
  rw [pow_256]
  exact Nat.lt_trans below (Nat.size_le.mp (Nat.le_of_eq bits))

theorem getGB_ensures (isConfigured : Configured dh dhPrime) (bits : dh.prime.size = 2048) :
    Ensures (·.length ≤ 256) dh.getGB := by
  rw [DhHandshake.getGB, check_eq_ok isConfigured.hasConfig, ok_bind]
  change length _ ≤ 256
  rw [length_beOfNat, getNumBytes_le_iff]
  exact fits_of_bits bits isConfigured.gB

theorem genKey_ensures (isConfigured : Configured dh dhPrime) (hasGA : dh.hasGA = true)
    (bits : dh.prime.size = 2048) :
    Ensures (fun _ => True) (dh.genKey context.primitives) := by
  have nonzero : dh.prime ≠ 0 := by
    have below := isConfigured.gB
    omega
  rw [DhHandshake.genKey, DhHandshake.getGAb, check_eq_ok ⟨hasGA, isConfigured.hasConfig⟩, ok_bind,
    modExp_eq_ok nonzero, ok_bind,
    toBinary_eq_ok (fits_of_bits bits (Nat.mod_lt _ (Nat.pos_of_ne_zero nonzero)))]
  trivial

theorem sendSetClientDhParams_ensures (primeShort : innerData.dhPrime.length ≤ intMax)
    (gAShort : innerData.gA.length ≤ intMax) (nonzero : natOfBe innerData.dhPrime ≠ 0) :
    Ensures (fun _ => True)
      (AuthKeyHandshake.sendSetClientDhParams context draws handshake innerData) := by
  refine (setConfig_ensures primeShort nonzero).bind fun _ isConfigured => ?_
  refine (setGA_ensures isConfigured gAShort).bind fun dh ⟨hasGA, isConfigured⟩ => ?_
  refine (runChecks_ensures hasGA isConfigured.hasConfig).bind fun checked bitsOfOk => ?_
  split
  · trivial
  · rename_i _ passed
    have bits := bitsOfOk passed
    refine (getGB_ensures isConfigured bits).bind fun gB gBShort => ?_
    refine (genKey_ensures isConfigured hasGA bits).bind fun _ _ => ?_
    refine (encryptedClientDhInnerData_ensures gBShort).bind fun encryptedData short => ?_
    have stored : Ensures (fun _ => True)
          (setClientDhParams handshake.nonce handshake.serverNonce encryptedData) :=
      (storeString_ensures short).bind fun _ _ => trivial
    exact stored.bind fun _ _ => trivial

theorem onServerDhParams_ensures (short : message.length ≤ intMax)
    (notZero : ¬ ZeroPrime context draws handshake message) :
    Ensures (fun _ => True)
      (AuthKeyHandshake.onServerDhParams context draws handshake message) := by
  rw [AuthKeyHandshake.onServerDhParams]
  split
  · trivial
  rename_i notExpired
  obtain ⟨opened, opens⟩ := openServerDhParams_returns context.primitives handshake message
  rw [opens, ok_bind]
  split
  · trivial
  · rename_i innerData
    obtain ⟨primeShort, gAShort⟩ := innerData_lengths opens
    refine sendSetClientDhParams_ensures (Nat.le_trans primeShort short)
      (Nat.le_trans gAShort short) ?_
    intro isZero
    exact notZero ⟨innerData, Bool.eq_false_iff.mpr notExpired, opens, isZero⟩

/-! ## Every answer -/

/-- An answer that the handshake does not survive: none is awaited, or it brings a zero modulus. -/
def Harmful (context : HandshakeContext) (draws : HandshakeDraws) (handshake : AuthKeyHandshake)
    (message : Bytes) : Prop :=
  match handshake.state with
  | .start => True
  | .resPq => ZeroPq context draws handshake message
  | .serverDhParams => ZeroPrime context draws handshake message
  | .dhGenResponse => False
  | .finish => True

theorem dispatch_ensures (short : message.length ≤ intMax)
    (harmless : ¬ Harmful context draws handshake message) :
    Ensures (fun _ => True) (AuthKeyHandshake.dispatch context draws handshake message) := by
  rw [Harmful] at harmless
  rw [AuthKeyHandshake.dispatch]
  cases state : handshake.state <;> simp only [state] at harmless ⊢
  · exact (harmless trivial).elim
  · exact onResPq_ensures short harmless
  · exact onServerDhParams_ensures short harmless
  · rw [AuthKeyHandshake.onDhGenResponse]
    repeat' split
    all_goals trivial
  · exact (harmless trivial).elim

/-! ## Packets -/

/-- A packet that carries an answer to `on_message`. -/
structure Delivers (bytes message : Bytes) : Prop where
  large : 20 ≤ bytes.length
  unencrypted : uint64At bytes 0 = 0
  message : message = messageOf (bytes.drop 8)

theorem Delivers.short {bytes : Bytes} (delivers : Delivers bytes message)
    (short : bytes.length < 2 ^ 31) : message.length ≤ intMax := by
  rw [delivers.message, messageOf, intMax]
  simp only [length_take, length_drop]
  omega

/-- What a call of `on_message` leaves. -/
def FlushRead.ofHandled (handled : Handled) : FlushRead :=
  { handshake := handled.handshake
    status := handled.status.mapError HandshakeError.code
    sent := handled.sent.toList }

theorem read_empty_key (bytes : Bytes) : ∃ result,
      read primitives bytes {} { version := 2 } = .ok result ∧
        ∀ data, result.result = .ok (.packet data) →
            16 ≤ bytes.length ∧ uint64At bytes 0 = 0 ∧
              result.packetInfo.noCryptoFlag = true ∧
              data.bytes result.packet = bytes.drop 8 := by
  rw [read]
  split
  · refine ⟨_, rfl, ?_⟩
    intro data isPacket
    exact absurd isPacket (readShort_ne_packet)
  rename_i large
  simp only [reduceCtorEq, if_false]
  by_cases unencrypted : uint64At bytes 0 = 0
  · have size : bytes.length - 8 ≠ 0 := by omega
    simp only [unencrypted, decide_true, if_true, readNoCrypto, sizeofNoCryptoHeader]
    rw [if_neg (by omega)]
    simp only [ReadResult.makePacket]
    rw [check_eq_ok size, ok_bind]
    refine ⟨_, rfl, ?_⟩
    intro data isPacket
    cases isPacket
    refine ⟨by omega, trivial, rfl, ?_⟩
    rw [Slice.bytes, part, take_of_length_le (by rw [length_drop])]
  · simp only [unencrypted, decide_false, Bool.false_eq_true, if_false]
    refine ⟨_, rfl, ?_⟩
    intro data isPacket
    cases isPacket

theorem readIncoming_cases (incoming : Incoming) : (∃ status,
      readIncoming context handshake incoming = .ok { handshake := handshake, status := status }) ∨
      ∃ bytes short draws message, incoming = .packet bytes short draws ∧
          Delivers bytes message ∧
          readIncoming context handshake incoming =
            (do
              let handled ← handshake.onMessage context draws message
              return .ofHandled handled) := by
  cases incoming with
  | quickAck | failure => exact Or.inl ⟨_, rfl⟩
  | packet bytes short draws =>
    obtain ⟨result, isRead, isPacket⟩ := read_empty_key context.primitives bytes
    rw [readIncoming, isRead, ok_bind]
    split
    · exact Or.inl ⟨_, rfl⟩
    · exact Or.inl ⟨_, rfl⟩
    · exact Or.inl ⟨_, rfl⟩
    · exact Or.inl ⟨_, rfl⟩
    · rename_i data found
      obtain ⟨large, unencrypted, flag, isData⟩ := isPacket data found
      rw [onRawPacket, flag, isData]
      simp only [Bool.not_true, Bool.false_eq_true, if_false, length_drop]
      split
      · exact Or.inl ⟨_, rfl⟩
      · rename_i enough
        exact Or.inr ⟨bytes, short, draws, messageOf (bytes.drop 8), rfl,
          ⟨by omega, unencrypted, rfl⟩, rfl⟩

/-- The packet does not come after the handshake has finished, and it brings no zero modulus. -/
def Admissible (context : HandshakeContext) (handshake : AuthKeyHandshake) : Incoming → Prop
  | .packet bytes _ draws =>
    ∀ message, Delivers bytes message →
        handshake.state ≠ .finish ∧
          (handshake.state = .resPq → ¬ ZeroPq context draws handshake message) ∧
          (handshake.state = .serverDhParams → ¬ ZeroPrime context draws handshake message)
  | .quickAck => True
  | .failure _ => True

/-- Packets that may arrive one after the other. -/
def AllAdmissible (context : HandshakeContext) :
    AuthKeyHandshake → List Incoming → Prop
  | _, [] => True
  | handshake, incoming :: rest =>
    Admissible context handshake incoming ∧
      ∀ first, readIncoming context handshake incoming = .ok first →
          first.status = .ok () → AllAdmissible context first.handshake rest

/-- A handshake to which packets can be delivered. -/
structure Awaiting (handshake : AuthKeyHandshake) : Prop where
  notStart : handshake.state ≠ .start
  awaits : handshake.AwaitsAnswer

theorem Awaiting.harmless (awaiting : Awaiting handshake) (notFinish : handshake.state ≠ .finish)
    (pq : handshake.state = .resPq → ¬ ZeroPq context draws handshake message)
    (prime : handshake.state = .serverDhParams → ¬ ZeroPrime context draws handshake message) :
    ¬ Harmful context draws handshake message := by
  rw [Harmful]
  split
  · rename_i start
    exact absurd start awaiting.notStart
  · rename_i state
    exact pq state
  · rename_i state
    exact prime state
  · exact id
  · rename_i finish
    exact absurd finish notFinish

theorem awaiting_of_onMessage {handled : Handled}
    (returned : handshake.onMessage context draws message = .ok handled) :
    handled.handshake.AwaitsAnswer ∧ (handled.status = .ok () → Awaiting handled.handshake) := by
  rcases AuthKeyHandshake.refuses_or_accepts returned with
    refuses | ⟨ok, accepts⟩
  · constructor
    · simp only [AuthKeyHandshake.AwaitsAnswer, refuses.state]
      exact refuses.lastQuery
    · intro ok
      obtain ⟨error, failed⟩ := refuses.error
      cases failed.symm.trans ok
  · refine ⟨accepts.awaitsAnswer, fun _ => ⟨?_, accepts.awaitsAnswer⟩⟩
    cases accepts with
    | resPq answer state accepted | serverDhParams answer innerData state accepted =>
      rw [accepted.state]
      decide
    | dhGenOk state accepted =>
      rw [accepted.after]
      exact HandshakeState.noConfusion

/-- A handshake that a connection has read for: at its start after an error. -/
def FlushRead.Kept (reading : FlushRead) : Prop :=
  reading.handshake.AwaitsAnswer ∧ (reading.status = .ok () → Awaiting reading.handshake)

theorem onMessage_ensures (short : message.length ≤ intMax)
    (harmless : ¬ Harmful context draws handshake message) :
    Ensures (fun handled => (FlushRead.ofHandled handled).Kept)
      (handshake.onMessage context draws message) := by
  cases returned : handshake.onMessage context draws message with
  | error fault =>
    have safe : Ensures (fun _ => True) (handshake.onMessage context draws message) := by
      refine (dispatch_ensures short harmless).bind fun _ _ => ?_
      split <;> trivial
    rwa [returned] at safe
  | ok handled =>
    obtain ⟨awaits, ifOk⟩ := awaiting_of_onMessage returned
    refine ⟨awaits, fun ok => ifOk ?_⟩
    dsimp only [FlushRead.ofHandled] at ok
    cases status : handled.status with
    | error error =>
      rw [status] at ok
      cases ok
    | ok nothing => rfl

theorem readIncoming_ensures {incoming : Incoming} (awaiting : Awaiting handshake)
    (admissible : Admissible context handshake incoming) :
    Ensures FlushRead.Kept (readIncoming context handshake incoming) := by
  rcases readIncoming_cases incoming with
    ⟨status, leaves⟩ | ⟨bytes, short, draws, message, isPacket, delivers, isCall⟩
  · rw [leaves]
    exact ⟨awaiting.awaits, fun _ => awaiting⟩
  · subst isPacket
    obtain ⟨notFinish, pq, prime⟩ := admissible message delivers
    rw [isCall]
    exact (onMessage_ensures (delivers.short short) (awaiting.harmless notFinish pq prime)).bind
      fun _ kept => kept

theorem flushRead_ensures {incoming : List Incoming} (awaiting : Awaiting handshake)
    (admissible : AllAdmissible context handshake incoming) :
    Ensures FlushRead.Kept (flushRead context handshake incoming) := by
  induction incoming generalizing handshake with
  | nil => exact ⟨awaiting.awaits, fun _ => awaiting⟩
  | cons incoming rest ih =>
    obtain ⟨firstAdmissible, restAdmissible⟩ := admissible
    have kept := readIncoming_ensures awaiting firstAdmissible
    rw [flushRead]
    cases isFirst : readIncoming context handshake incoming with
    | error fault =>
      rw [isFirst] at kept
      exact kept
    | ok first =>
      rw [isFirst] at kept
      rw [ok_bind]
      split
      · exact kept
      · rename_i _ ok
        exact (ih (kept.2 ok) (restAdmissible first isFirst ok)).bind
          fun _ later => later

/-! ## Runs -/

namespace HandshakeConnection

/-- No finished handshake is resumed; packets may arrive. -/
def AdmissibleEvent (connection : HandshakeConnection) : Event → Prop
  | .connect _ => connection.handshake.state ≠ .finish
  | .flush context incoming _ =>
    connection.isAlive = true → AllAdmissible context connection.handshake incoming
  | .close => True

structure Good (connection : HandshakeConnection) : Prop where
  awaits : connection.handshake.AwaitsAnswer
  alive : connection.isAlive = true → connection.handshake.state ≠ .start

variable {connection : HandshakeConnection}

theorem flush_ensures {incoming : List Incoming} (good : connection.Good)
    (admissible : connection.isAlive = true → AllAdmissible context connection.handshake incoming)
    (writing : Except Int32 Unit) : Ensures Good (connection.flush context incoming writing) := by
  rw [flush]
  split
  · rename_i isAlive
    refine (flushRead_ensures ⟨good.alive isAlive, good.awaits⟩ (admissible isAlive)).bind
      fun reading ⟨awaits, awaiting⟩ => ?_
    split
    · rename_i _ ok
      refine ⟨awaits, fun _ => ?_⟩
      cases status : reading.status with
      | error code =>
        rw [status] at ok
        cases ok
      | ok nothing => exact (awaiting status).notStart
    · refine ⟨?_, fun dead => (nomatch dead)⟩
      split
      · exact rfl
      · exact awaits
  · exact good

theorem handle_ensures {event : Event} (good : connection.Good)
    (admissible : connection.AdmissibleEvent event) : Ensures Good (connection.handle event) := by
  cases event with
  | connect nonce =>
    by_cases start : connection.handshake.state = .start
    · constructor
      · simp only [AuthKeyHandshake.resume, start]
        exact rfl
      · intro _
        simp only [AuthKeyHandshake.resume, start, AuthKeyHandshake.send]
        decide
    · have same := good.awaits.resume_eq start admissible nonce
      constructor
      · rw [same]
        exact good.awaits
      · intro _
        rw [same]
        exact start
  | flush context incoming writing => exact flush_ensures good admissible writing
  | close =>
    refine ⟨good.awaits, ?_⟩
    intro dead
    cases dead

variable {events : List Event}

theorem good_of_run {dcId expiresIn : Int32} {reached : HandshakeConnection}
    (run : Transition.Run (Transition.Guarded AdmissibleEvent Step)
        (.new dcId expiresIn) events reached) : reached.Good := by
  induction run with
  | start => exact ⟨rfl, fun dead => (nomatch dead)⟩
  | extend _ last ih =>
    obtain ⟨admissible, handled⟩ := last
    have ensures := handle_ensures ih admissible
    rwa [handled] at ensures

/--
As long as no packet comes to a finished handshake, none is resumed, and no
answer brings a zero modulus, nothing aborts, and a connection never finds the
handshake at its start.
-/
theorem handshake_never_aborts
    (dcId expiresIn : Int32)
    (events : List Event)
    (reached : HandshakeConnection)
    (run :
      Transition.Run (Transition.Guarded AdmissibleEvent Step) (.new dcId expiresIn) events reached)
    (event : Event)
    (admissible : reached.AdmissibleEvent event) :
    Safe (reached.handle event) ∧ (reached.isAlive = true → reached.handshake.state ≠ .start) := by
  have good : reached.Good := good_of_run run
  exact ⟨(handle_ensures good admissible).safe, good.alive⟩

def unencrypted (message : Bytes) (short : message.length < 2 ^ 30) : Incoming :=
  .packet (List.replicate 20 0 ++ message)
    (by
      rw [List.length_append, List.length_replicate]
      omega)
    simpleDraws

def resPqPacket (pq : Bytes) (short : pq.length < 100) : Incoming :=
  unencrypted (resPqMessage pq)
    (by
      simp only [resPqMessage, Tl.padding, List.length_append,
        List.length_cons, length_leOfNat, List.length_replicate]
      omega)

def serverDhParamsPacket (dhPrime : Nat) : Incoming :=
  unencrypted (serverDhParamsMessage dhPrime (2 ^ 2000))
    (by
      simp only [serverDhParamsMessage, storedNumber, List.length_append,
        List.length_cons, List.length_nil, length_leOfNat, length_beOfNat,
        List.length_replicate]
      omega)

def dhGenOkPacket : Incoming :=
  unencrypted dhGenOkMessage (by decide)

def finishingPackets : List Incoming :=
  [resPqPacket [21] (by decide), serverDhParamsPacket (2 ^ 2048 - 1), dhGenOkPacket]

/-- The first answer is handled without an abort. -/
theorem first_answer_never_aborts : ∃ reached,
      Transition.Run (Transition.Guarded AdmissibleEvent Step) (.new 2 0)
          [.connect (zeros 16)] reached ∧
        Safe (reached.handle (.flush simpleContext [resPqPacket [21] (by decide)] (.ok ()))) := by
  have run :
      Transition.Run (Transition.Guarded AdmissibleEvent Step) (.new 2 0) [.connect (zeros 16)] _ :=
    .extend .start ⟨HandshakeState.noConfusion, rfl⟩
  refine ⟨_, run, ?_⟩
  refine (handshake_never_aborts 2 0 _ _ run _ ?_).1
  refine fun _ => ⟨?_, fun _ _ _ => trivial⟩
  intro message delivers
  refine
    ⟨HandshakeState.noConfusion, fun _ zero => ?_, fun state => HandshakeState.noConfusion state⟩
  obtain ⟨answer, _, _, parsed, _, _, big, _⟩ := zero
  have pq : (fetchResPq message).map (fun answer => isBigPq answer.pq) = some false := by
    rw [delivers.message]
    decide +kernel
  rw [parsed] at pq
  cases (Option.some.inj pq).symm.trans big

def AbortsAfter (events : List Event) (packets : List Incoming) : Prop :=
  ∃ reached, Transition.Run Step (.new 2 0) events reached ∧
      reached.handle (.flush simpleContext packets (.ok ())) = .error .check

/-- Whether a run goes well up to a flush that aborts the process. -/
def abortsAfter (events : List Event) (packets : List Incoming) : Bool :=
  match events.foldlM handle (.new 2 0) with
  | .error _ => false
  | .ok reached =>
    match reached.handle (.flush simpleContext packets (.ok ())) with
    | .error .check => true
    | _ => false

theorem abortsAfter_spec {packets : List Incoming} (isAbort : abortsAfter events packets = true) :
    AbortsAfter events packets := by
  rw [abortsAfter] at isAbort
  split at isAbort
  · cases isAbort
  · rename_i reached returned
    refine ⟨reached, Transition.Run.start.foldlM (fun _ _ _ handled => handled) returned, ?_⟩
    split at isAbort
    · assumption
    · cases isAbort

/--
The process aborts for nine zero bytes to factorize, for a zero prime, for a
packet after the last answer, and for one after a finished handshake is resumed.
-/
theorem handshake_aborts :
    AbortsAfter [.connect (zeros 16)] [resPqPacket (List.replicate 9 0) (by decide)] ∧
      AbortsAfter [.connect (zeros 16)] [resPqPacket [21] (by decide), serverDhParamsPacket 0] ∧
        AbortsAfter [.connect (zeros 16)] (finishingPackets ++ [dhGenOkPacket]) ∧
          AbortsAfter
            [.connect (zeros 16), .flush simpleContext finishingPackets (.ok ()),
              .connect (zeros 16)]
            [dhGenOkPacket] := by
  refine ⟨?_, ?_, ?_, ?_⟩ <;>
  · apply abortsAfter_spec
    decide +kernel

end HandshakeConnection

end Mtproto

end Autoproto
