import Autoproto.DhHandshake
import Autoproto.HandshakeMessages

namespace Autoproto.Mtproto

open ByteEncoding

/-!
# The creation of a key

`AuthKeyHandshake` asks a server for a number to factorize, sends it a secret
under one of its public keys, exchanges Diffie-Hellman numbers under it and
waits for a last answer. An error brings it back to its start. Randomness and
the clock are inputs of each call.
-/

inductive HandshakeState where
  | start
  | resPq
  | serverDhParams
  | dhGenResponse
  | finish
  deriving Repr, DecidableEq

/-- The two kinds of keys. -/
inductive HandshakeMode where
  | main
  | temp
  deriving Repr, DecidableEq

/-- The fields of a handshake; the points of time are bits of doubles. -/
structure AuthKeyHandshake where
  state : HandshakeState := .start
  mode : HandshakeMode := .main
  dcId : Int32 := 0
  expiresIn : Int32 := 0
  expiresAt : UInt64 := 0
  authKey : AuthKey := {}
  serverTimeDiff : UInt64 := 0
  serverSalt : UInt64 := 0
  nonce : FixedBytes 16 := ⟨List.replicate 16 0, rfl⟩
  serverNonce : FixedBytes 16 := ⟨List.replicate 16 0, rfl⟩
  newNonce : FixedBytes 32 := ⟨List.replicate 32 0, rfl⟩
  lastQuery : Bytes := []

/-- The errors with which an answer is refused. -/
inductive HandshakeError where
  /-- The text `Handshake ResPQ timeout expired`. -/
  | resPqTimeoutExpired
  /-- The text `Handshake DH params timeout expired`. -/
  | dhParamsTimeoutExpired
  /-- An error of the parser, with the code 500. -/
  | parse
  /-- The text `Nonce mismatch`. -/
  | nonceMismatch
  /-- The text `Server nonce mismatch`. -/
  | serverNonceMismatch
  /-- The error of `get_rsa_key`. -/
  | unknownFingerprints
  /-- The text `Failed to factorize`. -/
  | failedToFactorize
  /-- The text `Too big data`. -/
  | tooBigData
  /-- The text `Bad padding for encrypted part`. -/
  | badPadding
  /-- The text `Failed to fetch server_DH_inner_data`. -/
  | failedToFetchInnerData
  /-- The text `Too much pad`. -/
  | tooMuchPad
  /-- The text `SHA1 mismatch`. -/
  | sha1Mismatch
  /-- An error of `run_checks`. -/
  | dh (error : DhError)
  /-- The text `New nonce hash mismatch`. -/
  | newNonceHashMismatch
  /-- The text `DhGenFail`. -/
  | dhGenFail
  /-- The text `DhGenRetry`. -/
  | dhGenRetry
  deriving Repr, DecidableEq

/-- A public key; only moduli of 256 bytes are loaded. -/
structure RsaKey where
  n : Nat
  e : Nat
  fingerprint : UInt64
  size : 2 ^ 2040 ≤ n ∧ n < 2 ^ 2048

/-- What a handshake is given to check answers with. -/
structure HandshakeContext where
  primitives : Primitives
  getRsaKey : List UInt64 → Option RsaKey
  isPrime : Nat → Bool
  dhCallback : Option DhCallback

/-- The randomness that a call draws, and what it reads off the clock. -/
structure HandshakeDraws where
  timeoutExpired : Bool
  /-- The number that `pq_factorize` finds for a number of 63 bits. -/
  factor : Nat → UInt64
  /-- The factors that `pq_factorize_big` finds, if it does. -/
  bigFactors : (pq : Nat) → Option { factors : Nat × Nat // factors.1 * factors.2 = pq }
  newNonce : FixedBytes 32
  secureBytes : (size : Nat) → FixedBytes size
  /-- The keys that are drawn in the turns of the loop around `RSA::encrypt`. -/
  aesKeys : List (FixedBytes 32)
  b : Nat
  expiresAt : UInt64
  serverTimeDiff : Int32 → UInt64
  createdAt : Int32 → UInt64

structure Handled where
  handshake : AuthKeyHandshake
  status : Except HandshakeError Unit
  sent : Option Bytes := none

/-- A refused answer. -/
def refuse (handshake : AuthKeyHandshake) (error : HandshakeError) : Except Fault Handled :=
  .ok { handshake := handshake, status := .error error }

/-- A number without leading zeros. -/
def toBinary (number : Nat) : Bytes :=
  beOfNat (BigNum.getNumBytes number) number

/-- The number to factorize does not fit 63 bits. -/
def isBigPq (pqStr : Bytes) : Bool :=
  decide (8 < pqStr.length) || (decide (pqStr.length = 8) && decide (pqStr.headD 0 &&& 128 ≠ 0))

/--
A number that does not fit 63 bits is the modulus of `BigNum::mod_mul` in the
first turn of the loop.
-/
def pqFactorize (draws : HandshakeDraws) (pqStr : Bytes) : Except Fault (Option (Bytes × Bytes)) :=
  if isBigPq pqStr then do
    let pq ← BigNum.fromBinary pqStr
    let _ ← BigNum.modMul 0 0 pq
    return (draws.bigFactors pq).map fun factors =>
      (toBinary (min factors.val.1 factors.val.2), toBinary (max factors.val.1 factors.val.2))
  else
    let pq := natOfBe pqStr
    let p := (draws.factor pq).toNat
    if p = 0 ∨ pq % p ≠ 0 then
      .ok none
    else
      .ok (some (toBinary p, toBinary (pq / p)))

/-- The function `RSA::encrypt`, which refuses a number that is not below the modulus. -/
def RsaKey.encrypt (rsa : RsaKey) (source : Bytes) : Except Fault (Option Bytes) := do
  check (source.length = 256)
  check (2041 ≤ rsa.n.size ∧ rsa.n.size ≤ 2048)
  let x ← BigNum.fromBinary source
  if x < rsa.n then do
    let y ← BigNum.modExp x rsa.e rsa.n
    return some (← BigNum.toBinary 256 y)
  else
    return none

/-- The bytes of a string combined with those of another one. -/
def xorBytes (first second : Bytes) : Bytes :=
  List.zipWith (· ^^^ ·) first second

/-- The block of one turn, for inner data of 192 bytes. -/
def innerDataBlock (primitives : Primitives) (data : Bytes)
    (aesKey : FixedBytes 32) : Except Fault Bytes := do
  let dataWithHash :=
    data.reverse ++ (primitives.sha256 (aesKey.val ++ data)).val
  let encrypted ← aesIgeEncrypt primitives ⟨aesKey.val, List.replicate 32 0⟩ dataWithHash
  let hash := (primitives.sha256 encrypted).val
  return xorBytes aesKey.val hash ++ encrypted

def encryptInnerData (primitives : Primitives) (rsa : RsaKey)
    (data : Bytes) : List (FixedBytes 32) → Except Fault Bytes
  | [] => .error .spin
  | aesKey :: aesKeys => do
      let block ← innerDataBlock primitives data aesKey
      match ← rsa.encrypt block with
      | some encryptedData => return encryptedData
      | none => encryptInnerData primitives rsa data aesKeys

namespace AuthKeyHandshake

/-- The constructor. -/
def new (dcId expiresIn : Int32) : AuthKeyHandshake :=
  { mode := if expiresIn = 0 then .main else .temp
    dcId := dcId
    expiresIn := expiresIn }

def clear (handshake : AuthKeyHandshake) : AuthKeyHandshake :=
  { handshake with lastQuery := [], state := .start }

def onFinish (handshake : AuthKeyHandshake) : AuthKeyHandshake :=
  handshake.clear

/-- The inner data that is sent under a public key. -/
def pQInnerData (handshake : AuthKeyHandshake) (pq p q : Bytes) : Except Fault Bytes :=
  match handshake.mode with
  | .main =>
    pQInnerDataDc pq p q handshake.nonce handshake.serverNonce handshake.newNonce handshake.dcId
  | .temp =>
    pQInnerDataTempDc pq p q handshake.nonce handshake.serverNonce
      handshake.newNonce handshake.dcId handshake.expiresIn

/-- When a temporary key will expire. -/
def noteExpiresAt (handshake : AuthKeyHandshake) (expiresAt : UInt64) : AuthKeyHandshake :=
  match handshake.mode with
  | .main => handshake
  | .temp => { handshake with expiresAt := expiresAt }

/-- A request is sent and the next answer is awaited. -/
def send (handshake : AuthKeyHandshake) (query : Bytes) (state : HandshakeState) : Handled :=
  { handshake := { handshake with lastQuery := query, state := state }
    status := .ok ()
    sent := some query }

variable (context : HandshakeContext) (draws : HandshakeDraws)

/-- The rest of `on_res_pq`, once the number is factorized. -/
def sendReqDhParams (handshake : AuthKeyHandshake) (rsaKey : RsaKey)
    (pq p q : Bytes) : Except Fault Handled := do
  let handshake := { handshake with newNonce := draws.newNonce }
  let data ← handshake.pQInnerData pq p q
  let handshake := handshake.noteExpiresAt draws.expiresAt
  if data.length > 144 then
    refuse handshake .tooBigData
  else do
    let padded := data ++ (draws.secureBytes (192 - data.length)).val
    let encryptedData ← encryptInnerData context.primitives rsaKey padded draws.aesKeys
    let query ←
      reqDhParams handshake.nonce handshake.serverNonce p q rsaKey.fingerprint encryptedData
    return handshake.send query .serverDhParams

def onResPq (handshake : AuthKeyHandshake) (message : Bytes) : Except Fault Handled :=
  if draws.timeoutExpired then
    refuse handshake .resPqTimeoutExpired
  else
    match fetchResPq message with
    | none => refuse handshake .parse
    | some resPq =>
      if resPq.nonce ≠ handshake.nonce then
        refuse handshake .nonceMismatch
      else
        let handshake := { handshake with serverNonce := resPq.serverNonce }
        match context.getRsaKey resPq.serverPublicKeyFingerprints with
        | none => refuse handshake .unknownFingerprints
        | some rsaKey => do
            match ← pqFactorize draws resPq.pq with
            | none => refuse handshake .failedToFactorize
            | some (p, q) => sendReqDhParams context draws handshake rsaKey resPq.pq p q

/-- The key and the vector that both sides derive from the nonces. -/
def tmpKdf (primitives : Primitives) (handshake : AuthKeyHandshake) : AesKey :=
  Mtproto.tmpKdf primitives handshake.serverNonce.val handshake.newNonce.val

/-- Inner data that passes all checks but those of numbers. -/
def openServerDhParams (primitives : Primitives) (handshake : AuthKeyHandshake) (message : Bytes) :
    Except Fault (Except HandshakeError ServerDhInnerData) :=
  match fetchServerDhParams message with
  | none => .ok (.error .parse)
  | some dhParams =>
    if dhParams.nonce ≠ handshake.nonce then
      .ok (.error .nonceMismatch)
    else if dhParams.serverNonce ≠ handshake.serverNonce then
      .ok (.error .serverNonceMismatch)
    else if dhParams.encryptedAnswer.length % 16 ≠ 0 then
      .ok (.error .badPadding)
    else do
      let answer ← aesIgeDecrypt primitives (handshake.tmpKdf primitives) dhParams.encryptedAnswer
      match fetchAnswerWithHash answer with
      | none => return .error .failedToFetchInnerData
      | some (answerSha1, innerData, rest) =>
        let pad := rest.length
        if pad ≥ 16 then
          return .error .tooMuchPad
        else
          let innerBytes ← substr answer 20 (answer.length - pad - 20)
          if answerSha1 ≠ primitives.sha1 innerBytes then
            return .error .sha1Mismatch
          else if innerData.nonce ≠ handshake.nonce then
            return .error .nonceMismatch
          else if innerData.serverNonce ≠ handshake.serverNonce then
            return .error .serverNonceMismatch
          else
            return .ok innerData

def encryptedClientDhInnerData (primitives : Primitives) (draws : HandshakeDraws)
    (handshake : AuthKeyHandshake) (gB : Bytes) : Except Fault Bytes := do
  let data ← clientDhInnerData handshake.nonce handshake.serverNonce 0 gB
  let size := 20 + data.length
  let padSize := (size + 15) / 16 * 16 - size
  aesIgeEncrypt primitives (handshake.tmpKdf primitives)
    ((primitives.sha1 data).val ++ data ++ (draws.secureBytes padSize).val)

/-- The key that is held once the numbers are exchanged. -/
def newAuthKey (handshake : AuthKeyHandshake) (draws : HandshakeDraws) (keyId : UInt64)
    (key : Bytes) (serverTime : Int32) : AuthKey :=
  { id := keyId
    key := key
    expiresAt :=
      match handshake.mode with
      | .main => 0
      | .temp => handshake.expiresAt
    createdAt := draws.createdAt serverTime }

/-- The rest of `on_server_dh_params`, once the numbers are known. -/
def sendSetClientDhParams (handshake : AuthKeyHandshake)
    (innerData : ServerDhInnerData) : Except Fault Handled := do
  let handshake :=
    { handshake with
      serverTimeDiff := draws.serverTimeDiff innerData.serverTime }
  let dh ← DhHandshake.setConfig {} draws.b innerData.g innerData.dhPrime
  let dh ← DhHandshake.setGA context.primitives dh innerData.gA
  let checked ← dh.runChecks context.isPrime false context.dhCallback
  match checked.status with
  | .error error => refuse handshake (.dh error)
  | .ok _ => do
      let gB ← dh.getGB
      let (keyId, key) ← dh.genKey context.primitives
      let encryptedData ← encryptedClientDhInnerData context.primitives draws handshake gB
      let query ← setClientDhParams handshake.nonce handshake.serverNonce encryptedData
      let handshake :=
        { handshake with
          authKey := handshake.newAuthKey draws keyId key innerData.serverTime
          serverSalt :=
            UInt64.ofNat (natOfLe (handshake.newNonce.val.take 8)) ^^^
              UInt64.ofNat (natOfLe (handshake.serverNonce.val.take 8)) }
      return handshake.send query .dhGenResponse

def onServerDhParams (handshake : AuthKeyHandshake) (message : Bytes) : Except Fault Handled :=
  if draws.timeoutExpired then
    refuse handshake .dhParamsTimeoutExpired
  else do
    match ← handshake.openServerDhParams context.primitives message with
    | .error error => refuse handshake error
    | .ok innerData => sendSetClientDhParams context draws handshake innerData

def newNonceHash1 (primitives : Primitives) (newNonce : FixedBytes 32) (key : Bytes) : Bytes :=
  (primitives.sha1 (newNonce.val ++ [1] ++ part (primitives.sha1 key).val 0 8)).val.drop 4

def onDhGenResponse (handshake : AuthKeyHandshake) (message : Bytes) : Except Fault Handled :=
  match fetchDhGenAnswer message with
  | none => refuse handshake .parse
  | some (.ok nonce serverNonce hash) =>
    if nonce ≠ handshake.nonce then
      refuse handshake .nonceMismatch
    else if serverNonce ≠ handshake.serverNonce then
      refuse handshake .serverNonceMismatch
    else if
        hash.val ≠ newNonceHash1 context.primitives handshake.newNonce handshake.authKey.key then
      refuse handshake .newNonceHashMismatch
    else
      .ok {
        handshake := { handshake with state := .finish }
        status := .ok () }
  | some (.fail ..) => refuse handshake .dhGenFail
  | some (.retry ..) => refuse handshake .dhGenRetry

/-- The function that handles an answer in each state; the first and the last have none. -/
def dispatch (context : HandshakeContext) (draws : HandshakeDraws) (handshake : AuthKeyHandshake)
    (message : Bytes) : Except Fault Handled :=
  match handshake.state with
  | .resPq => onResPq context draws handshake message
  | .serverDhParams => onServerDhParams context draws handshake message
  | .dhGenResponse => onDhGenResponse context handshake message
  | .start => .error .check
  | .finish => .error .check

def onMessage (handshake : AuthKeyHandshake) (message : Bytes) : Except Fault Handled := do
  let handled ← dispatch context draws handshake message
  match handled.status with
  | .ok _ => return handled
  | .error _ =>
    return { handled with handshake := handled.handshake.clear }

/-- The function `resume`, with the nonce that `on_start` draws. -/
def resume (handshake : AuthKeyHandshake)
    (nonce : FixedBytes 16) : AuthKeyHandshake × Option Bytes :=
  match handshake.state with
  | .start =>
    let handshake := { handshake with nonce := nonce }
    let handled := handshake.send (reqPqMulti nonce) .resPq
    (handled.handshake, handled.sent)
  | .finish => (handshake.clear, none)
  | _ =>
    if handshake.lastQuery = [] then
      (handshake.clear, none)
    else
      (handshake, some handshake.lastQuery)

end AuthKeyHandshake

end Autoproto.Mtproto
