import Autoproto.TransportAuthenticity

namespace Autoproto.Mtproto

open List ByteEncoding

/-!
# Writing and reading a packet

`Transport` accepts the sizes of packets that it computes, and a packet that one
member of a secret chat writes gives the other member back what was written. The
message key and the cipher do not matter: both sides compute them from the same
bytes.
-/

/-! ## Sizes -/

theorem roundUp16_mod (size : Nat) : roundUp16 size % 16 = 0 :=
  Nat.mul_mod_left _ _

theorem le_roundUp16 (size : Nat) : size ≤ roundUp16 size := by
  rw [roundUp16]
  omega

theorem roundUp16_lt (size : Nat) : roundUp16 size < size + 16 := by
  rw [roundUp16]
  omega

theorem bucketSize_spec {encryptedSize size : Nat} (positive : 0 < encryptedSize)
    (found : bucketSizes.find? (fun size => decide (encryptedSize ≤ size)) = some size) :
    encryptedSize ≤ size ∧ size ≤ encryptedSize + 255 ∧ size % 16 = 0 := by
  have fits : encryptedSize ≤ size := by simpa using find?_some found
  -- one case for each element, which is reached only if the elements before
  -- it are too small
  simp only [bucketSizes, find?_cons, find?_nil] at found
  repeat' split at found
  all_goals
    simp only [decide_eq_true_eq, decide_eq_false_iff_not, Option.some.injEq, reduceCtorEq] at *
    try omega

theorem doCalcCryptoSize2Basic_spec (dataSize encSize rawSize : Nat) : ∃ blocks,
      doCalcCryptoSize2Basic dataSize encSize rawSize = rawSize + 16 * blocks ∧
        encSize + dataSize + 12 ≤ 16 * blocks ∧ 16 * blocks ≤ encSize + dataSize + 1024 := by
  have aligned := roundUp16_mod (encSize + dataSize + 12)
  have lower := le_roundUp16 (encSize + dataSize + 12)
  have upper := roundUp16_lt (encSize + dataSize + 12)
  rw [doCalcCryptoSize2Basic]
  generalize roundUp16 (encSize + dataSize + 12) = encryptedSize at *
  split
  · rename_i size found
    have bucket := bucketSize_spec (by omega) found
    exact ⟨size / 16, by omega, by omega, by omega⟩
  · rename_i notFound
    have large : 1280 < encryptedSize := by
      simpa using find?_eq_none.mp notFound 1280 (by decide)
    exact ⟨((encryptedSize - 1280 + 447) / 448 * 448 + 1280) / 16, by omega, by omega, by omega⟩

theorem doCalcCryptoSize2Rand_spec (random : Random) (dataSize encSize rawSize : Nat) : ∃ blocks,
      doCalcCryptoSize2Rand random dataSize encSize rawSize = rawSize + 16 * blocks ∧
        encSize + dataSize + 12 ≤ 16 * blocks ∧ 16 * blocks ≤ encSize + dataSize + 1024 := by
  have randBound : (random.secureUint32 &&& 0xff).toNat ≤ 255 := by
    exact Nat.and_le_right
  rw [doCalcCryptoSize2Rand]
  generalize (random.secureUint32 &&& 0xff).toNat = randDataSize at *
  have aligned := roundUp16_mod (encSize + dataSize + randDataSize + 12)
  have lower := le_roundUp16 (encSize + dataSize + randDataSize + 12)
  have upper := roundUp16_lt (encSize + dataSize + randDataSize + 12)
  exact ⟨roundUp16 (encSize + dataSize + randDataSize + 12) / 16, by omega, by omega, by omega⟩

theorem calcCryptoSize2_spec (random : Random) (header : Header) (dataSize : Nat)
    (packetInfo : PacketInfo) : ∃ blocks,
      calcCryptoSize2 random header dataSize packetInfo = header.encryptBegin + 16 * blocks ∧
        header.encryptedHeaderSize + dataSize + 12 ≤ 16 * blocks ∧
        16 * blocks ≤ header.encryptedHeaderSize + dataSize + 1024 := by
  rw [calcCryptoSize2]
  split
  · exact doCalcCryptoSize2Rand_spec random dataSize _ _
  · exact doCalcCryptoSize2Basic_spec dataSize _ _

theorem calcCryptoSize_spec (header : Header) (dataSize : Nat) : ∃ blocks,
      calcCryptoSize header dataSize = header.encryptBegin + 16 * blocks ∧
        header.encryptedHeaderSize + dataSize ≤ 16 * blocks ∧
        16 * blocks < header.encryptedHeaderSize + dataSize + 16 := by
  have aligned := roundUp16_mod (header.encryptedHeaderSize + dataSize)
  have lower := le_roundUp16 (header.encryptedHeaderSize + dataSize)
  have upper := roundUp16_lt (header.encryptedHeaderSize + dataSize)
  refine ⟨roundUp16 (header.encryptedHeaderSize + dataSize) / 16, ?_, ?_, ?_⟩
  · rw [calcCryptoSize, Header.encryptBegin]
    omega
  · omega
  · omega

/--
The encrypted part has whole blocks, at least one, and the padding is what the
version wants.
-/
structure SuitsReader (header : Header) (version : Int32) (dataSize size : Nat) : Prop where
  blocks : (size - header.encryptBegin) % 16 = 0
  positive : header.encryptBegin < size
  holdsData : header.sizeofHeader + dataSize ≤ size
  first : version = 1 → size = calcCryptoSize header dataSize
  second : version ≠ 1 →
      12 ≤ size - (header.sizeofHeader + dataSize) ∧ size - (header.sizeofHeader + dataSize) ≤ 1024

theorem suitsReader_paddedSizeOf (random : Random) (header : Header) (dataSize : Nat)
    (packetInfo : PacketInfo)
    (notEmpty : packetInfo.version = 1 → 0 < header.encryptedHeaderSize + dataSize) :
    SuitsReader header packetInfo.version dataSize
      (paddedSizeOf random header dataSize packetInfo) := by
  have begins := encryptBegin_add header
  rw [paddedSizeOf]
  split
  · rename_i version
    obtain ⟨blocks, size, lower, upper⟩ := calcCryptoSize_spec header dataSize
    have nonempty := notEmpty version
    exact ⟨by omega, by omega, by omega, fun _ => rfl, fun notFirst => absurd version notFirst⟩
  · rename_i notFirst
    obtain ⟨blocks, size, lower, upper⟩ := calcCryptoSize2_spec random header dataSize packetInfo
    exact ⟨by omega, by omega, by omega,
      fun version => absurd version notFirst,
      fun _ => ⟨by omega, by omega⟩⟩

theorem checkLengths_of_suitsReader {header : Header} {packet : Bytes} {packetInfo : PacketInfo}
    {dataSize : Nat}
    (lengthField : messageDataLengthOf header packet + header.sizeofPrefix = dataSize)
    (divisible : messageDataLengthOf header packet % 4 = 0)
    (suits : SuitsReader header packetInfo.version dataSize packet.length) :
    (packetInfo.version = 1 → isLengthBad header packet packetInfo.checkMod4 = false) ∧
      checkLengths header packet packetInfo = .ok () := by
  have holdsData := suits.holdsData
  have notBad :
      packetInfo.version = 1 → isLengthBad header packet packetInfo.checkMod4 = false := by
    intro version
    simp [isLengthBad, lengthField, divisible, ← suits.first version]
  refine ⟨notBad, ?_⟩
  rw [checkLengths]
  split
  · rename_i version
    have padding := suits.second (by rw [version]; decide)
    rw [if_neg (fun wrong => wrong.2 divisible),
      if_neg (by rw [tailSizeOf]; omega),
      if_neg (by rw [tailSizeOf]; omega)]
  · rw [if_neg]
    rintro ⟨version, bad⟩
    rw [notBad version] at bad
    cases bad

/-! ## What is written -/

section Write

variable {primitives : Primitives} {random : Random} {header : Header} {x : Nat} {storer : Storer}
  {authKey : AuthKey} {writer reader writtenInfo : PacketInfo} {encryptedHeader packet : Bytes}
  {dataSize paddedSize : Nat}

structure Written (primitives : Primitives) (header : Header) (x : Nat) (authKey : AuthKey)
    (version : Int32) (encryptedHeader data pad packet messageKey : Bytes)
    (aesKey : AesKey) : Prop where
  computed : ∃ messageAck, writtenMessageKey primitives header x authKey version
          (encryptedHeader ++ data ++ pad) data.length =
        .ok (messageAck, messageKey)
  derived : deriveKey primitives authKey version messageKey x = .ok aesKey
  packet : packet = leOfNat 8 authKey.id.toNat ++ messageKey ++
        primitives.igeEncrypt aesKey.key aesKey.iv (encryptedHeader ++ data ++ pad)

theorem written_of_writeCryptoImpl
    (done : writeCryptoImpl primitives random header x storer authKey writer
          encryptedHeader dataSize paddedSize = .ok (packet, writtenInfo)) : ∃ messageKey aesKey,
      Written primitives header x authKey writer.version encryptedHeader
        storer.stored
        (random.secureBytes (paddedSize - (header.sizeofHeader + dataSize))).val
        packet messageKey aesKey := by
  obtain ⟨_, sizes, done⟩ := bind_eq_ok done
  have sameSize := holds_of_check sizes
  obtain ⟨⟨messageAck, messageKey⟩, computed, done⟩ := bind_eq_ok done
  obtain ⟨aesKey, derived, done⟩ := bind_eq_ok done
  obtain ⟨encrypted, encryption, done⟩ := bind_eq_ok done
  obtain ⟨_, _, encryption⟩ := bind_eq_ok encryption
  cases encryption
  cases done
  refine ⟨messageKey, aesKey, ⟨messageAck, ?_⟩, derived, rfl⟩
  rw [writtenMessageKey, sameSize]
  exact computed

theorem length_of_writtenMessageKey {version : Int32} {toEncrypt messageKey : Bytes}
    {messageAck : UInt32}
    (computed : writtenMessageKey primitives header x authKey version toEncrypt dataSize =
        .ok (messageAck, messageKey)) : messageKey.length = 16 := by
  rw [writtenMessageKey] at computed
  split at computed
  · cases computed
    exact length_part (by rw [(primitives.sha1 _).property])
  · obtain ⟨_, _, computed⟩ := bind_eq_ok computed
    cases computed
    exact length_part (by rw [(primitives.sha256 _).property]; decide)

theorem deriveKey_returns (version : Int32) (messageKey : Bytes)
    (keySize : authKey.key.length = 256) (offset : x ≤ 8) :
    Returns (deriveKey primitives authKey version messageKey x) := by
  rw [deriveKey]
  split
  · rw [kdf, check_eq_ok (by rw [keySize])]
    exact returns_ok _
  · rw [kdf2, substr, check_eq_ok (by omega), substr, check_eq_ok (by omega)]
    exact returns_ok _

theorem writtenMessageKey_returns (version : Int32) (toEncrypt : Bytes)
    (keySize : authKey.key.length = 256) (offset : x ≤ 8) :
    Returns (writtenMessageKey primitives header x authKey version toEncrypt dataSize) := by
  rw [writtenMessageKey]
  split
  · exact returns_ok _
  · rw [calcMessageKey2, substr, check_eq_ok (by omega)]
    exact returns_ok _

theorem toEncrypt_length (headerSize : encryptedHeader.length = header.encryptedHeaderSize)
    {data : Bytes} (suits : SuitsReader header writer.version data.length paddedSize)
    (pad : FixedBytes (paddedSize - (header.sizeofHeader + data.length))) :
    header.encryptBegin + (encryptedHeader ++ data ++ pad.val).length = paddedSize := by
  have begins := encryptBegin_add header
  have holdsData := suits.holdsData
  rw [length_append, length_append, headerSize, pad.property]
  omega

theorem writeCryptoImpl_returns (keySize : authKey.key.length = 256) (offset : x ≤ 8)
    (headerSize : encryptedHeader.length = header.encryptedHeaderSize)
    (suits : SuitsReader header writer.version storer.stored.length paddedSize) : Returns
      (writeCryptoImpl primitives random header x storer authKey writer
        encryptedHeader storer.stored.length paddedSize) := by
  have blocks := suits.blocks
  have length := toEncrypt_length headerSize suits (random.secureBytes _)
  rw [writeCryptoImpl, check_eq_ok rfl, ok_bind]
  obtain ⟨⟨messageAck, messageKey⟩, computed⟩ :=
    @writtenMessageKey_returns primitives header x authKey
      storer.stored.length writer.version
      (encryptedHeader ++ storer.stored ++
        (random.secureBytes (paddedSize - (header.sizeofHeader + storer.stored.length))).val)
      keySize offset
  obtain ⟨aesKey, derived⟩ :=
    @deriveKey_returns primitives x authKey writer.version messageKey keySize offset
  dsimp only
  rw [computed, ok_bind]
  rw [derived, ok_bind, aesIgeEncrypt, check_eq_ok (by omega)]
  exact returns_ok _

/-! ## Reading what was written -/

variable {data pad messageKey : Bytes} {aesKey : AesKey}

namespace Written

section

variable (written : Written primitives header x authKey writer.version encryptedHeader data pad
  packet messageKey aesKey)

include written

theorem length_messageKey : messageKey.length = 16 := by
  obtain ⟨messageAck, computed⟩ := written.computed
  exact length_of_writtenMessageKey computed

theorem length_clearFields :
    (leOfNat 8 authKey.id.toNat ++ messageKey).length = header.encryptBegin := by
  rw [length_append, length_leOfNat, written.length_messageKey, encryptBegin_eq]

theorem length_packet :
    packet.length = header.encryptBegin + (encryptedHeader ++ data ++ pad).length := by
  rw [written.packet, length_append, written.length_clearFields, primitives.length_igeEncrypt]

theorem decryptInPlace_eq (inverts : primitives.Inverts)
    (blocks : 16 ∣ (encryptedHeader ++ data ++ pad).length) :
    decryptInPlace primitives header x packet authKey writer.version =
      .ok (leOfNat 8 authKey.id.toNat ++ messageKey ++ (encryptedHeader ++ data ++ pad)) := by
  have clearFields := written.length_clearFields
  have size : decryptedSize header packet = (encryptedHeader ++ data ++ pad).length := by
    rw [decryptedSize, written.length_packet]
    omega
  have sameMessageKey : messageKeyOf packet = messageKey := by
    rw [messageKeyOf, written.packet, append_assoc, part_append_right (length_leOfNat ..),
      take_left' written.length_messageKey]
  have encrypted : toDecrypt header packet =
        primitives.igeEncrypt aesKey.key aesKey.iv (encryptedHeader ++ data ++ pad) := by
    rw [toDecrypt, size, written.packet, part_append_right clearFields,
      take_of_length_le (by rw [primitives.length_igeEncrypt])]
  rw [decryptInPlace, sameMessageKey, written.derived, ok_bind, aesIgeDecrypt, encrypted,
    check_eq_ok (by rw [primitives.length_igeEncrypt]; omega)]
  simp only [ok_bind, pure_eq_ok]
  rw [inverts _ _ _ blocks, size, ← written.length_packet, drop_length,
    append_nil, written.packet, take_left' clearFields]

end

end Written

/-- The message that is written says in its prefix how long it is. -/
def HasLengthField (header : Header) (data : Bytes) : Prop :=
  natOfLe (part data (header.sizeofPrefix - 4) 4) + header.sizeofPrefix = data.length

variable {clearFields : Bytes}

theorem messageDataLengthOf_decrypted
    (clearSize : (clearFields ++ encryptedHeader).length = header.sizeofHeader)
    (lengthField : HasLengthField header data) : messageDataLengthOf header
        (clearFields ++ (encryptedHeader ++ data ++ pad)) +
        header.sizeofPrefix = data.length := by
  have prefixSize : 4 ≤ header.sizeofPrefix := by cases header <;> decide
  have place : header.sizeofHeader + header.sizeofPrefix - 4 =
        header.sizeofHeader + (header.sizeofPrefix - 4) := by
    omega
  rw [HasLengthField] at lengthField
  have fits : natOfLe (part data (header.sizeofPrefix - 4) 4) < 2 ^ 32 := by
    have bound := natOfLe_lt (part data (header.sizeofPrefix - 4) 4)
    rwa [length_part (by omega)] at bound
  rw [messageDataLengthOf, uint32At, place, append_assoc, ← append_assoc, part_append_add clearSize,
    part_append_left (by omega), UInt32.toNat_ofNat', Nat.mod_eq_of_lt fits]
  exact lengthField

section

variable (clearSize : clearFields.length = header.encryptBegin)
include clearSize

theorem toDecrypt_decrypted {text : Bytes} (blocks : 16 ∣ text.length) :
    toDecrypt header (clearFields ++ text) = text := by
  have size : decryptedSize header (clearFields ++ text) = text.length := by
    rw [decryptedSize, length_append, clearSize]
    omega
  rw [toDecrypt, size, part_append_right clearSize, take_of_length_le (Nat.le_refl _)]

theorem calcMessageAckAndKey_append {otherFields text : Bytes}
    (otherSize : otherFields.length = header.encryptBegin) :
    calcMessageAckAndKey primitives header (clearFields ++ text) dataSize =
      calcMessageAckAndKey primitives header (otherFields ++ text) dataSize := by
  rw [calcMessageAckAndKey, calcMessageAckAndKey,
    part_append_right clearSize, part_append_right otherSize]

theorem realMessageKey_decrypted
    (lengthField : messageDataLengthOf header (clearFields ++ (encryptedHeader ++ data ++ pad)) +
          header.sizeofPrefix = data.length) (notBad : reader.version = 1 →
        isLengthBad header (clearFields ++ (encryptedHeader ++ data ++ pad))
          reader.checkMod4 = false)
    (blocks : 16 ∣ (encryptedHeader ++ data ++ pad).length) : realMessageKey primitives header x
        (clearFields ++ (encryptedHeader ++ data ++ pad)) authKey reader =
      writtenMessageKey primitives header x authKey reader.version
        (encryptedHeader ++ data ++ pad) data.length := by
  rw [realMessageKey, writtenMessageKey]
  split
  · rename_i version
    simp only [notBad version, Bool.false_eq_true, if_false, lengthField]
    refine congrArg Except.ok (calcMessageAckAndKey_append clearSize ?_)
    rw [length_append, length_leOfNat, length_replicate, encryptBegin_eq]
  · rw [toDecrypt_decrypted clearSize blocks]

end

theorem readDecrypted_eq {decrypted : Bytes} {messageAck : UInt32}
    (computed : realMessageKey primitives header x decrypted authKey reader =
        .ok (messageAck, messageKeyOf decrypted))
    (lengths : checkLengths header decrypted reader = .ok ()) :
    readDecrypted primitives header x decrypted authKey reader =
      .ok ⟨decrypted, { reader with messageAck := messageAck },
        .ok ⟨header.sizeofHeader, messageDataLengthOf header decrypted + header.sizeofPrefix⟩⟩ := by
  have sameLengths :
      checkLengths header decrypted { reader with messageAck := messageAck } = .ok () :=
    lengths
  rw [readDecrypted, computed, ok_bind]
  dsimp only
  rw [if_neg (not_not_intro rfl), sameLengths]
  rfl

theorem uint64At_leOfNat (number : UInt64) (rest : Bytes) :
    uint64At (leOfNat 8 number.toNat ++ rest) 0 = number := by
  rw [uint64At, part, drop_zero, take_left' (length_leOfNat ..),
    natOfLe_leOfNat_of_lt (AuthKey.word_fits number), UInt64.ofNat_toNat]

theorem Written.readCryptoImpl_eq
    (written : Written primitives header x authKey writer.version encryptedHeader data
        pad packet messageKey aesKey) (inverts : primitives.Inverts)
    (sameVersion : reader.version = writer.version)
    (headerSize : encryptedHeader.length = header.encryptedHeaderSize)
    (lengthField : HasLengthField header data)
    (divisible : (data.length - header.sizeofPrefix) % 4 = 0)
    (suits : SuitsReader header writer.version data.length packet.length) : ∃ decrypted readInfo,
      readCryptoImpl primitives header x packet authKey reader =
          .ok ⟨decrypted, readInfo, .ok ⟨header.sizeofHeader, data.length⟩⟩ ∧
        part decrypted header.sizeofHeader data.length = data := by
  have begins := encryptBegin_add header
  have clearSize := written.length_clearFields
  have packetSize := written.length_packet
  have holdsData := suits.holdsData
  have blocks : 16 ∣ (encryptedHeader ++ data ++ pad).length := by
    have aligned := suits.blocks
    omega
  have headerFields : (leOfNat 8 authKey.id.toNat ++ messageKey ++ encryptedHeader).length =
        header.sizeofHeader := by
    rw [length_append, clearSize, headerSize, begins]
  have length := @messageDataLengthOf_decrypted header encryptedHeader data pad
      (leOfNat 8 authKey.id.toNat ++ messageKey) headerFields lengthField
  have decryption := written.decryptInPlace_eq inverts blocks
  have sameId : uint64At packet 0 = authKey.id := by
    rw [written.packet, append_assoc]
    exact uint64At_leOfNat authKey.id _
  have sameKey : messageKeyOf (leOfNat 8 authKey.id.toNat ++ messageKey ++
        (encryptedHeader ++ data ++ pad)) = messageKey := by
    rw [messageKeyOf, append_assoc, part_append_right (length_leOfNat ..),
      take_left' written.length_messageKey]
  have sameLength : (leOfNat 8 authKey.id.toNat ++ messageKey ++
        (encryptedHeader ++ data ++ pad)).length = packet.length := by
    rw [length_append, clearSize, packetSize]
  rw [← sameLength, ← sameVersion] at suits
  rw [← sameVersion] at decryption
  obtain ⟨notBad, lengthsGood⟩ := checkLengths_of_suitsReader length (by omega) suits
  obtain ⟨messageAck, computed⟩ := written.computed
  have sameComputed : realMessageKey primitives header x
          (leOfNat 8 authKey.id.toNat ++ messageKey ++
            (encryptedHeader ++ data ++ pad)) authKey reader =
        .ok (messageAck, messageKeyOf (leOfNat 8 authKey.id.toNat ++ messageKey ++
            (encryptedHeader ++ data ++ pad))) := by
    rw [sameKey, realMessageKey_decrypted clearSize length notBad blocks, sameVersion]
    exact computed
  have tail : ¬ tailSizeOf header packet < header.sizeofPrefix := by
    rw [tailSizeOf]
    omega
  refine ⟨leOfNat 8 authKey.id.toNat ++ messageKey ++ (encryptedHeader ++ data ++ pad),
      { reader with messageAck := messageAck }, ?_, ?_⟩
  · rw [readCryptoImpl, if_neg (by omega), if_neg (not_not_intro sameId), decryption, ok_bind,
      if_neg tail, readDecrypted_eq sameComputed lengthsGood, length]
  · rw [append_assoc encryptedHeader, ← append_assoc,
      part_append_right headerFields, take_left' rfl]

end Write

theorem e2e_offsets {writer reader : PacketInfo} (sameVersion : reader.version = writer.version)
    (roles : reader.isCreator = !writer.isCreator ∨ writer.version = 1) :
    (if reader.isCreator ∧ reader.version ≠ 1 then 8 else 0) =
      if writer.isCreator ∨ writer.version = 1 then 0 else 8 := by
  rw [sameVersion]
  rcases roles with otherRole | first
  · rw [otherRole]
    cases writer.isCreator <;> by_cases first : writer.version = 1 <;> simp [first]
  · simp [first]

/--
What one member of a secret chat writes is read by the other one, and every size
suits the reader, also for a server.
-/
theorem e2e_round_trip
    (primitives : Primitives)
    (random : Random)
    (authKey : AuthKey)
    (payload : Bytes)
    (writer reader : PacketInfo)
    (inverts : primitives.Inverts)
    (lengthField : natOfLe (payload.take 4) + 4 = payload.length)
    (divisible : 4 ∣ payload.length - 4)
    (writerType : writer.type = .endToEnd)
    (readerType : reader.type = .endToEnd)
    (sameVersion : reader.version = writer.version)
    (roles : reader.isCreator = !writer.isCreator ∨ writer.version = 1) :
    (authKey.key.length = 256 →
        Returns (write primitives random (.ofBytes payload) authKey writer)) ∧
      (∀ packet writtenInfo,
        write primitives random (.ofBytes payload) authKey writer = .ok (packet, writtenInfo) →
          ∃ decrypted readInfo data,
            read primitives packet authKey reader = .ok ⟨decrypted, readInfo, .ok (.packet data)⟩ ∧
              data.bytes decrypted = payload) ∧
      ∀ (header : Header) (dataSize : Nat) (packetInfo : PacketInfo),
        (packetInfo.version = 1 → 0 < header.encryptedHeaderSize + dataSize) →
          SuitsReader header packetInfo.version dataSize
            (paddedSizeOf random header dataSize packetInfo) := by
  have suits : SuitsReader .endToEnd writer.version payload.length
        (paddedSizeOf random .endToEnd payload.length writer) :=
    suitsReader_paddedSizeOf random .endToEnd payload.length writer (fun _ => by omega)
  refine ⟨?_, ?_, fun header dataSize packetInfo =>
    suitsReader_paddedSizeOf random header dataSize packetInfo⟩
  · intro keySize
    rw [write, if_pos writerType]
    exact writeCryptoImpl_returns keySize (by split <;> decide) rfl suits
  · intro packet writtenInfo done
    rw [write, if_pos writerType] at done
    obtain ⟨messageKey, aesKey, written⟩ := written_of_writeCryptoImpl done
    have packetSize : packet.length = paddedSizeOf random .endToEnd payload.length writer :=
      written.length_packet.trans (toEncrypt_length rfl suits _)
    have large := suits.holdsData
    have notEmpty : (Storer.ofBytes payload).stored.length ≠ 0 := by
      dsimp only [Storer.ofBytes]
      omega
    rw [← packetSize] at suits large
    let info : PacketInfo :=
      { reader with noCryptoFlag := decide (uint64At packet 0 = 0) }
    have infoVersion : info.version = writer.version := sameVersion
    obtain ⟨decrypted, readInfo, accepted, bytes⟩ :=
      written.readCryptoImpl_eq inverts infoVersion rfl lengthField
        (Nat.mod_eq_zero_of_dvd divisible) suits
    refine ⟨decrypted, { readInfo with type := .endToEnd }, ⟨24, payload.length⟩, ?_, bytes⟩
    rw [read, if_neg (by dsimp only [Header.sizeofHeader] at large; omega)]
    rw [if_pos readerType, readE2eCrypto, e2e_offsets infoVersion roles, accepted]
    simp only [ok_bind, pure_eq_ok, ReadResult.makePacket]
    rw [check_eq_ok notEmpty]
    rfl

/-- A message of eight bytes goes from the creator of a chat to the other member. -/
theorem smallPayload_round_trip : ∃ packet writtenInfo decrypted readInfo data,
      write default ⟨0, fun size => ⟨List.replicate size 0, by simp⟩⟩
          (.ofBytes [4, 0, 0, 0, 1, 2, 3, 4])
          { id := 7, key := List.replicate 256 1 }
          { type := .endToEnd, version := 2, isCreator := true } =
          .ok (packet, writtenInfo) ∧
        read default packet { id := 7, key := List.replicate 256 1 }
            { type := .endToEnd, version := 2, isCreator := false } =
          .ok ⟨decrypted, readInfo, .ok (.packet data)⟩ ∧
        data.bytes decrypted = [4, 0, 0, 0, 1, 2, 3, 4] := by
  obtain ⟨returns, reads, _⟩ := e2e_round_trip default ⟨0, fun size => ⟨replicate size 0, by simp⟩⟩
      { id := 7, key := replicate 256 1 } [4, 0, 0, 0, 1, 2, 3, 4]
      { type := .endToEnd, version := 2, isCreator := true }
      { type := .endToEnd, version := 2, isCreator := false }
      (fun _ _ _ _ => rfl) (by decide) (by decide) rfl rfl rfl
      (Or.inl rfl)
  obtain ⟨⟨packet, writtenInfo⟩, written⟩ := returns (length_replicate ..)
  obtain ⟨decrypted, readInfo, data, accepted, bytes⟩ := reads packet writtenInfo written
  exact ⟨packet, writtenInfo, decrypted, readInfo, data, written, accepted, bytes⟩

end Autoproto.Mtproto
