import Autoproto.Transport

namespace Autoproto.Mtproto

open List ByteEncoding

/-!
# What a received packet guarantees about its data

Of the encrypted part of a packet only the whole blocks are decrypted and enter
the message key, but the size of the data is compared with that of the whole
packet. That the data still ends inside of the blocks follows from three checks
together: the padding has at least twelve bytes, and the sizes of the data and
of a block are divisible by four.
-/

/-- The position at which the decrypted part ends. -/
def authenticatedEnd (header : Header) (packet : Bytes) : Nat :=
  header.encryptBegin + decryptedSize header packet

/-- A packet without the bytes behind the last whole block. -/
def authenticatedPart (header : Header) (packet : Bytes) : Bytes :=
  packet.take (authenticatedEnd header packet)

theorem encryptBegin_eq (header : Header) : header.encryptBegin = 24 := by
  cases header <;> rfl

theorem encryptBegin_add (header : Header) :
    header.encryptBegin + header.encryptedHeaderSize = header.sizeofHeader := by
  cases header <;> rfl

theorem decryptedSize_le (header : Header) (packet : Bytes) :
    decryptedSize header packet ≤ packet.length - header.encryptBegin :=
  Nat.sub_le _ _

/-- The blocks have sixteen bytes. -/
theorem decryptedSize_mod (header : Header) (packet : Bytes) :
    decryptedSize header packet % 16 = 0 := by
  rw [decryptedSize]
  omega

variable {header : Header} {packet : Bytes}

section

variable (large : header.sizeofHeader ≤ packet.length)
include large

theorem authenticatedEnd_le : authenticatedEnd header packet ≤ packet.length := by
  have begins := encryptBegin_add header
  have inside := decryptedSize_le header packet
  rw [authenticatedEnd]
  omega

theorem length_authenticatedPart :
    (authenticatedPart header packet).length = authenticatedEnd header packet := by
  rw [authenticatedPart, length_take, Nat.min_eq_left (authenticatedEnd_le large)]

theorem length_toDecrypt : (toDecrypt header packet).length = decryptedSize header packet :=
  length_part (authenticatedEnd_le large)

end

theorem toDecrypt_eq : toDecrypt header packet =
      part (authenticatedPart header packet) header.encryptBegin (decryptedSize header packet) := by
  rw [authenticatedPart, authenticatedEnd, part_take packet (Nat.le_refl _), toDecrypt]

theorem part_authenticatedPart (header : Header) (packet : Bytes) {offset size : Nat}
    (inside : offset + size ≤ header.encryptBegin) :
    part (authenticatedPart header packet) offset size = part packet offset size := by
  rw [authenticatedPart, authenticatedEnd, part_take packet (by omega)]

theorem decryptedSize_congr (header : Header) {other : Bytes}
    (sameLength : packet.length = other.length) :
    decryptedSize header packet = decryptedSize header other := by
  rw [decryptedSize, decryptedSize, sameLength]

/-! ## Decryption in place -/

section Decryption

variable {primitives : Primitives} {header : Header} {x : Nat} {packet decrypted : Bytes}
  {authKey : AuthKey} {version : Int32}

structure DecryptedInPlace (primitives : Primitives) (header : Header) (packet decrypted : Bytes)
    (aesKey : AesKey) : Prop where
  length : decrypted.length = packet.length
  untouched : decrypted.take header.encryptBegin = packet.take header.encryptBegin
  blocks : toDecrypt header decrypted =
      primitives.igeDecrypt aesKey.key aesKey.iv (toDecrypt header packet)

theorem decryptedInPlace (large : header.sizeofHeader ≤ packet.length)
    (done : decryptInPlace primitives header x packet authKey version = .ok decrypted) : ∃ aesKey,
      deriveKey primitives authKey version (messageKeyOf packet) x = .ok aesKey ∧
        DecryptedInPlace primitives header packet decrypted aesKey := by
  obtain ⟨aesKey, derived, done⟩ := bind_eq_ok done
  obtain ⟨blocks, decryption, done⟩ := bind_eq_ok done
  obtain ⟨_, _, decryption⟩ := bind_eq_ok decryption
  cases decryption
  cases done
  have begins := encryptBegin_add header
  have ends := authenticatedEnd_le large
  have size : (primitives.igeDecrypt aesKey.key aesKey.iv
        (toDecrypt header packet)).length = decryptedSize header packet := by
    rw [primitives.length_igeDecrypt, length_toDecrypt large]
  have takes : (packet.take header.encryptBegin).length = header.encryptBegin := by
    rw [length_take]
    omega
  rw [authenticatedEnd] at ends
  have length : (packet.take header.encryptBegin ++
          primitives.igeDecrypt aesKey.key aesKey.iv (toDecrypt header packet) ++
          packet.drop (header.encryptBegin + decryptedSize header packet)).length =
        packet.length := by
    rw [length_append, length_append, takes, size, length_drop]
    omega
  refine ⟨aesKey, derived, length, ?_, ?_⟩
  · rw [append_assoc, take_left' takes]
  · rw [toDecrypt, decryptedSize_congr header length, append_assoc,
      part_append_right takes, take_left' size]

namespace DecryptedInPlace

variable {aesKey : AesKey}

theorem messageKeyOf_eq (inPlace : DecryptedInPlace primitives header packet decrypted aesKey) :
    messageKeyOf decrypted = messageKeyOf packet := by
  have inside : 8 + 16 ≤ header.encryptBegin := by rw [encryptBegin_eq]
  rw [messageKeyOf, messageKeyOf, ← part_take decrypted inside, inPlace.untouched,
    part_take packet inside]

theorem authenticatedPart_eq
    (inPlace : DecryptedInPlace primitives header packet decrypted aesKey) :
    authenticatedPart header decrypted = packet.take header.encryptBegin ++
        primitives.igeDecrypt aesKey.key aesKey.iv (toDecrypt header packet) := by
  rw [← inPlace.blocks, ← inPlace.untouched, toDecrypt, part,
    authenticatedPart, authenticatedEnd, take_add]

end DecryptedInPlace

end Decryption

/-! ## The checks of the second version -/

theorem lengths_of_checkLengths {packetInfo : PacketInfo} {result : Unit}
    (version : packetInfo.version = 2)
    (checked : checkLengths header packet packetInfo = .ok result) :
    (packetInfo.checkMod4 → messageDataLengthOf header packet % 4 = 0) ∧
      messageDataLengthOf header packet + header.sizeofPrefix + 12 ≤ tailSizeOf header packet ∧
      tailSizeOf header packet ≤
        messageDataLengthOf header packet + header.sizeofPrefix + 1024 := by
  simp only [checkLengths, if_pos version] at checked
  split at checked
  · cases checked
  · rename_i divisible
    split at checked
    · cases checked
    · rename_i notTooBig
      split at checked
      · cases checked
      · rename_i padding
        refine ⟨?_, by omega, by omega⟩
        intro checkMod4
        by_contra notDivisible
        exact divisible ⟨checkMod4, notDivisible⟩

section Read

variable {primitives : Primitives} {header : Header} {x : Nat} {packet decrypted : Bytes}
  {authKey : AuthKey} {packetInfo readInfo : PacketInfo} {data : Slice}

structure Accepted (primitives : Primitives) (header : Header) (x : Nat) (packet decrypted : Bytes)
    (authKey : AuthKey) (packetInfo : PacketInfo) (data : Slice) (aesKey : AesKey) : Prop where
  large : header.sizeofHeader + header.sizeofPrefix ≤ packet.length
  derived : kdf2 primitives authKey.key (messageKeyOf packet) x = .ok aesKey
  inPlace : DecryptedInPlace primitives header packet decrypted aesKey
  messageKey : ∃ messageAck, calcMessageKey2 primitives authKey x (toDecrypt header decrypted) =
        .ok (messageAck, messageKeyOf packet)
  divisible : packetInfo.checkMod4 → messageDataLengthOf header decrypted % 4 = 0
  padding :
    messageDataLengthOf header decrypted + header.sizeofPrefix + 12 ≤ tailSizeOf header decrypted
  data : data = ⟨header.sizeofHeader, messageDataLengthOf header decrypted + header.sizeofPrefix⟩

theorem accepted_of_readCryptoImpl (version : packetInfo.version = 2)
    (accepted : readCryptoImpl primitives header x packet authKey packetInfo =
        .ok ⟨decrypted, readInfo, .ok data⟩) :
    ∃ aesKey, Accepted primitives header x packet decrypted authKey packetInfo data aesKey := by
  have notFirst : packetInfo.version ≠ 1 := by
    rw [version]
    decide
  rw [readCryptoImpl] at accepted
  split at accepted
  · cases accepted
  split at accepted
  · cases accepted
  rename_i large sameKey
  obtain ⟨inPlace, decryption, accepted⟩ := bind_eq_ok accepted
  split at accepted
  · cases accepted
  rename_i tail
  obtain ⟨aesKey, derived, isInPlace⟩ := decryptedInPlace (by omega) decryption
  obtain ⟨⟨messageAck, realKey⟩, computed, accepted⟩ := bind_eq_ok accepted
  simp only [realMessageKey, if_neg notFirst] at computed
  simp only at accepted
  split at accepted
  · cases accepted
  rename_i sameMessageKey
  simp only [pure_eq_ok, Except.ok.injEq, Read.mk.injEq] at accepted
  obtain ⟨samePacket, _, checked⟩ := accepted
  subst samePacket
  cases lengths : checkLengths header inPlace { packetInfo with messageAck := messageAck } with
  | error failure =>
    rw [lengths] at checked
    cases checked
  | ok result =>
    rw [lengths] at checked
    cases checked
    obtain ⟨divisible, padding, _⟩ := lengths_of_checkLengths (by exact version) lengths
    rw [deriveKey, if_neg notFirst] at derived
    rw [tailSizeOf] at tail
    refine ⟨aesKey, by omega, derived, isInPlace, ⟨messageAck, ?_⟩, divisible, padding, rfl⟩
    rw [computed, ← isInPlace.messageKeyOf_eq, ← Decidable.not_not.mp sameMessageKey]

namespace Accepted

variable {aesKey : AesKey}

section

variable (accepted : Accepted primitives header x packet decrypted authKey packetInfo data aesKey)
include accepted

section

variable (checkMod4 : packetInfo.checkMod4 = true)
include checkMod4

theorem data_end_le :
    header.sizeofHeader + messageDataLengthOf header decrypted + header.sizeofPrefix ≤
      authenticatedEnd header decrypted := by
  have large := accepted.large
  have length := accepted.inPlace.length
  have begins := encryptBegin_add header
  have padding := accepted.padding
  have divisible := accepted.divisible checkMod4
  have headers :
      header.encryptBegin % 4 = 0 ∧ header.sizeofHeader % 4 = 0 ∧ header.sizeofPrefix % 4 = 0 := by
    cases header <;> exact ⟨rfl, rfl, rfl⟩
  rw [tailSizeOf] at padding
  simp only [authenticatedEnd, decryptedSize]
  -- the padding and the bytes behind the blocks have the same remainder
  -- modulo four, and twelve to fifteen are too close together to differ
  omega

theorem messageDataLengthOf_eq : messageDataLengthOf header decrypted =
      messageDataLengthOf header (authenticatedPart header decrypted) := by
  have inside := accepted.data_end_le checkMod4
  have prefixSize : 4 ≤ header.sizeofPrefix := by cases header <;> decide
  rw [messageDataLengthOf, messageDataLengthOf, uint32At, uint32At,
    authenticatedPart, part_take decrypted (by omega)]

theorem data_bytes : data.bytes decrypted = data.bytes (authenticatedPart header decrypted) := by
  have inside := accepted.data_end_le checkMod4
  rw [accepted.data, Slice.bytes, Slice.bytes, authenticatedPart,
    part_take decrypted (by dsimp only; omega)]

end

end

variable {other otherDecrypted : Bytes} {otherInfo : PacketInfo} {otherData : Slice}
  {otherAesKey : AesKey}

theorem authenticatedPart_congr
    (accepted : Accepted primitives header x packet decrypted authKey packetInfo data aesKey)
    (otherAccepted :
      Accepted primitives header x other otherDecrypted authKey otherInfo otherData otherAesKey)
    (agree : authenticatedPart header packet = authenticatedPart header other) :
    authenticatedPart header decrypted = authenticatedPart header otherDecrypted := by
  have sameEnd : authenticatedEnd header packet = authenticatedEnd header other := by
    rw [← length_authenticatedPart (by have := accepted.large; omega), agree,
      length_authenticatedPart (by have := otherAccepted.large; omega)]
  have sameSize : decryptedSize header packet = decryptedSize header other := by
    rw [authenticatedEnd, authenticatedEnd] at sameEnd
    omega
  have sameMessageKey : messageKeyOf packet = messageKeyOf other := by
    have inside : 8 + 16 ≤ header.encryptBegin := by rw [encryptBegin_eq]
    rw [messageKeyOf, messageKeyOf, ← part_authenticatedPart header packet inside,
      agree, part_authenticatedPart header other inside]
  have sameHeader : packet.take header.encryptBegin = other.take header.encryptBegin := by
    have begins : 0 + header.encryptBegin ≤ header.encryptBegin := by omega
    have parts := part_authenticatedPart header packet begins
    rw [agree, part_authenticatedPart header other begins] at parts
    exact parts.symm
  have sameKey : aesKey = otherAesKey := by
    have derived := accepted.derived
    rw [sameMessageKey, otherAccepted.derived] at derived
    exact (Except.ok.inj derived).symm
  rw [accepted.inPlace.authenticatedPart_eq,
    otherAccepted.inPlace.authenticatedPart_eq, sameHeader, sameKey,
    toDecrypt_eq, toDecrypt_eq, agree, sameSize]

theorem data_congr
    (accepted : Accepted primitives header x packet decrypted authKey packetInfo data aesKey)
    (otherAccepted :
      Accepted primitives header x other otherDecrypted authKey otherInfo otherData otherAesKey)
    (checkMod4 : packetInfo.checkMod4 = true) (otherCheckMod4 : otherInfo.checkMod4 = true)
    (agree : authenticatedPart header packet = authenticatedPart header other) :
    data = otherData ∧ data.bytes decrypted = otherData.bytes otherDecrypted := by
  have decryptedAgree := accepted.authenticatedPart_congr otherAccepted agree
  have sameData : data = otherData := by
    rw [accepted.data, otherAccepted.data,
      accepted.messageDataLengthOf_eq checkMod4, decryptedAgree,
      ← otherAccepted.messageDataLengthOf_eq otherCheckMod4]
  refine ⟨sameData, ?_⟩
  rw [accepted.data_bytes checkMod4, decryptedAgree, sameData,
    ← otherAccepted.data_bytes otherCheckMod4]

end Accepted

theorem readShort_ne_packet : readShort packet ≠ .ok (.packet data) := by
  rw [readShort]
  split
  · simp
  · dsimp only
    split
    · simp
    · split <;> simp

theorem result_of_makePacket {result : Read Slice}
    (made : ReadResult.makePacket result = .ok ⟨decrypted, readInfo, .ok (.packet data)⟩) :
    result = ⟨decrypted, readInfo, .ok data⟩ := by
  obtain ⟨packet, info, outcome⟩ := result
  cases outcome with
  | error failure => cases made
  | ok found =>
    obtain ⟨_, _, made⟩ := bind_eq_ok made
    cases made
    rfl

theorem readCryptoImpl_of_read (common : packetInfo.type = .common)
    (encrypted : uint64At packet 0 ≠ 0)
    (accepted :
      read primitives packet authKey packetInfo = .ok ⟨decrypted, readInfo, .ok (.packet data)⟩) :
    ∃ implInfo, readCryptoImpl primitives .crypto 8 packet authKey
          { packetInfo with type := .common, noCryptoFlag := false } =
        .ok ⟨decrypted, implInfo, .ok data⟩ := by
  rw [read] at accepted
  split at accepted
  · simp only [Except.ok.injEq, Read.mk.injEq] at accepted
    exact absurd accepted.2.2 (readShort_ne_packet)
  simp only [common, encrypted, decide_false, Bool.false_eq_true, if_false,
    reduceCtorEq] at accepted
  split at accepted
  · cases accepted
  obtain ⟨result, readResult, accepted⟩ := bind_eq_ok accepted
  obtain ⟨implResult, readImpl, readResult⟩ := bind_eq_ok readResult
  have isResult := result_of_makePacket accepted
  obtain ⟨implPacket, implInfo, outcome⟩ := implResult
  cases outcome with
  | error failure =>
    subst isResult
    cases readResult
  | ok found =>
    subst isResult
    cases readResult
    exact ⟨implInfo, readImpl⟩

end Read

/--
In the configuration of a connection, the data of an accepted packet lies in the
decrypted blocks that the message key covers.
-/
theorem read_data_authenticated
    (primitives : Primitives)
    (authKey : AuthKey)
    (packet decrypted : Bytes)
    (packetInfo readInfo : PacketInfo)
    (data : Slice)
    (version : packetInfo.version = 2)
    (checkMod4 : packetInfo.checkMod4 = true)
    (common : packetInfo.type = .common)
    (encrypted : uint64At packet 0 ≠ 0)
    (accepted :
      read primitives packet authKey packetInfo = .ok ⟨decrypted, readInfo, .ok (.packet data)⟩) :
    (∃ aesKey messageAck, kdf2 primitives authKey.key (messageKeyOf packet) 8 = .ok aesKey ∧
        toDecrypt .crypto decrypted =
          primitives.igeDecrypt aesKey.key aesKey.iv (toDecrypt .crypto packet) ∧
        calcMessageKey2 primitives authKey 8 (toDecrypt .crypto decrypted) =
          .ok (messageAck, messageKeyOf packet)) ∧ Header.encryptBegin .crypto ≤ data.offset ∧
      data.offset + data.size ≤ Header.encryptBegin .crypto + decryptedSize .crypto packet ∧
      16 ∣ decryptedSize .crypto packet ∧ data.size = messageDataLengthOf .crypto decrypted + 16 ∧
      4 ∣ data.size ∧ ∀ other otherDecrypted otherInfo otherReadInfo otherData,
        authenticatedPart .crypto packet = authenticatedPart .crypto other → otherInfo.version = 2 →
            otherInfo.checkMod4 = true → otherInfo.type = .common →
                read primitives other authKey otherInfo =
                    .ok ⟨otherDecrypted, otherReadInfo, .ok (.packet otherData)⟩ →
                  data.bytes decrypted = otherData.bytes otherDecrypted := by
  obtain ⟨_, readImpl⟩ := readCryptoImpl_of_read common encrypted accepted
  obtain ⟨aesKey, isAccepted⟩ := accepted_of_readCryptoImpl (by exact version) readImpl
  obtain ⟨messageAck, messageKey⟩ := isAccepted.messageKey
  have dataEnd := isAccepted.data_end_le checkMod4
  have divisible := isAccepted.divisible checkMod4
  have sameSize := decryptedSize_congr .crypto isAccepted.inPlace.length
  rw [authenticatedEnd, sameSize] at dataEnd
  refine ⟨⟨aesKey, messageAck, isAccepted.derived, isAccepted.inPlace.blocks,
    messageKey⟩, ?_, ?_, ?_, ?_, ?_, ?_⟩
  · rw [isAccepted.data]
    exact Nat.sub_le _ _
  · rw [isAccepted.data]
    dsimp only
    omega
  · exact Nat.dvd_of_mod_eq_zero (decryptedSize_mod .crypto packet)
  · rw [isAccepted.data]
    rfl
  · rw [isAccepted.data]
    dsimp only [Header.sizeofPrefix]
    omega
  · intro other otherDecrypted otherInfo otherReadInfo otherData agree
      otherVersion otherCheckMod4 otherCommon otherReads
    have otherEncrypted : uint64At other 0 ≠ 0 := by
      rw [uint64At, ← part_authenticatedPart .crypto other (by decide),
        ← agree, part_authenticatedPart .crypto packet (by decide)]
      exact encrypted
    obtain ⟨_, otherImpl⟩ := readCryptoImpl_of_read otherCommon otherEncrypted otherReads
    obtain ⟨otherAesKey, otherAccepted⟩ :=
      accepted_of_readCryptoImpl (by exact otherVersion) otherImpl
    exact (isAccepted.data_congr otherAccepted checkMod4 otherCheckMod4 agree).2

def smallPacket (trailing : Bytes) : Bytes :=
  leOfNat 8 1 ++ List.replicate 16 0 ++
    (List.replicate 28 0 ++ leOfNat 4 4 ++ [1, 2, 3, 4] ++ List.replicate 12 0) ++ trailing

/-- Two packets that differ in the number of their trailing bytes are accepted. -/
theorem smallPacket_data_authenticated :
    (Slice.mk 40 20).bytes (smallPacket [5, 6, 7]) = (Slice.mk 40 20).bytes (smallPacket []) :=
  (read_data_authenticated default { id := 1, key := replicate 256 0 }
    (smallPacket [5, 6, 7]) (smallPacket [5, 6, 7]) { version := 2 }
    { version := 2, messageAck := 0x80000000 } ⟨40, 20⟩ rfl rfl rfl
    (by decide) (by decide +kernel)).2.2.2.2.2.2 (smallPacket []) (smallPacket [])
    { version := 2 } { version := 2, messageAck := 0x80000000 } ⟨40, 20⟩
    (by decide) rfl rfl rfl (by decide +kernel)

end Autoproto.Mtproto
