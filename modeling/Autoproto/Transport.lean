import Autoproto.AuthKey
import Autoproto.Kdf

namespace Autoproto.Mtproto

open ByteEncoding

/-!
# Encrypted packets

`Transport` turns messages into packets and packets into messages. A packet is
unencrypted, encrypted for a server (`CryptoHeader`), or for the other member of
a secret chat (`EndToEndHeader`); the templates over the header are functions of
a `Header` here. Reading decrypts in place, so it returns the changed packet
too.
-/

/-- The two kinds of headers of encrypted packets. -/
inductive Header where
  | crypto
  | endToEnd
  deriving Repr, DecidableEq

namespace Header

/-- The key identifier and the message key, and for a server the salt and the session. -/
def sizeofHeader : Header → Nat
  | .crypto => 40
  | .endToEnd => 24

def encryptedHeaderSize : Header → Nat
  | .crypto => 16
  | .endToEnd => 0

/-- The size of `CryptoPrefix` and `EndToEndPrefix`, which end with the length of the message. -/
def sizeofPrefix : Header → Nat
  | .crypto => 16
  | .endToEnd => 4

def encryptBegin (header : Header) : Nat :=
  header.sizeofHeader - header.encryptedHeaderSize

end Header

/-- The two kinds of encrypted packets. -/
inductive PacketType where
  | common
  | endToEnd
  deriving Repr, DecidableEq

/-- What is known about a packet. -/
structure PacketInfo where
  type : PacketType := .common
  messageAck : UInt32 := 0
  salt : UInt64 := 0
  sessionId : UInt64 := 0
  messageId : UInt64 := 0
  seqNo : Int32 := 0
  version : Int32 := 1
  noCryptoFlag : Bool := false
  isCreator : Bool := false
  checkMod4 : Bool := true
  useRandomPadding : Bool := false
  deriving Repr, DecidableEq

def roundUp16 (size : Nat) : Nat :=
  (size + 15) / 16 * 16

/-- The number of a field of four bytes. -/
def uint32At (bytes : Bytes) (offset : Nat) : UInt32 :=
  UInt32.ofNat (natOfLe (part bytes offset 4))

/-- The number of a field of eight bytes. -/
def uint64At (bytes : Bytes) (offset : Nat) : UInt64 :=
  UInt64.ofNat (natOfLe (part bytes offset 8))

variable (primitives : Primitives) (header : Header) (packet : Bytes)

/-- The acknowledgement and the message key of the first version, without the padding. -/
def calcMessageAckAndKey (dataSize : Nat) : UInt32 × Bytes :=
  let messageSha1 :=
    (primitives.sha1 (part packet header.encryptBegin (header.encryptedHeaderSize + dataSize))).val
  (uint32At messageSha1 0 ||| 0x80000000, part messageSha1 4 16)

/-- The size of a packet of the first version. -/
def calcCryptoSize (header : Header) (dataSize : Nat) : Nat :=
  let encSize := header.encryptedHeaderSize
  let rawSize := header.sizeofHeader - encSize
  rawSize + roundUp16 (encSize + dataSize)

/-- The acknowledgement and the message key of the second version, with the padding. -/
def calcMessageKey2 (authKey : AuthKey) (x : Nat)
    (toEncrypt : Bytes) : Except Fault (UInt32 × Bytes) := do
  let keyPart ← substr authKey.key (88 + x) 32
  let msgKeyLarge := (primitives.sha256 (keyPart ++ toEncrypt)).val
  return (uint32At msgKeyLarge 0 ||| 0x80000000, part msgKeyLarge 8 16)

/-- The array of sizes, whose last element is not given and hence zero. -/
def bucketSizes : List Nat :=
  [64, 128, 192, 256, 384, 512, 768, 1024, 1280, 0]

/-- The size of a packet with the padding of the basic mode. -/
def doCalcCryptoSize2Basic (dataSize encSize rawSize : Nat) : Nat :=
  let encryptedSize := roundUp16 (encSize + dataSize + 12)
  match bucketSizes.find? (fun size => decide (encryptedSize ≤ size)) with
  | some size => rawSize + size
  | none => rawSize + ((encryptedSize - 1280 + 447) / 448 * 448 + 1280)

/-- What the generator of random numbers gives for one packet. -/
structure Random where
  secureUint32 : UInt32
  secureBytes : (size : Nat) → FixedBytes size

variable (random : Random)

/-- The size of a packet with the padding of the random mode. -/
def doCalcCryptoSize2Rand (dataSize encSize rawSize : Nat) : Nat :=
  let randDataSize := (random.secureUint32 &&& 0xff).toNat
  rawSize + roundUp16 (encSize + dataSize + randDataSize + 12)

def calcCryptoSize2 (header : Header) (dataSize : Nat) (packetInfo : PacketInfo) : Nat :=
  let encSize := header.encryptedHeaderSize
  let rawSize := header.sizeofHeader - encSize
  if packetInfo.useRandomPadding then
    doCalcCryptoSize2Rand random dataSize encSize rawSize
  else
    doCalcCryptoSize2Basic dataSize encSize rawSize

/-- The size of the header of an unencrypted packet. -/
def sizeofNoCryptoHeader : Nat := 8

/-! ## Reading -/

inductive ReadError where
  /-- The text `Invalid MTProto message: smaller than 4 bytes`. -/
  | smallerThanFour (size : Nat)
  /-- The text `Invalid MTProto message: too small`, with both sizes. -/
  | tooSmall (size sizeofHeader : Nat)
  /-- The text `Failed to decrypt MTProto message: auth key is empty`. -/
  | authKeyIsEmpty
  /-- The text `Invalid MTProto message: auth_key_id mismatch`. -/
  | authKeyIdMismatch (found expected : UInt64)
  /-- The text `Too small encrypted part`. -/
  | tooSmallEncryptedPart
  /-- The text `Invalid MTProto message: message_key mismatch`. -/
  | messageKeyMismatch (found expected : Bytes)
  /-- The text `Invalid MTProto message: invalid length (not divisible by four)`. -/
  | notDivisibleByFour (totalSize messageDataLength : Nat)
  /-- The text `Invalid MTProto message: invalid length (message_data_length is too big)`. -/
  | messageDataLengthTooBig (totalSize messageDataLength : Nat)
  /-- The text `Invalid MTProto message: invalid length (invalid padding length)`. -/
  | invalidPaddingLength (paddingSize totalSize messageDataLength : Nat)
  /-- The text `Invalid MTProto message: invalid length`, of the first version. -/
  | invalidLength (totalSize messageDataLength : Nat)
  deriving Repr, DecidableEq

/-- The packet decrypted in place, and the result. -/
structure Read (α : Type) where
  packet : Bytes
  packetInfo : PacketInfo
  result : Except ReadError α
  deriving DecidableEq

/-- The number of bytes that are decrypted: all blocks of the encrypted part that are whole. -/
def decryptedSize (header : Header) (packet : Bytes) : Nat :=
  let size := packet.length - header.encryptBegin
  size - size % 16

/-- The whole blocks of the encrypted part. -/
def toDecrypt (header : Header) (packet : Bytes) : Bytes :=
  part packet header.encryptBegin (decryptedSize header packet)

def messageKeyOf (packet : Bytes) : Bytes :=
  part packet 8 16

def messageDataLengthOf (header : Header) (packet : Bytes) : Nat :=
  (uint32At packet (header.sizeofHeader + header.sizeofPrefix - 4)).toNat

def tailSizeOf (header : Header) (packet : Bytes) : Nat :=
  packet.length - header.sizeofHeader

def deriveKey (authKey : AuthKey) (version : Int32) (messageKey : Bytes)
    (x : Nat) : Except Fault AesKey :=
  if version = 1 then
    kdf primitives authKey.key messageKey x
  else
    kdf2 primitives authKey.key messageKey x

def decryptInPlace (x : Nat) (packet : Bytes) (authKey : AuthKey)
    (version : Int32) : Except Fault Bytes := do
  let aesKey ← deriveKey primitives authKey version (messageKeyOf packet) x
  let decrypted ← aesIgeDecrypt primitives aesKey (toDecrypt header packet)
  return packet.take header.encryptBegin ++ decrypted ++
    packet.drop (header.encryptBegin + decryptedSize header packet)

/-- The length of the data of a packet of the first version is bad. -/
def isLengthBad (checkMod4 : Bool) : Bool :=
  let messageDataLength := messageDataLengthOf header packet
  (checkMod4 && decide (messageDataLength % 4 ≠ 0)) ||
    decide (calcCryptoSize header (messageDataLength + header.sizeofPrefix) ≠ packet.length)

/-- The acknowledgement and the message key that a decrypted packet should have. -/
def realMessageKey (x : Nat) (packet : Bytes) (authKey : AuthKey)
    (packetInfo : PacketInfo) : Except Fault (UInt32 × Bytes) :=
  if packetInfo.version = 1 then
    let checkSize :=
      if isLengthBad header packet packetInfo.checkMod4 then
        tailSizeOf header packet
      else
        messageDataLengthOf header packet + header.sizeofPrefix
    .ok (calcMessageAckAndKey primitives header packet checkSize)
  else
    calcMessageKey2 primitives authKey x (toDecrypt header packet)

/-- The lengths of a packet with the right key. -/
def checkLengths (packetInfo : PacketInfo) : Except ReadError Unit :=
  let messageDataLength := messageDataLengthOf header packet
  let tailSize := tailSizeOf header packet
  if packetInfo.version = 2 then
    if packetInfo.checkMod4 ∧ messageDataLength % 4 ≠ 0 then
      .error (.notDivisibleByFour packet.length messageDataLength)
    else if tailSize - header.sizeofPrefix < messageDataLength then
      .error (.messageDataLengthTooBig packet.length messageDataLength)
    else
      let padSize := tailSize - (messageDataLength + header.sizeofPrefix)
      if padSize < 12 ∨ padSize > 1024 then
        .error (.invalidPaddingLength padSize packet.length messageDataLength)
      else
        .ok ()
  else if
      packetInfo.version = 1 ∧ isLengthBad header packet packetInfo.checkMod4 then
    .error (.invalidLength packet.length messageDataLength)
  else
    .ok ()

/-- The second half of `read_crypto_impl`. -/
def readDecrypted (x : Nat) (packet : Bytes) (authKey : AuthKey)
    (packetInfo : PacketInfo) : Except Fault (Read Slice) := do
  let (messageAck, realKey) ← realMessageKey primitives header x packet authKey packetInfo
  let packetInfo := { packetInfo with messageAck := messageAck }
  if realKey ≠ messageKeyOf packet then
    return ⟨packet, packetInfo, .error (.messageKeyMismatch (messageKeyOf packet) realKey)⟩
  else
    return ⟨packet, packetInfo,
      (checkLengths header packet packetInfo).map fun _ =>
        ⟨header.sizeofHeader, messageDataLengthOf header packet + header.sizeofPrefix⟩⟩

def readCryptoImpl (x : Nat) (packet : Bytes) (authKey : AuthKey)
    (packetInfo : PacketInfo) : Except Fault (Read Slice) :=
  if packet.length < header.sizeofHeader then
    .ok ⟨packet, packetInfo, .error (.tooSmall packet.length header.sizeofHeader)⟩
  else if uint64At packet 0 ≠ authKey.id then
    .ok ⟨packet, packetInfo, .error (.authKeyIdMismatch (uint64At packet 0) authKey.id)⟩
  else do
    let decrypted ← decryptInPlace primitives header x packet authKey packetInfo.version
    if tailSizeOf header packet < header.sizeofPrefix then
      return ⟨decrypted, packetInfo, .error .tooSmallEncryptedPart⟩
    else
      readDecrypted primitives header x decrypted authKey packetInfo

/-- The function `read_crypto`; a server's offset differs. -/
def readCrypto (authKey : AuthKey) (packetInfo : PacketInfo) : Except Fault (Read Slice) := do
  let read ← readCryptoImpl primitives .crypto 8 packet authKey packetInfo
  match read.result with
  | .error failure => return ⟨read.packet, read.packetInfo, .error failure⟩
  | .ok data =>
    return ⟨read.packet, { read.packetInfo with
        type := .common
        salt := uint64At read.packet 24
        sessionId := uint64At read.packet 32
        messageId := uint64At read.packet 40
        seqNo := (uint32At read.packet 48).toInt32 },
      .ok data⟩

def readE2eCrypto (authKey : AuthKey) (packetInfo : PacketInfo) : Except Fault (Read Slice) := do
  let x := if packetInfo.isCreator ∧ packetInfo.version ≠ 1 then 8 else 0
  let read ← readCryptoImpl primitives .endToEnd x packet authKey packetInfo
  match read.result with
  | .error failure => return ⟨read.packet, read.packetInfo, .error failure⟩
  | .ok data =>
    return ⟨read.packet, { read.packetInfo with type := .endToEnd }, .ok data⟩

def readNoCrypto (packetInfo : PacketInfo) : Read Slice :=
  if packet.length < sizeofNoCryptoHeader then
    ⟨packet, packetInfo, .error (.tooSmall packet.length sizeofNoCryptoHeader)⟩
  else
    ⟨packet, packetInfo, .ok ⟨sizeofNoCryptoHeader, packet.length - sizeofNoCryptoHeader⟩⟩

inductive ReadResult where
  | nop
  | error (code : Int32)
  | packet (data : Slice)
  | quickAck (quickAck : UInt32)
  deriving Repr, DecidableEq

def ReadResult.makePacket (read : Read Slice) : Except Fault (Read ReadResult) :=
  match read.result with
  | .error failure => .ok ⟨read.packet, read.packetInfo, .error failure⟩
  | .ok data => do
      check (data.size ≠ 0)
      return ⟨read.packet, read.packetInfo, .ok (.packet data)⟩

/-- What a packet of less than sixteen bytes says. -/
def readShort (packet : Bytes) : Except ReadError ReadResult :=
  if packet.length < 4 then
    .error (.smallerThanFour packet.length)
  else
    let code := (uint32At packet 0).toInt32
    if code = 0 then
      .ok .nop
    else if code = -1 ∧ 8 ≤ packet.length then
      .ok (.quickAck (uint32At packet 4))
    else
      .ok (.error code)

def read (authKey : AuthKey) (packetInfo : PacketInfo) : Except Fault (Read ReadResult) :=
  if packet.length < 16 then
    .ok ⟨packet, packetInfo, readShort packet⟩
  else
    let packetInfo :=
      { packetInfo with noCryptoFlag := decide (uint64At packet 0 = 0) }
    if packetInfo.type = .endToEnd then do
      ReadResult.makePacket (← readE2eCrypto primitives packet authKey packetInfo)
    else if packetInfo.noCryptoFlag then
      ReadResult.makePacket (readNoCrypto packet packetInfo)
    else if authKey.key = [] then
      .ok ⟨packet, packetInfo, .error .authKeyIsEmpty⟩
    else do
      ReadResult.makePacket (← readCrypto primitives packet authKey packetInfo)

/-! ## Writing -/

structure Storer where
  size : Nat
  stored : Bytes
  deriving Repr, DecidableEq

/-- The storer of a byte string. -/
def Storer.ofBytes (bytes : Bytes) : Storer :=
  ⟨bytes.length, bytes⟩

def writtenMessageKey (x : Nat) (authKey : AuthKey) (version : Int32) (toEncrypt : Bytes)
    (dataSize : Nat) : Except Fault (UInt32 × Bytes) :=
  if version = 1 then
    -- the place of the message key itself is not hashed
    .ok (calcMessageAckAndKey primitives header
      (leOfNat 8 authKey.id.toNat ++ List.replicate 16 0 ++ toEncrypt)
      dataSize)
  else
    calcMessageKey2 primitives authKey x toEncrypt

/--
The function `write_crypto_impl`: store the message behind the header, fill up
the packet, encrypt it.
-/
def writeCryptoImpl (header : Header) (x : Nat) (storer : Storer) (authKey : AuthKey)
    (packetInfo : PacketInfo) (encryptedHeader : Bytes)
    (dataSize paddedSize : Nat) : Except Fault (Bytes × PacketInfo) := do
  check (storer.stored.length = dataSize)
  let padSize := paddedSize - (header.sizeofHeader + dataSize)
  let pad := (random.secureBytes padSize).val
  let toEncrypt := encryptedHeader ++ storer.stored ++ pad
  let (messageAck, messageKey) ←
    writtenMessageKey primitives header x authKey packetInfo.version toEncrypt dataSize
  let aesKey ← deriveKey primitives authKey packetInfo.version messageKey x
  let encrypted ← aesIgeEncrypt primitives aesKey toEncrypt
  return (leOfNat 8 authKey.id.toNat ++ messageKey ++ encrypted,
    { packetInfo with messageAck := messageAck })

def paddedSizeOf (header : Header) (dataSize : Nat) (packetInfo : PacketInfo) : Nat :=
  if packetInfo.version = 1 then
    calcCryptoSize header dataSize
  else
    calcCryptoSize2 random header dataSize packetInfo

def writeCrypto (storer : Storer) (authKey : AuthKey)
    (packetInfo : PacketInfo) : Except Fault (Bytes × PacketInfo) :=
  writeCryptoImpl primitives random .crypto 0 storer authKey packetInfo
    (leOfNat 8 packetInfo.salt.toNat ++ leOfNat 8 packetInfo.sessionId.toNat)
    storer.size (paddedSizeOf random .crypto storer.size packetInfo)

def writeE2eCrypto (storer : Storer) (authKey : AuthKey)
    (packetInfo : PacketInfo) : Except Fault (Bytes × PacketInfo) :=
  let x := if packetInfo.isCreator ∨ packetInfo.version = 1 then 0 else 8
  writeCryptoImpl primitives random .endToEnd x storer authKey packetInfo []
    storer.size (paddedSizeOf random .endToEnd storer.size packetInfo)

def writeNoCrypto (storer : Storer)
    (packetInfo : PacketInfo) : Except Fault (Bytes × PacketInfo) := do
  check (storer.stored.length = storer.size)
  return (leOfNat 8 0 ++ storer.stored, packetInfo)

def write (storer : Storer) (authKey : AuthKey)
    (packetInfo : PacketInfo) : Except Fault (Bytes × PacketInfo) :=
  if packetInfo.type = .endToEnd then
    writeE2eCrypto primitives random storer authKey packetInfo
  else if packetInfo.noCryptoFlag then
    writeNoCrypto storer packetInfo
  else do
    check (authKey.key ≠ [])
    writeCrypto primitives random storer authKey packetInfo

end Autoproto.Mtproto
