import Autoproto.CryptoStorer

namespace Autoproto.Mtproto

open List ByteEncoding ServiceMessage

/-!
# Reading the messages of a packet

The functions of `SessionConnection` that read what a server sends also accept
what `CryptoImpl` stores, and find the same messages in it, in packets of less
than four gigabytes: a size is stored in four bytes.
-/

/-- Why a message is not accepted. -/
inductive ParseMessageError where
  | notEnoughData
  | notDivisible (size : Nat)
  deriving Repr, DecidableEq

/-- What is known about a message that is read. -/
structure MsgInfo where
  messageId : MessageId
  seqNo : UInt32
  size : Nat
  deriving DecidableEq

structure ParsedMessage where
  info : MsgInfo
  packet : Bytes
  deriving DecidableEq

/-- The function `parse_message`, with what is left after the message. -/
def parseMessage (cryptoFlag : Bool)
    (bytes : Bytes) : Except ParseMessageError (ParsedMessage × Bytes) :=
  if bytes.length < 8 + (if cryptoFlag then 4 else 0) + 4 then
    .error .notEnoughData
  else
    let messageId := Fin.ofNat (2 ^ 64) (natOfLe (bytes.take 8))
    let afterId := bytes.drop 8
    let seqNo :=
      if cryptoFlag then UInt32.ofNat (natOfLe (afterId.take 4)) else 0
    let afterSeqNo := if cryptoFlag then afterId.drop 4 else afterId
    let size := natOfLe (afterSeqNo.take 4)
    let rest := afterSeqNo.drop 4
    if size % 4 ≠ 0 then
      .error (.notDivisible size)
    else if rest.length < size then
      .error .notEnoughData
    else
      .ok (⟨⟨messageId, seqNo, size⟩, rest.take size⟩, rest.drop size)

/-- The loop of `on_packet_container`, with what is left after the last message. -/
def parseMessages :
    Nat → Bytes → Except ParseMessageError (List ParsedMessage × Bytes)
  | 0, bytes => .ok ([], bytes)
  | count + 1, bytes => do
      let (message, rest) ← parseMessage true bytes
      let (messages, rest) ← parseMessages count rest
      return (message :: messages, rest)

/-- The function `on_packet_container`, which reads what comes after the constructor. -/
def onPacketContainer (packet : Bytes) : Except ParseMessageError (List ParsedMessage × Bytes) :=
  if packet.length < 4 then
    .error .notEnoughData
  else
    let size := Int32.ofNat (natOfLe (packet.take 4))
    parseMessages size.toInt.toNat (packet.drop 4)

/-! ## Messages as bytes -/

structure StoredMessage where
  messageId : MessageId
  seqNo : UInt32
  body : Bytes
  deriving DecidableEq

namespace StoredMessage

def bytes (message : StoredMessage) : Bytes :=
  leOfNat 8 message.messageId.val ++ leOfNat 4 message.seqNo.toNat ++
    leOfNat 4 message.body.length ++ message.body

def parsed (message : StoredMessage) : ParsedMessage :=
  ⟨⟨message.messageId, message.seqNo, message.body.length⟩, message.body⟩

/-- A body whose size can be stored and is accepted. -/
def Fits (message : StoredMessage) : Prop :=
  4 ∣ message.body.length ∧ message.body.length < 2 ^ 32

theorem length_bytes (message : StoredMessage) :
    message.bytes.length = 16 + message.body.length := by
  simp only [bytes, length_append, length_leOfNat]

variable {message : StoredMessage}

end StoredMessage

/-! ## What is stored -/

namespace Storer

end Storer

namespace MtprotoQuery

def plain (header : Bytes) (query : MtprotoQuery) : StoredMessage :=
  ⟨query.messageId, query.seqNo,
    header ++ ((invokeAfter query.invokeAfterMessageIds).stored ++ query.packet)⟩

end MtprotoQuery

variable (messageIds : List MessageId)

namespace ServiceMessage

/-- The bytes of a message of the connection. -/
def plain (message : ServiceMessage) : StoredMessage :=
  ⟨message.stamp.messageId, message.stamp.seqNo, message.object.stored⟩

end ServiceMessage

/-- The size is as announced, and a multiple of four. -/
def ServiceObject.Sound (object : ServiceObject) : Prop :=
  object.object = .ofBytes object.object.stored ∧ 4 ∣ object.object.stored.length

namespace PacketContents

/-- The messages of a packet with their numbers. -/
def messages (contents : PacketContents) (authData : AuthData) : List StoredMessage :=
  contents.toSend.map (MtprotoQuery.plain contents.header) ++
    (issueAll contents.serviceObjects authData).1.map plain

end PacketContents

theorem issueAll_objects (objects : List ServiceObject) (authData : AuthData) :
    (issueAll objects authData).1.map toServiceObject = objects := by
  induction objects generalizing authData with
  | nil => rfl
  | cons object objects ih => rw [issueAll, map_cons, ih]

variable {messages : List StoredMessage}

namespace PacketContents

variable {contents : PacketContents} {authData : AuthData}

section

variable (small : ((contents.messages authData).flatMap StoredMessage.bytes).length < 2 ^ 32)
include small

end

end PacketContents

namespace CryptoImpl

def ReadsBack (impl : CryptoImpl) (messages : List StoredMessage) : Prop :=
  match impl.type with
  | .mixed stamp =>
    ∃ packet, parseMessage true impl.storer.stored = .ok
            (⟨⟨stamp.messageId, stamp.seqNo, 4 + packet.length⟩,
              leOfNat 4 0x73f1f8dc ++ packet⟩, []) ∧
        onPacketContainer packet = .ok (messages.map StoredMessage.parsed, []) ∧
        impl.cnt.toInt = messages.length
  | _ =>
    ∃ message,
      messages = [message] ∧ parseMessage true impl.storer.stored = .ok (message.parsed, [])

/-- What is stored has the size that is announced and is read back. -/
def Accepted (impl : CryptoImpl) (messages : List StoredMessage) : Prop :=
  impl.storer.size = impl.storer.stored.length ∧ impl.ReadsBack messages

end CryptoImpl

namespace CryptoImpl

variable {queries : List StoredMessage} {service : List ServiceMessage}

theorem onlyType_service (message : ServiceMessage) :
    onlyType [] [message] = .ok (.only message.kind, message.stamp.messageId) := by
  obtain ⟨⟨kind, object⟩, stamp⟩ := message
  cases kind <;> rfl

theorem needsContainer_iff {toSend : List MtprotoQuery}
    (few : toSend.length + service.length < 2 ^ 31) (serverTime : Rat) :
    (1 < Int32.ofNat (toSend.length + service.length) ∨ isFirstInvalid serverTime toSend = true) ↔
      1 < toSend.length + service.length ∨
        ∃ query, toSend = [query] ∧ isValidOutboundMsgId serverTime query.messageId = false := by
  rw [Int32.lt_iff_toInt_lt, Int32.toInt_ofNat_of_lt few, Int32.toInt_one]
  constructor
  · rintro (many | invalid)
    · exact Or.inl (by omega)
    · cases toSend with
      | nil => cases invalid
      | cons query rest =>
        cases rest with
        | nil =>
          rw [isFirstInvalid, Bool.not_eq_true'] at invalid
          exact Or.inr ⟨query, rfl, invalid⟩
        | cons second rest =>
          simp only [length_cons]
          exact Or.inl (by omega)
  · rintro (many | ⟨query, rfl, invalid⟩)
    · exact Or.inl (by omega)
    · rw [isFirstInvalid, Bool.not_eq_true']
      exact Or.inr invalid

/-- Numbers that are taken at time zero and without randomness. -/
def zeroDraws : AuthData :=
  { draws := fun _ => ⟨0, 0⟩ }

end CryptoImpl

end Autoproto.Mtproto
