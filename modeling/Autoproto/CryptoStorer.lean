import Autoproto.HandshakeMessages
import Autoproto.MessageNumbers
import Autoproto.Transport

namespace Autoproto.Mtproto

open ByteEncoding

/-!
# Packets of messages

`CryptoImpl` puts the queries that wait and the messages of the connection
itself into one packet. The latter take their numbers when the packet is made;
queries have theirs already.
-/

namespace Storer

def empty : Storer :=
  ⟨0, []⟩

def concat (first second : Storer) : Storer :=
  ⟨first.size + second.size, first.stored ++ second.stored⟩

def concatAll (storers : List Storer) : Storer :=
  storers.foldr concat empty

/-- The function `store_string` of the storer, and of the one that only calculates the length. -/
def string (text : Bytes) : Except Fault Storer := do
  let stored ← Tl.storeString text
  let length :=
    if text.length < 254 then
      text.length + 1
    else if text.length < 2 ^ 24 then
      text.length + 4
    else
      text.length + 8
  return ⟨(length + 3) / 4 * 4, stored⟩

def message (messageId : MessageId) (seqNo : UInt32) (body : Storer) : Storer :=
  concatAll [.ofBytes (leOfNat 8 messageId.val),
    .ofBytes (leOfNat 4 seqNo.toNat), .ofBytes (leOfNat 4 body.size), body]

end Storer

/-! ## Queries -/

/-- A query that waits to be sent. -/
structure MtprotoQuery where
  messageId : MessageId
  seqNo : UInt32
  packet : Bytes
  gzipFlag : Bool := false
  invokeAfterMessageIds : List MessageId := []
  useQuickAck : Bool := false
  deriving DecidableEq

/-- A vector of identifiers. -/
def longVector (messageIds : List MessageId) : Bytes :=
  leOfNat 4 0x1cb5c415 ++ leOfNat 4 messageIds.length ++
    messageIds.flatMap (fun messageId => leOfNat 8 messageId.val)

/-- The size of a vector is narrowed to `int32`. -/
def checkVector (messageIds : List MessageId) : Except Fault Unit :=
  check (messageIds.length < 2 ^ 31)

def invokeAfter : List MessageId → Storer
  | [] => .empty
  | [messageId] => .ofBytes (leOfNat 4 0xcb9f372d ++ leOfNat 8 messageId.val)
  | messageIds => .ofBytes (leOfNat 4 0x3dc4b4f0 ++ longVector messageIds)

namespace MtprotoQuery

/-- The query itself, which may be compressed already. -/
def data (query : MtprotoQuery) : Except Fault Storer :=
  if query.gzipFlag then do
    let packed ← Storer.string query.packet
    return .concat (.ofBytes (leOfNat 4 0x3072cfa1)) packed
  else
    .ok (.ofBytes query.packet)

def body (header : Bytes) (query : MtprotoQuery) : Except Fault Storer := do
  checkVector query.invokeAfterMessageIds
  let data ← query.data
  return .concat (.ofBytes header) (.concat (invokeAfter query.invokeAfterMessageIds) data)

/-- The class `QueryImpl`. -/
def storer (header : Bytes) (query : MtprotoQuery) : Except Fault Storer := do
  let body ← query.body header
  return .message query.messageId query.seqNo body

end MtprotoQuery

def queryVector (header : Bytes) : List MtprotoQuery → Except Fault Storer
  | [] => .ok .empty
  | query :: rest => do
      let first ← query.storer header
      let others ← queryVector header rest
      return first.concat others

/-! ## Messages of the connection -/

/-- The messages that a connection sends by itself. -/
inductive ServiceKind where
  | ack
  | httpWait
  | getFutureSalts
  | getInfo
  | resend
  | cancel
  | destroyKey
  | ping
  deriving Repr, DecidableEq

/-- A message of the connection that has no numbers yet. -/
structure ServiceObject where
  kind : ServiceKind
  object : Storer
  deriving DecidableEq

structure ServiceMessage extends ServiceObject where
  stamp : Stamp
  deriving DecidableEq

namespace ServiceMessage

/-- The function `do_store` of `ObjectImpl`. -/
def storer (message : ServiceMessage) : Storer :=
  .message message.stamp.messageId message.stamp.seqNo message.object

end ServiceMessage

/-- The constructors of `ObjectImpl`, which number messages. -/
def issueAll :
    List ServiceObject → AuthData → List ServiceMessage × AuthData
  | [], authData => ([], authData)
  | object :: rest, authData =>
    let (stamp, authData) := authData.stamp false
    let (others, authData) := issueAll rest authData
    (⟨object, stamp⟩ :: others, authData)

structure PacketContents where
  toSend : List MtprotoQuery := []
  header : Bytes := []
  toAck : List MessageId := []
  pingId : MessageId := 0
  pingTimeout : Int32 := 0
  maxDelay : Int32 := -1
  maxAfter : Int32 := -1
  maxWait : Int32 := -1
  futureSaltN : Int32 := 0
  getInfo : List MessageId := []
  resend : List MessageId := []
  cancel : List MessageId := []
  destroyKey : Bool := false
  deriving DecidableEq

/-- An `ObjectImpl` with a flag that says whether it is there. -/
def objectImpl (notEmpty : Bool) (kind : ServiceKind) (object : Bytes) : List ServiceObject :=
  if notEmpty then [⟨kind, .ofBytes object⟩] else []

def msgsAck (messageIds : List MessageId) : Bytes :=
  leOfNat 4 0x62d6b459 ++ longVector messageIds

def msgsStateReq (messageIds : List MessageId) : Bytes :=
  leOfNat 4 0xda69fb52 ++ longVector messageIds

def msgResendReq (messageIds : List MessageId) : Bytes :=
  leOfNat 4 0x7d861a08 ++ longVector messageIds

def httpWait (maxDelay waitAfter maxWait : Int32) : Bytes :=
  leOfNat 4 0x9299359f ++ storeInt maxDelay ++ storeInt waitAfter ++ storeInt maxWait

def getFutureSalts (num : Int32) : Bytes :=
  leOfNat 4 0xb921bd04 ++ storeInt num

def rpcDropAnswer (reqMsgId : MessageId) : Bytes :=
  leOfNat 4 0x58e4a740 ++ leOfNat 8 reqMsgId.val

def destroyAuthKey : Bytes :=
  leOfNat 4 0xd1435160

def pingDelayDisconnect (pingId : MessageId) (disconnectDelay : Int32) : Bytes :=
  leOfNat 4 0xf3427b8c ++ leOfNat 8 pingId.val ++ storeInt disconnectDelay

namespace PacketContents

/-- The messages of the connection, in the order of storing. -/
def serviceObjects (contents : PacketContents) : List ServiceObject :=
  objectImpl (!contents.toAck.isEmpty) .ack (msgsAck contents.toAck) ++
    objectImpl (decide (0 ≤ contents.maxDelay)) .httpWait
      (httpWait contents.maxDelay contents.maxAfter contents.maxWait) ++
    objectImpl (decide (0 < contents.futureSaltN)) .getFutureSalts
      (getFutureSalts contents.futureSaltN) ++
    objectImpl (!contents.getInfo.isEmpty) .getInfo (msgsStateReq contents.getInfo) ++
    objectImpl (!contents.resend.isEmpty) .resend (msgResendReq contents.resend) ++
    contents.cancel.flatMap (fun messageId => objectImpl true .cancel (rpcDropAnswer messageId)) ++
    objectImpl contents.destroyKey .destroyKey destroyAuthKey ++
    objectImpl (decide (contents.pingId ≠ 0)) .ping
      (pingDelayDisconnect contents.pingId contents.pingTimeout)

/-- The vectors that are stored with the messages of the connection. -/
def checkVectors (contents : PacketContents) : Except Fault Unit := do
  checkVector contents.toAck
  checkVector contents.getInfo
  checkVector contents.resend

end PacketContents

/-! ## The packet -/

def isValidOutboundMsgId (serverTime : Rat) (messageId : MessageId) : Bool :=
  let idTime : Rat := messageId.val / 2 ^ 32
  decide (serverTime - 150 < idTime) && decide (idTime < serverTime + 30)

/-- The types of packets; a container has numbers of its own. -/
inductive CryptoType where
  | onlyQuery
  | only (kind : ServiceKind)
  | mixed (stamp : Stamp)
  deriving DecidableEq

structure CryptoImpl where
  type : CryptoType
  queries : Storer
  service : List ServiceMessage
  cnt : Int32
  parentMessageId : MessageId

namespace CryptoImpl

/-- The order in which the constructor looks for the only message. -/
def onlyOrder : List ServiceKind :=
  [.ack, .ping, .httpWait, .getFutureSalts, .getInfo, .resend, .cancel, .destroyKey]

def ofKind (kind : ServiceKind) (service : List ServiceMessage) : List ServiceMessage :=
  service.filter (fun message => message.kind = kind)

/-- Whether the first query can no longer be sent by itself. -/
def isFirstInvalid (serverTime : Rat) (toSend : List MtprotoQuery) : Bool :=
  match toSend with
  | [] => false
  | query :: _ => !isValidOutboundMsgId serverTime query.messageId

def onlyType (toSend : List MtprotoQuery)
    (service : List ServiceMessage) : Except Fault (CryptoType × MessageId) :=
  match toSend with
  | query :: rest => do
      check (rest = [])
      return (.onlyQuery, query.messageId)
  | [] =>
    match onlyOrder.find? (fun kind => !(ofKind kind service).isEmpty) with
    | some kind =>
      match ofKind kind service with
      | [message] => .ok (.only kind, message.stamp.messageId)
      | _ => .error .check
    | none => .error .check

/-- The constructor. -/
def new (contents : PacketContents) (serverTime : Rat)
    (authData : AuthData) : Except Fault (CryptoImpl × AuthData) := do
  contents.checkVectors
  let queries ← queryVector contents.header contents.toSend
  let (service, authData) := issueAll contents.serviceObjects authData
  let cnt := Int32.ofNat (contents.toSend.length + service.length)
  check (cnt ≠ 0)
  if 1 < cnt ∨ isFirstInvalid serverTime contents.toSend then
    let (stamp, authData) := authData.stamp false
    return (⟨.mixed stamp, queries, service, cnt, stamp.messageId⟩, authData)
  else
    let (type, parentMessageId) ← onlyType contents.toSend service
    return (⟨type, queries, service, cnt, parentMessageId⟩, authData)

def containerImpl (cnt : Int32) (storer : Storer) : Storer :=
  .concatAll [.ofBytes (leOfNat 4 0x73f1f8dc), .ofBytes (storeInt cnt), storer]

/-- The function `do_store`. -/
def storer (impl : CryptoImpl) : Storer :=
  match impl.type with
  | .onlyQuery => impl.queries
  | .only kind => .concatAll ((ofKind kind impl.service).map ServiceMessage.storer)
  | .mixed stamp =>
    .message stamp.messageId stamp.seqNo
      (containerImpl impl.cnt
        (impl.queries.concat (.concatAll (impl.service.map ServiceMessage.storer))))

/-- The identifier of the container, which is zero if there is none. -/
def containerMessageId (impl : CryptoImpl) : MessageId :=
  match impl.type with
  | .mixed stamp => stamp.messageId
  | _ => 0

/-- The identifier of the message of a kind, which is zero if there is none. -/
def messageIdOf (kind : ServiceKind) (impl : CryptoImpl) : MessageId :=
  match ofKind kind impl.service with
  | message :: _ => message.stamp.messageId
  | [] => 0

end CryptoImpl

end Autoproto.Mtproto
