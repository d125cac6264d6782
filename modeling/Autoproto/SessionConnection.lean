import Autoproto.CryptoStorer

namespace Autoproto.Mtproto

/-!
# Connections of a session

A `SessionConnection` collects what has to be sent and sends it in packets. It
remembers which of its own messages ask for states and answers, and their
containers. What times decide is an input of `flush_packet`.
-/

inductive ConnectionMode where
  | tcp
  | http
  | httpLongPoll
  deriving Repr, DecidableEq

inductive ServiceQueryType where
  | getStateInfo
  | resendAnswer
  deriving Repr, DecidableEq

/-- A message that waits for an answer; zero is no container. -/
structure ServiceQuery where
  type : ServiceQueryType
  containerMessageId : MessageId
  messageIds : List MessageId
  deriving DecidableEq

structure SessionConnection where
  mode : ConnectionMode
  toSend : List MtprotoQuery := []
  toAckMessageIds : List MessageId := []
  toResendAnswerMessageIds : List MessageId := []
  toCancelAnswerMessageIds : List MessageId := []
  toGetStateInfoMessageIds : List MessageId := []
  serviceQueries : MessageId → Option ServiceQuery := fun _ => none
  containerToServiceMessageId : MessageId → List MessageId := fun _ => []
  lastPingMessageId : MessageId := 0
  lastPingContainerMessageId : MessageId := 0
  needDestroyAuthKey : Bool := false
  sentDestroyAuthKey : Bool := false

namespace SessionConnection

/-! ## What is asked of a connection -/

/-- The query as it waits to be sent. -/
def push (query : MtprotoQuery) (connection : SessionConnection) : SessionConnection :=
  { connection with toSend := connection.toSend ++ [query] }

/-- The function `send_query`; the message identifier may have been issued before. -/
def sendQuery (packet : Bytes) (gzipFlag : Bool) (messageId : MessageId)
    (invokeAfterMessageIds : List MessageId) (useQuickAck : Bool) (authData : AuthData)
    (connection : SessionConnection) :
    Except Fault (AuthData × SessionConnection) := do
  check (connection.mode ≠ .httpLongPoll)
  let (messageId, authData) :=
    if messageId = 0 then authData.nextMessageId else (messageId, authData)
  let (seqNo, authData) := authData.nextSeqNo true
  return (authData,
    connection.push ⟨messageId, seqNo, packet, gzipFlag, invokeAfterMessageIds, useQuickAck⟩)

variable (messageId : MessageId)

def getStateInfo (connection : SessionConnection) : SessionConnection :=
  { connection with
    toGetStateInfoMessageIds := connection.toGetStateInfoMessageIds ++ [messageId] }

def resendAnswer (connection : SessionConnection) : SessionConnection :=
  { connection with
    toResendAnswerMessageIds := connection.toResendAnswerMessageIds ++ [messageId] }

def cancelAnswer (connection : SessionConnection) : SessionConnection :=
  { connection with
    toCancelAnswerMessageIds := connection.toCancelAnswerMessageIds ++ [messageId] }

def destroyKey (connection : SessionConnection) : SessionConnection :=
  { connection with needDestroyAuthKey := true }

def sendAck (connection : SessionConnection) : SessionConnection :=
  if connection.toAckMessageIds.getLast? = some messageId then
    connection
  else
    { connection with
      toAckMessageIds := connection.toAckMessageIds ++ [messageId] }

/-! ## Packets -/

/-- The largest number of queries in a packet. -/
def maxQueryCount : Nat :=
  1000

/-- What a call of `flush_packet` finds. -/
structure FlushInputs where
  hasSalt : Bool
  mayPing : Bool
  needFutureSalts : Bool
  pingTimeout : Int32
  maxWait : Int32
  header : Bytes
  serverTime : Rat

/-- How many queries go into the next packet. -/
def sendTill (count size : Nat) : List MtprotoQuery → Nat
  | [] => 0
  | query :: rest =>
    if count < maxQueryCount ∧ size < 2 ^ 15 then
      sendTill (count + 1) (size + query.packet.length) rest + 1
    else
      0

/-- The number of queries that `flush_packet` takes. -/
def sendCount (inputs : FlushInputs) (connection : SessionConnection) : Nat :=
  if inputs.hasSalt then sendTill 0 0 connection.toSend else 0

/-- The function `cut_tail`: what is taken, and what stays. -/
def cutTail (size : Nat) (messageIds : List MessageId) : List MessageId × List MessageId :=
  if messageIds.length ≤ size then
    (messageIds, [])
  else
    (messageIds.drop (messageIds.length - size), messageIds.take (messageIds.length - size))

/-- The largest number of identifiers in one message. -/
def maxMessageIds : Nat :=
  8192

def packetContents (inputs : FlushInputs) (pingId : MessageId)
    (connection : SessionConnection) : PacketContents :=
  let queries := connection.toSend.take (connection.sendCount inputs)
  { toSend := queries
    header := inputs.header
    toAck := (cutTail maxMessageIds connection.toAckMessageIds).1
    pingId := pingId
    pingTimeout := inputs.pingTimeout
    maxDelay := if connection.mode = .tcp then -1 else 30
    maxAfter := if connection.mode = .tcp then -1 else 10
    maxWait :=
      match connection.mode with
      | .tcp => -1
      | .http => 0
      | .httpLongPoll => inputs.maxWait
    futureSaltN :=
      if connection.mode ≠ .httpLongPoll ∧ inputs.needFutureSalts then 64
      else 0
    getInfo := (cutTail maxMessageIds connection.toGetStateInfoMessageIds).1
    resend := (cutTail maxMessageIds connection.toResendAnswerMessageIds).1
    cancel := (cutTail (maxQueryCount - queries.length) connection.toCancelAnswerMessageIds).1
    destroyKey := connection.needDestroyAuthKey && !connection.sentDestroyAuthKey }

def afterCut (contents : PacketContents) (inputs : FlushInputs)
    (connection : SessionConnection) : SessionConnection :=
  { connection with
    toSend := connection.toSend.drop (connection.sendCount inputs)
    toAckMessageIds := (cutTail maxMessageIds connection.toAckMessageIds).2
    toResendAnswerMessageIds := (cutTail maxMessageIds connection.toResendAnswerMessageIds).2
    toCancelAnswerMessageIds :=
      (cutTail (maxQueryCount - contents.toSend.length) connection.toCancelAnswerMessageIds).2
    toGetStateInfoMessageIds := (cutTail maxMessageIds connection.toGetStateInfoMessageIds).2
    sentDestroyAuthKey := connection.sentDestroyAuthKey || contents.destroyKey }

/-- There is nothing to send. -/
def isEmptyPacket (contents : PacketContents) (connection : SessionConnection) : Bool :=
  contents.toSend.isEmpty && connection.toAckMessageIds.isEmpty &&
    decide (contents.pingId = 0) && decide (contents.maxDelay < 0) &&
    decide (contents.futureSaltN = 0) &&
    connection.toResendAnswerMessageIds.isEmpty &&
    connection.toCancelAnswerMessageIds.isEmpty &&
    connection.toGetStateInfoMessageIds.isEmpty && !contents.destroyKey

/-- A message that asks for something is remembered with its container. -/
def emplaceServiceQuery (type : ServiceQueryType) (messageId containerMessageId : MessageId)
    (messageIds : List MessageId) (connection : SessionConnection) : SessionConnection :=
  if messageId ≠ 0 ∧ connection.serviceQueries messageId = none then
    { connection with
      serviceQueries :=
        Function.update connection.serviceQueries messageId
          (some ⟨type, containerMessageId, messageIds⟩) }
  else
    connection

/-- A container is remembered with a message that asks for something. -/
def addContainer (messageId containerMessageId : MessageId)
    (connection : SessionConnection) : SessionConnection :=
  if messageId ≠ 0 ∧ containerMessageId ≠ 0 then
    { connection with
      containerToServiceMessageId :=
        Function.update connection.containerToServiceMessageId
          containerMessageId
          (connection.containerToServiceMessageId containerMessageId ++ [messageId]) }
  else
    connection

def notePing (contents : PacketContents) (impl : CryptoImpl)
    (connection : SessionConnection) : SessionConnection :=
  if contents.pingId ≠ 0 then
    { connection with
      lastPingContainerMessageId := impl.containerMessageId
      lastPingMessageId := impl.messageIdOf .ping }
  else
    connection

def noteSent (contents : PacketContents) (impl : CryptoImpl)
    (connection : SessionConnection) : SessionConnection :=
  let container := impl.containerMessageId
  ((((connection.emplaceServiceQuery .resendAnswer (impl.messageIdOf .resend)
    container contents.resend).emplaceServiceQuery .getStateInfo
      (impl.messageIdOf .getInfo) container contents.getInfo).notePing
        contents impl).addContainer (impl.messageIdOf .resend)
          container).addContainer (impl.messageIdOf .getInfo) container

structure SentPacket where
  contents : PacketContents
  impl : CryptoImpl

structure Flushed where
  authData : AuthData
  connection : SessionConnection
  sent : Option SentPacket

def nextPingId (inputs : FlushInputs) (authData : AuthData) : MessageId × AuthData :=
  if inputs.hasSalt && inputs.mayPing then
    authData.nextMessageId
  else
    (0, authData)

def flushPacket (inputs : FlushInputs) (authData : AuthData)
    (connection : SessionConnection) : Except Fault Flushed := do
  let (pingId, authData) := nextPingId inputs authData
  let contents := connection.packetContents inputs pingId
  if connection.isEmptyPacket contents then
    return ⟨authData, connection, none⟩
  else
    check (contents.toSend.length ≤ maxQueryCount)
    let (impl, authData) ← CryptoImpl.new contents inputs.serverTime authData
    return ⟨authData, (connection.afterCut contents inputs).noteSent contents impl,
      some ⟨contents, impl⟩⟩

/-! ## What comes from the server -/

/-- The identifier with which `on_packet` for `new_session_created` calls the session. -/
def firstMessageId (firstMsgId : MessageId) (connection : SessionConnection) : MessageId :=
  match connection.serviceQueries firstMsgId with
  | some query => query.containerMessageId
  | none => firstMsgId

/-- The request of a `msgs_state_info` is forgotten. -/
def forgetServiceQuery (connection : SessionConnection) : SessionConnection :=
  { connection with
    serviceQueries := Function.update connection.serviceQueries messageId none }

def onMessageFailedInner (connection : SessionConnection)
    (messageId : MessageId) : SessionConnection :=
  match connection.serviceQueries messageId with
  | none => connection
  | some query =>
    let connection := connection.forgetServiceQuery messageId
    match query.type with
    | .resendAnswer =>
      query.messageIds.foldl
        (fun connection messageId => connection.resendAnswer messageId)
        connection
    | .getStateInfo =>
      query.messageIds.foldl
        (fun connection messageId => connection.getStateInfo messageId)
        connection

/-- A ping that has failed is not waited for. -/
def forgetPing (connection : SessionConnection) : SessionConnection :=
  if messageId = connection.lastPingMessageId ∨
      messageId = connection.lastPingContainerMessageId then
    { connection with
      lastPingMessageId := 0
      lastPingContainerMessageId := 0 }
  else
    connection

/-- The function `on_message_failed`, after it has told the session. -/
def onMessageFailed (connection : SessionConnection) : SessionConnection :=
  let connection :=
    { connection with sentDestroyAuthKey := false }.forgetPing messageId
  match connection.containerToServiceMessageId messageId with
  | [] => connection.onMessageFailedInner messageId
  | messageIds => messageIds.foldl onMessageFailedInner connection

end SessionConnection

end Autoproto.Mtproto
