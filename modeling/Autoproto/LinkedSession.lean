import Autoproto.MessageOrder
import Autoproto.SessionContainers

namespace Autoproto.Net

open ByteEncoding
open Mtproto (Draw MtprotoQuery SessionConnection ConnectionCall ConnectionMode)
open Mtproto.SessionConnection (FlushInputs Flushed SentPacket)

/-!
# A session with its connections

A session hands its queries to its main connection, and asks both connections
for states and answers. They make packets with numbers from the `AuthData` of
the session, and tell it which queries are in a container.
-/

/-- The bytes of a query, and how it is to be sent. -/
structure QueryBody where
  packet : Bytes := []
  gzipFlag : Bool := false
  invokeAfterMessageIds : List MessageId := []
  useQuickAck : Bool := false

inductive LinkedEvent where
  /-- A step of the session; if it sends a query, the body of that query. -/
  | session (event : Event) (body : QueryBody)
  /-- The connection that reads and writes sends a packet. -/
  | flushPacket (inputs : FlushInputs) (draws : Nat → Draw)
  | newSessionCreated (environment : Environment) (firstMsgId : MessageId)
  | messageFailed (environment : Environment) (messageId : MessageId)
  /-- The connection does something that the session does not notice. -/
  | call (connectionCall : ConnectionCall)

/-- What a connection calls only together with changes of its own. -/
def Callback.isLinked : Callback → Bool
  | .onContainerSent _ _ => true
  | .onNewSessionCreated _ => true
  | .onMessageFailed _ => true
  | .nextMessageId => true
  | _ => false

def Action.isLinked : Action → Bool
  | .callback called => called.isLinked
  | _ => false

namespace Session

/-- The query handed to the connection in a step: the new one among the sent queries. -/
def handedOver (before after : Session) : Option MessageId :=
  after.sentQueries.keys.find? (fun messageId => (before.sentQueries.find? messageId).isNone)

/-- The kind of connection that is opened. -/
def connectionMode (mode : Mode) : ConnectionId → ConnectionMode
  | .main =>
    match mode with
    | .tcp => .tcp
    | .http => .http
  | .longPoll =>
    match mode with
    | .tcp => .tcp
    | .http => .httpLongPoll

/-- A connection lasts as long as it is ready. -/
def keepConnection (before after : Session) (connections : ConnectionId → SessionConnection)
    (info : ConnectionId) : SessionConnection :=
  if (before.connections info).state = .ready ∧
      (after.connections info).state = .ready then
    connections info
  else
    { mode := connectionMode after.mode info }

def Output.ask (connections : ConnectionId → SessionConnection) :
    Output → ConnectionId → SessionConnection
  | .destroyKey info => Function.update connections info (connections info).destroyKey
  | .getStateInfo info messageId =>
    Function.update connections info ((connections info).getStateInfo messageId)
  | .cancelAnswer info messageId =>
    Function.update connections info ((connections info).cancelAnswer messageId)
  | .resendAnswer info messageId =>
    Function.update connections info ((connections info).resendAnswer messageId)
  | _ => connections

/-- The connections after a step that sends nothing. -/
def connectionsAfter (before after : Session) (connections : ConnectionId → SessionConnection) :
    ConnectionId → SessionConnection :=
  (after.outputs.drop before.outputs.length).foldl Output.ask
    (keepConnection before after connections)

/-- The session is told of a packet that has been sent. -/
def onFlushed (flushed : Flushed) (session : Session) : Except Fault Session :=
  let session := session.setLastMessageId flushed.authData.lastMessageId
  match flushed.sent with
  | none => .ok session
  | some packet =>
    if packet.impl.containerMessageId = 0 then
      .ok session
    else
      session.onContainerSent packet.impl.containerMessageId
        (packet.contents.toSend.map MtprotoQuery.messageId)

end Session

open Net.Session

/--
A session and its connections. The last fields are not kept by the program: the
identifiers issued, whether one was not larger than the one before, and the
packets sent, the newest first.
-/
structure LinkedSession where
  system : System
  connections : ConnectionId → SessionConnection
  seqNo : UInt32 := 0
  issued : List MessageId := []
  overflowed : Bool := false
  packets : List SentPacket := []

namespace LinkedSession

def session (linked : LinkedSession) : Session :=
  linked.system.session

def numbers (draws : Nat → Draw) (linked : LinkedSession) : Mtproto.AuthData where
  lastMessageId := linked.session.authData.lastMessageId
  seqNo := linked.seqNo
  draws := draws
  issued := linked.issued
  overflowed := linked.overflowed

def setConnection (info : ConnectionId) (connection : SessionConnection)
    (linked : LinkedSession) : LinkedSession :=
  { linked with
    connections := Function.update linked.connections info connection }

/-- The function `send_query`, for a query that has its identifier. -/
def handOver (messageId : MessageId) (body : QueryBody) (linked : LinkedSession) : LinkedSession :=
  { linked.setConnection .main
      ((linked.connections .main).push ⟨messageId, linked.seqNo ||| 1, body.packet, body.gzipFlag,
          body.invokeAfterMessageIds, body.useQuickAck⟩) with
    seqNo := linked.seqNo + 2 }

/-- The identifier that a step has taken, if any. -/
def noteIssued (before after : Session) (linked : LinkedSession) : LinkedSession :=
  if (handedOver before after).isSome ∨
      after.authData.lastMessageId ≠ before.authData.lastMessageId then
    { linked with
      issued := after.authData.lastMessageId :: linked.issued
      overflowed :=
        linked.overflowed || decide (after.authData.lastMessageId ≤ before.authData.lastMessageId) }
  else
    linked

def follow (after : System) (body : QueryBody) (linked : LinkedSession) : LinkedSession :=
  let followed :=
    { linked with
      system := after
      connections :=
        connectionsAfter linked.session after.session
          linked.connections }.noteIssued linked.session after.session
  match handedOver linked.session after.session with
  | none => followed
  | some messageId => followed.handOver messageId body

def perform (event : Event) (body : QueryBody)
    (linked : LinkedSession) : Except Fault LinkedSession := do
  check (linked.system.Enabled event)
  let after ← linked.system.perform event
  return linked.follow after body

/-- The connection that reads and writes. -/
def flushing (linked : LinkedSession) : Except Fault ConnectionId :=
  match linked.system.point with
  | .flushing info _ none => do
      check (linked.session.isStopped = false)
      return info
  | _ => .error .check

def handle (linked : LinkedSession) :
    LinkedEvent → Except Fault LinkedSession
  | .session event body => do
      check (event.action.isLinked = false)
      linked.perform event body
  | .flushPacket inputs draws => do
      let info ← linked.flushing
      let flushed ← (linked.connections info).flushPacket inputs (linked.numbers draws)
      let session ← linked.session.onFlushed flushed
      return { linked.setConnection info flushed.connection with
        system := ⟨session, linked.system.point⟩
        seqNo := flushed.authData.seqNo
        issued := flushed.authData.issued
        overflowed := flushed.authData.overflowed
        packets := flushed.sent.toList ++ linked.packets }
  | .newSessionCreated environment firstMsgId => do
      let info ← linked.flushing
      let firstMessageId := (linked.connections info).firstMessageId firstMsgId
      linked.perform ⟨environment, .callback (.onNewSessionCreated firstMessageId)⟩ {}
  | .messageFailed environment messageId => do
      let info ← linked.flushing
      let linked ← linked.perform ⟨environment, .callback (.onMessageFailed messageId)⟩ {}
      return linked.setConnection info ((linked.connections info).onMessageFailed messageId)
  | .call connectionCall => do
      let info ← linked.flushing
      return linked.setConnection info (connectionCall.run (linked.connections info))

def Step (before : LinkedSession) (event : LinkedEvent) (after : LinkedSession) : Prop :=
  before.handle event = .ok after

/-- A session that has just been made. -/
def new (session : Session) : LinkedSession where
  system := ⟨session, .idle⟩
  connections := fun _ => { mode := .tcp }

/-- A run of a new session with its connections. -/
def Reaches (setup : Setup) (events : List LinkedEvent) (reached : LinkedSession) : Prop :=
  ∃ session, Session.create setup = .ok session ∧ Transition.Run Step (new session) events reached

end LinkedSession

end Autoproto.Net
