import Autoproto.MessageNumbers
import Autoproto.NetQueryDispatcher
import Autoproto.OrderedMap

namespace Autoproto.Net

open ByteEncoding Text

/-!
# The state of a session

A session keeps the queries that it has been given until it returns them: those
that wait to be sent or for the fate of other queries, and those that have been
sent. Its connections and the server are only known by the functions that they
call. Not modelled are salts, time differences, the online flags, timeouts, and
debugging.
-/

/-- The limit of sent queries, up to which the queue is emptied. -/
def maxInflightQueries : Nat :=
  1024

/-- The time without activity after which a session is given up. -/
def activityTimeout : Rat :=
  60 * 5

namespace UniqueId

/-- The type of an identifier, which is in its second byte. -/
def extractType (id : Nat) : Nat :=
  id / 2 ^ 8 % 2 ^ 8

/-- The type of the queries that a session makes itself. -/
def bindKeyType : Nat :=
  3

/-- The identifier that the value of the counter gives. -/
def next (type counter : Nat) : Nat :=
  (counter % 2 ^ 48) * 2 ^ 16 + type * 2 ^ 8

end UniqueId

/--
A query with what a session uses of it. The last field, which call of
`Session::send` brought the query, is not part of the program.
-/
structure NetQueryPtr extends NetQuery where
  isHighPriority : Bool := false
  tlConstructor : Nat := 0
  invokeAfter : List Nat := []
  realDcId : Int := 0
  mainAuthKeyId : UInt64 := 0
  sessionId : Nat := 0
  messageId : MessageId := 0
  giving : Option Nat := none
  deriving DecidableEq

/-- What a step finds outside the session. -/
structure Environment where
  /-- The value of `Time::now()`. -/
  now : Rat
  /-- The time that the bits of a double stand for. -/
  seconds : UInt64 → Rat
  hasSalt : Bool
  /-- The time of the server in units of a message identifier. -/
  messageTime : MessageId
  random : Fin (2 ^ 32)
  uniqueIdCounter : Nat
  /-- Whether the owner of a query has canceled it. -/
  isCanceled : Nat → Bool
  /-- The message and the session of a query somewhere in the program. -/
  referenceMessageId : Nat → MessageId
  referenceSessionId : Nat → Nat
  serverTime : Rat
  isServerTimeReliable : Bool
  mainDcId : Int
  checkUtf8 : Bytes → Bool
  fetchBool : Bytes → Except Status Bool
  fetchNearestDc : Bytes → Except Status Unit

namespace NetQueryPtr

/-- A query that a session has made itself. -/
def isBindKey (query : NetQueryPtr) : Bool :=
  UniqueId.extractType query.id = UniqueId.bindKeyType

/-- The query is to be sent again. -/
def setErrorResend (query : NetQueryPtr) : NetQueryPtr :=
  { query with state := .error ⟨202, []⟩ }

/-- The query was canceled by its owner. -/
def setErrorCanceled (query : NetQueryPtr) : NetQueryPtr :=
  { query with state := .error ⟨203, []⟩ }

/-- The queries to be invoked before are not known. -/
def setErrorResendInvokeAfter (query : NetQueryPtr) : NetQueryPtr :=
  { query with state := .error ⟨204, []⟩ }

/-- The query fails with a status. -/
def setError (status : Status) (query : NetQueryPtr) : NetQueryPtr :=
  { query with toNetQuery := query.toNetQuery.setError status }

/-- The query is answered; it must not be ready. -/
def setOk (answer : Bytes) (query : NetQueryPtr) : Except Fault NetQueryPtr := do
  check (query.state = .query)
  return { query with state := .ok answer }

/-- Zero stands for a query that is not sent. -/
def setMessageId (messageId : MessageId) (query : NetQueryPtr) : NetQueryPtr :=
  { query with messageId := messageId }

/-- The effect of `update_is_ready`; its result is whether the query is ready then. -/
def updateIsReady (environment : Environment) (query : NetQueryPtr) : NetQueryPtr :=
  if query.state = .query ∧ environment.isCanceled query.id then
    query.setErrorCanceled
  else
    query

end NetQueryPtr

/-- The keys of a session and the last message identifier. -/
structure AuthData where
  usePfs : Bool := true
  mainAuthKey : AuthKey := {}
  tmpAuthKey : AuthKey := {}
  lastMessageId : MessageId := 0
  sessionId : Nat
  deriving DecidableEq

namespace AuthData

/-- Whether there is a main key. -/
def hasMainAuthKey (authData : AuthData) : Bool :=
  authData.mainAuthKey.key ≠ []

variable (environment : Environment)

/-- Whether a new temporary key is due. -/
def needTmpAuthKey (now refreshMargin : Rat) (authData : AuthData) : Bool :=
  authData.usePfs &&
    (authData.tmpAuthKey.key = [] ||
      decide (now > environment.seconds authData.tmpAuthKey.expiresAt - refreshMargin))

/-- Whether there is a temporary key that has not expired. -/
def hasTmpAuthKey (now : Rat) (authData : AuthData) : Bool :=
  authData.usePfs && authData.tmpAuthKey.key ≠ [] &&
    !decide (now > environment.seconds authData.tmpAuthKey.expiresAt)

/-- The key that messages are encrypted with. -/
def getAuthKey (authData : AuthData) : AuthKey :=
  if authData.usePfs then authData.tmpAuthKey else authData.mainAuthKey

/-- Whether that key can be used. -/
def hasAuthKey (now : Rat) (authData : AuthData) : Bool :=
  if authData.usePfs then
    authData.hasTmpAuthKey environment now
  else
    authData.hasMainAuthKey

/-- Whether messages can be sent. -/
def isReady (now : Rat) (authData : AuthData) : Bool :=
  authData.hasMainAuthKey &&
    !(authData.usePfs && !authData.hasTmpAuthKey environment now) &&
    environment.hasSalt

/-- Whether the key in use is bound to the main one. -/
def getBindFlag (authData : AuthData) : Bool :=
  !authData.usePfs || authData.tmpAuthKey.authFlag

def setUsePfs (usePfs : Bool) (authData : AuthData) : AuthData :=
  { authData with usePfs := usePfs }

def setMainAuthKey (authKey : AuthKey) (authData : AuthData) : AuthData :=
  { authData with mainAuthKey := authKey }

/-- A new temporary key, which must not be empty. -/
def setTmpAuthKey (authKey : AuthKey) (authData : AuthData) : Except Fault AuthData := do
  check (authKey.key ≠ [])
  return { authData with tmpAuthKey := authKey }

def dropMainAuthKey (authData : AuthData) : AuthData :=
  { authData with mainAuthKey := {} }

def dropTmpAuthKey (authData : AuthData) : AuthData :=
  { authData with tmpAuthKey := {} }

/-- Without an authorization, the temporary key is dropped. -/
def setAuthFlag (authFlag : Bool) (authData : AuthData) : AuthData :=
  let authData :=
    { authData with
      mainAuthKey := { authData.mainAuthKey with authFlag := authFlag } }
  if authFlag then authData else authData.dropTmpAuthKey

/-- The temporary key is bound from now on. -/
def onBind (authData : AuthData) : Except Fault AuthData := do
  check authData.usePfs
  return { authData with
    tmpAuthKey := { authData.tmpAuthKey with authFlag := true } }

/-- The identifier that follows the last one. -/
def nextMessageId (authData : AuthData) : MessageId :=
  let draw := ⟨environment.messageTime, environment.random⟩
  (Mtproto.AuthData.nextMessageId
    { lastMessageId := authData.lastMessageId, draws := fun _ => draw }).1

end AuthData

/-- The two connections of a session. -/
inductive ConnectionId where
  | main
  | longPoll
  deriving Repr, DecidableEq

/-- How packets are transported. -/
inductive Mode where
  | tcp
  | http
  deriving Repr, DecidableEq

namespace ConnectionInfo

/-- How far a connection is. -/
inductive State where
  | empty
  | connecting
  | ready
  deriving Repr, DecidableEq

end ConnectionInfo

/-- What a session knows of a connection. -/
structure ConnectionInfo where
  mode : Mode := .tcp
  state : ConnectionInfo.State := .empty
  askInfo : Bool := false
  createdAt : Rat := 0
  deriving DecidableEq

/-- A connection to the server, with the network it was made in. -/
structure RawConnection where
  extra : Nat
  isHttp : Bool
  deriving Repr, DecidableEq

/-- The two keys that a handshake can make. -/
inductive HandshakeId where
  | mainAuthKey
  | tmpAuthKey
  deriving Repr, DecidableEq

namespace Session

/-- A query that has been sent. -/
structure Query where
  containerMessageId : MessageId
  netQuery : NetQueryPtr
  isAcknowledged : Bool := false
  isUnknown : Bool := false
  connectionId : ConnectionId
  sentAt : Rat
  deriving DecidableEq

/-- The waiting queries, in two queues. -/
structure PendingQueries where
  regularQueries : List NetQueryPtr := []
  highPriorityQueries : List NetQueryPtr := []
  deriving DecidableEq

namespace PendingQueries

/-- A query goes to the end of its queue. -/
def push (query : NetQueryPtr) (pending : PendingQueries) : PendingQueries :=
  if query.isHighPriority then
    { pending with
      highPriorityQueries := pending.highPriorityQueries ++ [query] }
  else
    { pending with regularQueries := pending.regularQueries ++ [query] }

/-- The next query and the others, or a failed check if there is none. -/
def pop (pending : PendingQueries) : Except Fault (NetQueryPtr × PendingQueries) :=
  match pending.highPriorityQueries, pending.regularQueries with
  | query :: rest, _ =>
    .ok (query, { pending with highPriorityQueries := rest })
  | [], query :: rest =>
    .ok (query, { pending with regularQueries := rest })
  | [], [] => .error .check

def isEmpty (pending : PendingQueries) : Bool :=
  pending.regularQueries.isEmpty && pending.highPriorityQueries.isEmpty

/-- All waiting queries, in the order in which they are taken out. -/
def toList (pending : PendingQueries) : List NetQueryPtr :=
  pending.highPriorityQueries ++ pending.regularQueries

end PendingQueries

/-- A sent container and how many of its queries count. -/
structure ContainerInfo where
  refCnt : Nat
  messageIds : List MessageId
  deriving DecidableEq

/--
Where the queries of a session are. Those it has been given and has returned are
not kept by the program.
-/
structure Queries where
  isStopped : Bool := false
  pendingQueries : PendingQueries := {}
  pendingInvokeAfterQueries : List NetQueryPtr := []
  sentQueries : OrderedMap MessageId Query := .empty
  unknownQueries : Finset MessageId := ∅
  given : List Nat := []
  returned : List NetQueryPtr := []

/-- What a session tells others. -/
inductive Output where
  | onFailed (status : Option Status)
  | onClosed
  | onTmpAuthKeyUpdated (authKey : AuthKey)
  | onAuthKeyUpdated (authKey : AuthKey)
  | onUpdate (packet : Bytes) (authKeyId : UInt64)
  | setMainDcId (rawDcId : Int)
  | logOut (reason : Bytes)
  | requestRawConnection (info : ConnectionId)
  | destroyKey (info : ConnectionId)
  | getStateInfo (info : ConnectionId) (messageId : MessageId)
  | cancelAnswer (info : ConnectionId) (messageId : MessageId)
  | resendAnswer (info : ConnectionId) (messageId : MessageId)
  | forceAck (info : ConnectionId)
  | createGenAuthKeyActor (handshakeId : HandshakeId)
  deriving DecidableEq

end Session

open Net.Session

/-- The members of a session, and what it has sent out. -/
structure Session extends Queries where
  rawDcId : Int
  isMain : Bool
  persistTmpAuthKey : Bool
  isCdn : Bool
  needDestroyAuthKey : Bool
  wasOnNetwork : Bool := false
  networkFlag : Bool := false
  mode : Mode := .tcp
  networkGeneration : Nat := 0
  beingBindedTmpAuthKeyId : UInt64 := 0
  beingCheckedMainAuthKeyId : UInt64 := 0
  lastBindQueryId : Nat := 0
  lastCheckQueryId : Nat := 0
  lastActivityTimestamp : Rat
  lastSuccessTimestamp : Rat
  lastBindSuccessTimestamp : Rat
  droppedSize : Nat := 0
  toCancelMessageIds : List MessageId := []
  /-- The sent queries, the newest first. -/
  sentQueryList : List MessageId := []
  /-- A null pointer at first. -/
  currentInfo : Option ConnectionId := none
  connections : ConnectionId → ConnectionInfo := fun _ => {}
  cachedConnectionTimestamp : Rat := 0
  cachedConnection : Option RawConnection := none
  usePfs : Bool
  needCheckMainKey : Bool := false
  closeFlag : Bool := false
  sentContainers : MessageId → Option ContainerInfo := fun _ => none
  handshakeFlags : HandshakeId → Bool := fun _ => false
  authData : AuthData
  outputs : List Output := []

namespace Session

/-- The arguments of the constructor. -/
structure Setup where
  now : Rat
  rawDcId : Int
  isMain : Bool
  usePfs : Bool
  persistTmpAuthKey : Bool
  isCdn : Bool
  needDestroyAuthKey : Bool
  mainAuthKey : AuthKey
  tmpAuthKey : AuthKey
  sessionId : Nat

/-- The constructor. -/
def create (setup : Setup) : Except Fault Session := do
  check (setup.needDestroyAuthKey → ¬ setup.isCdn)
  let usePfs := setup.usePfs && !setup.needDestroyAuthKey
  return {
    rawDcId := setup.rawDcId
    isMain := setup.isMain
    persistTmpAuthKey := setup.usePfs && setup.persistTmpAuthKey
    isCdn := setup.isCdn
    needDestroyAuthKey := setup.needDestroyAuthKey
    lastActivityTimestamp := setup.now
    lastSuccessTimestamp := setup.now - 366 * 86400
    lastBindSuccessTimestamp := setup.now - 366 * 86400
    usePfs := usePfs
    authData := {
      usePfs := usePfs
      mainAuthKey := setup.mainAuthKey
      tmpAuthKey :=
        if usePfs ∧ setup.tmpAuthKey.key ≠ [] then setup.tmpAuthKey else {}
      sessionId := setup.sessionId } }

/-- Something is sent to another actor. -/
def emit (output : Output) (session : Session) : Session :=
  { session with outputs := session.outputs ++ [output] }

/-- The current connection; a null pointer is a fault. -/
def getCurrentInfo (session : Session) : Except Fault ConnectionId :=
  match session.currentInfo with
  | some info => .ok info
  | none => .error .outOfBounds

/-- A change that is made under a condition. -/
def applyIf (condition : Prop) [Decidable condition] (change : Session → Session)
    (session : Session) : Session :=
  if condition then change session else session

def setCurrentInfo (info : ConnectionId) (session : Session) : Session :=
  { session with currentInfo := some info }

def setConnection (info : ConnectionId) (connection : ConnectionInfo)
    (session : Session) : Session :=
  { session with
    connections := Function.update session.connections info connection }

def setConnectionState (info : ConnectionId) (state : ConnectionInfo.State)
    (session : Session) : Session :=
  session.setConnection info { session.connections info with state := state }

def modifyAuthData (change : AuthData → AuthData) (session : Session) : Session :=
  { session with authData := change session.authData }

def setLastActivity (environment : Environment) (session : Session) : Session :=
  { session with lastActivityTimestamp := environment.now }

def setLastSuccess (environment : Environment) (session : Session) : Session :=
  { session with lastSuccessTimestamp := environment.now }

def setCloseFlag (session : Session) : Session :=
  { session with closeFlag := true }

/-! ## The queries -/

/-- A query goes back to the dispatcher. -/
def returnQuery (environment : Environment) (query : NetQueryPtr) (session : Session) : Session :=
  { session with
    lastActivityTimestamp := environment.now
    returned := session.returned ++ [{ query with sessionId := 0 }] }

/-- A query waits to be sent. -/
def addPending (query : NetQueryPtr) (session : Session) : Session :=
  { session with pendingQueries := session.pendingQueries.push query }

/-- Queries that waited for others wait to be sent. -/
def flushPendingInvokeAfterQueries (session : Session) : Session :=
  { session with
    pendingQueries :=
      session.pendingInvokeAfterQueries.foldl
        (fun pending query => pending.push query) session.pendingQueries
    pendingInvokeAfterQueries := [] }

/-- Whether any query is left. -/
def hasQueries (session : Session) : Bool :=
  !session.pendingInvokeAfterQueries.isEmpty ||
    !session.pendingQueries.isEmpty || session.sentQueries.size ≠ 0

/-- A query waits; it is not one of the session's own. -/
def addQuery (query : NetQueryPtr) (session : Session) : Except Fault Session := do
  check (¬ query.isBindKey)
  return session.addPending query

/-- A query waits again, or fails if it is the session's own. -/
def resendQuery (environment : Environment) (query : NetQueryPtr)
    (session : Session) : Except Fault Session :=
  let query := query.setMessageId 0
  if query.isBindKey then
    .ok (session.returnQuery environment query.setErrorResend)
  else
    session.addQuery query

/-- A sent query is forgotten, also by the list of sent queries. -/
def eraseSentQuery (messageId : MessageId) (session : Session) : Session :=
  { session with
    sentQueries := session.sentQueries.erase messageId
    sentQueryList := session.sentQueryList.erase messageId }

variable (messageId : MessageId)

def modifySentQuery (change : Query → Query) (session : Session) : Session :=
  { session with sentQueries := session.sentQueries.modify messageId change }

/-- A query is marked, and the set changes with it. -/
def setUnknown (isUnknown : Bool) (unknownQueries : Finset MessageId)
    (session : Session) : Session :=
  { session with
    sentQueries :=
      session.sentQueries.modify messageId (fun query => { query with isUnknown := isUnknown })
    unknownQueries := unknownQueries }

/-- The last unknown query to be known frees those that wait. -/
def markAsKnown (query : Query) (session : Session) : Session :=
  if ¬ query.isUnknown then
    session
  else
    let unknownQueries := session.unknownQueries.erase messageId
    (session.setUnknown messageId false unknownQueries).applyIf
      (unknownQueries = ∅) flushPendingInvokeAfterQueries

/-- It is not known whether the query was received. -/
def markAsUnknown (query : Query) (session : Session) : Except Fault Session :=
  if query.isUnknown then
    .ok session
  else do
    check (messageId ≠ 0)
    return session.setUnknown messageId true (insert messageId session.unknownQueries)

/-! ## The containers -/

/-- A container is remembered or forgotten. -/
def setContainer (container : Option ContainerInfo) (session : Session) : Session :=
  { session with
    sentContainers := Function.update session.sentContainers messageId container }

/-- One query less counts as being in its container. -/
def decContainer (query : Query) (session : Session) : Except Fault Session :=
  -- The message was sent without any container.
  if query.containerMessageId = messageId then
    .ok session
  else
    match session.sentContainers query.containerMessageId with
    | none => .ok session
    | some container => do
        check (0 < container.refCnt)
        let refCnt := container.refCnt - 1
        return session.setContainer query.containerMessageId
          (if refCnt = 0 then none else some { container with refCnt := refCnt })

/-- The container of a query is forgotten. -/
def cleanupContainer (query : Query) (session : Session) : Session :=
  if query.containerMessageId = messageId then
    session
  else
    session.setContainer query.containerMessageId none

end Session

end Autoproto.Net
