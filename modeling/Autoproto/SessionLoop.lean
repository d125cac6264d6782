import Autoproto.SessionCallbacks
import Mathlib.Data.Finset.Sort

namespace Autoproto.Net

open ByteEncoding Text

/-!
# The loop of a session

The messages of a session end with `Session::loop`, which opens the connections,
sends what waits and lets the connections read and write. The server decides
which functions are called meanwhile, so the system takes one step for every
query sent and every such call.
-/

namespace Session

/-! ## Sending -/

variable (environment : Environment)

/-- Whether a query may be invoked after the ones it has to be invoked after. -/
def canInvokeAfter (query : NetQueryPtr) (session : Session) : Bool :=
  query.invokeAfter.all fun reference =>
    environment.referenceSessionId reference = session.authData.sessionId &&
      environment.referenceMessageId reference ≠ 0

variable (messageId : MessageId)

/-- A query on its way, in no container yet. -/
def sentQuery (query : NetQueryPtr) : Query where
  containerMessageId := messageId
  netQuery := query.setMessageId messageId
  connectionId := .main
  sentAt := environment.now

/-- A sent query is remembered. -/
def emplaceSentQuery (query : Query) (session : Session) : Session :=
  { session with
    sentQueries := session.sentQueries.emplace messageId query
    sentQueryList := messageId :: session.sentQueryList }

/-- The query has been handed to the connection. -/
def putSentQuery (query : NetQueryPtr) (session : Session) : Except Fault Session := do
  check (session.sentQueries.find? messageId = none)
  return session.emplaceSentQuery messageId (sentQuery environment messageId query)

/-- A new message identifier is used. -/
def setLastMessageId (messageId : MessageId) (session : Session) : Session :=
  session.modifyAuthData (fun authData => { authData with lastMessageId := messageId })

/-- The connection takes a query, with a new identifier if it has none. -/
def connectionSend (query : NetQueryPtr) (session : Session) : Except Fault Session :=
  if messageId = 0 then
    let messageId := session.authData.nextMessageId environment
    (session.setLastMessageId messageId).putSentQuery environment messageId query
  else
    session.putSentQuery environment messageId query

/-- A query waits until no query is unknown. -/
def addPendingInvokeAfter (query : NetQueryPtr) (session : Session) : Session :=
  { session with
    pendingInvokeAfterQueries := session.pendingInvokeAfterQueries ++ [query] }

variable (info : ConnectionId)

/-- A query is returned, put off, or sent. -/
def connectionSendQuery (query : NetQueryPtr) (messageId : MessageId)
    (session : Session) : Except Fault Session := do
  check ((session.connections info).state = .ready)
  let session := session.setCurrentInfo info
  let query := query.updateIsReady environment
  if query.isReady then
    return session.returnQuery environment query
  else if ¬ session.canInvokeAfter environment query then
    return session.returnQuery environment query.setErrorResendInvokeAfter
  else if query.invokeAfter ≠ [] ∧ session.unknownQueries ≠ ∅ then
    return session.addPendingInvokeAfter query
  else
    session.connectionSend environment messageId query

/-- A query of the session itself, as the creator of queries makes it. -/
def makeBindKeyQuery (id : Nat) : NetQueryPtr :=
  { id := id, dcId := DcId.main, dispatchTtl := 0 }

/-- Whether the main key is to be checked. -/
def needSendCheckMainKey (session : Session) : Bool :=
  session.needCheckMainKey && session.authData.mainAuthKey.id ≠ session.beingCheckedMainAuthKeyId

/-- The key that is checked, and the query for it. -/
def setBeingChecked (keyId : UInt64) (queryId : Nat) (session : Session) : Session :=
  { session with
    beingCheckedMainAuthKeyId := keyId
    lastCheckQueryId := queryId }

/-- A query that shows whether the main key is valid. -/
def connectionSendCheckMainKey (session : Session) : Except Fault Session :=
  let keyId := session.authData.mainAuthKey.id
  if ¬ session.needCheckMainKey ∨
      keyId = session.beingCheckedMainAuthKeyId then
    .ok session
  else do
    check ((session.connections info).state ≠ .empty)
    let queryId :=
      UniqueId.next UniqueId.bindKeyType environment.uniqueIdCounter
    (session.setBeingChecked keyId queryId).connectionSendQuery environment
      info (makeBindKeyQuery queryId) 0

/-- Whether the temporary key is to be bound. -/
def needSendBindKey (session : Session) : Bool :=
  session.authData.usePfs && !session.authData.getBindFlag &&
    session.authData.tmpAuthKey.id ≠ session.beingBindedTmpAuthKeyId

/-- Whether waiting queries may be sent. -/
def needSendQuery (session : Session) : Bool :=
  !session.closeFlag && !session.needCheckMainKey &&
    (!session.authData.usePfs || session.authData.getBindFlag) &&
    !session.pendingQueries.isEmpty && !session.needDestroyAuthKey

/-- The key that is bound, and the query for it. -/
def setBeingBinded (keyId : UInt64) (queryId : Nat) (session : Session) : Session :=
  { session with
    beingBindedTmpAuthKeyId := keyId
    lastBindQueryId := queryId }

/-- A query that binds the temporary key. -/
def connectionSendBindKey (session : Session) : Except Fault Session := do
  check ((session.connections info).state ≠ .empty)
  let keyId := session.authData.tmpAuthKey.id
  if keyId = session.beingBindedTmpAuthKeyId then
    return session
  else
    let queryId :=
      UniqueId.next UniqueId.bindKeyType environment.uniqueIdCounter
    -- The message identifier is part of what `encrypted_bind` encrypts.
    let messageId := session.authData.nextMessageId environment
    ((session.setBeingBinded keyId queryId).setLastMessageId
      messageId).connectionSendQuery environment info (makeBindKeyQuery queryId) messageId

/-! ## Opening connections -/

def dropCachedConnection (session : Session) : Session :=
  { session with cachedConnection := none }

/-- A connection is asked for, or the cached one is taken. -/
def connectionOpen (now : Rat) (askInfo : Bool) (session : Session) : Except Fault Session := do
  check ((session.connections info).state = .empty)
  if ¬ session.networkFlag then
    return session
  else if ¬ session.authData.hasAuthKey environment now then
    return session
  else
    let session :=
      session.setConnection info
        { session.connections info with
          askInfo := askInfo
          state := .connecting }
    if session.cachedConnection.isSome then
      return session.dropCachedConnection
    else
      return session.emit (.requestRawConnection info)

/-- A connection is kept for later. -/
def connectionAdd (rawConnection : RawConnection) (session : Session) : Session :=
  { session with
    cachedConnection := some rawConnection
    cachedConnectionTimestamp := environment.now }

/-- A connection in another mode is closed. -/
def connectionCheckMode (session : Session) : Except Fault Session :=
  if session.closeFlag ∨ (session.connections info).state ≠ .ready then
    .ok session
  else if (session.connections info).mode ≠ session.mode then
    session.connectionClose environment info
  else
    .ok session

/-- The new connection asks about the queries of the old one. -/
def askStateInfo (session : Session) : Session :=
  { session with
    outputs :=
      session.outputs ++
        (session.unknownQueries.sort (· ≤ ·)).map (Output.getStateInfo info) ++
        session.toCancelMessageIds.map (Output.cancelAnswer info)
    toCancelMessageIds := [] }

/-- The error of a session with too many unknown queries. -/
def tooManyUnknownQueries : Status :=
  ⟨0, ascii "Too many queries with unknown state"⟩

/-- The connection can be used from now on. -/
def connectionReady (session : Session) : Session :=
  let session :=
    session.applyIf session.needDestroyAuthKey (emit (.destroyKey info))
  let session :=
    session.setConnection info
      { session.connections info with
        mode := session.mode
        state := .ready
        createdAt := environment.now }
  if maxInflightQueries < session.unknownQueries.card then
    session.onSessionFailed (some tooManyUnknownQueries)
  else if (session.connections info).askInfo then
    session.askStateInfo info
  else
    session

def setMode (mode : Mode) (session : Session) : Session :=
  { session with mode := mode }

/-- The part of `connection_open_finish` for a connection in the right network. -/
def connectionUse (rawConnection : RawConnection) (session : Session) : Session :=
  let expectedMode := if rawConnection.isHttp then Mode.http else Mode.tcp
  if session.mode ≠ expectedMode then
    let session := session.setMode expectedMode
    if info = .longPoll ∧ expectedMode ≠ .http then
      (session.connectionAdd environment rawConnection).setConnectionState info .empty
    else
      session.connectionReady environment info
  else
    session.connectionReady environment info

/-- A connection has been made, or not, or for another network. -/
def connectionOpenFinish (result : Option RawConnection) (session : Session) : Session :=
  if session.closeFlag ∨ (session.connections info).state ≠ .connecting then
    session
  else
    let session := session.setCurrentInfo info
    match result with
    | none => session.setConnectionState info .empty
    | some rawConnection =>
      if rawConnection.extra ≠ session.networkGeneration then
        session.setConnectionState info .empty
      else
        session.connectionUse environment info rawConnection

/-- The connection starts to read and write. -/
def connectionFlush (session : Session) : Except Fault Session := do
  check ((session.connections info).state = .ready)
  return session.setCurrentInfo info

/-! ## Keys -/

def setHandshakeFlag (handshakeId : HandshakeId) (flag : Bool) (session : Session) : Session :=
  { session with
    handshakeFlags := Function.update session.handshakeFlags handshakeId flag }

/-- A handshake is started unless one is going on. -/
def createGenAuthKeyActor (handshakeId : HandshakeId) (session : Session) : Session :=
  if session.handshakeFlags handshakeId then
    session
  else
    (session.setHandshakeFlag handshakeId true).emit (.createGenAuthKeyActor handshakeId)

/-- Handshakes are started for keys that are missing. -/
def authLoop (now : Rat) (session : Session) : Session :=
  if session.needDestroyAuthKey then
    session
  else
    let refreshMargin : Rat :=
      if session.persistTmpAuthKey then 2 * 60 else 60 * 60
    (session.applyIf (¬ session.authData.hasMainAuthKey)
      (createGenAuthKeyActor .mainAuthKey)).applyIf
        (session.authData.needTmpAuthKey environment now refreshMargin)
        (createGenAuthKeyActor .tmpAuthKey)

/-- How a handshake comes back. -/
inductive HandshakeResult where
  | failed
  | notReady
  | ready (authKey : AuthKey)

/-- Both connections are closed. -/
def closeConnections (session : Session) : Except Fault Session := do
  let session ← session.connectionClose environment .main
  session.connectionClose environment .longPoll

/-- The key of a finished handshake is used. -/
def setAuthKey (handshakeId : HandshakeId) (authKey : AuthKey)
    (session : Session) : Except Fault Session :=
  match handshakeId with
  | .mainAuthKey =>
    .ok (session.modifyAuthData (AuthData.setMainAuthKey authKey)).onAuthKeyUpdated
  | .tmpAuthKey => do
      let authData ← session.authData.setTmpAuthKey authKey
      return (session.modifyAuthData (fun _ => authData)).onTmpAuthKeyUpdated

/-- A handshake is over. -/
def onHandshakeReady (handshakeId : HandshakeId) (result : HandshakeResult)
    (session : Session) : Except Fault Session :=
  let session := session.setHandshakeFlag handshakeId false
  match result with
  | .failed => .ok session
  | .notReady => .ok session
  | .ready authKey => do
      let session ← session.setAuthKey handshakeId authKey
      session.closeConnections environment

/-- Whether a main key is kept although it could not be used. -/
def hasImmunity (session : Session) : Bool :=
  let authKeyAge :=
    environment.serverTime - environment.seconds session.authData.mainAuthKey.createdAt
  let lastSuccessTime :=
    if session.usePfs then session.lastBindSuccessTimestamp
    else session.lastSuccessTimestamp
  !environment.isServerTimeReliable || decide (authKeyAge < 60) ||
    (decide (86400 < authKeyAge) && decide (environment.now - 86400 < lastSuccessTime))

def setNeedCheckMainKey (flag : Bool) (session : Session) : Session :=
  { session with needCheckMainKey := flag }

/-- The temporary key could not be bound to the main key. -/
def onEncryptedMessageInvalid (session : Session) : Session :=
  if session.hasImmunity environment then
    session
  else if ¬ session.usePfs then
    session.dropMainAuthKey.emit (.logOut (ascii "Main authorization key is invalid"))
  else
    (session.setNeedCheckMainKey true).modifyAuthData (AuthData.setUsePfs false)

/-- The answer to a query, or nothing. -/
def answer (query : NetQueryPtr) : Bytes :=
  match query.state with
  | .ok answer => answer
  | _ => []

/-- The error of a bind query, if there is one. -/
def bindStatus (query : NetQueryPtr) : Option Status :=
  match query.state with
  | .error status => some status
  | _ =>
    match environment.fetchBool (answer query) with
    | .error status => some status
    | .ok false => some ⟨0, ascii "Returned false"⟩
    | .ok true => none

def setLastBindSuccess (session : Session) : Session :=
  { session with lastBindSuccessTimestamp := environment.now }

/-- The result of the query that binds a key. -/
def onBindResult (query : NetQueryPtr) (session : Session) : Except Fault Session :=
  let session :=
    (session.setBeingBinded 0 0).applyIf
      (query.state = .error ⟨400, ascii "ENCRYPTED_MESSAGE_INVALID"⟩)
      (onEncryptedMessageInvalid environment)
  match bindStatus environment query with
  | none => do
      let authData ← session.authData.onBind
      return ((session.modifyAuthData (fun _ => authData)).setLastBindSuccess
        environment).onTmpAuthKeyUpdated
  | some status =>
    if status.message = ascii "DispatchTtlError" then
      .ok session
    else
      session.closeConnections environment

/-- The error of a check query, if there is one. -/
def checkKeyStatus (query : NetQueryPtr) : Option Status :=
  match query.state with
  | .error status => some status
  | _ =>
    match environment.fetchNearestDc (answer query) with
    | .error status => some status
    | .ok _ => none

/-- The result of the query that checks the main key. -/
def onCheckKeyResult (query : NetQueryPtr) (session : Session) : Except Fault Session :=
  let session := session.setBeingChecked 0 0
  if (checkKeyStatus environment query).any (fun status => status.code = -404) then
    session.closeConnections environment
  else
    .ok ((session.setNeedCheckMainKey false).modifyAuthData (AuthData.setUsePfs true))

/-- The result of a query of the session itself. -/
def onResult (environment : Environment) (query : NetQueryPtr)
    (session : Session) : Except Fault Session := do
  check query.isBindKey
  if session.lastBindQueryId = query.id then
    session.onBindResult environment query
  else if session.lastCheckQueryId = query.id then
    session.onCheckKeyResult environment query
  else
    return session

/-! ## Messages -/

/-- The query that is given to a session, as `send` changes it. -/
def receive (query : NetQueryPtr) (session : Session) : NetQueryPtr :=
  NetQueryPtr.updateIsReady environment
    { query with
      realDcId := session.rawDcId
      mainAuthKeyId := session.authData.mainAuthKey.id
      sessionId := session.authData.sessionId
      giving := some session.given.length }

/-- The record of what was given. -/
def addGiven (id : Nat) (session : Session) : Session :=
  { session with given := session.given ++ [id] }

/-- The result is whether `send` goes on to the loop. -/
def send (query : NetQueryPtr) (session : Session) : Except Fault (Session × Bool) :=
  let received := session.receive environment query
  let session := (session.setLastActivity environment).addGiven query.id
  if received.isReady then
    .ok (session.returnQuery environment received, false)
  else do
    let session ← session.addQuery received
    return (session, true)

/-- All sent queries wait again. -/
def pushSentQueries (session : Session) : Session :=
  { session with
    pendingQueries :=
      session.sentQueries.entries.foldl
        (fun pending entry => pending.push (entry.2.netQuery.setMessageId 0))
        session.pendingQueries
    sentQueries := .empty
    sentQueryList := []
    sentContainers := fun _ => none }

def setPendingQueries (pendingQueries : PendingQueries) (session : Session) : Session :=
  { session with pendingQueries := pendingQueries }

/-- The actor is stopped. -/
def stop (session : Session) : Session :=
  { session with isStopped := true }

/-- Every waiting query is returned, those with high priority first. -/
def returnPendingQueries (session : Session) : Session :=
  session.pendingQueries.toList.foldl
    (fun session query => session.returnQuery environment query.setErrorResend)
    (session.setPendingQueries {})

/-- Everything is returned, and the actor stops. -/
def close (session : Session) : Except Fault Session := do
  let session ← session.setCloseFlag.closeConnections environment
  let session := session.pushSentQueries.flushPendingInvokeAfterQueries
  check (session.sentQueries.size = 0)
  return ((session.returnPendingQueries environment).emit .onClosed).stop

/-- An answer to be canceled by the next connection. -/
def addToCancel (messageId : MessageId) (session : Session) : Session :=
  { session with
    toCancelMessageIds := session.toCancelMessageIds ++ [messageId] }

/-- The result is whether `raw_event` goes on to the loop. -/
def rawEvent (session : Session) : Except Fault (Session × Bool) :=
  match session.sentQueries.find? messageId with
  | none => .ok (session, false)
  | some query => do
      let session ← session.returnCanceled environment messageId query query.netQuery
      if (session.connections .main).state = .ready then
        return (session.emit (.cancelAnswer .main messageId), true)
      else
        return (session.addToCancel messageId, true)

def setNetwork (networkFlag : Bool) (networkGeneration : Nat) (session : Session) : Session :=
  { session with
    wasOnNetwork := true
    networkFlag := networkFlag
    networkGeneration := networkGeneration }

/-- Another network closes the connections. -/
def onNetwork (networkFlag : Bool) (networkGeneration : Nat)
    (session : Session) : Except Fault Session :=
  if session.networkGeneration ≠ networkGeneration then
    (session.setNetwork networkFlag networkGeneration).closeConnections environment
  else
    .ok (session.setNetwork networkFlag networkGeneration)

end Session

/-! ## The system -/

/-- What a connection calls while it reads and writes. -/
inductive Callback where
  | onConnected
  | onPong (pingTime currentTime : Rat)
  | onUpdate (packet : Bytes)
  | onNewSessionCreated (firstMessageId : MessageId)
  | onSessionFailed (status : Option Status)
  | onContainerSent (messageId : MessageId) (messageIds : List MessageId)
  | onMessageAck (messageId : MessageId)
  | onMessageResultOk (messageId : MessageId) (packet : Bytes) (originalSize : Nat)
  | onMessageResultError (messageId : MessageId) (code : Int) (message : Bytes)
  | onMessageFailed (messageId : MessageId)
  | onMessageInfo (messageId : MessageId) (state : Int) (answerMessageId : MessageId) (source : Int)
  | onDestroyAuthKey
  /-- The connection sends a message of its own. -/
  | nextMessageId

/-- Where a session is in its code. -/
inductive Point where
  /-- It waits for a message. -/
  | idle
  /-- The beginning of `loop`. -/
  | loop
  /-- A connection reads and writes; an error that a function returned ends it. -/
  | flushing (info : ConnectionId) (now : Rat) (failure : Option Status)
  /-- The long poll connection has read and written. -/
  | longPollOpen (now : Rat)
  /-- The condition of the loop for the main connection. -/
  | mainLoop (now : Rat) (needFlush : Bool)
  | sendQueries (now : Rat) (needFlush : Bool)
  | sendBindKey (now : Rat) (needFlush : Bool)
  | sendCheckMainKey (now : Rat) (needFlush : Bool)
  | mainFlush (now : Rat) (needFlush : Bool)
  | mainOpen (now : Rat)

/-- A session and where it is in its code. -/
structure System where
  session : Session
  point : Point

/-- What can happen to a session. -/
inductive Action where
  | send (query : NetQueryPtr)
  | close
  | hangup
  | rawEvent (messageId : MessageId)
  | onNetwork (networkFlag : Bool) (networkGeneration : Nat)
  | onResult (query : NetQueryPtr)
  | onHandshakeReady (handshakeId : HandshakeId) (result : Session.HandshakeResult)
  | connectionOpenFinish (info : ConnectionId) (result : Option RawConnection)
  | connectionAdd (rawConnection : RawConnection)
  /-- A timeout, new data, or a change of a flag that only leads to the loop. -/
  | loop
  /-- The session goes on in its code. -/
  | advance
  | callback (callback : Callback)
  /-- The connection has read and written. -/
  | flushed
  | closed (status : Option Status)

/-- An action with what it finds outside. -/
structure Event where
  environment : Environment
  action : Action

/-- The function that a connection calls, and the error it returns. -/
def Callback.run (environment : Environment) (session : Session) :
    Callback → Except Fault (Session × Option Status)
  | .onConnected => .ok (session, none)
  | .onPong pingTime currentTime => session.onPong environment pingTime currentTime
  | .onUpdate packet => .ok (session.onUpdate environment packet)
  | .onNewSessionCreated firstMessageId => do
      let session ← session.onNewSessionCreated environment firstMessageId
      return (session, none)
  | .onSessionFailed status => .ok (session.onSessionFailed status, none)
  | .onContainerSent messageId messageIds => do
      let session ← session.onContainerSent messageId messageIds
      return (session, none)
  | .onMessageAck messageId => .ok (session.onMessageAck messageId, none)
  | .onMessageResultOk messageId packet originalSize =>
    session.onMessageResultOk environment messageId packet originalSize
  | .onMessageResultError messageId code message => do
      let session ← session.onMessageResultError environment messageId code message
      return (session, none)
  | .onMessageFailed messageId => do
      let session ← session.onMessageFailed environment messageId
      return (session, none)
  | .onMessageInfo messageId state answerMessageId source => do
      let session ← session.onMessageInfo environment messageId state answerMessageId source
      return (session, none)
  | .onDestroyAuthKey => .ok session.onDestroyAuthKey
  | .nextMessageId =>
    .ok (session.setLastMessageId (session.authData.nextMessageId environment), none)

namespace Session

variable (environment : Environment)

/-- The part of `loop` before the connections are used. -/
def beginLoop (session : Session) : Except Fault Session := do
  let session :=
    session.applyIf (session.cachedConnectionTimestamp < environment.now - 10) dropCachedConnection
  let session :=
    session.applyIf
      (¬ session.isMain ∧ ¬ session.hasQueries ∧ ¬ session.needDestroyAuthKey ∧
        session.lastActivityTimestamp < environment.now - activityTimeout)
      (onSessionFailed none)
  let session := session.authLoop environment environment.now
  let session ← session.connectionCheckMode environment .main
  session.connectionCheckMode environment .longPoll

/-- A connection is opened unless there is one. -/
def openIfEmpty (info : ConnectionId) (now : Rat) (askInfo : Bool)
    (session : Session) : Except Fault Session :=
  if ¬ session.closeFlag ∧ (session.connections info).state = .empty then
    session.connectionOpen environment info now askInfo
  else
    .ok session

/-- A connection reads and writes. -/
def startFlush (info : ConnectionId) (now : Rat) (session : Session) : Except Fault System := do
  let session ← session.connectionFlush info
  return ⟨session, .flushing info now none⟩

/-- The beginning of the loop, up to the connections. -/
def stepLoop (session : Session) : Except Fault System :=
  if ¬ session.wasOnNetwork then
    .ok ⟨session, .idle⟩
  else do
    let session ← session.beginLoop environment
    if session.mode = .http then
      if (session.connections .longPoll).state = .ready then
        session.startFlush .longPoll environment.now
      else
        return ⟨session, .longPollOpen environment.now⟩
    else
      return ⟨session, .mainLoop environment.now true⟩

/-- One turn of the loop that sends the waiting queries. -/
def stepSendQueries (now : Rat) (needFlush : Bool) (session : Session) : Except Fault System :=
  if ¬ session.pendingQueries.isEmpty ∧
      session.sentQueries.size < maxInflightQueries then do
    let (query, pendingQueries) ← session.pendingQueries.pop
    let session ←
      (session.setPendingQueries pendingQueries).connectionSendQuery environment .main query 0
    return ⟨session, .sendQueries now true⟩
  else
    .ok ⟨session, .sendBindKey now needFlush⟩

/-- One step of the code of `loop`. -/
def advance (session : Session) : Point → Except Fault System
  | .loop => session.stepLoop environment
  | .longPollOpen now => do
      let session ← session.openIfEmpty environment .longPoll now false
      return ⟨session, .mainLoop now true⟩
  | .mainLoop now needFlush =>
    if (session.connections .main).state ≠ .ready then
      .ok ⟨session, .mainOpen now⟩
    else if ¬ session.authData.isReady environment now then
      .ok ⟨session, .mainFlush now needFlush⟩
    else if session.needSendQuery then
      .ok ⟨session, .sendQueries now needFlush⟩
    else
      .ok ⟨session, .sendBindKey now needFlush⟩
  | .sendQueries now needFlush => session.stepSendQueries environment now needFlush
  | .sendBindKey now needFlush =>
    if session.needSendBindKey then do
      let session ← session.connectionSendBindKey environment .main
      return ⟨session, .sendCheckMainKey now true⟩
    else
      .ok ⟨session, .sendCheckMainKey now needFlush⟩
  | .sendCheckMainKey now needFlush =>
    if session.needSendCheckMainKey then do
      let session ← session.connectionSendCheckMainKey environment .main
      return ⟨session, .mainFlush now true⟩
    else
      .ok ⟨session, .mainFlush now needFlush⟩
  | .mainFlush now needFlush =>
    if needFlush then
      session.startFlush .main now
    else
      .ok ⟨session, .mainOpen now⟩
  | .mainOpen now => do
      let session ← session.openIfEmpty environment .main now true
      return ⟨session, .idle⟩
  | point => .ok ⟨session, point⟩

/-- The message that a waiting session takes out of its mailbox. -/
def receiveMessage (session : Session) : Action → Except Fault System
  | .send query => do
      let (session, goesOn) ← session.send environment query
      return ⟨session, if goesOn then .loop else .idle⟩
  | .close => do
      let session ← session.close environment
      return ⟨session, .idle⟩
  | .hangup => do
      let session ← session.close environment
      return ⟨session, .idle⟩
  | .rawEvent messageId => do
      let (session, goesOn) ← session.rawEvent environment messageId
      return ⟨session, if goesOn then .loop else .idle⟩
  | .onNetwork networkFlag networkGeneration => do
      let session ← session.onNetwork environment networkFlag networkGeneration
      return ⟨session, .loop⟩
  | .onResult query => do
      let session ← session.onResult environment query
      return ⟨session, .idle⟩
  | .onHandshakeReady handshakeId result => do
      let session ← session.onHandshakeReady environment handshakeId result
      return ⟨session, .loop⟩
  | .connectionOpenFinish info result =>
    .ok ⟨session.connectionOpenFinish environment info result, .idle⟩
  | .connectionAdd rawConnection =>
    .ok ⟨session.connectionAdd environment rawConnection, .idle⟩
  | .loop => .ok ⟨session, .loop⟩
  | _ => .ok ⟨session, .idle⟩

end Session

namespace System

/-- Where a session goes on when a connection has read and written. -/
def afterFlush (now : Rat) : ConnectionId → Point
  | .longPoll => .longPollOpen now
  | .main => .mainLoop now false

/-- When an action can happen. -/
def Enabled (system : System) (event : Event) : Prop :=
  system.session.isStopped = false ∧
    match event.action, system.point with
    | .advance, .idle => False
    | .advance, .flushing _ _ _ => False
    | .advance, _ => True
    | .callback _, .flushing _ _ none => True
    | .callback _, _ => False
    | .flushed, .flushing _ _ none => True
    | .flushed, _ => False
    | .closed status, .flushing _ _ failure => status.isSome ∧ (failure = none ∨ status = failure)
    | .closed _, _ => False
    | .onHandshakeReady handshakeId _, .idle => system.session.handshakeFlags handshakeId
    | _, .idle => True
    | _, _ => False

instance (system : System) (event : Event) : Decidable (system.Enabled event) := by
  obtain ⟨session, point⟩ := system
  obtain ⟨environment, action⟩ := event
  cases point with
  | flushing info now failure =>
    cases failure <;> cases action <;> dsimp only [Enabled] <;> infer_instance
  | _ => cases action <;> dsimp only [Enabled] <;> infer_instance

/-- What happens then. -/
def perform (system : System) (event : Event) : Except Fault System :=
  match event.action, system.point with
  | .advance, point => system.session.advance event.environment point
  | .callback callback, .flushing info now _ => do
      let (session, failure) ← callback.run event.environment system.session
      return ⟨session, .flushing info now failure⟩
  | .flushed, .flushing info now _ =>
    .ok ⟨system.session, afterFlush now info⟩
  | .closed status, .flushing info now _ => do
      let session ← system.session.onClosed event.environment status
      return ⟨session, afterFlush now info⟩
  | action, _ => system.session.receiveMessage event.environment action

/-- The steps of the system. -/
def Step : System → Event → System → Prop :=
  Transition.Guarded Enabled (fun before event after => before.perform event = .ok after)

/-- A session that has just been made, and a run of it. -/
def Reaches (setup : Session.Setup) (events : List Event) (reached : System) : Prop :=
  ∃ session, Session.create setup = .ok session ∧
    Transition.Run Step ⟨session, .idle⟩ events reached

end System

end Autoproto.Net
