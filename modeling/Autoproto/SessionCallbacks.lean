import Autoproto.SessionState

namespace Autoproto.Net

open ByteEncoding Text

/-!
# What the connections of a session call

A connection tells its session what has come from the server, and that it has
been closed.  The functions of this module change the queries on the way from
being sent to being returned or sent again.
-/

namespace Session

def onSessionFailed (status : Option Status) (session : Session) : Session :=
  session.setCloseFlag.emit (.onFailed status)

def onAuthKeyUpdated (session : Session) : Session :=
  session.emit (.onAuthKeyUpdated session.authData.mainAuthKey)

def onTmpAuthKeyUpdated (session : Session) : Session :=
  session.emit (.onTmpAuthKeyUpdated session.authData.tmpAuthKey)

def dropMainAuthKey (session : Session) : Session :=
  (session.modifyAuthData AuthData.dropMainAuthKey).onAuthKeyUpdated

def dropTmpAuthKey (session : Session) : Session :=
  (session.modifyAuthData AuthData.dropTmpAuthKey).onTmpAuthKeyUpdated

/-! ## The connection has been closed -/

/-- The part of `on_closed` for a key that the server does not know. -/
def onKeyRefused (environment : Environment) (status : Status) (session : Session) : Session :=
  if session.authData.usePfs then
    session.dropTmpAuthKey
  else if session.isCdn then
    session.dropMainAuthKey.onSessionFailed (some status)
  else if session.needDestroyAuthKey then
    session.dropMainAuthKey
  else if ¬ session.usePfs then
    session.modifyAuthData (AuthData.setUsePfs true)
  else if session.needCheckMainKey then
    if ¬ session.isMain ∧ environment.mainDcId ≠ session.rawDcId then
      session.dropMainAuthKey.onSessionFailed (some status)
    else
      session.dropMainAuthKey.emit (.logOut (ascii "Main PFS authorization key is invalid"))
  else
    session

/-- A sent query is taken out, after it has been marked as known. -/
def takeSentQuery (messageId : MessageId) (query : Query) (session : Session) : Session :=
  (session.markAsKnown messageId query).eraseSentQuery messageId

/-- A query without acknowledgement is returned or becomes unknown. -/
def onQueryDisconnected (environment : Environment) (status : Option Status) (messageId : MessageId)
    (query : Query) (session : Session) : Except Fault Session :=
  let session := session.cleanupContainer messageId query
  match status with
  | some status =>
    if status.code = 500 then
      let netQuery :=
        (query.netQuery.setMessageId 0).setError ⟨500, ascii "Session failed: " ++ status.message⟩
      .ok ((session.takeSentQuery messageId query).returnQuery environment netQuery)
    else
      session.markAsUnknown messageId query
  | none => session.markAsUnknown messageId query

/-- One turn of the loop over the sent queries in `on_closed`. -/
def disconnectQuery (environment : Environment) (status : Option Status) (info : ConnectionId)
    (session : Session) (messageId : MessageId) : Except Fault Session :=
  match session.sentQueries.find? messageId with
  | none => .ok session
  | some query =>
    if ¬ query.isAcknowledged ∧ query.connectionId = info then
      session.onQueryDisconnected environment status messageId query
    else
      .ok session

/-- The effects of `on_closed` on the keys. -/
def onConnectionStatus (environment : Environment) (status : Option Status)
    (session : Session) : Session :=
  match status with
  | some status =>
    if status.code = -404 then
      session.onKeyRefused environment status
    else
      session
  | none => session

/-- A loop over the sent queries only erases the query it is at. -/
def onClosed (environment : Environment) (status : Option Status)
    (session : Session) : Except Fault Session := do
  let info ← session.getCurrentInfo
  let session := session.onConnectionStatus environment status
  let session ← session.sentQueries.keys.foldlM (disconnectQuery environment status info) session
  return session.setConnectionState info .empty

def connectionClose (environment : Environment) (info : ConnectionId)
    (session : Session) : Except Fault Session :=
  let session := session.setCurrentInfo info
  if (session.connections info).state ≠ .ready then
    .ok session
  else do
    let session ← session.onClosed environment none
    check ((session.connections info).state = .empty)
    return session

/-! ## Messages of the server about the connection -/

/-- One turn of the loop of `on_new_session_created`. -/
def resendIfBefore (environment : Environment) (firstMessageId : MessageId) (session : Session)
    (messageId : MessageId) : Except Fault Session :=
  match session.sentQueries.find? messageId with
  | none => .ok session
  | some query =>
    if query.containerMessageId < firstMessageId then
      ((session.cleanupContainer messageId query).takeSentQuery messageId
        query).resendQuery environment query.netQuery
    else
      .ok session

/-- The main key has been shown to be good. -/
def noteSuccess (environment : Environment) (session : Session) : Session :=
  session.applyIf (¬ session.usePfs ∧ ¬ session.authData.usePfs) (setLastSuccess environment)

def updatesTooLong : Bytes :=
  [0x7e, 0xaf, 0x17, 0xe3]

def onNewSessionCreated (environment : Environment) (firstMessageId : MessageId)
    (session : Session) : Except Fault Session :=
  let session := session.noteSuccess environment
  let session :=
    session.applyIf session.isMain (fun session => (session.setLastActivity environment).emit
        (.onUpdate updatesTooLong session.authData.getAuthKey.id))
  let firstMessageId :=
    match session.sentQueries.find? firstMessageId with
    | some query => query.containerMessageId
    | none => firstMessageId
  session.sentQueries.keys.foldlM (resendIfBefore environment firstMessageId) session

/-- The update of the sent queries that go into a container. -/
def setContainerMessageId (containerMessageId : MessageId) (session : Session)
    (messageId : MessageId) : Session :=
  session.modifySentQuery messageId
    (fun query => { query with containerMessageId := containerMessageId })

def onContainerSent (containerMessageId : MessageId) (messageIds : List MessageId)
    (session : Session) : Except Fault Session := do
  check (containerMessageId ≠ 0)
  let messageIds :=
    messageIds.filter (fun messageId => (session.sentQueries.find? messageId).isSome)
  let session :=
    messageIds.foldl (setContainerMessageId containerMessageId) session
  if messageIds.isEmpty ∨
      (session.sentContainers containerMessageId).isSome then
    return session
  else
    return session.setContainer containerMessageId (some ⟨messageIds.length, messageIds⟩)

/-- A query for which there is no answer after a pong counts as not received. -/
def forgetAcknowledgements (environment : Environment) (queryTimeout : Rat) :
    List MessageId → Session → Session
  | [], session => session
  | messageId :: newer, session =>
    match session.sentQueries.find? messageId with
    | none => session
    | some query =>
      if query.sentAt + queryTimeout ≤ environment.now then
        forgetAcknowledgements environment queryTimeout newer
          (session.modifySentQuery messageId (fun query => { query with isAcknowledged := false }))
      else
        session

/-- Whether the oldest of the sent queries has waited for too long. -/
def isOldestOverdue (environment : Environment) (queryTimeout : Rat) (session : Session) : Bool :=
  match session.sentQueryList.getLast?.bind
      (fun messageId => session.sentQueries.find? messageId) with
  | some query => decide (query.sentAt + queryTimeout ≤ environment.now)
  | none => false

/-- The error of `on_pong`, without the numbers in its text. -/
def onPong (environment : Environment) (pingTime currentTime : Rat)
    (session : Session) : Except Fault (Session × Option Status) := do
  let info ← session.getCurrentInfo
  if info = .main ∧
      (session.connections info).createdAt + 60 ≤ environment.now then
    let queryTimeout := 60 + (currentTime - pingTime)
    let status :=
      if session.unknownQueries ≠ ∅ then
        some ⟨0, ascii "No state info"⟩
      else if session.isOldestOverdue environment queryTimeout then
        some ⟨0, ascii "No answer"⟩
      else
        none
    return (forgetAcknowledgements environment queryTimeout
      session.sentQueryList.reverse session, status)
  else
    return (session, none)

def onUpdate (environment : Environment) (packet : Bytes)
    (session : Session) : Session × Option Status :=
  if session.isCdn then
    (session, some ⟨0, ascii "Receive an update from a CDN connection"⟩)
  else
    let session := session.noteSuccess environment
    ((session.setLastActivity environment).emit
      (.onUpdate packet session.authData.getAuthKey.id), none)

def onDestroyAuthKey (session : Session) : Session × Option Status :=
  (session.dropMainAuthKey, some ⟨0, ascii "Close because of on_destroy_auth_key"⟩)

/-! ## Acknowledgements -/

def onMessageAckImplInner (inContainer : Bool) (session : Session)
    (messageId : MessageId) : Session :=
  match session.sentQueries.find? messageId with
  | none => session
  | some query =>
    ((session.modifySentQuery messageId
      (fun query => { query with isAcknowledged := true })).applyIf
        (¬ inContainer) (cleanupContainer messageId query)).markAsKnown messageId query

def onMessageAckImpl (containerMessageId : MessageId) (session : Session) : Session :=
  match session.sentContainers containerMessageId with
  | some container =>
    container.messageIds.foldl (onMessageAckImplInner true)
      (session.setContainer containerMessageId none)
  | none => session.onMessageAckImplInner false containerMessageId

def onMessageAck (messageId : MessageId) (session : Session) : Session :=
  session.onMessageAckImpl messageId

/-! ## Answers -/

def authAuthorizationId : Nat := 0x2ea2c0d4

def authLoginTokenSuccessId : Nat := 0x390d5c5e

def authSentCodeSuccessId : Nat := 0x2390fe44

def authImportAuthorizationId : Nat := 0xa57a7dad

/-- The answer to a log in makes the data center the main one. -/
def stealAuthorization (packet : Bytes) (query : Query) (session : Session) : Session :=
  match Tl.fetchBinary 4 packet with
  | none => session
  | some (responseTlId, _) =>
    if responseTlId = authAuthorizationId ∨
        responseTlId = authLoginTokenSuccessId ∨
        responseTlId = authSentCodeSuccessId then
      let session :=
        session.applyIf
          (query.netQuery.tlConstructor ≠ authImportAuthorizationId)
          (emit (.setMainDcId session.rawDcId))
      (session.modifyAuthData (AuthData.setAuthFlag true)).onAuthKeyUpdated
    else
      session

def setDroppedSize (droppedSize : Nat) (session : Session) : Session :=
  { session with droppedSize := droppedSize }

/-- The result for a message that no query was sent with. -/
def onResultDropped (originalSize : Nat) (session : Session) : Session × Option Status :=
  if 16 * 1024 < originalSize then
    let droppedSize := session.droppedSize + originalSize
    if 256 * 1024 < droppedSize then
      (session.setDroppedSize 0, some ⟨2, ascii "Too many dropped packets"⟩)
    else
      (session.setDroppedSize droppedSize, none)
  else
    (session, none)

def onMessageResultOk (environment : Environment) (messageId : MessageId) (packet : Bytes)
    (originalSize : Nat) (session : Session) : Except Fault (Session × Option Status) :=
  let session := session.setLastSuccess environment
  match session.sentQueries.find? messageId with
  | none => .ok (session.onResultDropped originalSize)
  | some query => do
      let session :=
        (session.stealAuthorization packet query).cleanupContainer messageId query
      let netQuery ← query.netQuery.setOk packet
      return ((session.takeSentQuery messageId query).returnQuery environment
        (netQuery.setMessageId 0), none)

/-- What an error says about the keys, and its code. -/
def onUnauthorized (environment : Environment) (message : Bytes)
    (session : Session) : Session × Int :=
  if session.authData.usePfs ∧ message = ascii "AUTH_KEY_PERM_EMPTY" then
    (session.dropTmpAuthKey, 500)
  else
    let dropsTmpKey := session.authData.usePfs && !session.isMain
    let session := session.applyIf dropsTmpKey dropTmpAuthKey
    if session.isCdn ∨
        (¬ session.isMain ∧ environment.mainDcId ≠ session.rawDcId) then
      (session.dropMainAuthKey, 500)
    else
      let session :=
        (session.modifyAuthData (AuthData.setAuthFlag false)).emit (.logOut message)
      (session.onAuthKeyUpdated.onSessionFailed none,
        if dropsTmpKey then 500 else 401)

/-- The text of an error, which has to be valid. -/
def errorMessage (environment : Environment) (message : Bytes) : Bytes :=
  if environment.checkUtf8 message then message
  else ascii "INVALID_UTF8_ERROR_MESSAGE"

def errorCode (code : Int) : Int :=
  if code ≤ -10000 ∨ 10000 ≤ code ∨ code = 0 then 500 else code

/-- The part of `on_message_result_error` before the query is looked for. -/
def onErrorReceived (environment : Environment) (errorCode : Int) (message : Bytes)
    (session : Session) : Session × Int :=
  if errorCode = 401 ∧ message ≠ ascii "SESSION_PASSWORD_NEEDED" then
    session.onUnauthorized environment message
  else if errorCode = 400 ∧
      (message = ascii "CONNECTION_NOT_INITED" ∨ message = ascii "CONNECTION_LAYER_INVALID") then
    (session, 500)
  else
    (session, errorCode)

def returnError (environment : Environment) (messageId : MessageId) (status : Status)
    (session : Session) : Except Fault Session :=
  match session.sentQueries.find? messageId with
  | none => do
      let info ← session.getCurrentInfo
      return session.emit (.forceAck info)
  | some query =>
    let session := session.cleanupContainer messageId query
    .ok ((session.takeSentQuery messageId query).returnQuery environment
      ((query.netQuery.setError status).setMessageId 0))

def onMessageResultError (environment : Environment) (messageId : MessageId) (code : Int)
    (message : Bytes) (session : Session) : Except Fault Session :=
  let message := errorMessage environment message
  let received := session.onErrorReceived environment (errorCode code) message
  if messageId = 0 then
    .ok received.1
  else
    received.1.returnError environment messageId ⟨received.2, message⟩

/-! ## Queries that the server has not received, or has -/

def onMessageFailedInner (environment : Environment) (inContainer : Bool) (session : Session)
    (messageId : MessageId) : Except Fault Session :=
  match session.sentQueries.find? messageId with
  | none => .ok session
  | some query =>
    ((session.applyIf (¬ inContainer) (cleanupContainer messageId query)).takeSentQuery messageId
        query).resendQuery environment query.netQuery

def onMessageFailed (environment : Environment) (messageId : MessageId)
    (session : Session) : Except Fault Session :=
  match session.sentContainers messageId with
  | some container =>
    container.messageIds.foldlM (onMessageFailedInner environment true)
      (session.setContainer messageId none)
  | none => session.onMessageFailedInner environment false messageId

/-- The server is asked to send an answer again. -/
def resendAnswer (answerMessageId : MessageId) (session : Session) : Except Fault Session :=
  if answerMessageId ≠ 0 then do
    let info ← session.getCurrentInfo
    return session.emit (.resendAnswer info answerMessageId)
  else
    .ok session

/-- What the lower bits of the state of a message say about it. -/
def onMessageState (environment : Environment) (messageId : MessageId) (state : Int)
    (answerMessageId : MessageId) (source : Int) (session : Session) : Except Fault Session :=
  if state = 1 ∨ state = 2 ∨ state = 3 ∨
      (state = 0 ∧ answerMessageId = 0) then
    session.onMessageFailed environment messageId
  else if state = 0 ∨ state = 4 then do
    check (0 ≤ source ∧ source ≤ 3)
    (session.onMessageAckImpl messageId).resendAnswer answerMessageId
  else
    session.resendAnswer answerMessageId

/-- A canceled query is returned instead of being asked about. -/
def returnCanceled (environment : Environment) (messageId : MessageId) (query : Query)
    (netQuery : NetQueryPtr) (session : Session) : Except Fault Session := do
  let session ← session.decContainer messageId query
  return (session.takeSentQuery messageId query).returnQuery environment (netQuery.setMessageId 0)

def onMessageInfo (environment : Environment) (messageId : MessageId) (state : Int)
    (answerMessageId : MessageId) (source : Int) (session : Session) : Except Fault Session :=
  match session.sentQueries.find? messageId with
  | some query =>
    let netQuery := query.netQuery.updateIsReady environment
    if netQuery.isReady then
      session.returnCanceled environment messageId query netQuery
    else if messageId ≠ 0 then
      session.onMessageState environment messageId (state % 8) answerMessageId source
    else
      session.resendAnswer answerMessageId
  | none =>
    if messageId ≠ 0 then
      .ok session
    else
      session.resendAnswer answerMessageId

end Session

end Autoproto.Net
