import Autoproto.SessionDelivery

namespace Autoproto.Net

/-!
# The steps of a session, as moves of what has been sent

A step of a session settles what has been sent, or it sends one query under a new message
identifier, or it only takes such an identifier.
-/

namespace Session

/-- Some queries are in a container from now on. -/
def Delivery.setContainerMessageIds (containerMessageId : MessageId) (messageIds : List MessageId)
    (delivery : Delivery) : Delivery :=
  messageIds.foldl
    (fun delivery messageId => delivery.modify messageId
        (fun query => { query with containerMessageId := containerMessageId }))
    delivery

def Delivery.stillSent (messageIds : List MessageId) (delivery : Delivery) : List MessageId :=
  messageIds.filter (fun messageId => (delivery.sentQueries.find? messageId).isSome)

/-- The function `on_container_sent`: the queries that are still sent are put into the container. -/
def Delivery.pack (containerMessageId : MessageId) (messageIds : List MessageId)
    (delivery : Delivery) : Delivery :=
  let packed :=
    delivery.setContainerMessageIds containerMessageId (delivery.stillSent messageIds)
  if (delivery.stillSent messageIds).isEmpty ∨
      (packed.sentContainers containerMessageId).isSome then
    packed
  else
    packed.setContainer containerMessageId
      (some ⟨(delivery.stillSent messageIds).length, delivery.stillSent messageIds⟩)

namespace Delivery

theorem setContainerMessageIds_spec (containerMessageId : MessageId) (messageIds : List MessageId)
    (delivery : Delivery) : (∀ messageId, (delivery.setContainerMessageIds containerMessageId
            messageIds).sentQueries.find? messageId =
          if messageId ∈ messageIds then
            (delivery.sentQueries.find? messageId).map
              (fun query => { query with containerMessageId := containerMessageId })
          else
            delivery.sentQueries.find? messageId) ∧
      (delivery.setContainerMessageIds containerMessageId
          messageIds).sentContainers = delivery.sentContainers ∧
      (delivery.setContainerMessageIds containerMessageId
          messageIds).lastMessageId = delivery.lastMessageId ∧
      (delivery.setContainerMessageIds containerMessageId
          messageIds).tmpAuthKey = delivery.tmpAuthKey := by
  induction messageIds generalizing delivery with
  | nil =>
    refine ⟨?_, rfl, rfl, rfl⟩
    intro messageId
    rfl
  | cons first rest ih =>
    obtain ⟨queries, others⟩ := ih (delivery.modify first
        (fun query => { query with containerMessageId := containerMessageId }))
    refine ⟨?_, others⟩
    intro messageId
    refine (queries messageId).trans ?_
    rw [find?_modify]
    by_cases isFirst : messageId = first
    · rw [if_pos isFirst, isFirst, if_pos List.mem_cons_self]
      split
      · rw [Option.map_map]
        rfl
      · rfl
    · simp only [if_neg isFirst, List.mem_cons, or_iff_right isFirst]

variable {containerMessageId : MessageId} {messageIds : List MessageId} {delivery : Delivery}

theorem find?_pack (messageId : MessageId) :
    (delivery.pack containerMessageId messageIds).sentQueries.find? messageId =
      if messageId ∈ messageIds then
        (delivery.sentQueries.find? messageId).map
          (fun query => { query with containerMessageId := containerMessageId })
      else
        delivery.sentQueries.find? messageId := by
  have found := (delivery.setContainerMessageIds_spec containerMessageId
      (delivery.stillSent messageIds)).1 messageId
  have listed : (delivery.pack containerMessageId messageIds).sentQueries =
        (delivery.setContainerMessageIds containerMessageId
          (delivery.stillSent messageIds)).sentQueries := by
    rw [pack]
    split <;> rfl
  rw [listed, found]
  simp only [stillSent, List.mem_filter]
  cases isSent : delivery.sentQueries.find? messageId with
  | none | some => simp

theorem sentContainers_pack : (delivery.pack containerMessageId messageIds).sentContainers =
      if delivery.stillSent messageIds = [] ∨
          (delivery.sentContainers containerMessageId).isSome then
        delivery.sentContainers
      else
        Function.update delivery.sentContainers containerMessageId
          (some ⟨(delivery.stillSent messageIds).length, delivery.stillSent messageIds⟩) := by
  have same :=
    (delivery.setContainerMessageIds_spec containerMessageId (delivery.stillSent messageIds)).2.1
  simp only [pack, same, List.isEmpty_iff]
  split
  · exact same
  · rw [setContainer, same]

theorem lastMessageId_pack :
    (delivery.pack containerMessageId messageIds).lastMessageId = delivery.lastMessageId := by
  have same :=
    (delivery.setContainerMessageIds_spec containerMessageId (delivery.stillSent messageIds)).2.2.1
  rw [pack]
  split <;> exact same

theorem tmpAuthKey_pack :
    (delivery.pack containerMessageId messageIds).tmpAuthKey = delivery.tmpAuthKey := by
  have same :=
    (delivery.setContainerMessageIds_spec containerMessageId (delivery.stillSent messageIds)).2.2.2
  rw [pack]
  split <;> exact same

end Delivery

/-- A query is sent under the last identifier, in no container. -/
def Sends (isBindKey : Bool) (before after : Delivery) : Prop :=
  ∃ messageId query, query.containerMessageId = messageId ∧
      query.netQuery.isBindKey = isBindKey ∧
      before.sentQueries.find? messageId = none ∧
      after = before.send messageId query

section Functions

variable {session after : Session} {environment : Environment} {info : ConnectionId}

/-! ## Sending -/

variable {messageId : MessageId}

theorem delivery_emplaceSentQuery {query : Query}
    (last : session.authData.lastMessageId = messageId) :
    (session.emplaceSentQuery messageId query).delivery =
      session.delivery.send messageId query := by
  subst last
  rfl

variable {query : NetQueryPtr}

theorem connectionSendQuery_eq_ok
    (sent : session.connectionSendQuery environment info query messageId = .ok after) :
    ∃ ready : NetQueryPtr, ready.tickets = query.tickets ∧ ready.isBindKey = query.isBindKey ∧
      (after = (session.setCurrentInfo info).returnQuery environment ready ∨
        session.unknownQueries ≠ ∅ ∧
          after = (session.setCurrentInfo info).addPendingInvokeAfter ready ∨
        ∃ before used, (before = (session.setCurrentInfo info).setLastMessageId used ∨
            before = session.setCurrentInfo info ∧ used = messageId ∧ messageId ≠ 0) ∧
          session.sentQueries.find? used = none ∧
          after = before.emplaceSentQuery used (sentQuery environment used ready)) := by
  obtain ⟨_, _, sent⟩ := bind_eq_ok sent
  have tickets := tickets_updateIsReady environment query
  have sameType : (query.updateIsReady environment).isBindKey = query.isBindKey := by
    rw [NetQueryPtr.updateIsReady]
    split <;> rfl
  dsimp only at sent
  split at sent
  · cases sent
    exact ⟨_, tickets, sameType, Or.inl rfl⟩
  · split at sent
    · cases sent
      exact ⟨(query.updateIsReady environment).setErrorResendInvokeAfter, tickets, sameType,
        Or.inl rfl⟩
    · refine ⟨_, tickets, sameType, Or.inr ?_⟩
      split at sent
      case isTrue parks =>
        cases sent
        exact Or.inl ⟨parks.2, rfl⟩
      case isFalse =>
        rw [connectionSend] at sent
        split at sent
        · obtain ⟨_, absent, sent⟩ := bind_eq_ok sent
          cases sent
          exact Or.inr ⟨_, _, Or.inl rfl, holds_of_check absent, rfl⟩
        case isFalse notZero =>
          obtain ⟨_, absent, sent⟩ := bind_eq_ok sent
          cases sent
          exact Or.inr ⟨_, _, Or.inr ⟨rfl, rfl, notZero⟩, holds_of_check absent, rfl⟩

theorem sends_of_connectionSendQuery
    (numbered : messageId = 0 ∨ messageId = session.authData.lastMessageId)
    (sent : session.connectionSendQuery environment info query messageId = .ok after) :
    after.delivery = session.delivery ∨ Sends query.isBindKey session.delivery after.delivery := by
  obtain ⟨ready, _, sameType, rfl | ⟨_, rfl⟩ | ⟨before, used, isBefore, absent, rfl⟩⟩ :=
    connectionSendQuery_eq_ok sent
  · exact Or.inl rfl
  · exact Or.inl rfl
  · refine Or.inr ⟨used, sentQuery environment used ready, rfl, sameType, absent, ?_⟩
    rcases isBefore with rfl | ⟨rfl, rfl, notZero⟩
    · rfl
    · exact delivery_emplaceSentQuery (numbered.resolve_left notZero).symm

theorem sends_of_connectionSendCheckMainKey
    (sent : session.connectionSendCheckMainKey environment info = .ok after) :
    after.delivery = session.delivery ∨ Sends true session.delivery after.delivery := by
  obtain ⟨_, isBindKey⟩ := makeBindKeyQuery_spec environment.uniqueIdCounter
  simp only [connectionSendCheckMainKey] at sent
  split at sent
  · cases sent
    exact Or.inl rfl
  · obtain ⟨_, _, sent⟩ := bind_eq_ok sent
    have sends := sends_of_connectionSendQuery (Or.inl rfl) sent
    rw [isBindKey] at sends
    exact sends

theorem sends_of_connectionSendBindKey
    (sent : session.connectionSendBindKey environment info = .ok after) :
    (∃ messageId, after.delivery = session.delivery.setLastMessageId messageId) ∨
      Sends true session.delivery after.delivery := by
  obtain ⟨_, isBindKey⟩ := makeBindKeyQuery_spec environment.uniqueIdCounter
  obtain ⟨_, _, sent⟩ := bind_eq_ok sent
  dsimp only at sent
  split at sent
  · cases sent
    exact Or.inl ⟨session.authData.lastMessageId, rfl⟩
  · have sends := sends_of_connectionSendQuery (Or.inr rfl) sent
    rw [isBindKey] at sends
    exact sends.imp (fun same => ⟨_, same⟩) fun sends => sends

/-! ## Connections and keys -/

variable {askInfo : Bool}

theorem keeps_connectionOpen {now : Rat}
    (opened : session.connectionOpen environment info now askInfo = .ok after) :
    Keeps session after := by
  obtain ⟨_, _, opened⟩ := bind_eq_ok opened
  dsimp only at opened
  repeat' split at opened
  all_goals
    cases opened
    exact .of_eq rfl rfl

theorem keeps_connectionOpenFinish (result : Option RawConnection) :
    Keeps session (session.connectionOpenFinish environment info result) := by
  have ready (session : Session) : Keeps session (session.connectionReady environment info) := by
    have emitted :
        Keeps session (session.applyIf session.needDestroyAuthKey (emit (.destroyKey info))) :=
      .applyIf fun _ => .of_eq rfl rfl
    simp only [connectionReady]
    -- an opaque session keeps the comparisons below short
    generalize session.applyIf session.needDestroyAuthKey (emit (.destroyKey info)) = opened
      at emitted ⊢
    repeat' split
    all_goals exact emitted.trans (.of_eq rfl rfl)
  have used (session : Session) (rawConnection : RawConnection) :
      Keeps session (session.connectionUse environment info rawConnection) := by
    simp only [connectionUse]
    generalize (if rawConnection.isHttp = true then Mode.http else Mode.tcp) = mode
    split
    · split
      · exact .of_eq rfl rfl
      · exact (ready _).of_later rfl rfl
    · exact (ready _).of_later rfl rfl
  unfold connectionOpenFinish
  split
  · exact .of_eq rfl rfl
  · dsimp only
    split
    · exact .of_eq rfl rfl
    · split
      · exact .of_eq rfl rfl
      · exact (used _ _).of_later rfl rfl

theorem keeps_connectionCheckMode
    (checked : session.connectionCheckMode environment info = .ok after) : Keeps session after := by
  rw [connectionCheckMode] at checked
  split at checked
  · cases checked
    exact .refl _
  · split at checked
    · exact keeps_connectionClose checked
    · cases checked
      exact .of_eq rfl rfl

theorem keeps_authLoop (now : Rat) : Keeps session (session.authLoop environment now) := by
  have created (handshakeId : HandshakeId) (session : Session) :
      Keeps session (session.createGenAuthKeyActor handshakeId) := by
    rw [createGenAuthKeyActor]
    split <;> exact .of_eq rfl rfl
  rw [authLoop]
  split
  · exact .refl _
  · exact Keeps.trans (.applyIf (created _)) (.applyIf (created _))

/-- The key that a handshake brings, if it brings a temporary one. -/
def HandshakeResult.tmpAuthKey (handshakeId : HandshakeId)
    (result : HandshakeResult) : Option AuthKey :=
  match handshakeId, result with
  | .tmpAuthKey, .ready authKey => some authKey
  | _, _ => none

theorem keeps_onHandshakeReady {handshakeId : HandshakeId} {result : HandshakeResult}
    (handled : session.onHandshakeReady environment handshakeId result = .ok after) :
    ∃ withKey : Session, withKey.toQueries = session.toQueries ∧
        withKey.delivery = session.delivery.setTmpAuthKey
            ((result.tmpAuthKey handshakeId).getD session.authData.tmpAuthKey) ∧
        Keeps withKey after := by
  cases result with
  | ready authKey =>
    obtain ⟨withKey, set, closed⟩ := bind_eq_ok handled
    refine ⟨withKey, ?_, ?_, keeps_closeConnections closed⟩ <;> cases handshakeId with
      | mainAuthKey =>
        cases set
        rfl
      | tmpAuthKey =>
        obtain ⟨_, isSet, set⟩ := bind_eq_ok set
        obtain ⟨_, _, isSet⟩ := bind_eq_ok isSet
        cases isSet
        cases set
        rfl
  | _ =>
    cases handled
    cases handshakeId <;> exact ⟨session, rfl, rfl, .of_eq rfl rfl⟩

/-- Whether a result is that of the last bind query, and says that the key has been bound. -/
def isBound (environment : Environment) (query : NetQueryPtr) (session : Session) : Bool :=
  decide (session.lastBindQueryId = query.id) && (bindStatus environment query).isNone

theorem keeps_onResult (received : session.onResult environment query = .ok after) :
    if session.isBound environment query then
      after.toQueries = session.toQueries ∧ after.delivery = session.delivery.bindTmpAuthKey
    else
      Keeps session after := by
  obtain ⟨_, _, received⟩ := bind_eq_ok received
  rw [isBound]
  split at received
  case isTrue isLast =>
    have invalid (session : Session) :
        (session.onEncryptedMessageInvalid environment).toQueries = session.toQueries ∧
          (session.onEncryptedMessageInvalid environment).delivery = session.delivery := by
      rw [onEncryptedMessageInvalid]
      repeat' split
      all_goals exact ⟨rfl, rfl⟩
    obtain ⟨noted, isNoted⟩ : ∃ noted, (session.setBeingBinded 0 0).applyIf
            (query.state = .error ⟨400, Text.ascii "ENCRYPTED_MESSAGE_INVALID"⟩)
            (onEncryptedMessageInvalid environment) = noted :=
      ⟨_, rfl⟩
    have sameQueries : noted.toQueries = session.toQueries := by
      rw [← isNoted]
      exact toQueries_applyIf fun session => (invalid session).1
    have sameDelivery : noted.delivery = session.delivery := by
      rw [← isNoted]
      exact delivery_applyIf fun session => (invalid session).2
    simp only [onBindResult, isNoted] at received
    split at received
    case h_1 bound =>
      obtain ⟨_, isBound, received⟩ := bind_eq_ok received
      obtain ⟨_, _, isBound⟩ := bind_eq_ok isBound
      cases isBound
      cases received
      rw [if_pos (by rw [bound, decide_eq_true isLast]; rfl)]
      exact ⟨sameQueries, congrArg Delivery.bindTmpAuthKey sameDelivery⟩
    case h_2 status notBound =>
      have kept : Keeps session noted := .of_eq sameQueries sameDelivery
      rw [if_neg (by rw [notBound]; simp)]
      split at received
      · cases received
        exact kept
      · exact kept.trans (keeps_closeConnections received)
  case isFalse notLast =>
    rw [if_neg (by simp [notLast])]
    split at received
    · have noted : Keeps session (session.setBeingChecked 0 0) := .of_eq rfl rfl
      simp only [onCheckKeyResult] at received
      split at received
      · exact noted.trans (keeps_closeConnections received)
      · cases received
        exact .of_eq rfl rfl
    · cases received
      exact .refl _

/-! ## Messages -/

variable {result : Session × Bool}

theorem delivery_of_send (sent : session.send environment query = .ok result) :
    result.1.delivery = session.delivery := by
  simp only [send] at sent
  split at sent
  · cases sent
    rfl
  · obtain ⟨added, isAdded, sent⟩ := bind_eq_ok sent
    obtain ⟨_, _, isAdded⟩ := bind_eq_ok isAdded
    cases isAdded
    cases sent
    rfl

theorem keeps_rawEvent (received : session.rawEvent environment messageId = .ok result) :
    Keeps session result.1 := by
  rw [rawEvent] at received
  split at received
  case h_1 =>
    cases received
    exact .refl _
  case h_2 query found =>
    obtain ⟨returned, isReturned, received⟩ := bind_eq_ok received
    have kept := keeps_returnCanceled found rfl isReturned
    split at received <;> cases received <;> exact kept.trans (.of_eq rfl rfl)

theorem keeps_onNetwork {networkFlag : Bool} {networkGeneration : Nat}
    (received : session.onNetwork environment networkFlag networkGeneration = .ok after) :
    Keeps session after := by
  have noted : Keeps session (session.setNetwork networkFlag networkGeneration) := .of_eq rfl rfl
  rw [onNetwork] at received
  split at received
  · exact noted.trans (keeps_closeConnections received)
  · cases received
    exact noted

theorem delivery_foldl_returnQuery (queries : List NetQueryPtr) : (queries.foldl
        (fun session query => session.returnQuery environment query.setErrorResend)
        session).delivery =
      session.delivery := by
  induction queries generalizing session with
  | nil => rfl
  | cons query rest ih =>
    rw [List.foldl_cons, ih]
    rfl

theorem settles_close (closed : session.close environment = .ok after) :
    Settles session.delivery after.delivery := by
  obtain ⟨unconnected, closedConnections, closed⟩ := bind_eq_ok closed
  obtain ⟨_, _, closed⟩ := bind_eq_ok closed
  cases closed
  have isClosed : Settles session.setCloseFlag.delivery unconnected.delivery :=
    (keeps_closeConnections closedConnections).settles
  have cleared : Settles unconnected.delivery
      unconnected.pushSentQueries.flushPendingInvokeAfterQueries.delivery :=
    Settles.single (.clear _)
  refine (isClosed.trans cleared).trans (Settles.of_eq ?_)
  exact delivery_foldl_returnQuery _

/-! ## The loop -/

theorem keeps_beginLoop (begun : session.beginLoop environment = .ok after) :
    Keeps session after := by
  obtain ⟨checked, mainChecked, longPollChecked⟩ := bind_eq_ok begun
  refine Keeps.trans ?_
    ((keeps_connectionCheckMode mainChecked).trans (keeps_connectionCheckMode longPollChecked))
  refine Keeps.trans (Keeps.trans ?_ (.applyIf fun _ => ?_)) (keeps_authLoop ..)
  · exact .applyIf fun _ => .of_eq rfl rfl
  · exact .of_eq rfl rfl

theorem keeps_openIfEmpty {now : Rat}
    (opened : session.openIfEmpty environment info now askInfo = .ok after) :
    Keeps session after := by
  rw [openIfEmpty] at opened
  split at opened
  · exact keeps_connectionOpen opened
  · cases opened
    exact .refl _

variable {now : Rat} {needFlush : Bool} {system : System}

theorem keeps_startFlush (started : session.startFlush info now = .ok system) :
    Keeps session system.session := by
  obtain ⟨flushing, isFlushing, started⟩ := bind_eq_ok started
  obtain ⟨_, _, isFlushing⟩ := bind_eq_ok isFlushing
  cases started
  cases isFlushing
  exact .of_eq rfl rfl

theorem keeps_stepLoop (stepped : session.stepLoop environment = .ok system) :
    Keeps session system.session := by
  rw [stepLoop] at stepped
  split at stepped
  · cases stepped
    exact .refl _
  · obtain ⟨begun, isBegun, stepped⟩ := bind_eq_ok stepped
    have kept := keeps_beginLoop isBegun
    split at stepped
    · split at stepped
      · exact kept.trans (keeps_startFlush stepped)
      · cases stepped
        exact kept
    · cases stepped
      exact kept

theorem sends_of_stepSendQueries
    (stepped : session.stepSendQueries environment now needFlush = .ok system) :
    system.session.delivery = session.delivery ∨
      (∃ isBindKey, Sends isBindKey session.delivery system.session.delivery) ∧
        session.sentQueries.size < maxInflightQueries := by
  rw [stepSendQueries] at stepped
  split at stepped
  case isTrue room =>
    obtain ⟨⟨query, rest⟩, _, stepped⟩ := bind_eq_ok stepped
    obtain ⟨sent, isSent, stepped⟩ := bind_eq_ok stepped
    cases stepped
    exact (sends_of_connectionSendQuery (Or.inl rfl) isSent).imp id
      (fun sends => ⟨⟨_, sends⟩, room.2⟩)
  case isFalse =>
    cases stepped
    exact Or.inl rfl

/-! ## Functions that a connection calls -/

theorem delivery_foldl_setContainerMessageId (containerMessageId : MessageId)
    (messageIds : List MessageId) (session : Session) :
    (messageIds.foldl (setContainerMessageId containerMessageId) session).delivery =
      session.delivery.setContainerMessageIds containerMessageId messageIds := by
  induction messageIds generalizing session with
  | nil => rfl
  | cons first rest ih =>
    rw [List.foldl_cons, ih]
    rfl

theorem delivery_of_onContainerSent {containerMessageId : MessageId} {messageIds : List MessageId}
    (sent : session.onContainerSent containerMessageId messageIds = .ok after) :
    after.delivery = session.delivery.pack containerMessageId messageIds := by
  obtain ⟨_, _, sent⟩ := bind_eq_ok sent
  have stored := delivery_foldl_setContainerMessageId containerMessageId
      (messageIds.filter fun messageId => (session.sentQueries.find? messageId).isSome) session
  have sameContainer :=
    congrArg (fun delivery => (Delivery.sentContainers delivery containerMessageId).isSome) stored
  dsimp only at sent
  split at sent
  case isTrue nothing =>
    cases sent
    exact stored.trans (if_pos (nothing.imp id sameContainer.symm.trans)).symm
  case isFalse something =>
    cases sent
    refine Eq.trans ?_ (if_neg fun nothing => something (nothing.imp id sameContainer.trans)).symm
    exact congrArg (Delivery.setContainer containerMessageId (some ⟨_, _⟩)) stored

end Functions

end Session

/-- Whether a function only settles what was sent. -/
def Callback.settles : Callback → Bool
  | .onContainerSent _ _ => false
  | .nextMessageId => false
  | _ => true

open Net.Session

theorem Callback.keeps_run {callback : Callback} {environment : Environment} {session : Session}
    {result : Session × Option Status} (only : callback.settles = true)
    (called : callback.run environment session = .ok result) : Keeps session result.1 := by
  cases callback with
  | onConnected =>
    cases called
    exact .refl _
  | onPong pingTime currentTime => exact keeps_onPong called
  | onUpdate packet =>
    cases called
    rw [Session.onUpdate]
    split
    · exact .refl _
    · have noted : Keeps session (session.noteSuccess environment) :=
        .applyIf fun _ => .of_eq rfl rfl
      exact noted.trans (.of_eq rfl rfl)
  | onNewSessionCreated firstMessageId =>
    obtain ⟨created, isCreated, called⟩ := bind_eq_ok called
    cases called
    exact keeps_onNewSessionCreated isCreated
  | onSessionFailed | onDestroyAuthKey =>
    cases called
    exact .of_eq rfl rfl
  | onContainerSent | nextMessageId => cases only
  | onMessageAck messageId =>
    cases called
    exact keeps_onMessageAckImpl
  | onMessageResultOk messageId packet originalSize => exact keeps_onMessageResultOk called
  | onMessageResultError messageId code message =>
    obtain ⟨received, isReceived, called⟩ := bind_eq_ok called
    cases called
    exact keeps_onMessageResultError isReceived
  | onMessageFailed messageId =>
    obtain ⟨failed, isFailed, called⟩ := bind_eq_ok called
    cases called
    exact keeps_onMessageFailed isFailed
  | onMessageInfo messageId state answerMessageId source =>
    obtain ⟨received, isReceived, called⟩ := bind_eq_ok called
    cases called
    exact keeps_onMessageInfo isReceived

/-- The queries that an action gives to a session. -/
def Action.given : Action → List Nat
  | .send query => [query.id]
  | _ => []

def Action.closes : Action → Bool
  | .close => true
  | .hangup => true
  | _ => false

namespace System

inductive Move (before : System) (event : Event) (after : Delivery) : Prop where
  | settles : Settles before.session.delivery after → Move before event after
  | issues (messageId : MessageId) :
      after = before.session.delivery.setLastMessageId messageId →
      Move before event after
  /-- Only the queries of the session itself are sent at other points. -/
  | sends (isBindKey : Bool) :
      Sends isBindKey before.session.delivery after →
      (isBindKey = true ∨ (∃ now needFlush, before.point = .sendQueries now needFlush) ∧
        before.session.sentQueries.size < maxInflightQueries) →
      Move before event after
  | packs (containerMessageId : MessageId) (messageIds : List MessageId) :
      event.action = .callback (.onContainerSent containerMessageId messageIds) →
      after = before.session.delivery.pack containerMessageId messageIds →
      Move before event after
  | installs (authKey : AuthKey) :
      event.action = .onHandshakeReady .tmpAuthKey (.ready authKey) →
      Settles (before.session.delivery.setTmpAuthKey authKey) after →
      Move before event after
  | binds (query : NetQueryPtr) :
      event.action = .onResult query →
      before.session.isBound event.environment query = true →
      after = before.session.delivery.bindTmpAuthKey →
      Move before event after

/-- Which function does the work of a step that does more than to keep what is there. -/
inductive Effect (before : System) (event : Event) (after : System) : Prop where
  | keeps : Keeps before.session after.session → Effect before event after
  | stepSendQueries (now : Rat) (needFlush : Bool) :
      before.point = .sendQueries now needFlush →
      before.session.stepSendQueries event.environment now needFlush = .ok after →
      Effect before event after
  | connectionSendBindKey (info : ConnectionId) :
      before.session.connectionSendBindKey event.environment info = .ok after.session →
      Effect before event after
  | connectionSendCheckMainKey (info : ConnectionId) :
      before.session.connectionSendCheckMainKey event.environment info = .ok after.session →
      Effect before event after
  | nextMessageId (messageId : MessageId) :
      after.session.toQueries = before.session.toQueries →
      after.session.delivery = before.session.delivery.setLastMessageId messageId →
      Effect before event after
  | onContainerSent (containerMessageId : MessageId) (messageIds : List MessageId) :
      event.action = .callback (.onContainerSent containerMessageId messageIds) →
      before.session.onContainerSent containerMessageId messageIds = .ok after.session →
      Effect before event after
  | onHandshakeReady (handshakeId : HandshakeId) (result : HandshakeResult) :
      event.action = .onHandshakeReady handshakeId result →
      before.session.onHandshakeReady event.environment handshakeId result = .ok after.session →
      Effect before event after
  | onResult (query : NetQueryPtr) :
      event.action = .onResult query →
      before.session.onResult event.environment query = .ok after.session →
      Effect before event after

/-- A query is given, the session is closed, or an effect. -/
def Does (before : System) (event : Event) (after : System) : Prop :=
  (∃ query goesOn, event.action = .send query ∧
        before.session.send event.environment query = .ok (after.session, goesOn)) ∨
    (event.action.closes = true ∧ event.action.given = [] ∧
      before.session.close event.environment = .ok after.session) ∨
    (event.action.closes = false ∧ event.action.given = [] ∧ Effect before event after)

variable {before after : System} {event : Event}

theorem effect_of_advance
    (advanced : before.session.advance event.environment before.point = .ok after) :
    Effect before event after := by
  obtain ⟨session, point⟩ := before
  cases point with
  | idle | flushing =>
    cases advanced
    exact .keeps (.refl _)
  | loop => exact .keeps (keeps_stepLoop advanced)
  | longPollOpen | mainOpen =>
    obtain ⟨opened, isOpened, advanced⟩ := bind_eq_ok advanced
    cases advanced
    exact .keeps (keeps_openIfEmpty isOpened)
  | mainLoop now needFlush =>
    rw [Session.advance] at advanced
    repeat' split at advanced
    all_goals
      cases advanced
      exact .keeps (.refl _)
  | sendQueries now needFlush => exact .stepSendQueries now needFlush rfl advanced
  | sendBindKey now needFlush =>
    rw [Session.advance] at advanced
    split at advanced
    · obtain ⟨sent, isSent, advanced⟩ := bind_eq_ok advanced
      cases advanced
      exact .connectionSendBindKey _ isSent
    · cases advanced
      exact .keeps (.refl _)
  | sendCheckMainKey now needFlush =>
    rw [Session.advance] at advanced
    split at advanced
    · obtain ⟨sent, isSent, advanced⟩ := bind_eq_ok advanced
      cases advanced
      exact .connectionSendCheckMainKey _ isSent
    · cases advanced
      exact .keeps (.refl _)
  | mainFlush now needFlush =>
    rw [Session.advance] at advanced
    split at advanced
    · exact .keeps (keeps_startFlush advanced)
    · cases advanced
      exact .keeps (.refl _)

theorem does_of_receiveMessage
    (received : before.session.receiveMessage event.environment event.action = .ok after) :
    Does before event after := by
  obtain ⟨environment, action⟩ := event
  cases action with
  | send query =>
    obtain ⟨⟨sent, goesOn⟩, isSent, received⟩ := bind_eq_ok received
    cases received
    exact .inl ⟨query, goesOn, rfl, isSent⟩
  | close | hangup =>
    obtain ⟨closed, isClosed, received⟩ := bind_eq_ok received
    cases received
    exact .inr (.inl ⟨rfl, rfl, isClosed⟩)
  | rawEvent messageId =>
    obtain ⟨⟨returned, goesOn⟩, isReturned, received⟩ := bind_eq_ok received
    cases received
    exact .inr (.inr ⟨rfl, rfl, .keeps (keeps_rawEvent isReturned)⟩)
  | onNetwork networkFlag networkGeneration =>
    obtain ⟨noted, isNoted, received⟩ := bind_eq_ok received
    cases received
    exact .inr (.inr ⟨rfl, rfl, .keeps (keeps_onNetwork isNoted)⟩)
  | onResult query =>
    obtain ⟨noted, isNoted, received⟩ := bind_eq_ok received
    cases received
    exact .inr (.inr ⟨rfl, rfl, .onResult query rfl isNoted⟩)
  | onHandshakeReady handshakeId result =>
    obtain ⟨noted, isNoted, received⟩ := bind_eq_ok received
    cases received
    exact .inr (.inr ⟨rfl, rfl, .onHandshakeReady handshakeId result rfl isNoted⟩)
  | connectionOpenFinish info result =>
    cases received
    exact .inr (.inr ⟨rfl, rfl, .keeps (keeps_connectionOpenFinish ..)⟩)
  | _ =>
    cases received
    exact .inr (.inr ⟨rfl, rfl, .keeps (.of_eq rfl rfl)⟩)

theorem does_of_step (step : Step before event after) : Does before event after := by
  obtain ⟨_, performed⟩ := step
  rw [perform] at performed
  split at performed
  case h_1 isAdvance =>
    exact .inr (.inr ⟨by rw [isAdvance]; rfl, by rw [isAdvance]; rfl, effect_of_advance performed⟩)
  case h_2 callback _ _ _ isCallback _ =>
    obtain ⟨⟨called, failure⟩, isCalled, performed⟩ := bind_eq_ok performed
    cases performed
    refine .inr (.inr ⟨by rw [isCallback]; rfl, by rw [isCallback]; rfl, ?_⟩)
    cases only : callback.settles with
    | true => exact .keeps (callback.keeps_run only isCalled)
    | false =>
      cases callback with
      | onContainerSent containerMessageId messageIds =>
        obtain ⟨sent, isSent, isCalled⟩ := bind_eq_ok isCalled
        cases isCalled
        exact .onContainerSent containerMessageId messageIds isCallback isSent
      | nextMessageId =>
        cases isCalled
        exact .nextMessageId _ rfl rfl
      | _ => cases only
  case h_3 isFlushed _ =>
    cases performed
    exact .inr (.inr ⟨by rw [isFlushed]; rfl, by rw [isFlushed]; rfl, .keeps (.refl _)⟩)
  case h_4 isClosed _ =>
    obtain ⟨closed, onceClosed, performed⟩ := bind_eq_ok performed
    cases performed
    exact .inr (.inr ⟨by rw [isClosed]; rfl, by rw [isClosed]; rfl,
      .keeps (keeps_onClosed onceClosed)⟩)
  case h_5 => exact does_of_receiveMessage performed

theorem Effect.move (effect : Effect before event after) :
    Move before event after.session.delivery := by
  cases effect with
  | keeps keeps => exact .settles keeps.settles
  | stepSendQueries now needFlush atPoint stepped =>
    rcases sends_of_stepSendQueries stepped with same | ⟨⟨isBindKey, sends⟩, room⟩
    · exact .settles (.of_eq same)
    · exact .sends isBindKey sends (Or.inr ⟨⟨now, needFlush, atPoint⟩, room⟩)
  | connectionSendBindKey info sent =>
    rcases sends_of_connectionSendBindKey sent with ⟨messageId, issued⟩ | sends
    · exact .issues messageId issued
    · exact .sends true sends (Or.inl rfl)
  | connectionSendCheckMainKey info sent =>
    rcases sends_of_connectionSendCheckMainKey sent with same | sends
    · exact .settles (.of_eq same)
    · exact .sends true sends (Or.inl rfl)
  | nextMessageId messageId _ issued => exact .issues messageId issued
  | onContainerSent containerMessageId messageIds isCallback sent =>
    exact .packs containerMessageId messageIds isCallback (delivery_of_onContainerSent sent)
  | onHandshakeReady handshakeId result isReady handled =>
    obtain ⟨withKey, _, installed, keeps⟩ := keeps_onHandshakeReady handled
    have settled := keeps.settles
    rw [installed] at settled
    cases handshakeId with
    | mainAuthKey => exact .settles settled
    | tmpAuthKey =>
      cases result with
      | ready authKey => exact .installs authKey isReady settled
      | _ => exact .settles settled
  | onResult query isResult received =>
    have kept := keeps_onResult received
    split at kept
    case isTrue bound => exact .binds query isResult bound kept.2
    case isFalse => exact .settles kept.settles

theorem move_of_step (step : Step before event after) :
    Move before event after.session.delivery := by
  rcases does_of_step step with ⟨_, _, _, sent⟩ | ⟨_, _, closed⟩ | ⟨_, _, effect⟩
  · exact .settles (.of_eq (delivery_of_send sent))
  · exact .settles (settles_close closed)
  · exact effect.move

theorem found_or_sends_of_step (step : Step before event after) :
    (∀ messageId query, after.session.sentQueries.find? messageId = some query →
        ∃ earlier, before.session.sentQueries.find? messageId = some earlier) ∨
      ∃ messageId query, before.session.sentQueries.find? messageId = none ∧
        after.session.sentQueries = before.session.sentQueries.emplace messageId query ∧
        (query.netQuery.isBindKey = true ∨
          (∃ now needFlush, before.point = .sendQueries now needFlush) ∧
            before.session.sentQueries.size < maxInflightQueries) := by
  have changes {delivery : Delivery} (same : after.session.delivery = delivery)
      {messageId : MessageId} {query : Query}
      (found : after.session.sentQueries.find? messageId = some query) :
      delivery.sentQueries.find? messageId = some query := by
    rw [← same]
    exact found
  cases move_of_step step with
  | settles settles | installs _ _ settles =>
    refine Or.inl fun _ _ found => ?_
    obtain ⟨earlier, isEarlier, _⟩ := settles.find? found
    exact ⟨earlier, isEarlier⟩
  | issues _ same | binds _ _ _ same =>
    exact Or.inl fun _ query found => ⟨query, changes same found⟩
  | packs containerMessageId messageIds _ same =>
    refine Or.inl fun _ query found => ?_
    have found := changes same found
    rw [Delivery.find?_pack] at found
    split at found
    · obtain ⟨earlier, isEarlier, _⟩ := Option.map_eq_some_iff.mp found
      exact ⟨earlier, isEarlier⟩
    · exact ⟨query, found⟩
  | sends isBindKey sends place =>
    obtain ⟨messageId, query, _, rfl, unused, isSent⟩ := sends
    exact Or.inr ⟨messageId, query, unused, congrArg Delivery.sentQueries isSent, place⟩

end System

end Autoproto.Net
