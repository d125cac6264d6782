import Autoproto.SessionOwnership
import Mathlib.Logic.Relation

namespace Autoproto.Net

open ByteEncoding

/-!
# What a session knows about what it has sent

The functions of a session that neither send a query nor put queries into a
container only mark a query, forget a container, or take a query out of what it
was sent in.
-/

namespace Session

structure Delivery where
  sentQueries : OrderedMap MessageId Query
  sentContainers : MessageId → Option ContainerInfo
  lastMessageId : MessageId
  tmpAuthKey : AuthKey

def delivery (session : Session) : Delivery where
  sentQueries := session.sentQueries
  sentContainers := session.sentContainers
  lastMessageId := session.authData.lastMessageId
  tmpAuthKey := session.authData.tmpAuthKey

namespace Delivery

/-- A sent query is no longer there. -/
def erase (messageId : MessageId) (delivery : Delivery) : Delivery :=
  { delivery with sentQueries := delivery.sentQueries.erase messageId }

variable (messageId : MessageId)

/-- A container is forgotten or known in another way. -/
def setContainer (container : Option ContainerInfo) (delivery : Delivery) : Delivery :=
  { delivery with
    sentContainers := Function.update delivery.sentContainers messageId container }

/-- Something about a sent query changes. -/
def modify (change : Query → Query) (delivery : Delivery) : Delivery :=
  { delivery with
    sentQueries := delivery.sentQueries.modify messageId change }

def setTmpAuthKey (authKey : AuthKey) (delivery : Delivery) : Delivery :=
  { delivery with tmpAuthKey := authKey }

/-- The temporary key counts as bound. -/
def bindTmpAuthKey (delivery : Delivery) : Delivery :=
  delivery.setTmpAuthKey { delivery.tmpAuthKey with authFlag := true }

def setLastMessageId (delivery : Delivery) : Delivery :=
  { delivery with lastMessageId := messageId }

/-- Some sent queries are no longer there. -/
def eraseAll (messageIds : List MessageId) (delivery : Delivery) : Delivery :=
  messageIds.foldl (fun delivery messageId => delivery.erase messageId) delivery

/-- A query is sent under the newest message identifier. -/
def send (query : Query) (delivery : Delivery) : Delivery :=
  { delivery with
    sentQueries := delivery.sentQueries.emplace messageId query
    lastMessageId := messageId }

@[simp] theorem find?_erase (taken messageId : MessageId) (delivery : Delivery) :
    (delivery.erase taken).sentQueries.find? messageId =
      if messageId = taken then none
      else delivery.sentQueries.find? messageId :=
  OrderedMap.find?_erase taken messageId delivery.sentQueries

@[simp] theorem find?_modify (changed messageId : MessageId) (change : Query → Query)
    (delivery : Delivery) : (delivery.modify changed change).sentQueries.find? messageId =
      if messageId = changed then
        (delivery.sentQueries.find? messageId).map change
      else
        delivery.sentQueries.find? messageId :=
  OrderedMap.find?_modify changed messageId change delivery.sentQueries

@[simp] theorem sentQueries_setContainer (container : Option ContainerInfo) (delivery : Delivery) :
    (delivery.setContainer messageId container).sentQueries = delivery.sentQueries :=
  rfl

@[simp] theorem sentContainers_setContainer (messageId other : MessageId)
    (container : Option ContainerInfo) (delivery : Delivery) :
    (delivery.setContainer messageId container).sentContainers other =
      if other = messageId then container
      else delivery.sentContainers other :=
  Function.update_apply ..

theorem erase_eq_self {messageId : MessageId} {delivery : Delivery}
    (absent : delivery.sentQueries.find? messageId = none) :
    delivery.erase messageId = delivery := by
  rw [erase, OrderedMap.erase_eq_self absent]

theorem erase_modify (change : Query → Query) (delivery : Delivery) :
    (delivery.modify messageId change).erase messageId = delivery.erase messageId := by
  rw [erase, modify, OrderedMap.erase_modify]
  rfl

theorem eraseAll_spec (messageIds : List MessageId) (delivery : Delivery) :
    (∀ messageId, (delivery.eraseAll messageIds).sentQueries.find? messageId =
          if messageId ∈ messageIds then none
          else delivery.sentQueries.find? messageId) ∧
      (delivery.eraseAll messageIds).sentContainers = delivery.sentContainers ∧
      (delivery.eraseAll messageIds).lastMessageId = delivery.lastMessageId ∧
      (delivery.eraseAll messageIds).tmpAuthKey = delivery.tmpAuthKey := by
  induction messageIds generalizing delivery with
  | nil =>
    refine ⟨?_, rfl, rfl, rfl⟩
    intro messageId
    rfl
  | cons first rest ih =>
    obtain ⟨queries, others⟩ := ih (delivery.erase first)
    refine ⟨?_, others⟩
    intro messageId
    refine (queries messageId).trans ?_
    rw [find?_erase]
    by_cases isFirst : messageId = first
    · rw [if_pos isFirst, isFirst, if_pos List.mem_cons_self]
      split <;> rfl
    · simp only [if_neg isFirst, List.mem_cons, or_iff_right isFirst]

end Delivery

/-- A container after one of its queries has been taken out. -/
def ContainerInfo.release (container : ContainerInfo) : Option ContainerInfo :=
  if container.refCnt - 1 = 0 then none
  else some { container with refCnt := container.refCnt - 1 }

/-- The changes that functions make which do not send. -/
inductive Settlement : Delivery → Delivery → Prop where
  | mark (delivery : Delivery) (messageId : MessageId) (change : Query → Query)
      (sameContainer : ∀ query, (change query).containerMessageId = query.containerMessageId) :
      Settlement delivery (delivery.modify messageId change)
  | forget (delivery : Delivery) (containerMessageId : MessageId) :
      Settlement delivery (delivery.setContainer containerMessageId none)
  /-- The query was sent alone, or its container has been forgotten. -/
  | take (delivery : Delivery) (messageId : MessageId) (query : Query)
      (found : delivery.sentQueries.find? messageId = some query)
      (free : query.containerMessageId = messageId ∨
          delivery.sentContainers query.containerMessageId = none) :
      Settlement delivery (delivery.erase messageId)
  /-- The query is taken out of its container. -/
  | release (delivery : Delivery) (messageId : MessageId) (query : Query)
      (container : ContainerInfo) (found : delivery.sentQueries.find? messageId = some query)
      (inside : query.containerMessageId ≠ messageId)
      (known : delivery.sentContainers query.containerMessageId = some container)
      (positive : 0 < container.refCnt) :
      Settlement delivery
        ((delivery.erase messageId).setContainer query.containerMessageId container.release)
  /-- The queries that a container lists are taken out, and the container is forgotten. -/
  | fail (delivery : Delivery) (containerMessageId : MessageId) (container : ContainerInfo)
      (known : delivery.sentContainers containerMessageId = some container) :
      Settlement delivery
        ((delivery.setContainer containerMessageId none).eraseAll container.messageIds)
  | dropTmpAuthKey (delivery : Delivery) : Settlement delivery (delivery.setTmpAuthKey {})
  | clear (delivery : Delivery) :
      Settlement delivery { delivery with sentQueries := .empty, sentContainers := fun _ => none }

/-- Any number of such changes. -/
def Settles : Delivery → Delivery → Prop :=
  Relation.ReflTransGen Settlement

namespace Settles

variable {first second third : Delivery}

theorem refl (delivery : Delivery) : Settles delivery delivery :=
  Relation.ReflTransGen.refl

theorem single (settlement : Settlement first second) : Settles first second :=
  Relation.ReflTransGen.single settlement

theorem trans (before : Settles first second) (after : Settles second third) :
    Settles first third :=
  Relation.ReflTransGen.trans before after

theorem of_eq (same : second = first) : Settles first second := by
  rw [same]
  exact refl first

section

variable (settles : Settles first second)
include settles

theorem find? {messageId : MessageId} {query : Query}
    (found : second.sentQueries.find? messageId = some query) : ∃ earlier,
      first.sentQueries.find? messageId = some earlier ∧
        query.containerMessageId = earlier.containerMessageId := by
  induction settles generalizing query with
  | refl => exact ⟨query, found, rfl⟩
  | tail _ settlement ih =>
    cases settlement with
    | mark changed change sameContainer =>
      rw [Delivery.find?_modify] at found
      split at found
      · obtain ⟨earlier, known, rfl⟩ := Option.map_eq_some_iff.mp found
        rw [sameContainer]
        exact ih known
      · exact ih found
    | forget | dropTmpAuthKey => exact ih found
    | take taken =>
      rw [Delivery.find?_erase] at found
      split at found
      · cases found
      · exact ih found
    | release taken =>
      rw [Delivery.sentQueries_setContainer, Delivery.find?_erase] at found
      split at found
      · cases found
      · exact ih found
    | fail containerMessageId container known =>
      rw [(Delivery.eraseAll_spec ..).1] at found
      split at found
      · cases found
      · exact ih found
    | clear => cases found

theorem sentContainers {containerMessageId : MessageId} {container : ContainerInfo}
    (known : second.sentContainers containerMessageId = some container) : ∃ earlier,
      first.sentContainers containerMessageId = some earlier ∧
        container.messageIds = earlier.messageIds := by
  induction settles generalizing container with
  | refl => exact ⟨container, known, rfl⟩
  | tail _ settlement ih =>
    cases settlement with
    | mark | take | dropTmpAuthKey => exact ih known
    | forget forgotten =>
      rw [Delivery.sentContainers_setContainer] at known
      split at known
      · cases known
      · exact ih known
    | release taken query released found inside isKnown =>
      rw [Delivery.sentContainers_setContainer] at known
      split at known
      case isTrue same =>
        subst same
        obtain ⟨earlier, earlierKnown, sameIds⟩ := ih isKnown
        rw [ContainerInfo.release] at known
        split at known
        · cases known
        · cases known
          exact ⟨earlier, earlierKnown, sameIds⟩
      case isFalse => exact ih known
    | fail failed container isKnown =>
      rw [(Delivery.eraseAll_spec ..).2.1, Delivery.sentContainers_setContainer] at known
      split at known
      · cases known
      · exact ih known
    | clear => cases known

theorem tmpAuthKey : second.tmpAuthKey = first.tmpAuthKey ∨ second.tmpAuthKey = {} := by
  induction settles with
  | refl => exact Or.inl rfl
  | tail _ settlement ih =>
    cases settlement with
    | mark | forget | take | release | clear => exact ih
    | fail containerMessageId container known =>
      rw [(Delivery.eraseAll_spec ..).2.2.2]
      exact ih
    | dropTmpAuthKey => exact Or.inr rfl

end

end Settles

/-- What a function does that neither is given a query nor sends one. -/
structure Keeps (session after : Session) : Prop where
  holds : ∀ given inHand, Holds given inHand session.toQueries → Holds given inHand after.toQueries
  settles : Settles session.delivery after.delivery

section Functions

variable {session after : Session} {environment : Environment} {messageId : MessageId}
  {query : Query}

namespace Keeps

theorem of_eq (queries : after.toQueries = session.toQueries)
    (delivery : after.delivery = session.delivery) : Keeps session after where
  holds _ _ holds := holds.frame queries
  settles := .of_eq delivery

theorem refl (session : Session) : Keeps session session :=
  .of_eq rfl rfl

variable {middle : Session}

theorem trans (before : Keeps session middle) (later : Keeps middle after) :
    Keeps session after where
  holds given inHand holds := later.holds given inHand (before.holds given inHand holds)
  settles := before.settles.trans later.settles

/-- Something else is done before. -/
theorem of_later (later : Keeps middle after) (queries : middle.toQueries = session.toQueries)
    (delivery : middle.delivery = session.delivery) : Keeps session after :=
  (of_eq queries delivery).trans later

theorem applyIf {condition : Prop} [Decidable condition] {change : Session → Session}
    (keeps : ∀ session : Session, Keeps session (change session)) :
    Keeps session (session.applyIf condition change) := by
  rw [Session.applyIf]
  split
  · exact keeps session
  · exact refl session

theorem foldlM {turn : Session → MessageId → Except Fault Session} {messageIds : List MessageId}
    (keeps : ∀ (before : Session) messageId (after : Session),
        turn before messageId = .ok after → Keeps before after)
    (looped : messageIds.foldlM turn session = .ok after) : Keeps session after :=
  foldlM_invariant
    (fun before messageId after kept turned => kept.trans (keeps before messageId after turned))
    (refl session) looped

end Keeps

theorem delivery_applyIf {condition : Prop} [Decidable condition] {change : Session → Session}
    (same : ∀ session, (change session).delivery = session.delivery) :
    (session.applyIf condition change).delivery = session.delivery := by
  rw [applyIf]
  split
  · exact same session
  · rfl

@[simp] theorem delivery_emit (output : Output) :
    (session.emit output).delivery = session.delivery :=
  rfl

@[simp] theorem delivery_onSessionFailed (status : Option Status) :
    (session.onSessionFailed status).delivery = session.delivery :=
  rfl

@[simp] theorem delivery_dropMainAuthKey : session.dropMainAuthKey.delivery = session.delivery :=
  rfl

@[simp] theorem delivery_setUsePfs (usePfs : Bool) :
    (session.modifyAuthData (AuthData.setUsePfs usePfs)).delivery = session.delivery :=
  rfl

@[simp] theorem delivery_onAuthKeyUpdated : session.onAuthKeyUpdated.delivery = session.delivery :=
  rfl

@[simp] theorem delivery_setAuthFlag :
    (session.modifyAuthData (AuthData.setAuthFlag false)).delivery =
      session.delivery.setTmpAuthKey {} :=
  rfl

/-! ## Queries -/

theorem keeps_modifySentQuery {change : Query → Query}
    (sameQuery : ∀ query, (change query).netQuery = query.netQuery)
    (sameUnknown : ∀ query, (change query).isUnknown = query.isUnknown)
    (sameContainer : ∀ query, (change query).containerMessageId = query.containerMessageId) :
    Keeps session (session.modifySentQuery messageId change) where
  holds _ _ holds := holds.modify sameQuery sameUnknown
  settles := .single (.mark _ messageId change sameContainer)

theorem delivery_markAsKnown (messageId : MessageId) (query : Query) (session : Session) :
    (session.markAsKnown messageId query).delivery =
      if ¬ query.isUnknown then
        session.delivery
      else
        session.delivery.modify messageId (fun query => { query with isUnknown := false }) := by
  rw [markAsKnown]
  split
  · rfl
  · exact delivery_applyIf fun _ => rfl

theorem keeps_markAsKnown {stored : Query}
    (found : session.sentQueries.find? messageId = some stored)
    (sameUnknown : stored.isUnknown = query.isUnknown) :
    Keeps session (session.markAsKnown messageId query) where
  holds _ _ holds := (holds.markAsKnown found sameUnknown).1
  settles := by
    rw [delivery_markAsKnown]
    split
    · exact .refl _
    · exact .single (.mark _ _ _ fun _ => rfl)

theorem keeps_markAsUnknown (found : session.sentQueries.find? messageId = some query)
    (marked : session.markAsUnknown messageId query = .ok after) : Keeps session after where
  holds _ _ holds := holds.markAsUnknown found marked
  settles := by
    rw [markAsUnknown] at marked
    split at marked
    · cases marked
      exact .refl _
    · obtain ⟨_, _, marked⟩ := bind_eq_ok marked
      cases marked
      exact .single (.mark _ messageId (fun query => { query with isUnknown := true }) fun _ => rfl)

theorem delivery_takeSentQuery (messageId : MessageId) (query : Query) (session : Session) :
    (session.takeSentQuery messageId query).delivery = session.delivery.erase messageId := by
  change (session.markAsKnown messageId query).delivery.erase messageId = _
  rw [delivery_markAsKnown]
  split
  · rfl
  · exact Delivery.erase_modify ..

theorem keeps_cleanupContainer (messageId : MessageId) (query : Query) (session : Session) :
    Keeps session (session.cleanupContainer messageId query) where
  holds _ _ holds := holds.frame (toQueries_cleanupContainer ..)
  settles := by
    rw [cleanupContainer]
    split
    · exact .refl _
    · exact .single (.forget _ query.containerMessageId)

theorem settles_dropSentQuery (found : session.sentQueries.find? messageId = some query) :
    Settles session.delivery
      ((session.cleanupContainer messageId query).takeSentQuery messageId query).delivery := by
  have cleaned := (keeps_cleanupContainer messageId query session).settles
  rw [delivery_takeSentQuery]
  refine cleaned.trans (.single (.take _ messageId query ?_ ?_))
  · change (session.cleanupContainer messageId query).sentQueries.find? _ = _
    rw [toQueries_cleanupContainer]
    exact found
  · rw [cleanupContainer]
    split
    case isTrue alone => exact Or.inl alone
    case isFalse => exact Or.inr (Function.update_self ..)

theorem keeps_returnSentQuery {returned : NetQueryPtr}
    (found : session.sentQueries.find? messageId = some query)
    (sameTickets : returned.tickets = query.netQuery.tickets) : Keeps session
      (((session.cleanupContainer messageId query).takeSentQuery messageId query).returnQuery
        environment returned) where
  holds _ _ holds :=
    (holds.takeSentQueryOf found (toQueries_cleanupContainer ..)).returnQuery sameTickets
  settles := settles_dropSentQuery found

variable {netQuery : NetQueryPtr}

theorem delivery_of_resendQuery (resent : session.resendQuery environment netQuery = .ok after) :
    after.delivery = session.delivery := by
  simp only [resendQuery] at resent
  split at resent
  · cases resent
    rfl
  · obtain ⟨_, _, resent⟩ := bind_eq_ok resent
    cases resent
    rfl

theorem keeps_resendSentQuery (found : session.sentQueries.find? messageId = some query)
    (resent : ((session.cleanupContainer messageId query).takeSentQuery messageId query).resendQuery
        environment query.netQuery = .ok after) : Keeps session after where
  holds _ _ holds :=
    (holds.takeSentQueryOf found (toQueries_cleanupContainer ..)).resendQuery resent
  settles := (settles_dropSentQuery found).trans (.of_eq (delivery_of_resendQuery resent))

theorem keeps_returnCanceled (found : session.sentQueries.find? messageId = some query)
    (sameTickets : netQuery.tickets = query.netQuery.tickets)
    (returned : session.returnCanceled environment messageId query netQuery = .ok after) :
    Keeps session after := by
  obtain ⟨decreased, isDecreased, returned⟩ := bind_eq_ok returned
  cases returned
  have same := toQueries_of_decContainer isDecreased
  refine ⟨fun _ _ holds => (holds.takeSentQueryOf found same).returnQuery sameTickets, ?_⟩
  change Settles _ (decreased.takeSentQuery messageId query).delivery
  rw [delivery_takeSentQuery]
  rw [decContainer] at isDecreased
  split at isDecreased
  case isTrue alone =>
    cases isDecreased
    exact .single (.take _ messageId query found (Or.inl alone))
  case isFalse inside =>
    split at isDecreased
    case h_1 forgotten =>
      cases isDecreased
      exact .single (.take _ messageId query found (Or.inr forgotten))
    case h_2 container known =>
      obtain ⟨_, positive, isDecreased⟩ := bind_eq_ok isDecreased
      cases isDecreased
      exact .single
        (.release _ messageId query container found inside known (holds_of_check positive))

/-! ## Keys -/

theorem keeps_dropTmpAuthKey (session : Session) : Keeps session session.dropTmpAuthKey where
  holds _ _ holds := holds
  settles := .single (.dropTmpAuthKey _)

theorem keeps_onConnectionStatus (status : Option Status) :
    Keeps session (session.onConnectionStatus environment status) := by
  have refused (status : Status) : Keeps session (session.onKeyRefused environment status) := by
    rw [onKeyRefused]
    split
    · exact keeps_dropTmpAuthKey session
    · repeat' split
      all_goals exact .of_eq (by simp) (by simp)
  unfold onConnectionStatus
  split
  · split
    · exact refused _
    · exact .of_eq rfl rfl
  · exact .of_eq rfl rfl

theorem delivery_stealAuthorization (packet : Bytes) :
    (session.stealAuthorization packet query).delivery = session.delivery := by
  rw [stealAuthorization]
  split
  · rfl
  · split
    · have emitted : (session.applyIf (query.netQuery.tlConstructor ≠ authImportAuthorizationId)
            (emit (.setMainDcId session.rawDcId))).delivery = session.delivery :=
        delivery_applyIf fun _ => rfl
      exact emitted
    · rfl

theorem keeps_logOut (output : Output) (session : Session) : Keeps session
      (((session.modifyAuthData (AuthData.setAuthFlag false)).emit
        output).onAuthKeyUpdated.onSessionFailed none) where
  holds _ _ holds := holds.frame (by simp)
  settles := by
    simp only [delivery_onSessionFailed, delivery_onAuthKeyUpdated, delivery_emit,
      delivery_setAuthFlag]
    exact .single (.dropTmpAuthKey session.delivery)

theorem keeps_onErrorReceived (environment : Environment) (errorCode : Int) (message : Bytes)
    (session : Session) :
    Keeps session (session.onErrorReceived environment errorCode message).1 := by
  have unauthorized : Keeps session (session.onUnauthorized environment message).1 := by
    unfold onUnauthorized
    split
    · exact keeps_dropTmpAuthKey session
    · dsimp only
      split
      · exact (Keeps.applyIf keeps_dropTmpAuthKey).trans
          (.of_eq (toQueries_dropMainAuthKey) (delivery_dropMainAuthKey))
      · exact (Keeps.applyIf keeps_dropTmpAuthKey).trans (keeps_logOut _ _)
  rw [onErrorReceived]
  split
  · exact unauthorized
  · split <;> exact .refl _

/-! ## Functions that a connection calls -/

variable {status : Option Status} {info : ConnectionId}

theorem keeps_disconnectQuery
    (disconnected : session.disconnectQuery environment status info messageId = .ok after) :
    Keeps session after := by
  rw [disconnectQuery] at disconnected
  split at disconnected
  case h_1 =>
    cases disconnected
    exact .refl _
  case h_2 query found =>
    have becomesUnknown (marked :
          (session.cleanupContainer messageId query).markAsUnknown messageId query = .ok after) :
        Keeps session after := by
      refine (keeps_cleanupContainer messageId query session).trans (keeps_markAsUnknown ?_ marked)
      rw [toQueries_cleanupContainer]
      exact found
    split at disconnected
    · simp only [onQueryDisconnected] at disconnected
      split at disconnected
      · split at disconnected
        · cases disconnected
          exact keeps_returnSentQuery found (by simp)
        · exact becomesUnknown disconnected
      · exact becomesUnknown disconnected
    · cases disconnected
      exact .refl _

theorem keeps_onClosed (closed : session.onClosed environment status = .ok after) :
    Keeps session after := by
  obtain ⟨info, _, closed⟩ := bind_eq_ok closed
  obtain ⟨looped, loop, closed⟩ := bind_eq_ok closed
  cases closed
  have disconnected := Keeps.foldlM (fun _ _ _ => keeps_disconnectQuery) loop
  exact ((keeps_onConnectionStatus status).trans disconnected).trans
    (.of_eq rfl rfl)

theorem keeps_connectionClose (closed : session.connectionClose environment info = .ok after) :
    Keeps session after := by
  have current : Keeps session (session.setCurrentInfo info) := .of_eq rfl rfl
  simp only [connectionClose] at closed
  split at closed
  · cases closed
    exact current
  · obtain ⟨onceClosed, isClosed, closed⟩ := bind_eq_ok closed
    obtain ⟨_, _, closed⟩ := bind_eq_ok closed
    cases closed
    exact (current.trans (keeps_onClosed isClosed)).trans (.of_eq rfl rfl)

theorem keeps_closeConnections (closed : session.closeConnections environment = .ok after) :
    Keeps session after := by
  obtain ⟨mainClosed, closedMain, closedLongPoll⟩ := bind_eq_ok closed
  exact (keeps_connectionClose closedMain).trans (keeps_connectionClose closedLongPoll)

variable {firstMessageId : MessageId}

theorem keeps_resendIfBefore
    (resent : session.resendIfBefore environment firstMessageId messageId = .ok after) :
    Keeps session after := by
  rw [resendIfBefore] at resent
  split at resent
  case h_1 =>
    cases resent
    exact .refl _
  case h_2 query found =>
    split at resent
    · exact keeps_resendSentQuery found resent
    · cases resent
      exact .refl _

theorem keeps_onNewSessionCreated
    (created : session.onNewSessionCreated environment firstMessageId = .ok after) :
    Keeps session after := by
  refine Keeps.trans ?_ (Keeps.foldlM (fun _ _ _ => keeps_resendIfBefore) created)
  have noted : Keeps session (session.noteSuccess environment) := .applyIf fun _ => .of_eq rfl rfl
  exact noted.trans (.applyIf fun _ => .of_eq rfl rfl)

variable {messageIds : List MessageId}

theorem keeps_forgetAcknowledgements {queryTimeout : Rat} :
    Keeps session (forgetAcknowledgements environment queryTimeout messageIds session) := by
  induction messageIds generalizing session with
  | nil => exact .refl _
  | cons oldest newer ih =>
    rw [forgetAcknowledgements]
    split
    · exact .refl _
    · split
      · refine Keeps.trans (keeps_modifySentQuery ?_ ?_ ?_) ih
        all_goals exact fun _ => rfl
      · exact .refl _

variable {result : Session × Option Status}

theorem keeps_onPong {pingTime currentTime : Rat}
    (answered : session.onPong environment pingTime currentTime = .ok result) :
    Keeps session result.1 := by
  obtain ⟨_, _, answered⟩ := bind_eq_ok answered
  split at answered <;> cases answered
  · exact keeps_forgetAcknowledgements
  · exact .of_eq rfl rfl

theorem keeps_onMessageAckImplInner (inContainer : Bool) :
    Keeps session (session.onMessageAckImplInner inContainer messageId) := by
  rw [onMessageAckImplInner]
  split
  case h_1 => exact .refl _
  case h_2 query found =>
    have acknowledged : Keeps session
        (session.modifySentQuery messageId (fun query => { query with isAcknowledged := true })) :=
      keeps_modifySentQuery (fun _ => rfl) (fun _ => rfl) (fun _ => rfl)
    have stored : (session.sentQueries.modify messageId
            (fun query => { query with isAcknowledged := true })).find? messageId =
          some { query with isAcknowledged := true } := by
      rw [OrderedMap.find?_modify, if_pos rfl, found]
      rfl
    have cleaned (session : Session) :
        (session.applyIf (¬ inContainer) (cleanupContainer messageId query)).toQueries =
          session.toQueries :=
      toQueries_applyIf fun session => toQueries_cleanupContainer ..
    have storedThen := (congrArg (fun queries => queries.sentQueries.find? messageId)
        (cleaned (session.modifySentQuery messageId
          (fun query => { query with isAcknowledged := true })))).trans stored
    exact (acknowledged.trans (.applyIf (keeps_cleanupContainer messageId query))).trans
      (keeps_markAsKnown storedThen rfl)

theorem keeps_onMessageAckImpl : Keeps session (session.onMessageAckImpl messageId) := by
  rw [onMessageAckImpl]
  split
  · exact List.foldlRecOn (motive := fun after : Session => Keeps session after) _ _
      ⟨fun _ _ holds => holds, .single (.forget _ messageId)⟩
      (fun before kept inside _ => kept.trans (keeps_onMessageAckImplInner true))
  · exact keeps_onMessageAckImplInner false

theorem keeps_onMessageResultOk {packet : Bytes} {originalSize : Nat}
    (received : session.onMessageResultOk environment messageId packet originalSize = .ok result) :
    Keeps session result.1 := by
  simp only [onMessageResultOk] at received
  split at received
  case h_1 =>
    cases received
    rw [onResultDropped]
    split
    · dsimp only
      split <;> exact .of_eq rfl rfl
    · exact .of_eq rfl rfl
  case h_2 query found =>
    obtain ⟨netQuery, set, received⟩ := bind_eq_ok received
    cases received
    have stolen : Keeps session
        ((session.setLastSuccess environment).stealAuthorization packet query) :=
      .of_eq (toQueries_stealAuthorization ..) (delivery_stealAuthorization ..)
    refine stolen.trans (keeps_returnSentQuery ?_ ?_)
    · rw [toQueries_stealAuthorization]
      exact found
    · exact (tickets_setMessageId 0 netQuery).trans (tickets_of_setOk set)

theorem keeps_onMessageResultError {code : Int} {message : Bytes}
    (received : session.onMessageResultError environment messageId code message = .ok after) :
    Keeps session after := by
  simp only [onMessageResultError] at received
  have noted :=
    keeps_onErrorReceived environment (errorCode code) (errorMessage environment message) session
  split at received
  · cases received
    exact noted
  · rw [returnError] at received
    split at received
    case h_1 =>
      obtain ⟨_, _, received⟩ := bind_eq_ok received
      cases received
      exact noted.trans (.of_eq rfl rfl)
    case h_2 query found =>
      cases received
      exact noted.trans (keeps_returnSentQuery found (by simp))

theorem keeps_onMessageFailedInner
    (failed : session.onMessageFailedInner environment false messageId = .ok after) :
    Keeps session after := by
  rw [onMessageFailedInner] at failed
  split at failed
  case h_1 =>
    cases failed
    exact .refl _
  case h_2 query found => exact keeps_resendSentQuery found failed

theorem delivery_of_onMessageFailedInner
    (failed : session.onMessageFailedInner environment true messageId = .ok after) :
    after.delivery = session.delivery.erase messageId := by
  rw [onMessageFailedInner] at failed
  split at failed
  case h_1 absent =>
    cases failed
    exact (Delivery.erase_eq_self absent).symm
  case h_2 query found =>
    rw [delivery_of_resendQuery failed, delivery_takeSentQuery]
    rfl

theorem delivery_of_failAll
    (failed : messageIds.foldlM (onMessageFailedInner environment true) session = .ok after) :
    after.delivery = session.delivery.eraseAll messageIds := by
  induction messageIds generalizing session with
  | nil =>
    cases failed
    rfl
  | cons first rest ih =>
    obtain ⟨next, firstFailed, failed⟩ := bind_eq_ok failed
    rw [ih failed, delivery_of_onMessageFailedInner firstFailed]
    rfl

theorem keeps_onMessageFailed (failed : session.onMessageFailed environment messageId = .ok after) :
    Keeps session after := by
  rw [onMessageFailed] at failed
  split at failed
  case h_1 container known =>
    refine ⟨fun _ _ holds => ?_, ?_⟩
    · exact foldlM_invariant
        (fun (_ : Session) _ (_ : Session) before => Holds.onMessageFailedInner before)
        (holds.frame (toQueries_setContainer ..)) failed
    · rw [delivery_of_failAll failed]
      exact .single (.fail _ messageId container known)
  case h_2 => exact keeps_onMessageFailedInner failed

theorem keeps_resendAnswer (resent : session.resendAnswer messageId = .ok after) :
    Keeps session after := by
  rw [resendAnswer] at resent
  split at resent
  · obtain ⟨_, _, resent⟩ := bind_eq_ok resent
    cases resent
    exact .of_eq rfl rfl
  · cases resent
    exact .refl _

variable {answerMessageId : MessageId}

theorem keeps_onMessageState {state source : Int} (received :
      session.onMessageState environment messageId state answerMessageId source = .ok after) :
    Keeps session after := by
  rw [onMessageState] at received
  split at received
  · exact keeps_onMessageFailed received
  · split at received
    · obtain ⟨_, _, received⟩ := bind_eq_ok received
      exact (keeps_onMessageAckImpl).trans (keeps_resendAnswer received)
    · exact keeps_resendAnswer received

theorem keeps_onMessageInfo {state source : Int} (received :
      session.onMessageInfo environment messageId state answerMessageId source = .ok after) :
    Keeps session after := by
  rw [onMessageInfo] at received
  split at received
  case h_1 query found =>
    dsimp only at received
    split at received
    · exact keeps_returnCanceled found (tickets_updateIsReady ..) received
    · split at received
      · exact keeps_onMessageState received
      · exact keeps_resendAnswer received
  case h_2 =>
    split at received
    · cases received
      exact .refl _
    · exact keeps_resendAnswer received

end Functions

end Session

end Autoproto.Net
