import Autoproto.SessionRuns

namespace Autoproto.Net

open ByteEncoding
open Net.Session

/-!
# With which keys queries are sent

With perfect forward secrecy a session sends its queries with a temporary key,
which has to be bound to the main key by a query of the session's own. The
current key counts as bound when the result of that query comes, but a handshake
can bring another one in between.
-/

/--
A session, with the key of its last bind query, the keys that have been bound,
and what was outside when it last checked whether it is ready.
-/
structure KeySystem where
  system : System
  asked : Bytes := []
  bound : List Bytes
  checked : Option Environment := none

namespace KeySystem

/-- A new session; a stored key that is marked has been bound by an earlier session. -/
def start (session : Session) : KeySystem where
  system := ⟨session, .idle⟩
  bound :=
    if session.authData.tmpAuthKey.authFlag then
      [session.authData.tmpAuthKey.key]
    else
      []

/-- The key that the last bind query is made for, after an event. -/
def askedAfter (before : KeySystem) (event : Event) : Bytes :=
  match event.action, before.system.point with
  | .advance, .sendBindKey _ _ =>
    if before.system.session.needSendBindKey then
      before.system.session.authData.tmpAuthKey.key
    else
      before.asked
  | _, _ => before.asked

def boundAfter (before : KeySystem) (event : Event) : List Bytes :=
  match event.action with
  | .onResult query =>
    if before.system.session.isBound event.environment query then
      before.asked :: before.bound
    else
      before.bound
  | _ => before.bound

/-- The session checks whether it is ready at one point only. -/
def checkedAfter (before : KeySystem) (event : Event) : Option Environment :=
  match event.action, before.system.point with
  | .advance, .mainLoop _ _ => some event.environment
  | _, _ => before.checked

/-- A step of the session, with its record. -/
def handle (before : KeySystem) (event : Event) : Except Fault KeySystem := do
  check (before.system.Enabled event)
  let after ← before.system.perform event
  return {
    system := after
    asked := before.askedAfter event
    bound := before.boundAfter event
    checked := before.checkedAfter event }

def Step (before : KeySystem) (event : Event) (after : KeySystem) : Prop :=
  before.handle event = .ok after

variable {before after : KeySystem} {event : Event} {now : Rat} {environment : Environment}
  {session : Session} {system : System}

theorem step_iff : Step before event after ↔ System.Step before.system event after.system ∧
        after.asked = before.askedAfter event ∧ after.bound = before.boundAfter event ∧
        after.checked = before.checkedAfter event := by
  constructor
  · intro step
    obtain ⟨_, enabled, step⟩ := bind_eq_ok step
    obtain ⟨system, performed, step⟩ := bind_eq_ok step
    cases step
    exact ⟨⟨holds_of_check enabled, performed⟩, rfl, rfl, rfl⟩
  · obtain ⟨system, asked, bound, checked⟩ := after
    rintro ⟨⟨enabled, performed⟩, rfl, rfl, rfl⟩
    rw [Step, handle, check_eq_ok enabled, ok_bind, performed]
    rfl

/--
A new key is not marked. The result of a bind query comes while its key is the
current one, or there is none.
-/
def Timely (before : KeySystem) (event : Event) : Prop :=
  match event.action with
  | .onHandshakeReady .tmpAuthKey (.ready authKey) => authKey.authFlag = false
  | .onResult query =>
    before.system.session.isBound event.environment query = true →
      before.system.session.authData.tmpAuthKey.key = [] ∨
        before.system.session.authData.tmpAuthKey.key = before.asked
  | _ => True

instance (before : KeySystem) (event : Event) : Decidable (before.Timely event) := by
  rw [Timely]
  split <;> infer_instance

/-! ## What is known about the current key -/

/-- A key that is marked has been bound, unless it is empty. -/
def Marked (system : KeySystem) : Prop :=
  system.system.session.authData.tmpAuthKey.authFlag = true →
    system.system.session.authData.tmpAuthKey.key = [] ∨
      system.system.session.authData.tmpAuthKey.key ∈ system.bound

theorem marked_start : (start session).Marked := by
  intro isMarked
  refine Or.inr ?_
  change session.authData.tmpAuthKey.authFlag = true at isMarked
  rw [start, if_pos isMarked]
  exact List.mem_singleton_self _

theorem bound_subset : before.bound ⊆ before.boundAfter event := by
  rw [boundAfter]
  split
  · split
    · exact List.subset_cons_self ..
    · exact List.Subset.refl _
  · exact List.Subset.refl _

theorem Marked.keep (marked : before.Marked)
    (same : after.system.session.authData.tmpAuthKey = before.system.session.authData.tmpAuthKey ∨
        after.system.session.authData.tmpAuthKey = {}) (more : before.bound ⊆ after.bound) :
    after.Marked := by
  intro isMarked
  rcases same with same | dropped
  · rw [same] at isMarked ⊢
    exact (marked isMarked).imp id (fun bound => more bound)
  · rw [dropped]
    exact Or.inl rfl

theorem marked_of_step (marked : before.Marked) (timely : before.Timely event)
    (step : Step before event after) : after.Marked := by
  obtain ⟨step, _, bound, _⟩ := step_iff.mp step
  have more : before.bound ⊆ after.bound := by
    rw [bound]
    exact bound_subset
  cases System.move_of_step step with
  | settles settles => exact marked.keep settles.tmpAuthKey more
  | issues messageId issued => exact marked.keep (Or.inl (congrArg Delivery.tmpAuthKey issued)) more
  | sends isBindKey sends =>
    obtain ⟨_, _, _, _, _, sent⟩ := sends
    exact marked.keep (Or.inl (congrArg Delivery.tmpAuthKey sent)) more
  | packs containerMessageId messageIds _ packed =>
    refine marked.keep (Or.inl ?_) more
    exact (congrArg Delivery.tmpAuthKey packed).trans Delivery.tmpAuthKey_pack
  | installs authKey isReady settles =>
    rw [Timely, isReady] at timely
    intro isMarked
    rcases settles.tmpAuthKey with same | dropped
    · have unmarked : after.system.session.authData.tmpAuthKey.authFlag = false :=
        (congrArg AuthKey.authFlag same).trans timely
      rw [unmarked] at isMarked
      cases isMarked
    · exact Or.inl (congrArg AuthKey.key dropped)
  | binds query isResult isBound flagged =>
    rw [Timely, isResult] at timely
    intro _
    have sameKey : after.system.session.authData.tmpAuthKey.key =
          before.system.session.authData.tmpAuthKey.key :=
      congrArg (fun delivery => delivery.tmpAuthKey.key) flagged
    rw [sameKey, bound, boundAfter, isResult]
    dsimp only
    rw [if_pos isBound]
    refine (timely isBound).imp id (fun asked => ?_)
    rw [asked]
    exact List.mem_cons_self

/-! ## What is known while queries are sent -/

/-- What the session has made sure of before it sends queries. -/
structure MaySend (checked : Option Environment) (now : Rat) (session : Session) : Prop where
  ready :
    ∃ environment, checked = some environment ∧ session.authData.isReady environment now = true
  mainKey : session.needCheckMainKey = false
  kept : session.needDestroyAuthKey = false
  flagged : session.authData.usePfs = false ∨ session.authData.tmpAuthKey.authFlag = true

/-- What the functions that send a query leave alone. -/
def SameKeys (before after : Session) : Prop :=
  after.authData = { before.authData with lastMessageId := after.authData.lastMessageId } ∧
    after.needCheckMainKey = before.needCheckMainKey ∧
    after.needDestroyAuthKey = before.needDestroyAuthKey

theorem MaySend.of_sameKeys {checked : Option Environment} {before after : Session}
    (may : MaySend checked now before) (same : SameKeys before after) :
    MaySend checked now after := by
  obtain ⟨sameData, sameMain, sameDestroy⟩ := same
  constructor
  · obtain ⟨environment, isChecked, ready⟩ := may.ready
    refine ⟨environment, isChecked, ?_⟩
    rw [sameData]
    exact ready
  · rw [sameMain]
    exact may.mainKey
  · rw [sameDestroy]
    exact may.kept
  · rw [sameData]
    exact may.flagged

variable {messageId : MessageId}

theorem sameKeys_of_connectionSendQuery {after : Session} {info : ConnectionId}
    {query : NetQueryPtr}
    (sent : session.connectionSendQuery environment info query messageId = .ok after) :
    SameKeys session after := by
  obtain ⟨_, _, _, rfl | ⟨_, rfl⟩ | ⟨_, _, rfl | ⟨rfl, _⟩, _, rfl⟩⟩ :=
    connectionSendQuery_eq_ok sent
  all_goals exact ⟨rfl, rfl, rfl⟩

theorem sameKeys_of_stepSendQueries {needFlush : Bool}
    (stepped : session.stepSendQueries environment now needFlush = .ok system) :
    SameKeys session system.session ∧
      ∀ later flush, system.point = .sendQueries later flush → later = now := by
  rw [stepSendQueries] at stepped
  split at stepped
  · obtain ⟨⟨query, rest⟩, _, stepped⟩ := bind_eq_ok stepped
    obtain ⟨sent, isSent, stepped⟩ := bind_eq_ok stepped
    cases stepped
    have same : SameKeys (session.setPendingQueries rest) sent :=
      sameKeys_of_connectionSendQuery isSent
    refine ⟨same, ?_⟩
    intro later flush same
    cases same
    rfl
  · cases stepped
    refine ⟨⟨rfl, rfl, rfl⟩, ?_⟩
    intro later flush sending
    cases sending

theorem maySend_of_needSendQuery (ready : session.authData.isReady environment now = true)
    (needs : session.needSendQuery = true) : MaySend (some environment) now session := by
  rw [needSendQuery, AuthData.getBindFlag] at needs
  simp only [Bool.and_eq_true, Bool.not_eq_true', Bool.or_eq_true] at needs
  obtain ⟨⟨⟨⟨_, mainKey⟩, flagged⟩, _⟩, kept⟩ := needs
  refine ⟨⟨environment, rfl, ready⟩, mainKey, kept, ?_⟩
  rcases flagged with noPfs | noPfs | flag
  · exact Or.inl noPfs
  · exact Or.inl noPfs
  · exact Or.inr flag

theorem sendQueries_of_advance {point : Point} {flush : Bool}
    (advanced : session.advance environment point = .ok system)
    (sending : system.point = .sendQueries now flush) :
    (∃ needFlush, point = .mainLoop now needFlush ∧ system.session = session ∧
          session.authData.isReady environment now = true ∧ session.needSendQuery = true) ∨
      ∃ needFlush, point = .sendQueries now needFlush ∧ SameKeys session system.session := by
  have notFlushing
      {session : Session}
      {info : ConnectionId}
      {began : Rat}
      (started : session.startFlush info began = .ok system) : False := by
    obtain ⟨_, _, started⟩ := bind_eq_ok started
    cases started
    cases sending
  cases point with
  | idle | flushing =>
    cases advanced
    cases sending
  | loop =>
    rw [Session.advance, stepLoop] at advanced
    split at advanced
    · cases advanced
      cases sending
    · obtain ⟨_, _, advanced⟩ := bind_eq_ok advanced
      split at advanced
      · split at advanced
        · exact (notFlushing advanced).elim
        · cases advanced
          cases sending
      · cases advanced
        cases sending
  | longPollOpen | mainOpen =>
    obtain ⟨_, _, advanced⟩ := bind_eq_ok advanced
    cases advanced
    cases sending
  | mainLoop began needFlush =>
    rw [Session.advance] at advanced
    split at advanced
    · cases advanced
      cases sending
    · split at advanced
      · cases advanced
        cases sending
      case isFalse ready =>
        rw [Bool.not_eq_true, Bool.not_eq_false] at ready
        split at advanced
        case isTrue needs =>
          cases advanced
          cases sending
          exact Or.inl ⟨_, rfl, rfl, ready, needs⟩
        case isFalse =>
          cases advanced
          cases sending
  | sendQueries began needFlush =>
    obtain ⟨same, sameTime⟩ := sameKeys_of_stepSendQueries advanced
    rw [sameTime now flush sending]
    exact Or.inr ⟨needFlush, rfl, same⟩
  | sendBindKey | sendCheckMainKey =>
    rw [Session.advance] at advanced
    split at advanced
    · obtain ⟨_, _, advanced⟩ := bind_eq_ok advanced
      cases advanced
      cases sending
    · cases advanced
      cases sending
  | mainFlush began needFlush =>
    rw [Session.advance] at advanced
    split at advanced
    · exact (notFlushing advanced).elim
    · cases advanced
      cases sending

theorem point_of_receiveMessage {action : Action}
    (received : session.receiveMessage environment action = .ok system) :
    system.point = .idle ∨ system.point = .loop := by
  cases action with
  | send | rawEvent =>
    obtain ⟨⟨_, goesOn⟩, _, received⟩ := bind_eq_ok received
    cases received
    cases goesOn
    · exact Or.inl rfl
    · exact Or.inr rfl
  | close | hangup | onResult =>
    obtain ⟨_, _, received⟩ := bind_eq_ok received
    cases received
    exact Or.inl rfl
  | onNetwork | onHandshakeReady =>
    obtain ⟨_, _, received⟩ := bind_eq_ok received
    cases received
    exact Or.inr rfl
  | loop =>
    cases received
    exact Or.inr rfl
  | _ =>
    cases received
    exact Or.inl rfl

theorem afterFlush_ne (began now : Rat) (flush : Bool) (info : ConnectionId) :
    System.afterFlush began info ≠ .sendQueries now flush := by
  cases info <;> exact nofun

/-- What holds while queries are sent. -/
def Sending (system : KeySystem) : Prop :=
  ∀ now flush,
    system.system.point = .sendQueries now flush → MaySend system.checked now system.system.session

theorem sending_of_step (sending : before.Sending) (step : Step before event after) :
    after.Sending := by
  obtain ⟨⟨_, performed⟩, _, _, checked⟩ := step_iff.mp step
  intro now flush isSending
  rw [System.perform] at performed
  split at performed
  case h_1 isAdvance =>
    rw [checked, checkedAfter, isAdvance]
    rcases sendQueries_of_advance performed isSending with
      ⟨needFlush, isPoint, same, ready, needs⟩ | ⟨needFlush, isPoint, same⟩
    · rw [isPoint, same]
      exact maySend_of_needSendQuery ready needs
    · rw [isPoint]
      exact (sending now needFlush isPoint).of_sameKeys same
  case h_2 =>
    obtain ⟨_, _, performed⟩ := bind_eq_ok performed
    have last := Except.ok.inj performed
    rw [← last] at isSending
    cases isSending
  case h_3 =>
    have last := Except.ok.inj performed
    rw [← last] at isSending
    exact absurd isSending (afterFlush_ne _ _ _ _)
  case h_4 =>
    obtain ⟨_, _, performed⟩ := bind_eq_ok performed
    have last := Except.ok.inj performed
    rw [← last] at isSending
    exact absurd isSending (afterFlush_ne _ _ _ _)
  case h_5 =>
    rcases point_of_receiveMessage performed with idle | loop
    · rw [idle] at isSending
      cases isSending
    · rw [loop] at isSending
      cases isSending

/-! ## Runs -/

theorem sound_of_run {events : List Event} {reached : KeySystem}
    (run : Transition.Run (Transition.Guarded Timely Step) (start session) events reached) :
    reached.Marked ∧ reached.Sending := by
  have atFirst : (start session).Marked ∧ (start session).Sending := ⟨marked_start, nofun⟩
  have kept (before : KeySystem) (event : Event) (after : KeySystem)
      (sound : before.Marked ∧ before.Sending)
      (step : Transition.Guarded Timely Step before event after) :
      after.Marked ∧ after.Sending :=
    ⟨marked_of_step sound.1 step.1 step.2, sending_of_step sound.2 step.2⟩
  exact run.invariant atFirst kept

theorem key_ne_nil_of_isReady {authData : AuthData}
    (ready : authData.isReady environment now = true) (usesPfs : authData.usePfs = true) :
    authData.tmpAuthKey.key ≠ [] := by
  rw [AuthData.isReady, AuthData.hasTmpAuthKey] at ready
  simp only [usesPfs, Bool.and_eq_true, Bool.true_and, Bool.not_not, decide_eq_true_eq] at ready
  exact ready.1.2.1

theorem sending_of_new_query {before after : System} {query : Session.Query}
    (step : System.Step before event after)
    (absent : before.session.sentQueries.find? messageId = none)
    (sent : after.session.sentQueries.find? messageId = some query)
    (regular : query.netQuery.isBindKey = false) :
    ∃ now needFlush, before.point = .sendQueries now needFlush := by
  rcases System.found_or_sends_of_step step with found | ⟨used, new, unused, emplaced, place⟩
  · obtain ⟨earlier, isEarlier⟩ := found messageId query sent
    rw [absent] at isEarlier
    cases isEarlier
  · rw [emplaced, OrderedMap.find?_emplace unused] at sent
    split at sent
    · cases sent
      rw [regular] at place
      exact (place.resolve_left nofun).1
    · rw [absent] at sent
      cases sent

/--
When a query that is not the session's own is handed to a connection, the
session is ready, neither checks nor destroys its main key, and does without a
temporary key or has had that very key bound.
-/
theorem regular_query_sent_with_bound_key
    {session : Session}
    {events : List Event}
    {before : KeySystem}
    {event : Event}
    {after : System}
    {messageId : MessageId}
    {query : Session.Query}
    (run : Transition.Run (Transition.Guarded Timely Step) (start session) events before)
    (step : System.Step before.system event after)
    (absent : before.system.session.sentQueries.find? messageId = none)
    (sent : after.session.sentQueries.find? messageId = some query)
    (regular : query.netQuery.isBindKey = false) :
    ∃ now needFlush environment,
      before.system.point = .sendQueries now needFlush ∧ before.checked = some environment ∧
        before.system.session.authData.isReady environment now = true ∧
        before.system.session.needCheckMainKey = false ∧
        before.system.session.needDestroyAuthKey = false ∧
        (before.system.session.authData.usePfs = false ∨
          before.system.session.authData.tmpAuthKey.authFlag = true ∧
            before.system.session.authData.tmpAuthKey.key ∈ before.bound) := by
  obtain ⟨marked, sending⟩ := sound_of_run run
  obtain ⟨now, needFlush, isPoint⟩ := sending_of_new_query step absent sent regular
  have may := sending now needFlush isPoint
  obtain ⟨environment, checked, ready⟩ := may.ready
  refine ⟨now, needFlush, environment, isPoint, checked, ready, may.mainKey, may.kept, ?_⟩
  cases usesPfs : before.system.session.authData.usePfs with
  | false => exact Or.inl rfl
  | true =>
    have flagged := may.flagged.resolve_left (by rw [usesPfs]; exact nofun)
    refine Or.inr ⟨flagged, ?_⟩
    exact (marked flagged).resolve_left (key_ne_nil_of_isReady ready usesPfs)

/-! ## Two sessions -/

/-- A temporary key, not bound and about to expire. -/
def oldKey : AuthKey :=
  { id := 2, key := [2], expiresAt := 1000 }

def newKey : AuthKey :=
  { id := 3, key := [3], expiresAt := 100000 }

def unboundSetup : Setup :=
  { boundSetup with tmpAuthKey := oldKey }

def unboundSession : Session :=
  { boundSession with
    authData := { boundSession.authData with tmpAuthKey := oldKey } }

/-- The bits of a time are the seconds themselves. -/
def secondsEnvironment : Environment :=
  { quietEnvironment with seconds := fun bits => (bits.toNat : Rat) }

def boundQuery : NetQueryPtr :=
  { makeBindKeyQuery (UniqueId.next UniqueId.bindKeyType 1) with
    state := .ok [] }

/-- The key is asked to be bound, and the answer comes. -/
def bindingActions : List Action :=
  [.onNetwork true 1, .advance, .advance, .advance,
    .connectionOpenFinish .main (some ⟨1, false⟩), .loop, .advance, .advance,
    .advance, .advance, .advance, .callback (.onMessageResultOk 8 [] 4),
    .flushed, .advance, .advance, .advance, .advance, .advance]

def askingActions : List Action :=
  [.send plainQuery, .advance, .advance]

/-- The result of the bind query comes before that. -/
def timelyActions : List Action :=
  bindingActions ++ [.onResult boundQuery] ++ askingActions

/-- A new key comes before the result of the bind query. -/
def lateActions : List Action :=
  bindingActions ++
    [.onHandshakeReady .tmpAuthKey (.ready newKey), .advance, .advance,
      .advance, .onResult boundQuery,
      .connectionOpenFinish .main (some ⟨1, false⟩)] ++
    askingActions

def inSeconds (actions : List Action) : List Event :=
  actions.map (fun action => ⟨secondsEnvironment, action⟩)

/-- Some events, and then one step further. -/
structure LastStep where
  before : KeySystem
  after : KeySystem

def runThen (handle : KeySystem → Event → Except Fault KeySystem)
    (actions : List Action) : Except Fault LastStep := do
  let before ← (inSeconds actions).foldlM handle (start unboundSession)
  let after ← before.handle ⟨secondsEnvironment, .advance⟩
  return ⟨before, after⟩

theorem runThen_eq_ok {handle : KeySystem → Event → Except Fault KeySystem}
    {step : KeySystem → Event → KeySystem → Prop}
    (isStep : ∀ before event after, handle before event = .ok after → step before event after)
    {actions : List Action} {last : LastStep} (returned : runThen handle actions = .ok last) :
    Transition.Run step (start unboundSession) (inSeconds actions) last.before ∧
      System.Step last.before.system ⟨secondsEnvironment, .advance⟩ last.after.system := by
  obtain ⟨before, ran, returned⟩ := bind_eq_ok returned
  obtain ⟨after, stepped, returned⟩ := bind_eq_ok returned
  cases returned
  exact ⟨Transition.Run.start.foldlM isStep ran, (step_iff.mp stepped).1⟩

/-- The query is sent in the last step, with a temporary key. -/
def LastStep.Sends (last : LastStep) : Prop :=
  last.before.system.session.sentQueries.find? 16 = none ∧
    (last.after.system.session.sentQueries.find? 16).any
      (fun query => !query.netQuery.isBindKey) = true ∧
    last.before.system.session.authData.usePfs = true

instance (last : LastStep) : Decidable last.Sends :=
  inferInstanceAs (Decidable (_ ∧ _ ∧ _))

/-- The session has its key bound, and sends the query with it. -/
theorem query_sent_with_stored_key : ∃ before after query,
      Session.create unboundSetup = .ok unboundSession ∧
        Transition.Run (Transition.Guarded Timely Step)
          (start unboundSession) (inSeconds timelyActions) before ∧
        System.Step before.system ⟨secondsEnvironment, .advance⟩ after ∧
        before.system.session.sentQueries.find? 16 = none ∧
        after.session.sentQueries.find? 16 = some query ∧ query.netQuery.isBindKey = false ∧
        before.system.session.authData.usePfs = true ∧
        before.system.session.authData.tmpAuthKey.key ∈ before.bound := by
  have facts :
      (runThen (fun before event => do
          check (before.Timely event)
          before.handle event)
        timelyActions).toOption.any (fun last => decide last.Sends) = true := by
    decide +kernel
  obtain ⟨last, returned, sends⟩ := exists_of_any facts
  obtain ⟨absent, isSent, usesPfs⟩ := of_decide_eq_true sends
  obtain ⟨query, sent, regular⟩ := (Option.any_eq_true _ _).mp isSent
  have regular : query.netQuery.isBindKey = false := Bool.not_eq_true' _ ▸ regular
  obtain ⟨run, step⟩ := @runThen_eq_ok _ (Transition.Guarded Timely Step)
      (fun before event after handled => by
        obtain ⟨_, timely, handled⟩ := bind_eq_ok handled
        exact ⟨holds_of_check timely, handled⟩) _ _ returned
  obtain ⟨_, _, _, _, _, _, _, _, bound⟩ :=
    regular_query_sent_with_bound_key run step absent sent regular
  exact ⟨last.before, last.after.system, query, rfl, run, step, absent, sent, regular, usesPfs,
    (bound.resolve_left (by rw [usesPfs]; exact nofun)).2⟩

/--
The handshake ends between the answer to the bind query and its result: the new
key is taken for bound, and the query is sent with it.
-/
theorem query_sent_with_unbound_key : ∃ before after query,
      Session.create unboundSetup = .ok unboundSession ∧
        Transition.Run Step (start unboundSession) (inSeconds lateActions) before ∧
        System.Step before.system ⟨secondsEnvironment, .advance⟩ after ∧
        before.system.session.sentQueries.find? 16 = none ∧
        after.session.sentQueries.find? 16 = some query ∧ query.netQuery.isBindKey = false ∧
        before.system.session.authData.usePfs = true ∧
        before.system.session.authData.tmpAuthKey.key ∉ before.bound := by
  have facts : (runThen handle lateActions).toOption.any (fun last => decide (last.Sends ∧
            last.before.system.session.authData.tmpAuthKey.key ∉ last.before.bound)) = true := by
    decide +kernel
  obtain ⟨last, returned, holds⟩ := exists_of_any facts
  obtain ⟨⟨absent, isSent, usesPfs⟩, unbound⟩ := of_decide_eq_true holds
  obtain ⟨query, sent, regular⟩ := (Option.any_eq_true _ _).mp isSent
  obtain ⟨run, step⟩ := runThen_eq_ok (fun _ _ _ handled => handled) returned
  exact ⟨last.before, last.after.system, query, rfl, run, step, absent, sent,
    Bool.not_eq_true' _ ▸ regular, usesPfs, unbound⟩

end KeySystem

end Autoproto.Net
