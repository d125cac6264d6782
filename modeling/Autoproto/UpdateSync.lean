import Autoproto.Status
import Autoproto.Transition

namespace Autoproto.UpdateSync

open List ByteEncoding Transition

/-!
# Catching up with the server

When the server says `updatesTooLong`, the client asks for the current state and
then for the difference from it, and hands what it gets to the update handler.
The member `sync_pending_` is there to run one such sync at a time.
-/

/-- The fields of `updates.state` that are used. -/
structure State where
  pts : Int32
  qts : Int32
  date : Int32
  deriving Repr, DecidableEq

/-- An update; only new messages are made by the client itself. -/
inductive Update (Object : Type) where
  | updateNewMessage (message : Object) (pts ptsCount : Int32)
  | other (update : Object)
  deriving Repr, DecidableEq

inductive Updates (Object : Type) where
  | updatesTooLong
  | updates (updates : List (Update Object)) (users chats : List Object) (date seq : Int32)
  | other (updates : Object)
  deriving Repr, DecidableEq

/-- The constructors of `updates.Difference`. -/
inductive Difference (Object : Type) where
  | differenceEmpty
  | difference (newMessages : List Object) (otherUpdates : List (Update Object))
      (chats users : List Object)
  | differenceSlice (newMessages : List Object) (otherUpdates : List (Update Object))
      (chats users : List Object) (intermediateState : State)
  | differenceTooLong
  deriving Repr, DecidableEq

/-- The queries that a sync sends. -/
inductive Query where
  | getState
  | getDifference (flags pts ptsLimit ptsTotalLimit date qts qtsLimit : Int32)
  deriving Repr, DecidableEq

/--
The client. `sent` lists the queries in order, `unanswered` those whose promise
was not called, and `handled` the calls of the update handler.
-/
structure MtprotoClient (Object : Type) where
  syncPending : Bool := false
  updateHandler : Bool := false
  sent : List Query := []
  unanswered : List Query := []
  handled : List (Option (Updates Object)) := []
  deriving Repr, DecidableEq

namespace MtprotoClient

variable {Object : Type}

def send (query : Query) (client : MtprotoClient Object) : MtprotoClient Object :=
  { client with
    sent := client.sent ++ [query]
    unanswered := client.unanswered ++ [query] }

def callUpdateHandler (updates : Option (Updates Object))
    (client : MtprotoClient Object) : MtprotoClient Object :=
  if client.updateHandler then
    { client with handled := client.handled ++ [updates] }
  else
    client

def handleUpdatesTooLong (client : MtprotoClient Object) : MtprotoClient Object :=
  if client.syncPending then
    client
  else
    { client with syncPending := true }.send .getState

/-- The null pointer is passed on to the handler. -/
def onUpdate (client : MtprotoClient Object) :
    Option (Updates Object) → MtprotoClient Object
  | some .updatesTooLong => client.handleUpdatesTooLong
  | updates => client.callUpdateHandler updates

def runGetDifference (pts date qts : Int32)
    (client : MtprotoClient Object) : MtprotoClient Object :=
  client.send (.getDifference 0 pts 0 0 date qts 0)

def onGetStateResult (client : MtprotoClient Object) :
    Except Status State → MtprotoClient Object
  | .error _ => { client with syncPending := false }
  | .ok state => client.runGetDifference state.pts state.date state.qts

def deliverDifferenceUpdates (msgs : List Object) (other : List (Update Object))
    (chats users : List Object) (client : MtprotoClient Object) : MtprotoClient Object :=
  if msgs.isEmpty && other.isEmpty then
    client
  else
    client.callUpdateHandler
      (some (.updates (other ++ msgs.map (fun msg => .updateNewMessage msg 0 0)) users chats 0 0))

/-- The sync is over before the answer has been looked at. -/
def onGetDifferenceResult (client : MtprotoClient Object)
    (result : Except Status (Difference Object)) :
    MtprotoClient Object :=
  let client := { client with syncPending := false }
  match result with
  | .error _ => client
  | .ok .differenceEmpty => client
  | .ok (.difference newMessages otherUpdates chats users) =>
    client.deliverDifferenceUpdates newMessages otherUpdates chats users
  | .ok (.differenceSlice newMessages otherUpdates chats users _) =>
    client.deliverDifferenceUpdates newMessages otherUpdates chats users
  | .ok .differenceTooLong => client

/-- The promise of a query has been called. -/
def withoutQuery (query : Query) (client : MtprotoClient Object) : MtprotoClient Object :=
  { client with unanswered := client.unanswered.erase query }

theorem callUpdateHandler_eq (updates : Option (Updates Object)) (client : MtprotoClient Object) :
    ∃ handled, client.callUpdateHandler updates = { client with handled := handled } := by
  unfold callUpdateHandler
  split
  · exact ⟨_, rfl⟩
  · exact ⟨client.handled, rfl⟩

theorem deliverDifferenceUpdates_eq (msgs : List Object) (other : List (Update Object))
    (chats users : List Object) (client : MtprotoClient Object) : ∃ handled,
      client.deliverDifferenceUpdates msgs other chats users =
        { client with handled := handled } := by
  unfold deliverDifferenceUpdates
  split
  · exact ⟨client.handled, rfl⟩
  · exact callUpdateHandler_eq _ _

theorem onGetDifferenceResult_eq (client : MtprotoClient Object)
    (result : Except Status (Difference Object)) : ∃ handled,
      client.onGetDifferenceResult result =
        { client with syncPending := false, handled := handled } := by
  cases result with
  | error status => exact ⟨client.handled, rfl⟩
  | ok difference =>
    cases difference with
    | differenceEmpty | differenceTooLong => exact ⟨client.handled, rfl⟩
    | difference | differenceSlice => exact deliverDifferenceUpdates_eq _ _ _ _ _

end MtprotoClient

/-- What can happen to the client. -/
inductive Event (Object : Type) where
  | onUpdate (updates : Option (Updates Object))
  | setUpdateHandler (isSet : Bool)
  | onGetStateResult (result : Except Status State)
  | onGetDifferenceResult (query : Query) (result : Except Status (Difference Object))

def Event.after (client : MtprotoClient Object) :
    Event Object → MtprotoClient Object
  | .onUpdate updates => client.onUpdate updates
  | .setUpdateHandler isSet => { client with updateHandler := isSet }
  | .onGetStateResult result => (client.withoutQuery .getState).onGetStateResult result
  | .onGetDifferenceResult query result => (client.withoutQuery query).onGetDifferenceResult result

/-- Only a query that has been sent is answered, once. -/
def Event.Possible (client : MtprotoClient Object) :
    Event Object → Prop
  | .onGetStateResult _ => .getState ∈ client.unanswered
  | .onGetDifferenceResult query _ => query ≠ .getState ∧ query ∈ client.unanswered
  | _ => True

instance
    (client : MtprotoClient Object)
    (event : Event Object) : Decidable (event.Possible client) :=
  match event with
  | .onUpdate _ | .setUpdateHandler _ => inferInstanceAs (Decidable True)
  | .onGetStateResult _ => inferInstanceAs (Decidable (.getState ∈ client.unanswered))
  | .onGetDifferenceResult query _ =>
    inferInstanceAs (Decidable (query ≠ .getState ∧ query ∈ client.unanswered))

def Step (before : MtprotoClient Object) (event : Event Object)
    (reached : MtprotoClient Object) : Prop :=
  event.Possible before ∧ event.after before = reached

/-- A sync is pending exactly as long as one of its queries is unanswered. -/
def OneSync (client : MtprotoClient Object) : Prop :=
  (client.syncPending = false ∧ client.unanswered = []) ∨
    (client.syncPending = true ∧ ∃ query, client.unanswered = [query])

variable {query : Query} {client : MtprotoClient Object}

theorem OneSync.unanswered_withoutQuery (oneSync : OneSync client)
    (sent : query ∈ client.unanswered) : (client.withoutQuery query).unanswered = [] := by
  rcases oneSync with ⟨_, quiet⟩ | ⟨_, only, single⟩
  · rw [quiet] at sent
    cases sent
  · rw [single, mem_singleton] at sent
    simp [MtprotoClient.withoutQuery, single, sent]

theorem OneSync.syncPending_of_mem (oneSync : OneSync client) (sent : query ∈ client.unanswered) :
    client.syncPending = true := by
  rcases oneSync with ⟨_, quiet⟩ | ⟨pending, _⟩
  · rw [quiet] at sent
    cases sent
  · exact pending

theorem onUpdate_cases (client : MtprotoClient Object) (updates : Option (Updates Object)) :
    (updates = some .updatesTooLong ∧ client.syncPending = false ∧
        client.onUpdate updates = { client with syncPending := true }.send .getState) ∨
      ∃ handled, client.onUpdate updates = { client with handled := handled } := by
  match updates with
  | none => exact Or.inr (client.callUpdateHandler_eq _)
  | some (.updates ..) => exact Or.inr (client.callUpdateHandler_eq _)
  | some (.other _) => exact Or.inr (client.callUpdateHandler_eq _)
  | some .updatesTooLong =>
    by_cases pending : client.syncPending = true
    · exact Or.inr ⟨client.handled, if_pos pending⟩
    · exact Or.inl ⟨rfl, Bool.not_eq_true _ ▸ pending, if_neg pending⟩

variable {reached : MtprotoClient Object} {event : Event Object} {before : MtprotoClient Object}

theorem oneSync_step (oneSync : OneSync before) (taken : Step before event reached) :
    OneSync reached := by
  obtain ⟨possible, rfl⟩ := taken
  cases event with
  | onUpdate updates =>
    rcases onUpdate_cases before updates with
      ⟨_, idle, sends⟩ | ⟨handled, same⟩
    · rcases oneSync with ⟨_, quiet⟩ | ⟨pending, _⟩
      · simp only [Event.after, sends]
        exact Or.inr ⟨rfl, .getState, by simp [MtprotoClient.send, quiet]⟩
      · rw [idle] at pending
        cases pending
    · simp only [Event.after, same]
      exact oneSync
  | setUpdateHandler isSet => exact oneSync
  | onGetStateResult result =>
    have quiet := oneSync.unanswered_withoutQuery possible
    cases result with
    | error status => exact Or.inl ⟨rfl, quiet⟩
    | ok state =>
      refine Or.inr ⟨oneSync.syncPending_of_mem possible,
        .getDifference 0 state.pts 0 0 state.date state.qts 0, ?_⟩
      change (before.withoutQuery .getState).unanswered ++ [_] = [_]
      rw [quiet, nil_append]
  | onGetDifferenceResult query result =>
    obtain ⟨handled, ends⟩ := (before.withoutQuery query).onGetDifferenceResult_eq result
    simp only [Event.after, ends]
    exact Or.inl ⟨rfl, oneSync.unanswered_withoutQuery possible.2⟩

variable {events : List (Event Object)}

theorem oneSync_run (run : Run Step {} events reached) : OneSync reached :=
  run.invariant (Or.inl ⟨rfl, rfl⟩) (fun _ _ _ oneSync taken => oneSync_step oneSync taken)

def Event.Fails : Event Object → Prop
  | .onGetStateResult (.error _) => True
  | .onGetDifferenceResult _ (.error _) => True
  | _ => False

/-- The events so far end with the state reported for the running sync. -/
def StateReported (events : List (Event Object)) : Prop :=
  ∃ earlier state later, events = earlier ++ .onGetStateResult (.ok state) :: later ∧
      ∀ event ∈ later, ¬ event.Fails ∧ ∀ result, event ≠ .onGetStateResult result

theorem StateReported.append (reported : StateReported events) (succeeds : ¬ event.Fails)
    (otherQuery : ∀ result, event ≠ .onGetStateResult result) :
    StateReported (events ++ [event]) := by
  obtain ⟨earlier, state, later, shape, calm⟩ := reported
  refine ⟨earlier, state, later ++ [event], by simp [shape], ?_⟩
  intro other member
  rcases mem_append.mp member with old | new
  · exact calm other old
  · rw [mem_singleton.mp new]
    exact ⟨succeeds, otherQuery⟩

theorem stateReported_run (run : Run Step {} events reached)
    (unanswered : query ∈ reached.unanswered) (difference : query ≠ .getState) :
    StateReported events := by
  induction run generalizing query with
  | start => cases unanswered
  | @extend events before _ event earlierRun last ih =>
    have oneSync := oneSync_run earlierRun
    obtain ⟨possible, rfl⟩ := last
    cases event with
    | onUpdate updates =>
      rcases onUpdate_cases before updates with
        ⟨_, _, sends⟩ | ⟨handled, same⟩
      · simp only [Event.after, sends, MtprotoClient.send, mem_append, mem_singleton] at unanswered
        exact (ih
          (unanswered.resolve_right difference) difference).append (by simp [Event.Fails]) (by simp)
      · simp only [Event.after, same] at unanswered
        exact (ih unanswered difference).append (by simp [Event.Fails]) (by simp)
    | setUpdateHandler isSet =>
      exact (ih unanswered difference).append (by simp [Event.Fails]) (by simp)
    | onGetStateResult result =>
      have quiet := oneSync.unanswered_withoutQuery possible
      cases result with
      | error status =>
        change query ∈ (before.withoutQuery .getState).unanswered at unanswered
        rw [quiet] at unanswered
        cases unanswered
      | ok state => exact ⟨events, state, [], rfl, by simp⟩
    | onGetDifferenceResult answered result =>
      obtain ⟨handled, ends⟩ := (before.withoutQuery answered).onGetDifferenceResult_eq result
      simp only [Event.after, ends] at unanswered
      rw [oneSync.unanswered_withoutQuery possible.2] at unanswered
      cases unanswered

theorem finishes_cases (taken : Step before event reached) (pending : before.syncPending = true)
    (finished : reached.syncPending = false) : event.Fails ∨
      ∃ query difference, event = .onGetDifferenceResult query (.ok difference) ∧
          query ≠ .getState ∧ query ∈ before.unanswered := by
  obtain ⟨possible, rfl⟩ := taken
  have stays : before.syncPending ≠ false := by simp [pending]
  cases event with
  | onUpdate updates =>
    rcases onUpdate_cases before updates with
      ⟨_, idle, _⟩ | ⟨handled, same⟩
    · exact absurd idle stays
    · simp only [Event.after, same] at finished
      exact absurd finished stays
  | setUpdateHandler isSet => exact absurd finished stays
  | onGetStateResult result =>
    cases result with
    | error status => exact Or.inl trivial
    | ok state => exact absurd finished stays
  | onGetDifferenceResult query result =>
    cases result with
    | error status => exact Or.inl trivial
    | ok difference => exact Or.inr ⟨query, difference, rfl, possible⟩

theorem idle_run {first : MtprotoClient Object} (idle : first.unanswered = [])
    (run : Run Step first events reached) (noGap : .onUpdate (some .updatesTooLong) ∉ events) :
    reached.unanswered = [] ∧ reached.sent = first.sent := by
  induction run with
  | start => exact ⟨idle, rfl⟩
  | @extend events before _ event earlierRun last ih =>
    rw [mem_append, mem_singleton, not_or] at noGap
    obtain ⟨quiet, sameSent⟩ := ih noGap.1
    obtain ⟨possible, rfl⟩ := last
    cases event with
    | onUpdate updates =>
      rcases onUpdate_cases before updates with
        ⟨gap, _⟩ | ⟨handled, same⟩
      · exact absurd (congrArg Event.onUpdate gap).symm noGap.2
      · simp only [Event.after, same]
        exact ⟨quiet, sameSent⟩
    | setUpdateHandler isSet => exact ⟨quiet, sameSent⟩
    | onGetStateResult result =>
      rw [Event.Possible, quiet] at possible
      cases possible
    | onGetDifferenceResult query result =>
      have sent := possible.2
      rw [quiet] at sent
      cases sent

/--
A sync is pending exactly as long as one of its queries is unanswered. A gap
signalled while none is pending starts one at once, and one during a sync is
left to it. The state, once reported, is followed by the question for the
difference from it. Without an error, a sync ends only with an answer to such a
question asked after its state had been reported.
-/
theorem updatesTooLong_synced
    (events : List (Event Object))
    (client : MtprotoClient Object)
    (run : Run Step {} events client) :
    ((client.syncPending = true ∧ ∃ query, client.unanswered = [query]) ∨
        (client.syncPending = false ∧ client.unanswered = [])) ∧
      (∀ next, Step client (.onUpdate (some .updatesTooLong)) next → (client.syncPending = false →
          next.sent = client.sent ++ [.getState] ∧
            next.unanswered = [.getState] ∧ next.syncPending = true) ∧
        (client.syncPending = true → next = client)) ∧
      (∀ state next, Step client (.onGetStateResult (.ok state)) next → next.syncPending = true ∧
          next.sent = client.sent ++ [.getDifference 0 state.pts 0 0 state.date state.qts 0] ∧
          next.unanswered = [.getDifference 0 state.pts 0 0 state.date state.qts 0]) ∧
      ∀ event next, Step client event next → client.syncPending = true → next.syncPending = false →
        ¬ event.Fails → StateReported events ∧
          ∃ query difference, event = .onGetDifferenceResult query (.ok difference) ∧
              query ≠ .getState ∧ client.unanswered = [query] := by
  have oneSync := oneSync_run run
  refine ⟨oneSync.symm, ?_, ?_, ?_⟩
  · rintro next ⟨_, rfl⟩
    constructor
    · intro idle
      have quiet : client.unanswered = [] := by
        rcases oneSync with ⟨_, quiet⟩ | ⟨pending, _⟩
        · exact quiet
        · rw [idle] at pending
          cases pending
      simp [Event.after, MtprotoClient.onUpdate,
        MtprotoClient.handleUpdatesTooLong, MtprotoClient.send, idle, quiet]
    · intro pending
      exact if_pos pending
  · rintro state next ⟨possible, rfl⟩
    refine ⟨oneSync.syncPending_of_mem possible, rfl, ?_⟩
    change (client.withoutQuery .getState).unanswered ++ [_] = [_]
    rw [oneSync.unanswered_withoutQuery possible, nil_append]
  · intro event next taken pending finished succeeds
    obtain ⟨query, difference, shape, notState, sent⟩ :=
      (finishes_cases taken pending finished).resolve_left succeeds
    refine ⟨stateReported_run run sent notState, query, difference, shape, notState, ?_⟩
    rcases oneSync with ⟨idle, _⟩ | ⟨_, only, single⟩
    · rw [pending] at idle
      cases idle
    · rw [single, mem_singleton] at sent
      rw [single, sent]

def exampleState : State :=
  ⟨5, 0, 7⟩

def exampleGetDifference : Query :=
  .getDifference 0 5 0 0 7 0 0

/-- The client after a gap, with the state reported. -/
def exampleClient : MtprotoClient Bytes where
  syncPending := true
  sent := [.getState, exampleGetDifference]
  unanswered := [exampleGetDifference]

theorem exampleClient_run : Run Step {}
      [.onUpdate (some .updatesTooLong), .onGetStateResult (.ok exampleState)] exampleClient :=
  Run.extend (Run.extend Run.start ⟨trivial, rfl⟩) ⟨by decide, rfl⟩

/-- The end of a sync that finds the client up to date. -/
theorem updatesTooLong_synced_empty : ∃ next : MtprotoClient Bytes, Step exampleClient
          (.onGetDifferenceResult exampleGetDifference (.ok .differenceEmpty))
          next ∧ exampleClient.syncPending = true ∧ next.syncPending = false ∧ StateReported
          ([.onUpdate (some .updatesTooLong),
            .onGetStateResult (.ok exampleState)] : List (Event Bytes)) := by
  refine ⟨_, ⟨by decide, rfl⟩, rfl, rfl, ?_⟩
  have synced := updatesTooLong_synced _ _ exampleClient_run
  exact (synced.2.2.2 (.onGetDifferenceResult exampleGetDifference (.ok .differenceEmpty)) _
    ⟨by decide, rfl⟩ rfl rfl id).1

/--
A gap signalled while the difference is on its way is never asked about, unless
another one is signalled. A slice ends the sync, and nothing asks for the rest.
-/
theorem updatesTooLong_lost :
    (∃ client : MtprotoClient Bytes, Run Step {} [.onUpdate (some .updatesTooLong),
            .onGetStateResult (.ok exampleState), .onUpdate (some .updatesTooLong),
            .onGetDifferenceResult exampleGetDifference (.ok .differenceEmpty)] client ∧
        client.sent = exampleClient.sent ∧ ∀ events reached, Run Step client events reached →
          .onUpdate (some .updatesTooLong) ∉ events → reached.sent = exampleClient.sent) ∧
      ∃ client : MtprotoClient Bytes, Run Step {}
            [.onUpdate (some .updatesTooLong), .onGetStateResult (.ok exampleState),
              .onGetDifferenceResult exampleGetDifference
                (.ok (.differenceSlice [[1]] [] [] [] ⟨6, 0, 8⟩))] client ∧
          client.syncPending = false ∧ ∀ events reached, Run Step client events reached →
            .onUpdate (some .updatesTooLong) ∉ events → reached.sent = exampleClient.sent := by
  constructor
  · refine ⟨{ sent := exampleClient.sent }, ?_, rfl, ?_⟩
    · have waits : Step exampleClient (.onUpdate (some .updatesTooLong)) exampleClient :=
        ⟨trivial, rfl⟩
      exact Run.extend (Run.extend exampleClient_run waits) ⟨by decide, rfl⟩
    · intro events reached run noGap
      exact (idle_run rfl run noGap).2
  · refine ⟨{ sent := exampleClient.sent }, ?_, rfl, ?_⟩
    · exact Run.extend exampleClient_run ⟨by decide, rfl⟩
    · intro events reached run noGap
      exact (idle_run rfl run noGap).2

end Autoproto.UpdateSync
