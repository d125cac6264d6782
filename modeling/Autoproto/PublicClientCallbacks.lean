import Autoproto.PublicClientThreads

namespace Autoproto.PublicClient

open List Function

/-!
# The callbacks of requests

A request is refused, or it goes into a promise of its own and from there to its
callback: when the promise is set, or else when it is destroyed. The steps of
the client are such steps of requests, and so every callback is called exactly
once.
-/

/-! ## The life of a request -/

/-- What has become of the requests so far. -/
@[ext] structure Requests where
  /-- The request that has found an actor and is not in a promise yet. -/
  sending : Option Nat
  promises : Nat → Option PromiseState
  /-- The request whose promise has called its function, and still holds it. -/
  calling : Option Nat
  invoked : List (Nat × Outcome)
  tests : List Bool

/-- What can become of a request. -/
inductive RequestStep (requests : Requests) : Requests → Prop where
  | refuse :
      RequestStep requests
        { requests with
          invoked := requests.invoked ++ [(requests.tests.length, .clientNotRunning)]
          tests := requests.tests ++ [false] }
  | accept :
      requests.sending = none →
      RequestStep requests
        { requests with
          sending := some requests.tests.length
          tests := requests.tests ++ [true] }
  | create {request : Nat} :
      requests.sending = some request →
      RequestStep requests
        { requests with
          sending := none
          promises := Function.update requests.promises request (some .ready) }
  | call {request : Nat} {outcome : Outcome} :
      requests.promises request = some .ready →
      requests.calling = none →
      outcome ≠ .clientNotRunning →
      RequestStep requests
        { requests with
          calling := some request
          invoked := requests.invoked ++ [(request, outcome)] }
  | complete {request : Nat} :
      requests.calling = some request →
      RequestStep requests
        { requests with
          promises :=
            Function.update requests.promises request
              ((requests.promises request).map fun _ => .complete)
          calling := none }
  | erase {request : Nat} :
      requests.calling = none ∨ requests.calling = some request →
      (requests.promises request = some .ready → requests.calling = some request) →
      RequestStep requests
        { requests with
          promises := Function.update requests.promises request none
          calling := none }

theorem RequestStep.congr {requests result after : Requests} (step : RequestStep requests result)
    (same : after = result) : RequestStep requests after :=
  same ▸ step

namespace Requests

/-- A promise that has not called its function. -/
def Holds (requests : Requests) (request : Nat) : Prop :=
  requests.promises request = some .ready ∧ requests.calling ≠ some request

instance (requests : Requests) (request : Nat) : Decidable (requests.Holds request) :=
  inferInstanceAs (Decidable (_ ∧ _))

def places (requests : Requests) (request : Nat) : Nat :=
  (if requests.sending = some request then 1 else 0) +
    (if requests.Holds request then 1 else 0) +
    (requests.invoked.map Prod.fst).count request

/-- Every request that has been sent is in one place. -/
structure Accounted (requests : Requests) : Prop where
  once : ∀ request, requests.places request =
        if request < requests.tests.length then 1 else 0
  known : ∀ request, requests.promises request ≠ none →
        request < requests.tests.length ∧ requests.sending ≠ some request
  called : ∀ request, requests.calling = some request → request ∈ requests.invoked.map Prod.fst
  refused : ∀ request,
      (request, .clientNotRunning) ∈ requests.invoked ↔ requests.tests[request]? = some false

end Requests

namespace Requests.Accounted

variable {requests after : Requests} (accounted : requests.Accounted)

include accounted

theorem once_step (step : RequestStep requests after) (request : Nat) : after.places request =
      if request < after.tests.length then 1 else 0 := by
  have once := accounted.once request
  unfold places Holds at once ⊢
  cases step with
  | refuse =>
    grind
  | accept =>
    grind
  | @create sent isSending =>
    -- What is being sent is in no promise and has not been called.
    have noPromise := accounted.known sent
    have notCalled := accounted.called sent
    grind [update_apply]
  | call =>
    grind
  | @complete called isCalling =>
    have notReady :
        (requests.promises called).map (fun _ => PromiseState.complete) ≠ some .ready := by
      cases requests.promises called <;> simp
    grind [update_apply]
  | erase => grind [update_apply]

theorem known_step (step : RequestStep requests after) (request : Nat)
    (isKnown : after.promises request ≠ none) :
    request < after.tests.length ∧ after.sending ≠ some request := by
  have known := accounted.known request
  cases step with
  | refuse =>
    rw [length_append]
    exact ⟨Nat.lt_add_right 1 (known isKnown).1, (known isKnown).2⟩
  | accept =>
    rw [length_append]
    refine ⟨Nat.lt_add_right 1 (known isKnown).1, fun same => ?_⟩
    exact absurd (Option.some.inj same) (known isKnown).1.ne'
  | @create sent isSending =>
    refine ⟨?_, Option.some_ne_none _ ∘ Eq.symm⟩
    by_cases same : request = sent
    · have once := accounted.once sent
      rw [places, if_pos isSending] at once
      grind
    · dsimp only at isKnown
      rw [update_of_ne same] at isKnown
      exact (known isKnown).1
  | call => exact known isKnown
  | @complete called _ | @erase called _ _ =>
    refine known fun isNone => isKnown ?_
    dsimp only
    by_cases same : request = called
    · subst same
      simp [isNone]
    · rw [update_of_ne same, isNone]

theorem called_step (step : RequestStep requests after) (request : Nat)
    (isCalling : after.calling = some request) : request ∈ after.invoked.map Prod.fst := by
  have called := accounted.called request
  cases step with
  | refuse =>
    rw [map_append]
    exact mem_append_left _ (called isCalling)
  | accept | create => exact called isCalling
  | call =>
    cases isCalling
    rw [map_append]
    exact mem_append_right _ mem_cons_self
  | complete | erase => cases isCalling

theorem refused_step (step : RequestStep requests after) (request : Nat) :
    (request, .clientNotRunning) ∈ after.invoked ↔ after.tests[request]? = some false := by
  have refused := accounted.refused request
  cases step with
  | refuse | call =>
    grind
  | accept =>
    grind
  | create | complete | erase => exact refused

theorem step (step : RequestStep requests after) : after.Accounted where
  once := accounted.once_step step
  known := accounted.known_step step
  called := accounted.called_step step
  refused := accounted.refused_step step

theorem count_le (request : Nat) : (requests.invoked.map Prod.fst).count request ≤ 1 :=
  calc (requests.invoked.map Prod.fst).count request
      ≤ requests.places request := Nat.le_add_left ..
    _ = if request < requests.tests.length then 1 else 0 := accounted.once request
    _ ≤ 1 := by split <;> decide

theorem count_eq {request : Nat} (isSent : request < requests.tests.length)
    (notSending : requests.sending = none) (noPromise : requests.promises request = none) :
    (requests.invoked.map Prod.fst).count request = 1 := by
  have notHeld : ¬ requests.Holds request := by
    intro holds
    rw [Holds, noPromise] at holds
    cases holds.1
  have once := accounted.once request
  rw [places, notSending, if_neg (Option.some_ne_none request ∘ Eq.symm),
    if_neg notHeld, if_pos isSent, Nat.zero_add] at once
  exact once

end Requests.Accounted

/-! ## The requests of a client -/

def sendingOf : List Frame → Option Nat
  | .sendQuery request :: _ => some request
  | _ => none

/-- The request whose function has been called on the thread of `run`. -/
def callingOf (run : Option RunFrame) : Option Nat :=
  match run.bind RunFrame.activity with
  | some (.settle request) | some (.erase request) => some request
  | _ => none

def State.requests (state : State) : Requests where
  sending := sendingOf (state.frames runThread)
  promises request := (state.handlers.find? request).map Handler.promise
  calling := callingOf state.run
  invoked := state.invoked
  tests := state.tests

theorem sendingOf_of_onlyCallbacks {frames : List Frame} (only : OnlyCallbacks frames) :
    sendingOf frames = none := by
  cases frames with
  | nil => rfl
  | cons top rest =>
    obtain ⟨callback, rfl⟩ := only top mem_cons_self
    rfl

section Steps

variable {state after : State} {thread : ThreadId} {event : Event}

theorem sendingOf_setFrames {frames : List Frame}
    (same : sendingOf frames = sendingOf (state.frames thread)) :
    sendingOf (state.setFrames thread frames runThread) = sendingOf (state.frames runThread) := by
  by_cases own : thread = runThread
  · subst own
    rw [setFrames_self, same]
  · rw [setFrames_runThread own]

theorem Consistent.sendingOf_rest {top : Frame} {rest : List Frame} (consistent : Consistent state)
    (isTop : state.frames thread = top :: rest) : sendingOf rest = none := by
  have callers := consistent.callers thread
  rw [isTop] at callers
  exact sendingOf_of_onlyCallbacks callers

theorem UserStep.requests (consistent : Consistent state) (step : UserStep state thread after) :
    after.requests = state.requests := by
  cases step with
  | call inUserCode isCall =>
    refine Requests.ext (sendingOf_setFrames ?_) rfl rfl rfl rfl
    rw [sendingOf_of_onlyCallbacks (consistent.frames_of_inUserCode inUserCode)]
    cases isCall <;> rfl
  | returnCallback isTop =>
    refine Requests.ext (sendingOf_setFrames ?_) rfl rfl rfl rfl
    rw [consistent.sendingOf_rest isTop, isTop]
    rfl

theorem promises_modify {request : Nat} {change : Handler → Handler}
    (kept : ∀ handler, (change handler).promise = handler.promise) :
    (fun other => ((state.handlers.modify request change).find? other).map Handler.promise) =
      fun other => (state.handlers.find? other).map Handler.promise := by
  funext other
  rw [OrderedMap.find?_modify]
  split
  · rw [Option.map_map]
    exact congrArg (Option.map · _) (funext kept)
  · rfl

theorem dispatched_promise (messages : List Message) (handler : Handler) :
    (handler.dispatched messages).promise = handler.promise := by
  rw [Handler.dispatched]
  split <;> rfl

theorem CallStep.requests (consistent : Consistent state) (accounted : state.requests.Accounted)
    (harmless : Harmless state) (contained : Contained state (.call thread))
    (step : CallStep state thread after) :
    after.requests = state.requests ∨ RequestStep state.requests after.requests := by
  -- Another thread is not in a function of the actor.
  have ownThread {top : Frame} {rest : List Frame} (isTop : state.frames thread = top :: rest)
      (uses : top.usesActor = true) :
      thread = runThread := by
    by_contra other
    rw [harmless.outside thread other top (top_mem isTop)] at uses
    cases uses
  cases step with
  | stop isTop | unlock isTop | dispatch isTop | exportNothing isTop
  | exportDb isTop =>
    left
    refine Requests.ext (sendingOf_setFrames ?_) ?_ rfl rfl rfl
    · rw [consistent.sendingOf_rest isTop, isTop]
      rfl
    · first | rfl | exact promises_modify (dispatched_promise _)
  | lock isTop | store isTop | exportSession isTop | exportUse isTop =>
    left
    refine Requests.ext (sendingOf_setFrames ?_) rfl rfl rfl rfl
    rw [isTop]
    rfl
  | exportRead isTop =>
    left
    refine Requests.ext (sendingOf_setFrames ?_) rfl rfl rfl rfl
    rw [isTop, State.afterRead]
    split
    · rfl
    · exact consistent.sendingOf_rest isTop
  | sendQueryAborts | dispatchAborts | exportAborts => exact .inl rfl
  | sendRefused isTop =>
    refine .inr (RequestStep.refuse.congr (Requests.ext (sendingOf_setFrames ?_) rfl rfl rfl rfl))
    rw [isTop]
    rfl
  | @sendAccepted actor rest isTop isSet =>
    -- The test of another thread would have found no actor.
    have own : thread = runThread := by
      by_contra other
      have isNone := contained thread .send rest rfl other isTop rfl
      rw [isNone] at isSet
      cases isSet
    subst own
    have notSending : sendingOf (state.frames runThread) = none := by
      rw [isTop]
      rfl
    refine .inr ((RequestStep.accept notSending).congr (Requests.ext ?_ rfl rfl rfl rfl))
    dsimp only [State.requests]
    rfl
  | @sendQuery request rest isTop isOwn _ =>
    subst isOwn
    have isSending : sendingOf (state.frames runThread) = some request := by
      rw [isTop]
      rfl
    have absent : state.handlers.find? request = none := by
      by_contra found
      refine (accounted.known request fun isNone => ?_).2 isSending
      exact found (Option.map_eq_none_iff.mp isNone)
    refine .inr ((RequestStep.create isSending).congr
      (Requests.ext ?_ (funext fun other => ?_) rfl rfl rfl))
    · dsimp only [State.requests]
      rfl
    · change
        ((state.handlers.emplace request {}).find? other).map Handler.promise =
          update state.requests.promises request _ other
      rw [OrderedMap.find?_emplace absent, update_apply]
      split <;> rfl

theorem promises_of_handler {request : Nat} {handler : Handler}
    (isHandler : state.handlers.find? request = some handler) (isReady : handler.promise = .ready) :
    state.requests.promises request = some .ready := by
  change (state.handlers.find? request).map Handler.promise = _
  rw [isHandler, ← isReady]
  rfl

theorem PointStep.requests {point : RunPoint} (runs : state.run = some { point := point })
    (sameSending : sendingOf (after.frames runThread) = sendingOf (state.frames runThread))
    (step : PointStep state point after) :
    after.requests = state.requests := by
  have notCalling : callingOf state.run = none := by
    rw [runs]
    rfl
  cases step with
  | passAborts | leftInPool | stopClient => rfl
  | _ => exact Requests.ext sameSending rfl notCalling.symm rfl rfl

theorem EventStep.requests {left : Nat} (runs : state.run = some { point := .runMain (left + 1) })
    (sameSending : sendingOf (after.frames runThread) = sendingOf (state.frames runThread))
    (step : EventStep state left after) :
    after.requests = state.requests ∨ RequestStep state.requests after.requests := by
  have notCalling : callingOf state.run = none := by
    rw [runs]
    rfl
  cases step with
  | checkAborts | authManagerAborts => exact .inl rfl
  | start =>
    refine .inl (Requests.ext sameSending rfl ?_ rfl rfl)
    change callingOf _ = callingOf state.run
    rw [notCalling]
    split <;> rfl
  | startHandler =>
    exact .inl (Requests.ext sameSending (promises_modify fun _ => rfl) notCalling.symm rfl rfl)
  | @onResult request handler result rest isHandler _ isReady =>
    have ready := promises_of_handler isHandler isReady
    have answered : Outcome.result result ≠ .clientNotRunning := fun isRefused => nomatch isRefused
    exact .inr ((RequestStep.call ready notCalling answered).congr
      (Requests.ext sameSending rfl rfl rfl rfl))
  | _ => exact .inl (Requests.ext sameSending rfl notCalling.symm rfl rfl)

theorem promises_erase (request : Nat) :
    (fun other => ((state.handlers.erase request).find? other).map Handler.promise) =
      Function.update state.requests.promises request none := by
  funext other
  rw [OrderedMap.find?_erase, update_apply]
  split <;> rfl

theorem ActivityStep.requests {point : RunPoint} {activity : Activity}
    (runs : state.run = some { point := point, activity := some activity })
    (sameSending : sendingOf (after.frames runThread) = sendingOf (state.frames runThread))
    (step : ActivityStep state point activity after) :
    after.requests = state.requests ∨ RequestStep state.requests after.requests := by
  have calling : state.requests.calling = callingOf (some ⟨point, activity⟩) :=
    congrArg callingOf runs
  cases step with
  | dispatchAborts => exact .inl rfl
  | dispatch => exact .inl (Requests.ext sameSending rfl calling.symm rfl rfl)
  | @settle request =>
    refine .inr ((RequestStep.complete calling).congr
      (Requests.ext sameSending (funext fun other => ?_) rfl rfl rfl))
    change
      ((state.handlers.modify request _).find? other).map Handler.promise =
        update state.requests.promises request _ other
    rw [OrderedMap.find?_modify, update_apply]
    split
    case isTrue same =>
      subst same
      simp [State.requests, comp_def]
    case isFalse => rfl
  | @destroyReady request handler isHandler isReady =>
    have ready := promises_of_handler isHandler isReady
    have lost : Outcome.lostPromise ≠ .clientNotRunning := fun isRefused => nomatch isRefused
    exact .inr ((RequestStep.call ready calling lost).congr
      (Requests.ext sameSending rfl rfl rfl rfl))
  | @destroyComplete request allComplete =>
    refine .inr ((RequestStep.erase (.inl calling) fun ready => ?_).congr
      (Requests.ext sameSending (promises_erase request) rfl rfl rfl))
    obtain ⟨handler, isHandler, isReady⟩ := Option.map_eq_some_iff.mp ready
    rw [allComplete handler isHandler] at isReady
    cases isReady
  | @erase request =>
    exact .inr ((RequestStep.erase (.inr calling) fun _ => calling).congr
      (Requests.ext sameSending (promises_erase request) rfl rfl rfl))

theorem NetworkStep.requests (step : NetworkStep state after) :
    after.requests = state.requests := by
  cases step with
  | answer | drop => exact Requests.ext rfl (promises_modify fun _ => rfl) rfl rfl rfl
  | message => rfl

theorem Step.requests (consistent : Consistent state) (accounted : state.requests.Accounted)
    (harmless : Harmless state) (contained : Contained state event)
    (step : Step state event after) :
    after.requests = state.requests ∨ RequestStep state.requests after.requests := by
  cases step with
  | beginRun _ notRunning _ =>
    refine .inl (Requests.ext rfl rfl ?_ rfl rfl)
    change none = callingOf state.run
    rw [notRunning]
    rfl
  | user _ step => exact .inl (step.requests consistent)
  | call _ step => exact step.requests consistent accounted harmless contained
  | own _ noFrames step =>
    have sameSending : sendingOf (after.frames runThread) = sendingOf (state.frames runThread) := by
      rcases step.frames with same | ⟨frames, called, only⟩
      · rw [same]
      · rw [called, setFrames_self, noFrames]
        exact sendingOf_of_onlyCallbacks only
    cases step with
    | point runs step => exact .inl (step.requests runs sameSending)
    | event runs step | activity runs step => exact step.requests runs sameSending
  | network _ _ _ step => exact .inl step.requests

end Steps

variable {hasUpdateHandler hasAuthStateHandler : Bool} {events : List Event} {reached : State}

theorem ReachesContained.accounted
    (reaches : ReachesContained hasUpdateHandler hasAuthStateHandler events reached) :
    reached.requests.Accounted := by
  induction reaches with
  | start =>
    refine ⟨fun _ => rfl, ?_, ?_, ?_⟩
    · exact fun _ isKnown => absurd rfl isKnown
    · exact fun _ isCalling => nomatch isCalling
    · exact fun _ => ⟨fun isInvoked => (nomatch isInvoked), fun isTest => (nomatch isTest)⟩
  | extend before step accounted =>
    have consistent := (ReachesContained.reaches before).consistent
    have harmless := ReachesContained.harmless before
    rcases step.2.requests consistent accounted harmless step.1 with
      same | changed
    · rw [same]
      exact accounted
    · exact accounted.step changed

/-! ## Calling back -/

/-- There is an actor for the event loop, which has not been left. -/
def State.HasLoop (state : State) : Prop :=
  ∃ frame, state.run = some frame ∧ frame.point.hasActorRaw = true

section Returned

variable {state : State} (consistent : Consistent state)

include consistent

theorem Consistent.actorRaw_isSome : state.actorRaw.isSome = true ↔ state.HasLoop := by
  rw [consistent.actorRaw, expectedActorRaw, State.HasLoop]
  cases state.run with
  | none => simp
  | some frame => cases frame.point.hasActorRaw <;> simp

theorem Consistent.sending_of_returned (returned : state.run = none) :
    state.requests.sending = none := by
  have isNone : state.actorRaw = none := by rw [consistent.actorRaw, expectedActorRaw, returned]
  change sendingOf (state.frames runThread) = none
  cases isFrames : state.frames runThread with
  | nil => rfl
  | cons top rest =>
    have notSending := consistent.uses top (top_mem isFrames)
    cases top with
    | sendQuery => exact absurd isNone (notSending rfl)
    | _ => rfl

/-- Outside of `run` no promise is left. -/
theorem Consistent.promises_of_returned (returned : state.run = none) (request : Nat) :
    state.requests.promises request = none := by
  have noHandlers := consistent.handlers fun frame runs => nomatch returned.symm.trans runs
  refine Option.map_eq_none_iff.mpr ?_
  cases found : state.handlers.find? request with
  | none => rfl
  | some handler =>
    rw [OrderedMap.size_erase found] at noHandlers
    cases noHandlers

end Returned

theorem Consistent.runsActors {state : State} {frame : Frame} (consistent : Consistent state)
    (isFrame : frame ∈ state.frames runThread) (uses : frame.usesActor = true) :
    state.RunsActors := by
  have isSome := Option.isSome_iff_ne_none.mpr (consistent.uses frame isFrame uses)
  obtain ⟨⟨point, activity⟩, runs, hasActorRaw⟩ := consistent.actorRaw_isSome.mp isSome
  have callsUser := consistent.calls _ runs (ne_nil_of_mem isFrame)
  rw [State.RunsActors, runs]
  -- The user's functions are also called when the actors are stopped.
  cases point with
  | runMain => rfl
  | stopActors => cases hasActorRaw
  | _ => cases callsUser

theorem ReachesContained.aborted_ne_noContext
    (reaches : ReachesContained hasUpdateHandler hasAuthStateHandler events reached)
    (thread : ThreadId) : reached.aborted ≠ some (.noContext thread) := by
  cases reaches with
  | start => exact fun isAborted => nomatch isAborted
  | extend before step =>
    have consistent := (ReachesContained.reaches before).consistent
    have harmless := ReachesContained.harmless before
    intro isAborted
    rcases step.2.aborts with isNone | ⟨abort, isSome, reason⟩
    · exact nomatch isNone.symm.trans isAborted
    · cases isSome.symm.trans isAborted
      cases reason with
      | noContext isTop noContext =>
        refine noContext ?_
        by_cases own : thread = runThread
        · subst own
          exact ⟨rfl, consistent.runsActors (top_mem isTop) rfl⟩
        · cases harmless.outside thread own _ (top_mem isTop)

/-- The first step of a call of `send`. -/
def Event.BeginsSend (state : State) (event : Event) : Prop :=
  ∃ thread rest, event = .call thread ∧ state.frames thread = .send :: rest

theorem Step.tests {state after : State} {event : Event} (step : Step state event after) :
    ¬ event.BeginsSend state ∧ after.tests = state.tests ∨
      event.BeginsSend state ∧ after.tests = state.tests ++ [state.actorRaw.isSome] := by
  have otherCall {thread : ThreadId} {top : Frame} {rest : List Frame}
      (isTop : state.frames thread = top :: rest) (differs : top ≠ .send) :
      ¬ Event.BeginsSend state (.call thread) := by
    rintro ⟨_, others, ⟨⟩, isSend⟩
    exact differs (cons.inj (isTop.symm.trans isSend)).1
  cases step with
  | beginRun => exact .inl ⟨nofun, rfl⟩
  | user _ step | network _ _ _ step => cases step <;> exact .inl ⟨nofun, rfl⟩
  | call _ step =>
    cases step with
    | sendRefused isTop isNone => exact .inr ⟨⟨_, _, rfl, isTop⟩, by rw [isNone]; rfl⟩
    | sendAccepted isTop isSome => exact .inr ⟨⟨_, _, rfl, isTop⟩, by rw [isSome]; rfl⟩
    | stop isTop | lock isTop | store isTop | unlock isTop | sendQuery isTop
    | sendQueryAborts isTop | dispatch isTop | dispatchAborts isTop | exportNothing isTop
    | exportSession isTop | exportUse isTop | exportAborts isTop | exportRead isTop
    | exportDb isTop => exact .inl ⟨otherCall isTop nofun, rfl⟩
  | own _ _ step =>
    cases step with
    | point _ step | event _ step | activity _ step => cases step <;> exact .inl ⟨nofun, rfl⟩

/--
In every run in which other threads only call `send` without an event loop, no
callback is called twice, and outside of `run` each has been called, with the
error of a client that is not running exactly if the call of `send` found no
event loop. No call aborts for want of a context.
-/
theorem callbacks_called_once
    {hasUpdateHandler hasAuthStateHandler : Bool}
    {events : List Event}
    {reached : State}
    (reaches : ReachesContained hasUpdateHandler hasAuthStateHandler events reached) :
    (∀ request, (reached.invoked.map Prod.fst).count request ≤ 1) ∧ (reached.run = none →
        ∀ request < reached.tests.length, (reached.invoked.map Prod.fst).count request = 1) ∧
      (∀ request,
        (request, .clientNotRunning) ∈ reached.invoked ↔ reached.tests[request]? = some false) ∧
      (∀ event after, Step reached event after →
        ¬ event.BeginsSend reached ∧ after.tests = reached.tests ∨
          event.BeginsSend reached ∧ ∃ found, after.tests = reached.tests ++ [found] ∧
            (found = true ↔ reached.HasLoop)) ∧
      ∀ thread, reached.aborted ≠ some (.noContext thread) := by
  have consistent := reaches.reaches.consistent
  have accounted := reaches.accounted
  refine ⟨accounted.count_le, fun returned request isSent => ?_,
    accounted.refused, fun event after step => ?_,
    reaches.aborted_ne_noContext⟩
  · exact accounted.count_eq isSent (consistent.sending_of_returned returned)
      (consistent.promises_of_returned returned request)
  · rcases step.tests with same | ⟨begins, tested⟩
    · exact .inl same
    · exact .inr ⟨begins, _, tested, consistent.actorRaw_isSome⟩

/-! ## A request that is lost with the client -/

/-- Whether a call of another thread goes on. -/
def Event.isForeignCall : Event → Bool
  | .call thread => thread ≠ runThread
  | _ => false

/-- A run without calls of other threads. -/
theorem Reaches.contained (reaches : Reaches hasUpdateHandler hasAuthStateHandler events reached)
    (ownCalls : events.any Event.isForeignCall = false) :
    ReachesContained hasUpdateHandler hasAuthStateHandler events reached := by
  induction reaches with
  | start => exact .start
  | @extend events _ _ event _ step ih =>
    rw [any_append, Bool.or_eq_false_iff] at ownCalls
    refine (ih ownCalls.1).extend ⟨?_, step⟩
    rintro thread top rest rfl other
    have own : thread = runThread := by simpa [Event.isForeignCall] using ownCalls.2
    exact absurd own other

/--
A request of the update handler is dispatched, and the client is stopped before
there is an answer.
-/
theorem callbacks_called_once_of_lost : ∃ events reached,
      ReachesContained true true events reached ∧ reached.run = none ∧ reached.tests = [true] ∧
        (reached.invoked.map Prod.fst).count 0 = 1 := by
  have loops := reaches_looping 2
  have updated := loops.network (.message rfl (.inl rfl)) rfl rfl rfl
  have started := updated.event (.start AuthManager.exampleEnvironment .none rfl rfl) rfl rfl rfl
  have called := started.event (.onUpdate rfl rfl) rfl rfl rfl
  have sends := called.begin runThread .send trivial rfl
  have accepted := sends.call runThread (.sendAccepted rfl rfl) rfl
  have created := accepted.call runThread (.sendQuery rfl rfl rfl) rfl
  have completes : stoppedDispatching.dispatch (requestQuery 0) = .ok _ := rfl
  have dispatched := created.call runThread (.dispatch rfl completes) rfl
  have stops := dispatched.begin runThread .stop trivial rfl
  have stopped := stops.call runThread (.stop rfl) rfl
  have returned := stopped.returns runThread rfl rfl
  have picked := returned.picksNothing rfl rfl (fun _ => rfl) rfl rfl
  have left := picked.leavesLoop rfl rfl rfl rfl
  have noClient := left.point (.stopClient rfl) rfl rfl rfl
  have destroys := noClient.point (@PointStep.stopHandler _ 0 _ rfl) rfl rfl rfl
  have called := destroys.activity (.destroyReady rfl rfl) rfl rfl rfl
  have calledBack := called.returns runThread rfl rfl
  have erased := calledBack.activity .erase rfl rfl rfl
  have noActors := erased.point (.stopped rfl rfl) rfl rfl rfl
  have finished := noActors.point (.atFinish rfl) rfl rfl rfl
  have reset := finished.point .reset rfl rfl rfl
  have reaches := Reaches.contained reset rfl
  exact ⟨_, _, reaches, rfl, rfl, (callbacks_called_once reaches).2.1 rfl 0 Nat.one_pos⟩

theorem actor_exists_where_used
    {hasUpdateHandler hasAuthStateHandler : Bool}
    {events : List Event}
    {reached : State}
    (reaches : Reaches hasUpdateHandler hasAuthStateHandler events reached) :
    (reached.actorRaw ≠ none → reached.actor ≠ none) ∧
      (∀ frame, reached.run = some frame → reached.frames runThread ≠ [] →
        frame.point.callsUser = true) ∧
      ∀ thread, OnlyCallbacks (reached.frames thread).tail := by
  have consistent := reaches.consistent
  refine ⟨?_, consistent.calls, consistent.callers⟩
  intro isSet
  obtain ⟨frame, runs, hasActorRaw⟩ :=
    consistent.actorRaw_isSome.mp (Option.isSome_iff_ne_none.mpr isSet)
  refine consistent.actor frame runs ?_
  revert hasActorRaw
  cases frame.point <;> intro hasActorRaw <;> first | rfl | cases hasActorRaw

theorem looping_client_has_actor : (looping 0).actor ≠ none :=
  (actor_exists_where_used (reaches_looping 0)).1 nofun

end Autoproto.PublicClient
