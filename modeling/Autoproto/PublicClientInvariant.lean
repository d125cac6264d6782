import Autoproto.PublicClient

namespace Autoproto.PublicClient

open List

/-!
# What holds of a client in every run

The functions of the user are only called while the scheduler handles events or
stops its actors, and never below another function of the client.  The pointer
to the actor is set from the creation of the actor to the end of the loop.
-/

/-- Only functions of the user. -/
def OnlyCallbacks (frames : List Frame) : Prop :=
  ∀ frame ∈ frames, ∃ callback, frame = .callback callback

/-- The pointer to the actor at a point of `run`. -/
def expectedActorRaw (state : State) : Option Nat :=
  match state.run with
  | some frame => if frame.point.hasActorRaw then some state.actors else none
  | none => none

/-- Where an actor can be doing something. -/
def Activity.FitsAt (point : RunPoint) : Activity → Prop
  | .dispatch _ => point.callsUser = true ∨ ∃ credential, point = .afterPicking credential
  | _ => point.callsUser = true

/-- Where the `MtprotoClient` exists. -/
def RunPoint.hasActor : RunPoint → Bool
  | createActor | stopActors | atFinish | reset => false
  | _ => true

/-- Where requests can be waiting for their answers. -/
def RunPoint.hasHandlers : RunPoint → Bool
  | createActor | setActorRaw | setHandlers | start | storeRunning | atFinish
  | reset => false
  | _ => true

/-- A frame that was entered because the pointer to the actor was set. -/
def Frame.usesActor : Frame → Bool
  | .sendQuery _ | .dispatch _ | .exportUse | .exportRead _ | .exportDb _ => true
  | _ => false

structure Consistent (state : State) : Prop where
  /-- A function of the client is only called from the user's code. -/
  callers : ∀ thread, OnlyCallbacks (state.frames thread).tail
  calls :
    ∀ frame, state.run = some frame → state.frames runThread ≠ [] → frame.point.callsUser = true
  fits : ∀ point activity,
      state.run = some { point := point, activity := some activity } → activity.FitsAt point
  actorRaw : state.actorRaw = expectedActorRaw state
  actor : ∀ frame, state.run = some frame → frame.point.hasActor = true → state.actor ≠ none
  handlers :
    (∀ frame, state.run = some frame → frame.point.hasHandlers = false) → state.handlers.size = 0
  uses : ∀ frame ∈ state.frames runThread, frame.usesActor = true → state.actorRaw ≠ none

theorem notifications_checkCredential (actor : Actor) (credential : Credential) (text : Bytes)
    (manager : AuthManager) :
    State.notifications actor manager (checkCredential credential text manager) = [] := by
  have sameNotified : (checkCredential credential text manager).notified = manager.notified := by
    cases credential <;> rfl
  rw [State.notifications, sameNotified, drop_length]
  exact ite_self _

theorem onlyCallbacks_notifications (actor : Actor) (before after : AuthManager) :
    OnlyCallbacks (State.notifications actor before after) := by
  intro frame isFrame
  rw [State.notifications] at isFrame
  split at isFrame
  case isTrue =>
    obtain ⟨notified, _, rfl⟩ := mem_map.mp isFrame
    exact ⟨_, rfl⟩
  case isFalse => cases isFrame

section Steps

variable {state after : State} {thread : ThreadId} {event : Event}

/-! ## What the steps leave alone -/

/-- What a function of the client, or of the user, does not change. -/
structure SameRun (state after : State) : Prop where
  run : after.run = state.run
  actors : after.actors = state.actors
  actor : after.actor = state.actor
  actorRaw : after.actorRaw = state.actorRaw

theorem UserStep.sameRun (step : UserStep state thread after) : SameRun state after := by
  cases step <;> exact ⟨rfl, rfl, rfl, rfl⟩

theorem CallStep.sameRun (step : CallStep state thread after) : SameRun state after := by
  cases step <;> exact ⟨rfl, rfl, rfl, rfl⟩

theorem CallStep.frames (step : CallStep state thread after) : ∃ top rest,
      state.frames thread = top :: rest ∧
        (after.frames = state.frames ∨ after.frames = state.setFrames thread rest ∨ ∃ frame,
            after.frames = state.setFrames thread (frame :: rest) ∧ (frame.usesActor = true →
                top.usesActor = true ∨ top.testsActor = true ∧ state.actorRaw ≠ none)) := by
  cases step with
  | exportRead isTop =>
    refine ⟨_, _, isTop, .inr ?_⟩
    rw [State.afterRead]
    split
    · exact .inr ⟨_, rfl, fun _ => .inl rfl⟩
    · exact .inl rfl
  | stop isTop | unlock isTop | dispatch isTop | exportNothing isTop
  | exportDb isTop => exact ⟨_, _, isTop, .inr (.inl rfl)⟩
  | lock isTop | store isTop | sendRefused isTop =>
    exact ⟨_, _, isTop, .inr (.inr ⟨_, rfl, fun uses => nomatch uses⟩)⟩
  | sendQuery isTop | exportUse isTop =>
    exact ⟨_, _, isTop, .inr (.inr ⟨_, rfl, fun _ => .inl rfl⟩)⟩
  | sendAccepted isTop isSet | exportSession isTop isSet =>
    refine ⟨_, _, isTop, .inr (.inr ⟨_, rfl, fun _ => .inr ⟨rfl, ?_⟩⟩)⟩
    rw [isSet]
    exact Option.some_ne_none _
  | sendQueryAborts isTop | dispatchAborts isTop | exportAborts isTop =>
    exact ⟨_, _, isTop, .inl rfl⟩

theorem OwnStep.frames (step : OwnStep state after) : after.frames = state.frames ∨
      ∃ frames, after.frames = state.setFrames runThread frames ∧ OnlyCallbacks frames := by
  cases step with
  | point _ step =>
    cases step with
    | passNow => exact .inr ⟨_, rfl, onlyCallbacks_notifications _ _ _⟩
    | _ => exact .inl rfl
  | event _ step =>
    cases step with
    | start | check | authManager => exact .inr ⟨_, rfl, onlyCallbacks_notifications _ _ _⟩
    | onUpdate =>
      refine .inr ⟨_, rfl, ?_⟩
      split <;> simp [OnlyCallbacks]
    | onResult => exact .inr ⟨_, rfl, by simp [OnlyCallbacks]⟩
    | _ => exact .inl rfl
  | activity _ step =>
    cases step with
    | destroyReady => exact .inr ⟨_, rfl, by simp [OnlyCallbacks]⟩
    | _ => exact .inl rfl

theorem NetworkStep.sameFrames (step : NetworkStep state after) :
    after.frames = state.frames ∧ after.run = state.run := by
  cases step <;> exact ⟨rfl, rfl⟩

/-! ## The invariant -/

@[simp] theorem setFrames_self (frames : List Frame) :
    state.setFrames thread frames thread = frames :=
  Function.update_self ..

variable {frames : List Frame} {rest : List Frame}

theorem callers_setFrames (callers : ∀ thread, OnlyCallbacks (state.frames thread).tail)
    (new : OnlyCallbacks frames.tail) (other : ThreadId) :
    OnlyCallbacks (state.setFrames thread frames other).tail := by
  by_cases same : other = thread
  · subst same
    rw [setFrames_self]
    exact new
  · rw [State.setFrames, Function.update_of_ne same]
    exact callers other

theorem OnlyCallbacks.tail (only : OnlyCallbacks frames) : OnlyCallbacks frames.tail :=
  fun frame isFrame => only frame (mem_of_mem_tail isFrame)

theorem Consistent.frames_of_inUserCode (consistent : Consistent state)
    (inUserCode : state.InUserCode thread) : OnlyCallbacks (state.frames thread) := by
  have callers := consistent.callers thread
  rw [State.InUserCode] at inUserCode
  split at inUserCode
  case h_1 callback rest isTop =>
    rw [isTop] at callers ⊢
    intro frame isFrame
    rcases mem_cons.mp isFrame with rfl | isFrame
    · exact ⟨callback, rfl⟩
    · exact callers frame isFrame
  case h_2 isEmpty =>
    rw [isEmpty]
    exact fun _ isFrame => nomatch isFrame
  case h_3 => exact inUserCode.elim

theorem Consistent.callers_step (consistent : Consistent state) (step : Step state event after) :
    ∀ thread, OnlyCallbacks (after.frames thread).tail := by
  cases step with
  | beginRun => exact consistent.callers
  | @user thread _ _ step =>
    cases step with
    | call inUserCode _ =>
      exact callers_setFrames consistent.callers (consistent.frames_of_inUserCode inUserCode)
    | @returnCallback callback rest isTop =>
      have callers := consistent.callers
      refine callers_setFrames callers (OnlyCallbacks.tail ?_)
      have only := callers thread
      rw [isTop] at only
      exact only
  | @call thread _ _ step =>
    obtain ⟨top, rest, isTop, changes⟩ := step.frames
    have only := consistent.callers thread
    rw [isTop] at only
    rcases changes with same | popped | ⟨frame, replaced, _⟩
    · rw [same]
      exact consistent.callers
    · rw [popped]
      exact callers_setFrames consistent.callers (OnlyCallbacks.tail only)
    · rw [replaced]
      exact callers_setFrames consistent.callers only
  | own _ _ step =>
    rcases step.frames with same | ⟨frames, called, only⟩
    · rw [same]
      exact consistent.callers
    · rw [called]
      exact callers_setFrames consistent.callers only.tail
  | network _ _ _ step =>
    rw [step.sameFrames.1]
    exact consistent.callers

theorem setFrames_runThread (other : thread ≠ runThread) :
    state.setFrames thread frames runThread = state.frames runThread := by
  rw [State.setFrames, Function.update_of_ne other.symm]

theorem Consistent.calls_step (consistent : Consistent state) (step : Step state event after) :
    ∀ frame,
      after.run = some frame → after.frames runThread ≠ [] → frame.point.callsUser = true := by
  intro frame runs called
  cases step with
  | beginRun _ _ noFrames => exact absurd noFrames called
  | @user thread _ _ step =>
    have before : state.run = some frame := by
      rw [← step.sameRun.run]
      exact runs
    refine consistent.calls frame before fun noFrames => ?_
    cases step with
    | call inUserCode _ =>
      by_cases own : thread = runThread
      · rw [State.InUserCode, own, noFrames] at inUserCode
        rw [inUserCode rfl] at before
        cases before
      · exact called ((setFrames_runThread own).trans noFrames)
    | returnCallback isTop =>
      by_cases own : thread = runThread
      · rw [own, noFrames] at isTop
        cases isTop
      · exact called ((setFrames_runThread own).trans noFrames)
  | @call thread _ _ step =>
    have before : state.run = some frame := by
      rw [← step.sameRun.run]
      exact runs
    refine consistent.calls frame before fun noFrames => ?_
    obtain ⟨top, rest, isTop, changes⟩ := step.frames
    by_cases own : thread = runThread
    · rw [own, noFrames] at isTop
      cases isTop
    · refine called ?_
      rcases changes with same | popped | ⟨_, replaced, _⟩
      · rw [same, noFrames]
      · rw [popped, setFrames_runThread own, noFrames]
      · rw [replaced, setFrames_runThread own, noFrames]
  | own _ noFrames step =>
    cases step with
    | point _ step =>
      cases step with
      | passNow =>
        refine absurd ?_ called
        dsimp only
        rw [notifications_checkCredential, setFrames_self]
      | _ => exact absurd noFrames called
    | event isPoint step =>
      cases step with
      | checkAborts | authManagerAborts =>
        cases isPoint.symm.trans runs
        rfl
      | _ =>
        cases runs
        rfl
    | activity isActive step =>
      cases step with
      | destroyReady =>
        cases runs
        exact consistent.fits _ _ isActive
      | _ => exact absurd noFrames called
  | network _ _ _ step =>
    obtain ⟨sameFrames, sameRun⟩ := step.sameFrames
    rw [sameFrames] at called
    rw [sameRun] at runs
    exact consistent.calls frame runs called

theorem Consistent.fits_step (consistent : Consistent state) (step : Step state event after) :
    ∀ point activity,
      after.run = some { point := point, activity := some activity } → activity.FitsAt point := by
  intro point activity active
  cases step with
  | beginRun => cases active
  | user _ step | call _ step =>
    rw [step.sameRun.run] at active
    exact consistent.fits point activity active
  | own _ _ step =>
    cases step with
    | point isPoint step =>
      cases step with
      | passNow =>
        cases active
        exact .inr ⟨_, rfl⟩
      | stopHandler =>
        cases active
        rfl
      | passAborts | leftInPool | stopClient => exact consistent.fits point activity active
      | _ => cases active
    | event isPoint step =>
      cases step with
      | checkAborts | authManagerAborts => exact consistent.fits point activity active
      | start =>
        split at active
        · cases active
        · cases active
          exact .inl rfl
      | check =>
        cases active
        exact .inl rfl
      | onResult | onResultAgain | hangup =>
        cases active
        rfl
      | _ => cases active
    | activity isActive step =>
      cases step with
      | settle | destroyReady =>
        have fits := consistent.fits _ _ isActive
        cases active
        exact fits
      | dispatchAborts => exact consistent.fits point activity active
      | _ => cases active
  | network _ _ _ step =>
    rw [step.sameFrames.2] at active
    exact consistent.fits point activity active

theorem expectedActorRaw_of_run {frame : RunFrame} (runs : state.run = some frame) :
    expectedActorRaw state =
      if frame.point.hasActorRaw then some state.actors else none := by
  rw [expectedActorRaw, runs]

theorem Consistent.actorRaw_step (consistent : Consistent state) (step : Step state event after) :
    after.actorRaw = expectedActorRaw after := by
  have before := consistent.actorRaw
  cases step with
  | beginRun _ notRunning _ =>
    rw [expectedActorRaw, notRunning] at before
    exact before
  | user _ step | call _ step =>
    rw [step.sameRun.actorRaw, before, expectedActorRaw, expectedActorRaw,
      step.sameRun.run, step.sameRun.actors]
  | own _ _ step =>
    cases step with
    | point isPoint step =>
      rw [expectedActorRaw_of_run isPoint] at before
      cases step with
      | passAborts | leftInPool | stopClient => exact consistent.actorRaw
      | @nothingPending credential _ | @passNow credential _ _ _ _
      | @passLater credential _ _ _ => cases credential <;> exact before
      | setActorRaw | clearActorRaw => rfl
      | _ => exact before
    | event isPoint step =>
      rw [expectedActorRaw_of_run isPoint] at before
      cases step with
      | checkAborts | authManagerAborts => exact consistent.actorRaw
      | _ => exact before
    | activity isActive step =>
      rw [expectedActorRaw_of_run isActive] at before
      cases step with
      | dispatchAborts => exact consistent.actorRaw
      | _ => exact before
  | network _ _ _ step => cases step <;> exact before

theorem Consistent.actor_step (consistent : Consistent state) (step : Step state event after) :
    ∀ frame, after.run = some frame → frame.point.hasActor = true → after.actor ≠ none := by
  intro frame runs has
  cases step with
  | beginRun =>
    cases runs
    cases has
  | user _ step | call _ step =>
    rw [step.sameRun.run] at runs
    rw [step.sameRun.actor]
    exact consistent.actor frame runs has
  | own _ _ step =>
    cases step with
    | point isPoint step =>
      have before := consistent.actor _ isPoint
      cases step with
      | createActor | passNow | passLater => exact Option.some_ne_none _
      | setHandlers => exact fun isNone => before rfl (Option.map_eq_none_iff.mp isNone)
      | passAborts | leftInPool => exact consistent.actor frame runs has
      | stopClient =>
        cases isPoint.symm.trans runs
        cases has
      | finish | stopHandler | stopped | atFinish | reset =>
        cases runs
        try cases has
      | _ => exact before rfl
    | event isPoint step =>
      have before := consistent.actor _ isPoint
      cases step with
      | start | onUpdate | check | other | authManager => exact Option.some_ne_none _
      | _ => exact before rfl
    | activity isActive step =>
      have before := consistent.actor _ isActive
      cases step with
      | dispatchAborts => exact consistent.actor frame runs has
      | _ =>
        cases runs
        exact before has
  | network _ isRunning _ step =>
    cases step with
    | message => exact Option.some_ne_none _
    | _ => exact consistent.actor frame runs has

theorem Activity.FitsAt.hasHandlers {point : RunPoint} {activity : Activity}
    (fits : activity.FitsAt point) : point.hasHandlers = true := by
  have ofCallsUser (calls : point.callsUser = true) : point.hasHandlers = true := by
    cases point <;> first | rfl | cases calls
  cases activity with
  | dispatch query =>
    rcases fits with calls | ⟨credential, rfl⟩
    · exact ofCallsUser calls
    · cases credential <;> rfl
  | _ => exact ofCallsUser fits

theorem State.RunsActors.point (runsActors : state.RunsActors) :
    ∃ left activity, state.run = some { point := .runMain left, activity := activity } := by
  rw [State.RunsActors] at runsActors
  cases runs : state.run with
  | none =>
    rw [runs] at runsActors
    cases runsActors
  | some frame =>
    obtain ⟨point, activity⟩ := frame
    rw [runs] at runsActors
    cases point with
    | runMain left => exact ⟨left, activity, rfl⟩
    | _ => cases runsActors

theorem Consistent.handlers_step (consistent : Consistent state) (step : Step state event after)
    (noHandlers : ∀ frame, after.run = some frame → frame.point.hasHandlers = false) :
    after.handlers.size = 0 := by
  have before := consistent.handlers
  cases step with
  | beginRun _ notRunning _ => exact before fun frame runs => nomatch notRunning.symm.trans runs
  | user _ step =>
    cases step <;> exact before noHandlers
  | call _ step =>
    cases step with
    | sendQuery _ _ runsActors =>
      obtain ⟨_, _, runs⟩ := runsActors.point
      cases noHandlers _ runs
    | dispatch =>
      rw [OrderedMap.size_modify]
      exact before noHandlers
    | _ => exact before noHandlers
  | own _ _ step =>
    cases step with
    | point isPoint step =>
      have unlessHandlers {point : RunPoint} (has : point.hasHandlers = false)
          (runs : state.run = some { point := point }) :
          state.handlers.size = 0 := by
        refine before fun frame isFrame => ?_
        cases runs.symm.trans isFrame
        exact has
      cases step with
      | createActor | setActorRaw | setHandlers | start | atFinish
      | reset => exact unlessHandlers rfl isPoint
      | @nothingPending credential | @passNow credential
      | @passLater credential => cases credential <;> cases noHandlers _ rfl
      | stopped _ isEmpty => exact isEmpty
      | passAborts | leftInPool | stopClient => exact before noHandlers
      | _ => cases noHandlers _ rfl
    | event isPoint step =>
      cases step with
      | checkAborts | authManagerAborts => cases noHandlers _ isPoint
      | _ => cases noHandlers _ rfl
    | activity isActive step =>
      have has := (consistent.fits _ _ isActive).hasHandlers
      cases step with
      | dispatchAborts => exact absurd (noHandlers _ isActive) (by simp [has])
      | _ => exact absurd (noHandlers _ rfl) (by simp [has])
  | network _ runs workersRun step =>
    cases step with
    | message => exact before noHandlers
    | _ =>
      rw [OrderedMap.size_modify]
      exact before noHandlers

variable {frame : Frame} {top : Frame}

theorem top_mem (isTop : state.frames thread = top :: rest) : top ∈ state.frames thread := by
  rw [isTop]
  exact mem_cons_self

theorem mem_of_rest (isTop : state.frames thread = top :: rest) (isRest : frame ∈ rest) :
    frame ∈ state.frames thread := by
  rw [isTop]
  exact mem_cons_of_mem top isRest

theorem mem_setFrames {other : ThreadId} (isFrame : frame ∈ state.setFrames thread frames other) :
    (other = thread ∧ frame ∈ frames) ∨ frame ∈ state.frames other := by
  by_cases same : other = thread
  · subst same
    rw [setFrames_self] at isFrame
    exact .inl ⟨rfl, isFrame⟩
  · rw [State.setFrames, Function.update_of_ne same] at isFrame
    exact .inr isFrame

theorem mem_setFrames_rest {other : ThreadId} (isTop : state.frames thread = top :: rest)
    (isFrame : frame ∈ state.setFrames thread rest other) : frame ∈ state.frames other := by
  rcases mem_setFrames isFrame with ⟨rfl, isRest⟩ | isOld
  · exact mem_of_rest isTop isRest
  · exact isOld

theorem Consistent.uses_step (consistent : Consistent state) (step : Step state event after) :
    ∀ frame ∈ after.frames runThread, frame.usesActor = true → after.actorRaw ≠ none := by
  have before := consistent.uses
  cases step with
  | beginRun => exact before
  | user _ step =>
    intro frame isFrame uses
    cases step with
    | call _ isCall =>
      rcases mem_setFrames isFrame with ⟨rfl, isNew⟩ | isOld
      · rcases mem_cons.mp isNew with rfl | isOld
        · cases isCall <;> cases uses
        · exact before frame isOld uses
      · exact before frame isOld uses
    | returnCallback isTop => exact before frame (mem_setFrames_rest isTop isFrame) uses
  | @call thread _ _ step =>
    rw [step.sameRun.actorRaw]
    intro frame isFrame uses
    obtain ⟨top, rest, isTop, changes⟩ := step.frames
    rcases changes with same | popped | ⟨new, replaced, reason⟩
    · rw [same] at isFrame
      exact before frame isFrame uses
    · rw [popped] at isFrame
      exact before frame (mem_setFrames_rest isTop isFrame) uses
    · rw [replaced] at isFrame
      rcases mem_setFrames isFrame with ⟨rfl, isNew⟩ | isOld
      · rcases mem_cons.mp isNew with rfl | isRest
        · rcases reason uses with usesBefore | ⟨_, isSet⟩
          · exact before top (top_mem isTop) usesBefore
          · exact isSet
        · exact before frame (mem_of_rest isTop isRest) uses
      · exact before frame isOld uses
  | own _ noFrames step =>
    intro frame isFrame uses
    rcases step.frames with same | ⟨frames, called, only⟩
    · rw [same, noFrames] at isFrame
      cases isFrame
    · rw [called, setFrames_self] at isFrame
      obtain ⟨callback, rfl⟩ := only frame isFrame
      cases uses
  | network _ _ _ step => cases step <;> exact before

theorem Consistent.step (consistent : Consistent state) (step : Step state event after) :
    Consistent after where
  callers := consistent.callers_step step
  calls := consistent.calls_step step
  fits := consistent.fits_step step
  actorRaw := consistent.actorRaw_step step
  actor := consistent.actor_step step
  handlers := consistent.handlers_step step
  uses := consistent.uses_step step

end Steps

variable {events : List Event} {state after : State} {first : State}

theorem Reaches.consistent {hasUpdateHandler hasAuthStateHandler : Bool} {reached : State}
    (reaches : Reaches hasUpdateHandler hasAuthStateHandler events reached) :
    Consistent reached := by
  refine Transition.Run.invariant reaches ?_
    fun before event after consistent step => consistent.step step
  refine ⟨?_, ?_, ?_, rfl, ?_, fun _ => rfl, ?_⟩
  · exact fun _ _ isFrame => nomatch isFrame
  · exact fun _ runs => nomatch runs
  · exact fun _ _ runs => nomatch runs
  · exact fun _ runs => nomatch runs
  · exact fun _ isFrame => nomatch isFrame

/-! ## Aborts -/

/-- Why a step aborts the process. -/
inductive Aborts (state : State) : Abort → Prop where
  | noContext {thread : ThreadId} {request : Nat} {rest : List Frame} :
      state.frames thread = .sendQuery request :: rest →
      ¬ (thread = runThread ∧ state.RunsActors) →
      Aborts state (.noContext thread)
  | nullDereference {thread : ThreadId} {rest : List Frame} :
      state.frames thread = .exportUse :: rest →
      state.actorRaw = none →
      Aborts state (.nullDereference thread)
  | noAuthManager {actor : Actor} :
      state.actor = some actor →
      actor.mailbox.head? ≠ some .start →
      actor.authManager = none →
      Aborts state .noAuthManager
  | inActor : Aborts state .inActor
  | leftInPool : Aborts state .leftInPool

theorem Step.aborts {event : Event} (step : Step state event after) :
    after.aborted = none ∨ ∃ abort, after.aborted = some abort ∧ Aborts state abort := by
  cases step with
  | beginRun notAborted => exact .inl notAborted
  | user notAborted step | network notAborted _ _ step => cases step <;> exact .inl notAborted
  | call notAborted step =>
    cases step with
    | sendQueryAborts isTop noContext => exact .inr ⟨_, rfl, .noContext isTop noContext⟩
    | exportAborts isTop isNone => exact .inr ⟨_, rfl, .nullDereference isTop isNone⟩
    | dispatchAborts => exact .inr ⟨_, rfl, .inActor⟩
    | _ => exact .inl notAborted
  | own notAborted _ step =>
    cases step with
    | point _ step =>
      cases step with
      | passAborts _ isActor isMailbox noManager =>
        refine .inr ⟨_, rfl, .noAuthManager isActor ?_ noManager⟩
        rw [isMailbox]
        exact fun isStart => nomatch isStart
      | leftInPool => exact .inr ⟨_, rfl, .leftInPool⟩
      | _ => exact .inl notAborted
    | event _ step =>
      cases step with
      | checkAborts isActor isMailbox noManager =>
        refine .inr ⟨_, rfl, .noAuthManager isActor ?_ noManager⟩
        rw [isMailbox]
        exact fun isStart => nomatch isStart
      | authManagerAborts => exact .inr ⟨_, rfl, .inActor⟩
      | _ => exact .inl notAborted
    | activity _ step =>
      cases step with
      | dispatchAborts => exact .inr ⟨_, rfl, .inActor⟩
      | _ => exact .inl notAborted

/-! ## A client whose loop runs -/

def stoppedDispatching : Dispatching where
  traits := collidingTraits
  dispatcher := { NetQueryDispatcher.exampleDispatcher with stopFlag := true }
  clock := MtprotoClient.exampleClock

section

variable (continues : Continues first events state)
include continues

variable (thread : ThreadId)

theorem Continues.begin {frame : Frame} (isCall : frame.IsCall)
    (inUserCode : state.InUserCode thread) (notAborted : state.aborted = none) :
    Continues first (events ++ [.user thread])
      { state with
        frames := state.setFrames thread (frame :: state.frames thread) } :=
  continues.extend (.user notAborted (.call inUserCode isCall))

theorem Continues.returns {callback : Callback} {rest : List Frame}
    (isTop : state.frames thread = .callback callback :: rest) (notAborted : state.aborted = none) :
    Continues first (events ++ [.user thread])
      { state with frames := state.setFrames thread rest } :=
  continues.extend (.user notAborted (.returnCallback isTop))

theorem Continues.call (step : CallStep state thread after) (notAborted : state.aborted = none) :
    Continues first (events ++ [.call thread]) after :=
  continues.extend (.call notAborted step)

theorem Continues.point {point : RunPoint} (step : PointStep state point after)
    (isPoint : state.run = some { point := point }) (notAborted : state.aborted = none)
    (noFrames : state.frames runThread = []) :
    Continues first (events ++ [.own]) after :=
  continues.extend (.own notAborted noFrames (.point isPoint step))

theorem Continues.event {left : Nat} (step : EventStep state left after)
    (isPoint : state.run = some { point := .runMain (left + 1) })
    (notAborted : state.aborted = none) (noFrames : state.frames runThread = []) :
    Continues first (events ++ [.own]) after :=
  continues.extend (.own notAborted noFrames (.event isPoint step))

theorem Continues.activity {point : RunPoint} {activity : Activity}
    (step : ActivityStep state point activity after)
    (isActive : state.run = some { point := point, activity := some activity })
    (notAborted : state.aborted = none)
    (noFrames : state.frames runThread = []) :
    Continues first (events ++ [.own]) after :=
  continues.extend (.own notAborted noFrames (.activity isActive step))

/-- The network layer sends a message. -/
theorem Continues.network {frame : RunFrame} (step : NetworkStep state after)
    (runs : state.run = some frame) (workersRun : frame.point.workersRun = true)
    (notAborted : state.aborted = none) : Continues first (events ++ [.network]) after :=
  continues.extend (.network notAborted runs workersRun step)

end

def entered : State where
  hasUpdateHandler := true
  hasAuthStateHandler := true
  run := some { point := .createActor }

theorem reaches_entered : Reaches true true [.beginRun] entered :=
  Transition.Run.start.extend (.beginRun rfl rfl rfl)

/-- The loop has been entered, and nothing has been handled. -/
def looping (left : Nat) : State where
  hasUpdateHandler := true
  hasAuthStateHandler := true
  actorRaw := some 1
  running := true
  run := some { point := .runMain left }
  actors := 1
  actor := some { updateHandler := true, authStateCallback := true }
  iterations := 1

theorem reaches_looping (left : Nat) :
    Reaches true true (.beginRun :: List.replicate 6 .own) (looping left) := by
  have created := reaches_entered.point .createActor rfl rfl rfl
  have known := created.point .setActorRaw rfl rfl rfl
  have handled := known.point .setHandlers rfl rfl rfl
  have started := handled.point .start rfl rfl rfl
  have stored := started.point .storeRunning rfl rfl rfl
  exact stored.point (.enterLoop left rfl) rfl rfl rfl

theorem Continues.picksNothing {left : Nat} (continues : Continues first events state)
    (runs : state.run = some { point := .runMain left }) (notLocked : state.pendingMutex = none)
    (noPending : ∀ credential, state.pending credential = none) (notAborted : state.aborted = none)
    (noFrames : state.frames runThread = []) :
    Continues first (events ++ List.replicate 5 .own)
      { state with
        pendingMutex := none
        run := some { point := .test } } := by
  have returned := continues.point .returnRunMain runs notAborted noFrames
  have locked := returned.point (.lock notLocked) rfl notAborted noFrames
  have noCode := locked.point (.nothingPending (noPending _)) rfl notAborted noFrames
  have noPassword := noCode.point (.nothingPending (noPending _)) rfl notAborted noFrames
  have unlocked := noPassword.point .unlock rfl notAborted noFrames
  simp only [append_assoc] at unlocked
  exact unlocked

theorem Continues.leavesLoop (continues : Continues first events state)
    (runs : state.run = some { point := .test }) (stopped : state.running = false)
    (notAborted : state.aborted = none) (noFrames : state.frames runThread = []) :
    Continues first (events ++ List.replicate 3 .own)
      { state with
        actorRaw := none
        leftInQueues := 0
        run := some { point := .stopActors } } := by
  have left := continues.point (.leaveLoop stopped) runs notAborted noFrames
  have cleared := left.point .clearActorRaw rfl notAborted noFrames
  have finished := cleared.point (.finish 0) rfl notAborted noFrames
  simp only [append_assoc] at finished
  exact finished

end Autoproto.PublicClient
