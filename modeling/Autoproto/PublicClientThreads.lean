import Autoproto.PublicClientInvariant

namespace Autoproto.PublicClient

/-!
# Calls from other threads

The functions `send` and `export_session` test the pointer to the actor and then
use it without any synchronisation.  A call of another thread only does no harm
if its test finds no actor.
-/

structure Harmless (state : State) : Prop where
  outside : ∀ thread, thread ≠ runThread → ∀ frame ∈ state.frames thread, frame.usesActor = false
  noViolation : state.violations = []

section Steps

variable {state after : State} {thread : ThreadId} {event : Event}

theorem CallStep.violations (step : CallStep state thread after) :
    after.violations = state.violations ∨
      thread ≠ runThread ∧ ∃ frame ∈ state.frames thread, frame.usesActor = true := by
  by_cases own : thread = runThread
  · left
    cases step with
    | sendQueryAborts | dispatchAborts | exportAborts => simp [State.abortCall, own]
    | exportRead => simp [State.readViolations, own]
    | exportDb => simp [State.dbViolations, own]
    | _ => rfl
  · cases step with
    | sendQueryAborts isTop | dispatchAborts isTop | exportAborts isTop
    | exportRead isTop | exportDb isTop => exact .inr ⟨own, _, top_mem isTop, rfl⟩
    | _ => exact .inl rfl

theorem OwnStep.violations (step : OwnStep state after) : after.violations = state.violations := by
  cases step with
  | point _ step | event _ step | activity _ step => cases step <;> rfl

theorem OwnStep.otherFrames (step : OwnStep state after) (other : thread ≠ runThread) :
    after.frames thread = state.frames thread := by
  rcases step.frames with same | ⟨frames, called, _⟩
  · rw [same]
  · rw [called, State.setFrames, Function.update_of_ne other]

theorem Harmless.step (harmless : Harmless state) (contained : Contained state event)
    (step : Step state event after) : Harmless after := by
  cases step with
  | beginRun => exact ⟨harmless.outside, harmless.noViolation⟩
  | user _ step =>
    cases step with
    | call _ isCall =>
      refine ⟨fun thread other frame isFrame => ?_, harmless.noViolation⟩
      rcases mem_setFrames isFrame with ⟨rfl, isNew⟩ | isOld
      · rcases List.mem_cons.mp isNew with rfl | isOld
        · cases isCall <;> rfl
        · exact harmless.outside thread other frame isOld
      · exact harmless.outside thread other frame isOld
    | returnCallback isTop =>
      refine ⟨fun thread other frame isFrame => ?_, harmless.noViolation⟩
      exact harmless.outside thread other frame (mem_setFrames_rest isTop isFrame)
  | @call caller _ _ step =>
    refine ⟨fun thread other frame isFrame => ?_, ?_⟩
    · obtain ⟨top, rest, isTop, changes⟩ := step.frames
      rcases changes with same | popped | ⟨new, replaced, reason⟩
      · rw [same] at isFrame
        exact harmless.outside thread other frame isFrame
      · rw [popped] at isFrame
        exact harmless.outside thread other frame (mem_setFrames_rest isTop isFrame)
      · rw [replaced] at isFrame
        rcases mem_setFrames isFrame with ⟨rfl, isNew⟩ | isOld
        · rcases List.mem_cons.mp isNew with rfl | isRest
          · -- The top was in no function of the actor, and found none.
            refine Bool.eq_false_iff.mpr fun uses => ?_
            rcases reason uses with usesBefore | ⟨tests, isSet⟩
            · rw [harmless.outside thread other top (top_mem isTop)] at usesBefore
              cases usesBefore
            · exact isSet (contained thread top rest rfl other isTop tests)
          · exact harmless.outside thread other frame (mem_of_rest isTop isRest)
        · exact harmless.outside thread other frame isOld
    · rcases step.violations with same | ⟨other, frame, isFrame, uses⟩
      · rw [same]
        exact harmless.noViolation
      · rw [harmless.outside caller other frame isFrame] at uses
        cases uses
  | own _ _ step =>
    refine ⟨fun thread other => ?_, ?_⟩
    · rw [step.otherFrames other]
      exact harmless.outside thread other
    · rw [step.violations]
      exact harmless.noViolation
  | network _ _ _ step => cases step <;> exact ⟨harmless.outside, harmless.noViolation⟩

end Steps

variable {events : List Event}

theorem ReachesContained.harmless {hasUpdateHandler hasAuthStateHandler : Bool} {reached : State}
    (reaches : ReachesContained hasUpdateHandler hasAuthStateHandler events reached) :
    Harmless reached := by
  refine Transition.Run.invariant reaches ?_
    fun before event after harmless step => harmless.step step.1 step.2
  exact ⟨fun _ _ _ isFrame => (nomatch isFrame), rfl⟩

/--
If the calls of `send` and `export_session` on other threads find no actor, none
of them aborts, uses an object that has been destroyed, or runs code of the
actor next to its scheduler.
-/
theorem calls_of_other_threads_harmless
    {hasUpdateHandler hasAuthStateHandler : Bool}
    {events : List Event}
    {reached : State}
    (reaches : ReachesContained hasUpdateHandler hasAuthStateHandler events reached) :
    reached.violations = [] ∧
      ∀ thread, thread ≠ runThread → ∀ frame ∈ reached.frames thread, frame.usesActor = false :=
  ⟨reaches.harmless.noViolation, reaches.harmless.outside⟩

theorem ReachesContained.begin {state : State} {frame : Frame}
    (reaches : ReachesContained true true events state) (thread : ThreadId) (isCall : frame.IsCall)
    (inUserCode : state.InUserCode thread) (notAborted : state.aborted = none) :
    ReachesContained true true (events ++ [.user thread])
      { state with
        frames := state.setFrames thread (frame :: state.frames thread) } :=
  reaches.extend
    ⟨fun _ _ _ isOther => (nomatch isOther), .user notAborted (.call inUserCode isCall)⟩

theorem ReachesContained.call {state after : State}
    (reaches : ReachesContained true true events state) (thread : ThreadId)
    (step : CallStep state thread after) (notAborted : state.aborted = none)
    (quiet : (state.frames thread).head?.any Frame.testsActor = false ∨ state.actorRaw = none) :
    ReachesContained true true (events ++ [.call thread]) after := by
  refine reaches.extend ⟨?_, .call notAborted step⟩
  rintro _ top rest ⟨⟩ other isTop tests
  refine quiet.resolve_left fun noTest => ?_
  rw [isTop] at noTest
  cases tests.symm.trans noTest

theorem ReachesContained.point {state after : State} {point : RunPoint}
    (reaches : ReachesContained true true events state)
    (step : PointStep state point after)
    (isPoint : state.run = some { point := point }) (notAborted : state.aborted = none)
    (noFrames : state.frames runThread = []) :
    ReachesContained true true (events ++ [.own]) after :=
  reaches.extend
    ⟨fun _ _ _ isOther => (nomatch isOther), .own notAborted noFrames (.point isPoint step)⟩

/-- Another thread sends before `run` has set the pointer, and exports after it is cleared. -/
theorem calls_of_other_threads_harmless_around_loop :
    ∃ events reached, ReachesContained true true events reached ∧ reached.tests = [false] ∧
      reached.iterations = 1 ∧ reached.violations = [] ∧
      ∀ thread, thread ≠ runThread → ∀ frame ∈ reached.frames thread, frame.usesActor = false := by
  have entered : ReachesContained true true [.beginRun] entered :=
    Transition.Run.start.extend ⟨fun _ _ _ isOther => (nomatch isOther), .beginRun rfl rfl rfl⟩
  have created := entered.point .createActor rfl rfl rfl
  have sends := created.begin 1 .send (fun isOwn => nomatch isOwn) rfl
  have refused := sends.call 1 (.sendRefused rfl rfl) rfl (.inr rfl)
  have known := refused.point .setActorRaw rfl rfl rfl
  have handled := known.point .setHandlers rfl rfl rfl
  have started := handled.point .start rfl rfl rfl
  have stored := started.point .storeRunning rfl rfl rfl
  have loops := stored.point (.enterLoop 0 rfl) rfl rfl rfl
  have stops := loops.begin 2 .stop (fun isOwn => nomatch isOwn) rfl
  have stopped := stops.call 2 (.stop rfl) rfl (.inl rfl)
  have returned := stopped.point .returnRunMain rfl rfl rfl
  have locked := returned.point (.lock rfl) rfl rfl rfl
  have noCode := locked.point (.nothingPending rfl) rfl rfl rfl
  have noPassword := noCode.point (.nothingPending rfl) rfl rfl rfl
  have unlocked := noPassword.point .unlock rfl rfl rfl
  have left := unlocked.point (.leaveLoop rfl) rfl rfl rfl
  have cleared := left.point .clearActorRaw rfl rfl rfl
  have exports := cleared.begin 2 .exportSession (fun isOwn => nomatch isOwn) rfl
  have exported := exports.call 2 (.exportNothing rfl rfl) rfl (.inr rfl)
  exact ⟨_, _, exported, rfl, rfl, calls_of_other_threads_harmless exported⟩

/-! ## Calls that do harm -/

/-- Calls of other threads abort, use a destroyed actor, and run its code beside its scheduler. -/
theorem calls_of_other_threads_harmful :
    (∃ events reached, Reaches true true events reached ∧ .abort ∈ reached.violations) ∧
    (∃ events reached, Reaches true true events reached ∧ .destroyedObject ∈ reached.violations) ∧
    ∃ events reached,
      Reaches true true events reached ∧ .concurrentActorCode ∈ reached.violations := by
  -- Another thread has loaded the pointer in `export_session`, twice.
  have exports := (reaches_looping 0).begin 1 .exportSession (fun isOwn => nomatch isOwn) rfl
  have tested := exports.call 1 (.exportSession rfl rfl) rfl
  have used := tested.call 1 (.exportUse rfl rfl) rfl
  refine ⟨?_, ?_, ?_⟩
  · have called := (reaches_looping 0).begin 1 .send (fun isOwn => nomatch isOwn) rfl
    have accepted := called.call 1 (.sendAccepted rfl rfl) rfl
    have aborts := accepted.call 1 (.sendQueryAborts rfl fun inActor => nomatch inActor.1) rfl
    exact ⟨_, _, aborts, List.mem_append_right _ List.mem_cons_self⟩
  · have stops := used.begin 2 .stop (fun isOwn => nomatch isOwn) rfl
    have stopped := stops.call 2 (.stop rfl) rfl
    have picked := stopped.picksNothing rfl rfl (fun _ => rfl) rfl rfl
    have left := picked.leavesLoop rfl rfl rfl rfl
    have destroyed := left.point (.stopClient rfl) rfl rfl rfl
    have reads := destroyed.call 1 (.exportRead rfl) rfl
    exact ⟨_, _, reads, List.mem_cons_self⟩
  · have reads := used.call 1 (.exportRead rfl) rfl
    exact ⟨_, _, reads, List.mem_cons_self⟩

end Autoproto.PublicClient
