import Autoproto.PublicClientMutex

namespace Autoproto.PublicClient

open OrderedMap

/-!
# Stopping the loop

The loop of `run` tests a flag that `stop` clears.  Once `run` itself has set the
flag, nothing sets it again: a loop that has been stopped is left at its next
test, and what is left to do is bounded.  Before that, `run` overwrites the flag.
-/

/-! ## What is left to do -/

/-- The steps that `run` has left once stopped. -/
def RunPoint.stepsLeft : RunPoint → Nat
  | runMain left => 13 + 2 * left
  | lock => 12
  | picking .code => 11
  | picking .password => 9
  | unlock => 7
  | test => 6
  | clearActorRaw => 5
  | finish => 4
  | stopActors => 3
  | atFinish => 2
  | reset => 1
  | createActor | setActorRaw | setHandlers | start | storeRunning => 0

/-- What an actor adds; a handler that is erased has been counted before. -/
def activityStepsLeft : Option Activity → Nat
  | some (.dispatch _) => 3
  | none | some (.settle _) => 2
  | some (.destroy _) => 1
  | some (.erase _) => 0

def RunFrame.stepsLeft (frame : RunFrame) : Nat :=
  frame.point.stepsLeft + activityStepsLeft frame.activity

def actorStepsLeft : Option Actor → Nat
  | some _ => 1
  | none => 0

/-- A bound for the steps of `run` that are left. -/
def State.stepsLeft (state : State) : Nat :=
  match state.aborted, state.run with
  | none, some frame => frame.stepsLeft + actorStepsLeft state.actor + 3 * state.handlers.size
  | _, _ => 0

/-- The request whose handler an actor is busy with. -/
def Activity.request? : Activity → Option Nat
  | .settle request | .destroy request | .erase request => some request
  | .dispatch _ => none

/-- A handler is there until it is erased. -/
def Occupied (state : State) : Prop :=
  ∀ point activity request, state.run = some { point := point, activity := some activity } →
      activity.request? = some request → state.handlers.find? request ≠ none

/-- A loop that has been stopped for good. -/
structure Stopping (state : State) : Prop where
  consistent : Consistent state
  mutexHeld : MutexHeld state
  occupied : Occupied state
  stopped : state.running = false
  stored : ∀ frame, state.run = some frame → frame.point.hasStoredRunning = true

section Steps

variable {state after : State} {thread : ThreadId} {event : Event} {point : RunPoint}

section

variable (occupied : Occupied state)
include occupied

theorem Occupied.point_step (step : PointStep state point after) : Occupied after := by
  intro point activity request active isRequest
  cases step with
  | passNow =>
    cases active
    cases isRequest
  | stopHandler isHandler =>
    cases active
    cases isRequest
    rw [isHandler]
    exact Option.some_ne_none _
  | passAborts | leftInPool | stopClient => exact occupied _ _ _ active isRequest
  | _ => cases active

theorem Occupied.event_step {left : Nat} (step : EventStep state left after) : Occupied after := by
  intro point activity request active isRequest
  cases step with
  | checkAborts | authManagerAborts => exact occupied _ _ _ active isRequest
  | start =>
    split at active
    · cases active
    · cases active
      cases isRequest
  | check =>
    cases active
    cases isRequest
  | onResult isHandler | onResultAgain isHandler | hangup isHandler =>
    cases active
    cases isRequest
    rw [isHandler]
    exact Option.some_ne_none _
  | _ => cases active

theorem Occupied.activity_step {activity : Activity}
    (runs : state.run = some { point := point, activity := some activity })
    (step : ActivityStep state point activity after) :
    Occupied after := by
  intro point activity request active isRequest
  cases step with
  | dispatchAborts => exact occupied _ _ _ active isRequest
  | settle =>
    cases active
    cases isRequest
    exact find?_modify_ne_none (occupied _ _ _ runs rfl) _
  | destroyReady =>
    cases active
    cases isRequest
    exact occupied _ _ _ runs rfl
  | _ => cases active

theorem Occupied.step (step : Step state event after) : Occupied after := by
  cases step with
  | beginRun => exact fun _ _ _ active => nomatch active
  | user _ step => cases step <;> exact occupied
  | call _ step =>
    intro point activity request active isRequest
    rw [step.sameRun.run] at active
    have present := occupied point activity request active isRequest
    cases step with
    | sendQuery => exact find?_emplace_ne_none present
    | dispatch => exact find?_modify_ne_none present _
    | _ => exact present
  | own _ _ step =>
    cases step with
    | point _ step => exact occupied.point_step step
    | event _ step => exact occupied.event_step step
    | activity runs step => exact occupied.activity_step runs step
  | network _ _ _ step =>
    intro point activity request active isRequest
    rw [step.sameFrames.2] at active
    have present := occupied point activity request active isRequest
    cases step with
    | message => exact present
    | _ => exact find?_modify_ne_none present _

end

section

variable (stopping : Stopping state)
include stopping

theorem Stopping.stopped_step (step : Step state event after) : after.running = false := by
  cases step with
  | beginRun => exact stopping.stopped
  | user _ step | network _ _ _ step => cases step <;> exact stopping.stopped
  | call _ step =>
    cases step with
    | stop => rfl
    | _ => exact stopping.stopped
  | own _ _ step =>
    cases step with
    | point runs step =>
      cases step with
      | storeRunning => cases stopping.stored _ runs
      | _ => exact stopping.stopped
    | event _ step | activity _ step => cases step <;> exact stopping.stopped

theorem Stopping.stored_step (notNew : event ≠ .beginRun) (step : Step state event after) :
    ∀ frame, after.run = some frame → frame.point.hasStoredRunning = true := by
  intro frame isFrame
  cases step with
  | beginRun => exact absurd rfl notNew
  | user _ step | call _ step =>
    rw [step.sameRun.run] at isFrame
    exact stopping.stored frame isFrame
  | own _ _ step =>
    cases step with
    | point runs step =>
      have stored := stopping.stored _ runs
      cases step with
      | createActor | setActorRaw | setHandlers | start => cases stored
      | @nothingPending credential | @passNow credential
      | @passLater credential =>
        cases isFrame
        cases credential <;> rfl
      | passAborts | leftInPool | stopClient => exact stopping.stored frame isFrame
      | _ =>
        cases isFrame
        try rfl
    | event runs step =>
      cases step with
      | checkAborts | authManagerAborts => exact stopping.stored frame isFrame
      | _ =>
        cases isFrame
        rfl
    | activity runs step =>
      have stored := stopping.stored _ runs
      cases step with
      | dispatchAborts => exact stopping.stored frame isFrame
      | _ =>
        cases isFrame
        exact stored
  | network _ _ _ step =>
    rw [step.sameFrames.2] at isFrame
    exact stopping.stored frame isFrame

theorem Stopping.step (notNew : event ≠ .beginRun) (step : Step state event after) :
    Stopping after where
  consistent := stopping.consistent.step step
  mutexHeld := stopping.mutexHeld.step stopping.consistent step
  occupied := stopping.occupied.step step
  stopped := stopping.stopped_step step
  stored := stopping.stored_step notNew step

theorem Stopping.iterations (step : Step state event after) :
    after.iterations = state.iterations := by
  cases step with
  | beginRun => rfl
  | user _ step | call _ step | network _ _ _ step => cases step <;> rfl
  | own _ _ step =>
    cases step with
    | point _ step =>
      cases step with
      | enterLoop _ isRunning => cases stopping.stopped.symm.trans isRunning
      | _ => rfl
    | event _ step | activity _ step => cases step <;> rfl

end

/-! ## What the steps take away -/

variable {frame : RunFrame}

theorem stepsLeft_of_run (notAborted : state.aborted = none) (runs : state.run = some frame) :
    state.stepsLeft = frame.stepsLeft + actorStepsLeft state.actor + 3 * state.handlers.size := by
  rw [State.stepsLeft, notAborted, runs]

theorem stepsLeft_of_aborted {abort : Abort} (aborted : state.aborted = some abort) :
    state.stepsLeft = 0 := by
  rw [State.stepsLeft, aborted]

theorem stepsLeft_of_returned (returned : state.run = none) : state.stepsLeft = 0 := by
  rw [State.stepsLeft, returned]
  cases state.aborted <;> rfl

theorem stepsLeft_le (runs : state.run = some frame) :
    state.stepsLeft ≤ frame.stepsLeft + actorStepsLeft state.actor + 3 * state.handlers.size := by
  cases isAborted : state.aborted with
  | none => exact (stepsLeft_of_run isAborted runs).le
  | some abort =>
    rw [stepsLeft_of_aborted isAborted]
    exact Nat.zero_le _

theorem Stopping.stepsLeft_pos (stopping : Stopping state) (notAborted : state.aborted = none)
    (runs : state.run = some frame) : 0 < state.stepsLeft := by
  have stored := stopping.stored frame runs
  have isLeft : 0 < frame.point.stepsLeft := by
    cases isPoint : frame.point with
    | picking credential => cases credential <;> decide
    | runMain left => exact Nat.lt_add_right _ (by decide)
    | createActor | setActorRaw | setHandlers | start | storeRunning =>
      rw [isPoint] at stored
      cases stored
    | _ => decide
  rw [stepsLeft_of_run notAborted runs, RunFrame.stepsLeft]
  omega

section Payments

variable {frame later : RunFrame} (notAborted : state.aborted = none)
  (runs : state.run = some frame)

include notAborted runs

theorem stepsLeft_lt (laterRuns : after.run = some later)
    (less : later.stepsLeft + actorStepsLeft after.actor + 3 * after.handlers.size <
        frame.stepsLeft + actorStepsLeft state.actor + 3 * state.handlers.size) :
    after.stepsLeft < state.stepsLeft := by
  rw [stepsLeft_of_run notAborted runs]
  exact (stepsLeft_le laterRuns).trans_lt less

theorem stepsLeft_lt_of_frame (laterRuns : after.run = some later)
    (sameActor : actorStepsLeft after.actor = actorStepsLeft state.actor)
    (sameHandlers : after.handlers.size = state.handlers.size)
    (less : later.stepsLeft < frame.stepsLeft) : after.stepsLeft < state.stepsLeft := by
  refine stepsLeft_lt notAborted runs laterRuns ?_
  rw [sameActor, sameHandlers]
  exact Nat.add_lt_add_right (Nat.add_lt_add_right less _) _

end Payments

theorem PointStep.pays (stopping : Stopping state) (notAborted : state.aborted = none)
    (runs : state.run = some { point := point }) (step : PointStep state point after) :
    after.stepsLeft < state.stepsLeft := by
  have isLeft := stopping.stepsLeft_pos notAborted runs
  have stored := stopping.stored _ runs
  cases step with
  | createActor | setActorRaw | setHandlers | start | storeRunning => cases stored
  | enterLoop _ isRunning => cases stopping.stopped.symm.trans isRunning
  | passAborts | leftInPool =>
    exact isLeft
  | reset =>
    rw [stepsLeft_of_returned rfl]
    exact isLeft
  | @returnRunMain left =>
    refine stepsLeft_lt_of_frame notAborted runs rfl rfl rfl ?_
    change 12 + 2 < 13 + 2 * left + 2
    omega
  | @nothingPending credential =>
    refine stepsLeft_lt_of_frame notAborted runs rfl rfl rfl ?_
    cases credential <;> decide
  | @passNow credential submission actor manager _ isActor =>
    refine stepsLeft_lt_of_frame notAborted runs rfl ?_ rfl ?_
    · rw [isActor]
      rfl
    · cases credential <;> exact Nat.lt_succ_self _
  | @passLater credential submission actor _ isActor =>
    refine stepsLeft_lt_of_frame notAborted runs rfl ?_ rfl ?_
    · rw [isActor]
      rfl
    · cases credential <;> decide
  | stopClient isActor =>
    refine stepsLeft_lt notAborted runs runs ?_
    rw [isActor]
    exact Nat.add_lt_add_right (Nat.lt_succ_self _) _
  | stopHandler => exact stepsLeft_lt_of_frame notAborted runs rfl rfl rfl (Nat.lt_succ_self _)
  | _ => exact stepsLeft_lt_of_frame notAborted runs rfl rfl rfl (by decide)

theorem EventStep.pays {left : Nat} (stopping : Stopping state) (notAborted : state.aborted = none)
    (runs : state.run = some { point := .runMain (left + 1) }) (step : EventStep state left after) :
    after.stepsLeft < state.stepsLeft := by
  have isLeft := stopping.stepsLeft_pos notAborted runs
  -- Handling an event costs more than what it lets an actor begin.
  have less (activity : Option Activity) : RunFrame.stepsLeft ⟨.runMain left, activity⟩ <
        RunFrame.stepsLeft ⟨.runMain (left + 1), none⟩ := by
    have atMost : activityStepsLeft activity ≤ 3 := by
      rcases activity with _ | activity
      · decide
      · cases activity <;> simp [activityStepsLeft]
    change 13 + 2 * left + activityStepsLeft activity < 13 + 2 * (left + 1) + 2
    omega
  cases step with
  | checkAborts | authManagerAborts =>
    exact isLeft
  | start _ _ isActor | onUpdate isActor | check isActor | other isActor
  | authManager _ _ isActor =>
    refine stepsLeft_lt_of_frame notAborted runs rfl ?_ rfl (less _)
    rw [isActor]
    rfl
  | startHandler =>
    exact stepsLeft_lt_of_frame notAborted runs rfl rfl (size_modify ..) (less _)
  | onResult | onResultAgain | hangup =>
    exact stepsLeft_lt_of_frame notAborted runs rfl rfl rfl (less _)

theorem ActivityStep.pays {activity : Activity} (stopping : Stopping state)
    (notAborted : state.aborted = none)
    (runs : state.run = some { point := point, activity := some activity })
    (step : ActivityStep state point activity after) :
    after.stepsLeft < state.stepsLeft := by
  have isLeft := stopping.stepsLeft_pos notAborted runs
  cases step with
  | dispatchAborts =>
    exact isLeft
  | dispatch | destroyReady =>
    exact stepsLeft_lt_of_frame notAborted runs rfl rfl rfl (Nat.lt_succ_self _)
  | settle =>
    exact stepsLeft_lt_of_frame notAborted runs rfl rfl (size_modify ..) (Nat.lt_succ_self _)
  | @destroyComplete request _ | @erase request =>
    obtain ⟨handler, isHandler⟩ := Option.ne_none_iff_exists'.mp
      (stopping.occupied _ _ request runs rfl)
    refine stepsLeft_lt notAborted runs rfl ?_
    rw [size_erase isHandler]
    simp only [RunFrame.stepsLeft, activityStepsLeft]
    omega

theorem CallStep.pays (notAborted : state.aborted = none) (step : CallStep state thread after) :
    after.stepsLeft + 3 * state.created ≤ state.stepsLeft + 3 * after.created := by
  have atMost (frame : RunFrame) (runs : state.run = some frame) :=
    stepsLeft_le (step.sameRun.run.trans runs)
  cases step with
  | @sendQuery request rest _ _ runsActors =>
    obtain ⟨left, activity, runs⟩ := runsActors.point
    have oneMore := size_emplace_le request ({} : Handler) state.handlers
    have later := atMost _ runs
    rw [stepsLeft_of_run notAborted runs]
    dsimp only at later ⊢
    omega
  | @dispatch request rest dispatching messages _ _ =>
    have sameSize :
        (state.handlers.modify request (Handler.dispatched messages)).size = state.handlers.size :=
      size_modify ..
    refine Nat.add_le_add_right ?_ _
    rw [State.stepsLeft, sameSize]
    exact Nat.le_refl _
  | sendQueryAborts | dispatchAborts | exportAborts =>
    exact Nat.add_le_add_right (Nat.zero_le _) _
  | _ => exact Nat.le_refl _

theorem NetworkStep.stepsLeft (step : NetworkStep state after) :
    after.stepsLeft = state.stepsLeft := by
  cases step with
  | answer | drop =>
    rw [State.stepsLeft, size_modify]
    rfl
  | message isActor =>
    rw [State.stepsLeft, State.stepsLeft, isActor]
    rfl

/-- Only a call of `send` makes a request. -/
theorem Step.created (step : Step state event after) : state.created ≤ after.created := by
  cases step with
  | beginRun => exact Nat.le_refl _
  | user _ step | network _ _ _ step => cases step <;> exact Nat.le_refl _
  | call _ step =>
    cases step with
    | sendQuery => exact Nat.le_succ _
    | _ => exact Nat.le_refl _
  | own _ _ step =>
    cases step with
    | point _ step | event _ step | activity _ step => cases step <;> exact Nat.le_refl _

theorem Stopping.pays (stopping : Stopping state) (notNew : event ≠ .beginRun)
    (step : Step state event after) :
    (if event == .own then 1 else 0) + after.stepsLeft + 3 * state.created ≤
      state.stepsLeft + 3 * after.created := by
  have created := step.created
  cases step with
  | beginRun => exact absurd rfl notNew
  | user _ step =>
    rw [if_neg (by simp), Nat.zero_add]
    cases step <;> exact Nat.le_refl _
  | call notAborted step =>
    rw [if_neg (by simp), Nat.zero_add]
    exact step.pays notAborted
  | own notAborted _ step =>
    have less : after.stepsLeft < state.stepsLeft := by
      cases step with
      | point runs step | event runs step | activity runs step =>
        exact step.pays stopping notAborted runs
    rw [if_pos (by simp)]
    omega
  | network _ _ _ step =>
    rw [if_neg (by simp), Nat.zero_add, step.stepsLeft]
    omega

end Steps

/-! ## The end of a run -/

def ContinuesRun (first : State) (events : List Event) (reached : State) : Prop :=
  Transition.Run (Transition.Guarded (fun _ event => event ≠ .beginRun) Step) first events reached

variable {reached : State} {events : List Event} {first : State}

theorem ContinuesRun.keeps (continues : ContinuesRun first events reached)
    (stopping : Stopping first) :
    Stopping reached ∧ reached.iterations = first.iterations ∧ first.created ≤ reached.created := by
  induction continues with
  | start => exact ⟨stopping, rfl, Nat.le_refl _⟩
  | extend _ step ih =>
    obtain ⟨stopping, sameIterations, created⟩ := ih
    exact ⟨stopping.step step.1 step.2, (stopping.iterations step.2).trans sameIterations,
      created.trans step.2.created⟩

variable {hasUpdateHandler hasAuthStateHandler : Bool}

theorem Reaches.occupied (reaches : Reaches hasUpdateHandler hasAuthStateHandler events reached) :
    Occupied reached := by
  refine Transition.Run.invariant reaches ?_
    fun before event after occupied step => occupied.step step
  exact fun _ _ _ active => nomatch active

theorem Reaches.stopping {before atStop : State} {thread : ThreadId} {rest : List Frame}
    {frame : RunFrame} (reaches : Reaches hasUpdateHandler hasAuthStateHandler events before)
    (isStop : before.frames thread = .stop :: rest) (runs : before.run = some frame)
    (stored : thread = runThread ∨ frame.point.hasStoredRunning = true)
    (stops : Step before (.call thread) atStop) : Stopping atStop := by
  have consistent := reaches.consistent
  have hasStored : frame.point.hasStoredRunning = true := by
    rcases stored with rfl | stored
    · -- The functions of the user are called in the loop and after it.
      have callsUser := consistent.calls frame runs (by
        rw [isStop]
        exact List.cons_ne_nil _ _)
      cases isPoint : frame.point with
      | runMain | stopActors => rfl
      | _ =>
        rw [isPoint] at callsUser
        cases callsUser
    · exact stored
  refine ⟨consistent.step stops, reaches.mutexHeld.step consistent stops,
    reaches.occupied.step stops, ?_, ?_⟩
  · cases stops with
    | call _ step =>
      cases step with
      | stop => rfl
      | _ isTop => cases isStop.symm.trans isTop
  · cases stops with
    | call _ step =>
      intro later laterRuns
      rw [step.sameRun.run, runs] at laterRuns
      cases laterRuns
      exact hasStored

/--
A call of `stop` after `run` has set the flag, or on its thread, ends the loop:
no other iteration is begun, the steps that follow are bounded but for requests
of the user, and until it returns `run` can go on, or waits for the mutex of a
thread that can.
-/
theorem stop_ends_run
    {hasUpdateHandler hasAuthStateHandler : Bool}
    {events later : List Event}
    {before atStop reached : State}
    {thread : ThreadId}
    {rest : List Frame}
    {frame : RunFrame}
    (reaches : Reaches hasUpdateHandler hasAuthStateHandler events before)
    (isStop : before.frames thread = .stop :: rest)
    (runs : before.run = some frame)
    (stored : thread = runThread ∨ frame.point.hasStoredRunning = true)
    (stops : Step before (.call thread) atStop)
    (continues : ContinuesRun atStop later reached) :
    reached.iterations = atStop.iterations ∧ later.count .own + reached.stepsLeft ≤
        atStop.stepsLeft + 3 * (reached.created - atStop.created) ∧
      (reached.aborted = none → reached.run ≠ none → 0 < reached.stepsLeft ∧
            (reached.CanStep runThread ∨ reached.WaitsForOwner runThread)) := by
  have atFirst := reaches.stopping isStop runs stored stops
  have kept (state : State) (event : Event) (after : State) (stopping : Stopping state)
      (step : Transition.Guarded (fun _ event => event ≠ .beginRun) Step state event after) :
      Stopping after :=
    stopping.step step.1 step.2
  obtain ⟨stopping, sameIterations, created⟩ := continues.keeps atFirst
  have bounded : later.countP (· == .own) + reached.stepsLeft + 3 * atStop.created ≤
        atStop.stepsLeft + 3 * reached.created :=
    Transition.Run.count_add_rank_le continues atFirst kept
      fun _ _ _ stopping step => stopping.pays step.1 step.2
  refine ⟨sameIterations, ?_, fun notAborted isRunning => ?_⟩
  · rw [List.count]
    omega
  · obtain ⟨current, currentRuns⟩ := Option.ne_none_iff_exists'.mp isRunning
    exact ⟨stopping.stepsLeft_pos notAborted currentRuns,
      stopping.mutexHeld.goesOn stopping.consistent notAborted (.inr ⟨rfl, isRunning⟩)⟩

/-! ## Stopping from another thread -/

def callingStop (state : State) : State :=
  { state with frames := state.setFrames 1 [.stop] }

/-- The call has returned. -/
def afterStop (state : State) : State :=
  { callingStop state with
    running := false
    frames := (callingStop state).setFrames 1 [] }

theorem stop_callingStop {state : State} (notAborted : state.aborted = none) :
    Step (callingStop state) (.call 1) (afterStop state) :=
  .call notAborted (.stop rfl)

theorem Continues.continuesRun (continues : Continues first events reached)
    (notNew : Event.beginRun ∉ events) : ContinuesRun first events reached := by
  induction continues with
  | start => exact .start
  | extend _ step ih =>
    rw [List.mem_append, not_or] at notNew
    refine (ih notNew.1).extend ⟨?_, step⟩
    rintro rfl
    exact notNew.2 List.mem_cons_self

/-- A loop that is stopped while it waits for events. -/
theorem stop_ends_run_of_loop : ∃ later reached,
      ContinuesRun (afterStop (looping 0)) later reached ∧ reached.run = none ∧
        reached.iterations = 1 ∧ later.count .own ≤ (afterStop (looping 0)).stepsLeft := by
  have calls : Reaches true true _ (callingStop (looping 0)) :=
    (reaches_looping 0).begin 1 .stop (fun isOwn => nomatch isOwn) rfl
  have idle : Continues (afterStop (looping 0)) [] (afterStop (looping 0)) := .start
  have picked := idle.picksNothing rfl rfl (fun _ => rfl) rfl rfl
  have left := picked.leavesLoop rfl rfl rfl rfl
  have noClient := left.point (.stopClient rfl) rfl rfl rfl
  have noActors := noClient.point (.stopped rfl rfl) rfl rfl rfl
  have finished := noActors.point (.atFinish rfl) rfl rfl rfl
  have reset := finished.point .reset rfl rfl rfl
  have returns := reset.continuesRun (by decide)
  have ends := stop_ends_run calls rfl rfl (.inr rfl) (stop_callingStop rfl) returns
  exact ⟨_, _, returns, rfl, ends.1, ends.2.1⟩

/--
A call of `stop` before `run` stores to the flag is lost: the loop is entered,
and does not end.
-/
theorem stop_before_store_lost : ∃ events before atStop later reached,
      Reaches true true events before ∧ before.run ≠ none ∧ before.frames 1 = [.stop] ∧
        Step before (.call 1) atStop ∧ ContinuesRun atStop later reached ∧
        reached.iterations = atStop.iterations + 2 ∧ reached.running = true := by
  have calls : Reaches true true _ (callingStop entered) :=
    reaches_entered.begin 1 .stop (fun isOwn => nomatch isOwn) rfl
  have idle : Continues (afterStop entered) [] (afterStop entered) := .start
  have created := idle.point .createActor rfl rfl rfl
  have known := created.point .setActorRaw rfl rfl rfl
  have handled := known.point .setHandlers rfl rfl rfl
  have started := handled.point .start rfl rfl rfl
  have stored := started.point .storeRunning rfl rfl rfl
  have loops := stored.point (.enterLoop 0 rfl) rfl rfl rfl
  have picked := loops.picksNothing rfl rfl (fun _ => rfl) rfl rfl
  have loopsAgain := picked.point (.enterLoop 0 rfl) rfl rfl rfl
  exact ⟨_, _, _, _, _, calls, Option.some_ne_none _, rfl,
    stop_callingStop rfl, loopsAgain.continuesRun (by decide), rfl, rfl⟩

end Autoproto.PublicClient
