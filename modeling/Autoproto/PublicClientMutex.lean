import Autoproto.Mutex
import Autoproto.PublicClientInvariant

namespace Autoproto.PublicClient

/-!
# The mutex of the pending submissions

A thread holds the mutex inside of a submission, and the thread of `run` where it
picks submissions up.  Neither waits for anything there, and the functions of the
user are not called.
-/

/-- A function of the client in which the mutex is held. -/
def holdsMutexIn : List Frame → Bool
  | .store _ _ :: _ | .unlock :: _ => true
  | _ => false

def holdsMutexAt (run : Option RunFrame) : Bool :=
  run.any fun frame => frame.point.holdsMutex

/-- A thread is inside of the critical section. -/
def State.Holds (state : State) (thread : ThreadId) : Prop :=
  holdsMutexIn (state.frames thread) = true ∨ thread = runThread ∧ holdsMutexAt state.run = true

theorem holdsMutexIn_of_onlyCallbacks {frames : List Frame} (only : OnlyCallbacks frames) :
    holdsMutexIn frames = false := by
  cases frames with
  | nil => rfl
  | cons top rest =>
    obtain ⟨callback, rfl⟩ := only top List.mem_cons_self
    rfl

section Steps

variable {state after : State} {thread : ThreadId} {event : Event}

theorem Consistent.holdsMutexIn_rest {top : Frame} {rest : List Frame}
    (consistent : Consistent state) (isTop : state.frames thread = top :: rest) :
    holdsMutexIn rest = false := by
  have callers := consistent.callers thread
  rw [isTop] at callers
  exact holdsMutexIn_of_onlyCallbacks callers

theorem Consistent.noFrames_of_holds (consistent : Consistent state)
    (holds : holdsMutexAt state.run = true) : state.frames runThread = [] := by
  by_contra called
  cases runs : state.run with
  | none =>
    rw [runs] at holds
    cases holds
  | some frame =>
    obtain ⟨point, activity⟩ := frame
    have callsUser := consistent.calls _ runs called
    rw [runs] at holds
    cases point with
    | runMain | stopActors => cases holds
    | _ => cases callsUser

theorem holds_setFrames {frames : List Frame}
    (sameFrames : after.frames = state.setFrames thread frames) (sameRun : after.run = state.run)
    (same : holdsMutexIn frames = holdsMutexIn (state.frames thread)) (other : ThreadId) :
    after.Holds other ↔ state.Holds other := by
  rw [State.Holds, State.Holds, sameFrames, sameRun]
  by_cases own : other = thread
  · subst own
    rw [setFrames_self, same]
  · rw [State.setFrames, Function.update_of_ne own]

theorem holds_other {frames : List Frame} {other : ThreadId} (holds : after.Holds other)
    (sameFrames : after.frames = state.setFrames thread frames) (sameRun : after.run = state.run)
    (differs : other ≠ thread) : state.Holds other := by
  rw [State.Holds, sameFrames, sameRun, State.setFrames, Function.update_of_ne differs] at holds
  exact holds

/-- The owner of the mutex is inside of the critical section. -/
def MutexHeld (state : State) : Prop :=
  Mutex.Guards state.pendingMutex state.Holds

section

variable (held : MutexHeld state)
include held

theorem MutexHeld.user (consistent : Consistent state) (step : UserStep state thread after) :
    MutexHeld after := by
  cases step with
  | call inUserCode isCall =>
    refine held.keep (holds_setFrames rfl rfl ?_)
    rw [holdsMutexIn_of_onlyCallbacks (consistent.frames_of_inUserCode inUserCode)]
    cases isCall <;> rfl
  | returnCallback isTop =>
    refine held.keep (holds_setFrames rfl rfl ?_)
    rw [consistent.holdsMutexIn_rest isTop, isTop]
    rfl

theorem MutexHeld.call (consistent : Consistent state) (step : CallStep state thread after) :
    MutexHeld after := by
  cases step with
  | lock isTop isFree =>
    have free : Mutex.Guards none state.Holds := by
      rw [← isFree]
      exact held
    refine free.lock (.inl ?_) ?_
    · dsimp only
      rw [setFrames_self]
      rfl
    · exact fun other differs holds => holds_other holds rfl rfl differs
  | unlock isTop =>
    have holds : state.Holds thread := by
      refine .inl ?_
      rw [isTop]
      rfl
    refine held.unlock holds ?_ ?_
    · rintro (inside | ⟨rfl, atPoint⟩)
      · dsimp only at inside
        rw [setFrames_self, consistent.holdsMutexIn_rest isTop] at inside
        cases inside
      · rw [consistent.noFrames_of_holds atPoint] at isTop
        cases isTop
    · exact fun other differs holds => holds_other holds rfl rfl differs
  | stop isTop | dispatch isTop | exportNothing isTop | exportDb isTop =>
    refine held.keep (holds_setFrames rfl rfl ?_)
    rw [consistent.holdsMutexIn_rest isTop, isTop]
    rfl
  | store isTop | sendRefused isTop | sendAccepted isTop | sendQuery isTop
  | exportSession isTop | exportUse isTop =>
    refine held.keep (holds_setFrames rfl rfl ?_)
    rw [isTop]
    rfl
  | exportRead isTop =>
    refine held.keep (holds_setFrames rfl rfl ?_)
    rw [isTop, State.afterRead]
    split
    · rfl
    · exact consistent.holdsMutexIn_rest isTop
  | sendQueryAborts | dispatchAborts | exportAborts => exact held

theorem MutexHeld.own_keep (noFrames : state.frames runThread = []) (step : OwnStep state after)
    (sameMutex : after.pendingMutex = state.pendingMutex)
    (sameRun : holdsMutexAt after.run = holdsMutexAt state.run) : MutexHeld after := by
  rw [MutexHeld, sameMutex]
  refine held.keep fun other => ?_
  rw [State.Holds, State.Holds, sameRun]
  rcases step.frames with same | ⟨frames, called, only⟩
  · rw [same]
  · rw [called]
    by_cases own : other = runThread
    · subst own
      rw [setFrames_self, holdsMutexIn_of_onlyCallbacks only, noFrames]
      rfl
    · rw [State.setFrames, Function.update_of_ne own]

theorem MutexHeld.own (noFrames : state.frames runThread = []) (step : OwnStep state after) :
    MutexHeld after := by
  have keep := held.own_keep noFrames step
  cases step with
  | point runs step =>
    rw [runs] at keep
    cases step with
    | lock isFree =>
      have free : Mutex.Guards none state.Holds := by
        rw [← isFree]
        exact held
      refine free.lock (.inr ⟨rfl, rfl⟩) fun other differs holds => ?_
      rcases holds with inside | ⟨isOwn, _⟩
      · exact .inl inside
      · exact absurd isOwn differs
    | unlock =>
      have holds : state.Holds runThread := by
        refine .inr ⟨rfl, ?_⟩
        rw [runs]
        rfl
      refine held.unlock holds ?_ fun other differs holds => ?_
      · rintro (inside | ⟨_, atPoint⟩)
        · rw [noFrames] at inside
          cases inside
        · cases atPoint
      · rcases holds with inside | ⟨isOwn, _⟩
        · exact .inl inside
        · exact absurd isOwn differs
    | @nothingPending credential | @passNow credential
    | @passLater credential => cases credential <;> exact keep rfl rfl
    | passAborts | leftInPool | stopClient => exact held
    | _ => exact keep rfl rfl
  | event runs step =>
    rw [runs] at keep
    cases step with
    | checkAborts | authManagerAborts => exact held
    | _ => exact keep rfl rfl
  | activity runs step =>
    rw [runs] at keep
    cases step with
    | dispatchAborts => exact held
    | _ => exact keep rfl rfl

theorem MutexHeld.step (consistent : Consistent state) (step : Step state event after) :
    MutexHeld after := by
  cases step with
  | beginRun _ notRunning _ =>
    refine held.keep fun other => ?_
    rw [State.Holds, State.Holds, notRunning]
    rfl
  | user _ step => exact held.user consistent step
  | call _ step => exact held.call consistent step
  | own _ noFrames step => exact held.own noFrames step
  | network _ _ _ step => cases step <;> exact held

end

end Steps

theorem Reaches.mutexHeld {hasUpdateHandler hasAuthStateHandler : Bool} {events : List Event}
    {reached : State} (reaches : Reaches hasUpdateHandler hasAuthStateHandler events reached) :
    MutexHeld reached := by
  induction reaches with
  | start =>
    intro thread
    constructor
    · exact fun isOwner => nomatch isOwner
    · rintro (inside | ⟨_, atPoint⟩)
      · cases inside
      · cases atPoint
  | extend before step held => exact held.step (Reaches.consistent before) step

/-! ## Going on -/

section Progress

variable {state : State}

theorem exists_dispatch (query : NetQuery) :
    ∃ messages, stoppedDispatching.dispatch query = .ok messages :=
  ⟨_, rfl⟩

/-- What an actor is doing can go on. -/
theorem exists_activityStep (point : RunPoint) (activity : Activity) :
    ∃ after, ActivityStep state point activity after := by
  cases activity with
  | dispatch query =>
    obtain ⟨messages, dispatches⟩ := exists_dispatch query
    exact ⟨_, .dispatch dispatches⟩
  | settle request => exact ⟨_, .settle⟩
  | destroy request =>
    by_cases isReady :
        ∃ handler, state.handlers.find? request = some handler ∧ handler.promise = .ready
    · obtain ⟨handler, isHandler, isReady⟩ := isReady
      exact ⟨_, .destroyReady isHandler isReady⟩
    · refine ⟨_, .destroyComplete fun handler isHandler => ?_⟩
      cases isPromise : handler.promise with
      | ready => exact absurd ⟨handler, isHandler, isPromise⟩ isReady
      | complete => rfl
  | erase request => exact ⟨_, .erase⟩

/-- A pending submission can be picked up. -/
theorem Consistent.exists_pick {credential : Credential} (consistent : Consistent state)
    (runs : state.run = some { point := .picking credential }) :
    ∃ after, PointStep state (.picking credential) after := by
  cases isPending : state.pending credential with
  | none => exact ⟨_, .nothingPending isPending⟩
  | some submission =>
    obtain ⟨actor, isActor⟩ := Option.ne_none_iff_exists'.mp (consistent.actor _ runs rfl)
    by_cases isEmpty : actor.mailbox = []
    · cases isManager : actor.authManager with
      | none => exact ⟨_, .passAborts isPending isActor isEmpty isManager⟩
      | some manager => exact ⟨_, .passNow isPending isActor isEmpty isManager⟩
    · exact ⟨_, .passLater isPending isActor isEmpty⟩

theorem exists_stop : ∃ after, PointStep state .stopActors after := by
  cases isActor : state.actor with
  | some actor => exact ⟨_, .stopClient isActor⟩
  | none =>
    cases isEntries : state.handlers.entries with
    | nil => exact ⟨_, .stopped isActor (congrArg List.length isEntries)⟩
    | cons entry rest =>
      have isHandler : state.handlers.find? entry.1 = some entry.2 := by
        refine OrderedMap.find?_of_mem ?_
        rw [isEntries]
        exact List.mem_cons_self
      exact ⟨_, .stopHandler isHandler⟩

theorem Consistent.exists_ownStep {frame : RunFrame} (consistent : Consistent state)
    (runs : state.run = some frame) (free : frame.point = .lock → state.pendingMutex = none) :
    ∃ after, OwnStep state after := by
  obtain ⟨point, activity⟩ := frame
  cases activity with
  | some activity =>
    obtain ⟨after, step⟩ := exists_activityStep point activity
    exact ⟨after, .activity runs step⟩
  | none =>
    have exists_pointStep : ∃ after, PointStep state point after := by
      cases point with
      | test =>
        cases isRunning : state.running with
        | true => exact ⟨_, .enterLoop 0 isRunning⟩
        | false => exact ⟨_, .leaveLoop isRunning⟩
      | lock => exact ⟨_, .lock (free rfl)⟩
      | picking credential => exact consistent.exists_pick runs
      | finish => exact ⟨_, .finish 0⟩
      | stopActors => exact exists_stop
      | atFinish =>
        by_cases isEmpty : state.leftInQueues = 0
        · exact ⟨_, .atFinish isEmpty⟩
        · exact ⟨_, .leftInPool isEmpty⟩
      | createActor => exact ⟨_, .createActor⟩
      | setActorRaw => exact ⟨_, .setActorRaw⟩
      | setHandlers => exact ⟨_, .setHandlers⟩
      | start => exact ⟨_, .start⟩
      | storeRunning => exact ⟨_, .storeRunning⟩
      | runMain => exact ⟨_, .returnRunMain⟩
      | unlock => exact ⟨_, .unlock⟩
      | clearActorRaw => exact ⟨_, .clearActorRaw⟩
      | reset => exact ⟨_, .reset⟩
    obtain ⟨after, step⟩ := exists_pointStep
    exact ⟨after, .point runs step⟩

def State.CanStep (thread : ThreadId) (state : State) : Prop :=
  ∃ event after, Step state event after ∧
      (event = .user thread ∨ event = .call thread ∨ event = .own ∧ thread = runThread)

variable {thread : ThreadId}

theorem MutexHeld.canStep (held : MutexHeld state) (consistent : Consistent state)
    (notAborted : state.aborted = none) (isOwner : state.pendingMutex = some thread) :
    state.CanStep thread := by
  rcases (held thread).mp isOwner with inside | ⟨rfl, atPoint⟩
  · cases isFrames : state.frames thread with
    | nil =>
      rw [isFrames] at inside
      cases inside
    | cons top rest =>
      rw [isFrames] at inside
      cases top with
      | store => exact ⟨_, _, .call notAborted (.store isFrames), .inr (.inl rfl)⟩
      | unlock => exact ⟨_, _, .call notAborted (.unlock isFrames), .inr (.inl rfl)⟩
      | _ => cases inside
  · have noFrames := consistent.noFrames_of_holds atPoint
    cases runs : state.run with
    | none =>
      rw [runs] at atPoint
      cases atPoint
    | some frame =>
      obtain ⟨after, step⟩ := consistent.exists_ownStep runs fun isLock => by
        rw [runs] at atPoint
        change frame.point.holdsMutex = true at atPoint
        rw [isLock] at atPoint
        cases atPoint
      exact ⟨_, _, .own notAborted noFrames step, .inr (.inr ⟨rfl, rfl⟩)⟩

/-- A thread is in a function of the client, or in one of the user that it calls. -/
def State.IsActive (thread : ThreadId) (state : State) : Prop :=
  state.frames thread ≠ [] ∨ thread = runThread ∧ state.run ≠ none

def State.WaitsForOwner (thread : ThreadId) (state : State) : Prop :=
  ∃ owner, owner ≠ thread ∧ state.pendingMutex = some owner ∧ state.CanStep owner

theorem MutexHeld.waitsForOwner {owner : ThreadId} (held : MutexHeld state)
    (consistent : Consistent state) (notAborted : state.aborted = none)
    (notInside : ¬ state.Holds thread) (isOwner : state.pendingMutex = some owner) :
    state.WaitsForOwner thread := by
  refine ⟨owner, ?_, isOwner, held.canStep consistent notAborted isOwner⟩
  rintro rfl
  exact notInside ((held owner).mp isOwner)

theorem exists_callStep {top : Frame} {rest : List Frame}
    (isTop : state.frames thread = top :: rest) (notCallback : ∀ callback, top ≠ .callback callback)
    (free : ∀ credential text, top = .lock credential text → state.pendingMutex = none) :
    ∃ after, CallStep state thread after := by
  cases top with
  | callback callback => exact absurd rfl (notCallback callback)
  | stop => exact ⟨_, .stop isTop⟩
  | lock credential text => exact ⟨_, .lock isTop (free credential text rfl)⟩
  | store => exact ⟨_, .store isTop⟩
  | unlock => exact ⟨_, .unlock isTop⟩
  | send =>
    cases isActor : state.actorRaw with
    | none => exact ⟨_, .sendRefused isTop isActor⟩
    | some actor => exact ⟨_, .sendAccepted isTop isActor⟩
  | sendQuery request =>
    by_cases hasContext : thread = runThread ∧ state.RunsActors
    · exact ⟨_, .sendQuery isTop hasContext.1 hasContext.2⟩
    · exact ⟨_, .sendQueryAborts isTop hasContext⟩
  | dispatch request =>
    obtain ⟨messages, dispatches⟩ := exists_dispatch (requestQuery request)
    exact ⟨_, .dispatch isTop dispatches⟩
  | exportSession =>
    cases isActor : state.actorRaw with
    | none => exact ⟨_, .exportNothing isTop isActor⟩
    | some actor => exact ⟨_, .exportSession isTop isActor⟩
  | exportUse =>
    cases isActor : state.actorRaw with
    | none => exact ⟨_, .exportAborts isTop isActor⟩
    | some actor => exact ⟨_, .exportUse isTop isActor⟩
  | exportRead => exact ⟨_, .exportRead isTop⟩
  | exportDb => exact ⟨_, .exportDb isTop⟩

theorem MutexHeld.goesOn (held : MutexHeld state) (consistent : Consistent state)
    (notAborted : state.aborted = none) (isActive : state.IsActive thread) :
    state.CanStep thread ∨ state.WaitsForOwner thread := by
  cases isFrames : state.frames thread with
  | cons top rest =>
    by_cases isCallback : ∃ callback, top = .callback callback
    · obtain ⟨callback, rfl⟩ := isCallback
      exact .inl ⟨_, _, .user notAborted (.returnCallback isFrames), .inl rfl⟩
    · by_cases waits : (∃ credential text, top = .lock credential text) ∧ state.pendingMutex ≠ none
      · obtain ⟨⟨credential, text, rfl⟩, isLocked⟩ := waits
        obtain ⟨owner, isOwner⟩ := Option.ne_none_iff_exists'.mp isLocked
        refine .inr (held.waitsForOwner consistent notAborted ?_ isOwner)
        rintro (inside | ⟨rfl, atPoint⟩)
        · rw [isFrames] at inside
          cases inside
        · rw [consistent.noFrames_of_holds atPoint] at isFrames
          cases isFrames
      · obtain ⟨after, step⟩ := exists_callStep isFrames
          (fun callback same => isCallback ⟨callback, same⟩)
          (fun credential text same => by
            by_contra isLocked
            exact waits ⟨⟨credential, text, same⟩, isLocked⟩)
        exact .inl ⟨_, _, .call notAborted step, .inr (.inl rfl)⟩
  | nil =>
    obtain ⟨rfl, isRunning⟩ := isActive.resolve_left (· isFrames)
    obtain ⟨frame, runs⟩ := Option.ne_none_iff_exists'.mp isRunning
    by_cases waits : frame.point = .lock ∧ state.pendingMutex ≠ none
    · obtain ⟨atLock, isLocked⟩ := waits
      obtain ⟨owner, isOwner⟩ := Option.ne_none_iff_exists'.mp isLocked
      refine .inr (held.waitsForOwner consistent notAborted ?_ isOwner)
      rintro (inside | ⟨_, atPoint⟩)
      · rw [isFrames] at inside
        cases inside
      · rw [runs] at atPoint
        change frame.point.holdsMutex = true at atPoint
        rw [atLock] at atPoint
        cases atPoint
    · obtain ⟨after, step⟩ := consistent.exists_ownStep runs fun atLock => by
          by_contra isLocked
          exact waits ⟨atLock, isLocked⟩
      exact .inl ⟨_, _, .own notAborted isFrames step, .inr (.inr ⟨rfl, rfl⟩)⟩

end Progress

end Autoproto.PublicClient
