import Autoproto.NetQueryDispatcher

namespace Autoproto.NetQueryDispatcher

open Function ByteEncoding
open Transition (Run)

/-!
# Threads that wait for a data center

Threads call `wait_dc_init`, `destroy_auth_keys` and `stop` of one dispatcher.
One that finds a data center not valid claims it by an exchange; the others wait
in a loop until it is inited. The data center may be left as it is, if the
dispatcher is closing or the keys are to be destroyed.
-/

variable {traits : TableTraits Bytes}

abbrev ThreadId := Nat

/-- What is done under the mutex. -/
inductive Section where
  | init (dcId : DcId)
  | destroyAuthKeys
  | stop
  deriving DecidableEq

/-- Where a thread is in the code of the dispatcher. -/
inductive Point where
  | idle
  | waitDcInit (dcId : DcId) (force : Bool)
  | exchange (dcId : DcId)
  /-- The condition of the loop. -/
  | spin (dcId : DcId)
  /-- The body of the loop. -/
  | testStopFlag (dcId : DcId)
  | destroyLoop (rawDcId : Int)
  | lock (work : Section)
  | locked (work : Section)
  | unlock
  deriving DecidableEq

/-- The place of a data center in the array. -/
def position (dcId : DcId) : Nat :=
  (dcId.value - 1).toNat

namespace Point

/-- The data center whose sessions a thread is to open, from the exchange on. -/
def initializes : Point → Option Nat
  | lock (.init dcId) => some (position dcId)
  | locked (.init dcId) => some (position dcId)
  | _ => none

/-- The data center that a thread waits for in the loop. -/
def spins : Point → Option Nat
  | spin dcId => some (position dcId)
  | testStopFlag dcId => some (position dcId)
  | _ => none

end Point

structure Threads (traits : TableTraits Bytes) where
  dispatcher : NetQueryDispatcher traits
  mutex : Option ThreadId := none
  points : ThreadId → Point := fun _ => .idle
  /-- The next data center of the loop in `destroy_auth_keys`, for a call from there. -/
  callers : ThreadId → Option Int := fun _ => none
  /-- The threads whose exchange succeeded. -/
  claims : Nat → List ThreadId := fun _ => []

/-- A step that changes only a place, or returns. -/
inductive Moves (dispatcher : NetQueryDispatcher traits) : Point → Option Point → Prop where
  | refused {dcId : DcId} {force : Bool} :
      ¬ dcId.isExact ∨ 1000 ≤ position dcId → Moves dispatcher (.waitDcInit dcId force) none
  | invalid {dcId : DcId} :
      (dispatcher.dcs (position dcId)).isValid = false →
      Moves dispatcher (.waitDcInit dcId false) none
  | forced {dcId : DcId} :
      dcId.isExact → position dcId < 1000 →
      (dispatcher.dcs (position dcId)).isValid = false →
      Moves dispatcher (.waitDcInit dcId true) (some (.exchange dcId))
  | valid {dcId : DcId} {force : Bool} :
      dcId.isExact → position dcId < 1000 →
      (dispatcher.dcs (position dcId)).isValid = true →
      Moves dispatcher (.waitDcInit dcId force) (some (.spin dcId))
  | exchangeFailed {dcId : DcId} :
      (dispatcher.dcs (position dcId)).isValid = true →
      Moves dispatcher (.exchange dcId) (some (.spin dcId))
  | inited {dcId : DcId} :
      (dispatcher.dcs (position dcId)).isInited = true → Moves dispatcher (.spin dcId) none
  | notInited {dcId : DcId} :
      (dispatcher.dcs (position dcId)).isInited = false →
      Moves dispatcher (.spin dcId) (some (.testStopFlag dcId))
  | stopped {dcId : DcId} : dispatcher.stopFlag = true → Moves dispatcher (.testStopFlag dcId) none
  | sleep {dcId : DcId} :
      dispatcher.stopFlag = false → Moves dispatcher (.testStopFlag dcId) (some (.spin dcId))
  /-- The data center is inited, or has no key. -/
  | destroyNext {rawDcId : Int} :
      rawDcId ≤ 5 → Moves dispatcher (.destroyLoop rawDcId) (some (.destroyLoop (rawDcId + 1)))
  | destroyLast {rawDcId : Int} :
      5 < rawDcId → Moves dispatcher (.destroyLoop rawDcId) (some (.lock .destroyAuthKeys))

/-- The code under the mutex; what is sent to the sessions is left out. -/
def Section.run (clock : Clock) (dispatcher : NetQueryDispatcher traits) :
    Section → Except Fault (NetQueryDispatcher traits)
  | init dcId => do
      let (dispatcher, _) ← dispatcher.initDc clock dcId (position dcId)
      return dispatcher
  | destroyAuthKeys => .ok { dispatcher with needDestroyAuthKey := true }
  | stop =>
      .ok { dispatcher with
        stopFlag := true
        dcs := fun position => { dispatcher.dcs position with sessions := fun _ => none } }

/-- Where a thread goes on after a call. -/
def resume : Option Int → Point
  | none => .idle
  | some rawDcId => .destroyLoop rawDcId

namespace Threads

/-- A thread goes somewhere else. -/
def goTo (thread : ThreadId) (point : Point) (system : Threads traits) : Threads traits :=
  { system with points := Function.update system.points thread point }

def setCaller (thread : ThreadId) (caller : Option Int)
    (system : Threads traits) : Threads traits :=
  { system with callers := Function.update system.callers thread caller }

inductive Step (clock : Clock) : Threads traits → ThreadId → Threads traits → Prop where
  | call {system : Threads traits} (thread : ThreadId) (point : Point) :
      system.points thread = .idle →
      (∃ dcId force, point = .waitDcInit dcId force) ∨ point = .destroyLoop 1 ∨
        point = .lock .stop →
      Step clock system thread (system.goTo thread point)
  | move {system : Threads traits} (thread : ThreadId) (point : Point) :
      Moves system.dispatcher (system.points thread) (some point) →
      Step clock system thread (system.goTo thread point)
  | finish {system : Threads traits} (thread : ThreadId) :
      Moves system.dispatcher (system.points thread) none →
      Step clock system thread
        ((system.goTo thread (resume (system.callers thread))).setCaller thread none)
  | destroyInit {system : Threads traits} (thread : ThreadId) (rawDcId : Int) :
      system.points thread = .destroyLoop rawDcId →
      rawDcId ≤ 5 →
      system.dispatcher.isDcInited rawDcId = .ok false →
      Step clock system thread
        ((system.goTo thread (.waitDcInit ⟨rawDcId, false⟩ true)).setCaller thread
          (some (rawDcId + 1)))
  | exchange {system : Threads traits} (thread : ThreadId) (dcId : DcId) :
      system.points thread = .exchange dcId →
      (system.dispatcher.dcs (position dcId)).isValid = false →
      Step clock system thread
        ({ system with
            dispatcher :=
              system.dispatcher.withDc (position dcId)
                { system.dispatcher.dcs (position dcId) with isValid := true }
            claims :=
              Function.update system.claims (position dcId)
                (thread :: system.claims (position dcId)) }.goTo
          thread (.lock (.init dcId)))
  | lock {system : Threads traits} (thread : ThreadId) (work : Section) :
      system.points thread = .lock work →
      system.mutex = none →
      Step clock system thread ({ system with mutex := some thread }.goTo thread (.locked work))
  | work {system : Threads traits} (thread : ThreadId) (work : Section)
      (dispatcher : NetQueryDispatcher traits) :
      system.points thread = .locked work →
      work.run clock system.dispatcher = .ok dispatcher →
      Step clock system thread ({ system with dispatcher := dispatcher }.goTo thread .unlock)
  | unlock {system : Threads traits} (thread : ThreadId) :
      system.points thread = .unlock →
      Step clock system thread
        (({ system with mutex := none }.goTo thread (resume (system.callers thread))).setCaller
          thread none)

/-- The dispatcher does not open data centers any more. -/
def Closing (system : Threads traits) : Prop :=
  system.dispatcher.stopFlag = true ∨ system.dispatcher.needDestroyAuthKey = true

end Threads

@[simp] theorem dcs_addDc (dcId : DcId) (dispatcher : NetQueryDispatcher traits) :
    (dispatcher.addDc dcId).dcs = dispatcher.dcs := by
  unfold addDc
  split <;> rfl

@[simp] theorem dcs_addPublicRsaKey (dcId : DcId) (dispatcher : NetQueryDispatcher traits) :
    (dispatcher.addPublicRsaKey dcId).dcs = dispatcher.dcs := by
  unfold addPublicRsaKey
  split <;> rfl

/-- What the code under the mutex does to the data centers. -/
structure Section.Opens (work : Section) (before after : NetQueryDispatcher traits) : Prop where
  stopFlag : before.stopFlag = true → after.stopFlag = true
  needDestroyAuthKey : before.needDestroyAuthKey = true → after.needDestroyAuthKey = true
  isInited : ∀ place, (before.dcs place).isInited = true → (after.dcs place).isInited = true
  isValid : ∀ place, (after.dcs place).isValid = true ↔
        (before.dcs place).isValid = true ∨ ∃ dcId, work = .init dcId ∧ position dcId = place
  opened : ∀ dcId, work = .init dcId →
      (after.dcs (position dcId)).isInited = true ∨ after.stopFlag = true ∨
        after.needDestroyAuthKey = true

theorem Section.opens_of_run {clock : Clock} {dispatcher after : NetQueryDispatcher traits}
    {work : Section} (done : work.run clock dispatcher = .ok after) :
    work.Opens dispatcher after := by
  cases work with
  | destroyAuthKeys =>
    cases done
    exact ⟨id, fun _ => rfl, fun _ => id, by simp, nofun⟩
  | stop =>
    cases done
    exact ⟨fun _ => rfl, id, fun _ => id, by simp, nofun⟩
  | init dcId =>
    obtain ⟨⟨opened, failure⟩, returned, same⟩ := bind_eq_ok done
    cases same
    rcases initDc_eq_ok returned with ⟨closing, rfl⟩ | ⟨⟨notStopped, notDestroyed⟩, rfl⟩
    · refine ⟨id, id, fun place => ?_, fun place => ?_, fun _ _ => .inr closing⟩ <;>
        rcases eq_or_ne place (position dcId) with rfl | other <;>
        simp_all [withDc, Ne.symm]
    · refine ⟨by simp [notStopped], by simp [notDestroyed], fun place => ?_, fun place => ?_,
        by simp [withDc]⟩ <;>
        rcases eq_or_ne place (position dcId) with rfl | other <;>
        simp_all [withDc, Ne.symm]

namespace Threads

variable {clock : Clock} {system after : Threads traits} {thread : ThreadId}

/-- What holds in every state. -/
structure Consistent (system : Threads traits) : Prop where
  claims : ∀ place,
      (system.claims place).length = if (system.dispatcher.dcs place).isValid = true then 1 else 0
  owns :
    ∀ thread place, (system.points thread).initializes = some place → system.claims place = [thread]
  spins : ∀ thread place,
      (system.points thread).spins = some place → (system.dispatcher.dcs place).isValid = true
  opened : ∀ place, (system.dispatcher.dcs place).isValid = true →
        (system.dispatcher.dcs place).isInited = true ∨ system.Closing ∨
          ∃ thread, (system.points thread).initializes = some place

theorem Consistent.moved (consistent : system.Consistent) {point : Point}
    (dispatcher : after.dispatcher = system.dispatcher) (claims : after.claims = system.claims)
    (points : after.points = Function.update system.points thread point)
    (initializes : point.initializes = (system.points thread).initializes)
    (spins : ∀ place, point.spins = some place → (system.dispatcher.dcs place).isValid = true) :
    after.Consistent := by
  have same (other : ThreadId) :
      (after.points other).initializes = (system.points other).initializes := by
    rw [points]
    by_cases isThread : other = thread
    · rw [isThread, update_self, initializes]
    · rw [update_of_ne isThread]
  refine ⟨?_, ?_, ?_, ?_⟩
  · simpa [dispatcher, claims] using consistent.claims
  · simpa [same, claims] using consistent.owns
  · intro other place
    rw [points, dispatcher]
    by_cases isThread : other = thread
    · rw [isThread, update_self]
      exact spins place
    · rw [update_of_ne isThread]
      exact consistent.spins other place
  · simpa [same, dispatcher, Closing] using consistent.opened

theorem initializes_of_moves {dispatcher : NetQueryDispatcher traits} {here : Point}
    {there : Option Point} (moves : Moves dispatcher here there) : here.initializes = none ∧
      ∀ point ∈ there, point.initializes = none ∧ ∀ place, point.spins = some place →
            (dispatcher.dcs place).isValid = true ∨ here.spins = some place := by
  cases moves <;> simp_all [Point.initializes, Point.spins]

theorem initializes_resume (caller : Option Int) :
    (resume caller).initializes = none ∧ (resume caller).spins = none := by
  cases caller <;> exact ⟨rfl, rfl⟩

theorem Consistent.step (consistent : system.Consistent) (step : Step clock system thread after) :
    after.Consistent := by
  cases step with
  | call point idle entry =>
    refine consistent.moved rfl rfl rfl ?_ ?_ <;>
      rcases entry with ⟨dcId, force, rfl⟩ | rfl | rfl <;>
      simp [idle, Point.initializes, Point.spins]
  | move point moves =>
    obtain ⟨leaves, enters⟩ := initializes_of_moves moves
    obtain ⟨initializes, spins⟩ := enters point rfl
    refine consistent.moved rfl rfl rfl (initializes.trans leaves.symm) ?_
    exact fun place isSpin => (spins place isSpin).elim id (consistent.spins thread place)
  | finish moves =>
    obtain ⟨leaves, _⟩ := initializes_of_moves moves
    obtain ⟨initializes, spins⟩ := initializes_resume (system.callers thread)
    exact consistent.moved rfl rfl rfl (initializes.trans leaves.symm) (by simp [spins])
  | destroyInit rawDcId isLoop _ _ =>
    exact consistent.moved rfl rfl rfl (by simp [isLoop, Point.initializes]) (by simp [Point.spins])
  | lock work isLock free =>
    refine consistent.moved rfl rfl rfl ?_ (by simp [Point.spins])
    cases work <;> simp [isLock, Point.initializes]
  | unlock isUnlock =>
    obtain ⟨initializes, spins⟩ := initializes_resume (system.callers thread)
    refine consistent.moved rfl rfl rfl (initializes.trans ?_) (by simp [spins])
    rw [isUnlock]
    rfl
  | exchange dcId isExchange notValid =>
    have unclaimed : system.claims (position dcId) = [] := by
      have none := consistent.claims (position dcId)
      rw [notValid] at none
      exact List.eq_nil_of_length_eq_zero none
    refine ⟨fun place => ?_, fun other place => ?_, fun other place => ?_, fun place => ?_⟩
    · have claims := consistent.claims place
      rcases eq_or_ne place (position dcId) with rfl | differs <;> simp_all [goTo, withDc]
    · have owns := consistent.owns other place
      rcases eq_or_ne other thread with rfl | notThread
      · intro initializes
        simp only [goTo, update_self] at initializes
        cases initializes
        simp [goTo, unclaimed]
      · rcases eq_or_ne place (position dcId) with rfl | differs <;> simp_all [goTo]
    · have spins := consistent.spins other place
      rcases eq_or_ne other thread with rfl | notThread
      · simp [goTo, Point.spins]
      · rcases eq_or_ne place (position dcId) with rfl | differs <;> simp_all [goTo, withDc]
    · intro isValid
      rcases eq_or_ne place (position dcId) with rfl | differs
      · exact .inr (.inr ⟨thread, by simp [goTo, Point.initializes]⟩)
      · rcases consistent.opened place (by simpa [goTo, withDc, differs] using isValid) with
          inited | closing | ⟨other, initializes⟩
        · exact .inl (by simpa [goTo, withDc, differs] using inited)
        · exact .inr (.inl closing)
        · have notThread : other ≠ thread := by
            rintro rfl
            simp [isExchange, Point.initializes] at initializes
          exact .inr (.inr ⟨other, by simpa [goTo, notThread] using initializes⟩)
  | work work dispatcher isLocked done =>
    obtain ⟨stopFlag, needDestroyAuthKey, isInited, isValid, opened⟩ := Section.opens_of_run done
    have claimed (dcId : DcId) (isInit : work = .init dcId) :
        system.claims (position dcId) = [thread] := by
      apply consistent.owns
      rw [isLocked, isInit]
      rfl
    have sameValid (place : Nat) :
        (dispatcher.dcs place).isValid = true ↔ (system.dispatcher.dcs place).isValid = true := by
      rw [isValid place, or_iff_left_iff_imp]
      rintro ⟨dcId, isInit, rfl⟩
      have one := consistent.claims (position dcId)
      rw [claimed dcId isInit] at one
      by_contra notValid
      simp [notValid] at one
    refine ⟨fun place => ?_, fun other place => ?_, fun other place => ?_, fun place valid => ?_⟩
    · simpa [goTo, sameValid] using consistent.claims place
    · rcases eq_or_ne other thread with rfl | notThread
      · simp [goTo, Point.initializes]
      · simpa [goTo, notThread] using consistent.owns other place
    · rcases eq_or_ne other thread with rfl | notThread
      · simp [goTo, Point.spins]
      · simpa [goTo, notThread, sameValid] using consistent.spins other place
    · rcases consistent.opened place ((sameValid place).mp valid) with
        inited | closing | ⟨other, initializes⟩
      · exact .inl (isInited place inited)
      · exact .inr (.inl (closing.imp stopFlag needDestroyAuthKey))
      · rcases eq_or_ne other thread with rfl | notThread
        · rw [isLocked] at initializes
          cases work with
          | init dcId =>
            cases initializes
            exact (opened dcId rfl).imp_right .inl
          | destroyAuthKeys | stop => cases initializes
        · exact .inr (.inr ⟨other, by simpa [goTo, notThread] using initializes⟩)

/-- A dispatcher whose data centers are not valid yet. -/
def start (client : Client traits) : Threads traits where
  dispatcher := { client }

/-- A run without an end. -/
structure Execution (clock : Clock) (first : Threads traits) where
  states : Nat → Threads traits
  threads : Nat → ThreadId
  first : states 0 = first
  step : ∀ time, Step clock (states time) (threads time) (states (time + 1))

namespace Execution

variable {first : Threads traits} (execution : Execution clock first)

/-- A thread that is in a call goes on, and is given the mutex if it waits for it. -/
def Fair : Prop :=
  ∀ time thread, (execution.states time).points thread ≠ .idle →
      ∃ later, time ≤ later ∧ execution.threads later = thread

variable {execution}

theorem consistent (consistent : first.Consistent) (time : Nat) :
    (execution.states time).Consistent := by
  induction time with
  | zero => simpa [execution.first] using consistent
  | succ time before => exact before.step (execution.step time)

end Execution

theorem Step.points_of_ne (step : Step clock system thread after) {other : ThreadId}
    (differs : other ≠ thread) : after.points other = system.points other := by
  cases step <;> simp [goTo, setCaller, differs]

variable {place : Nat}

section

variable (step : Step clock system thread after)
include step

theorem Step.isInited (inited : (system.dispatcher.dcs place).isInited = true) :
    (after.dispatcher.dcs place).isInited = true := by
  cases step with
  | work work dispatcher _ done => exact (Section.opens_of_run done).isInited place inited
  | exchange dcId _ _ =>
    rcases eq_or_ne place (position dcId) with rfl | differs <;> simp_all [goTo, withDc]
  | _ => exact inited

theorem Step.of_spins (waits : (system.points thread).spins = some place)
    (inited : (system.dispatcher.dcs place).isInited = true) : (after.points thread).spins = none ∨
      (∃ dcId, system.points thread = .testStopFlag dcId) ∧
        ∃ dcId, after.points thread = .spin dcId := by
  cases step with
  | finish moves => exact .inl (by simp [goTo, setCaller, initializes_resume])
  | move point moves =>
    generalize system.points thread = here at *
    cases moves <;> simp_all [Point.spins, goTo]
  | _ => simp_all [Point.spins]

theorem Step.of_initializes (initializes : (system.points thread).initializes = some place) :
    ((after.points thread).initializes = some place ∧
        (∃ work, system.points thread = .lock work) ∧ ∃ work, after.points thread = .locked work) ∨
      (after.dispatcher.dcs place).isInited = true ∨ after.Closing := by
  cases step with
  | lock work isLock _ => cases work <;> simp_all [Point.initializes, goTo]
  | work work dispatcher isLocked done =>
    have opened := (Section.opens_of_run done).opened
    cases work <;> simp_all [Point.initializes, goTo, Closing]
  | move point moves | finish moves => simp [(initializes_of_moves moves).1] at initializes
  | _ => simp_all [Point.initializes]

end

namespace Execution

variable {first : Threads traits} {execution : Execution clock first} {time : Nat} {place : Nat}

theorem Fair.next (fair : execution.Fair) (called : (execution.states time).points thread ≠ .idle) :
    ∃ later, time ≤ later ∧ execution.threads later = thread ∧
        (execution.states later).points thread = (execution.states time).points thread := by
  obtain ⟨later, le, isThread⟩ := fair time thread called
  clear called
  induction le using Nat.decreasingInduction with
  | self => exact ⟨later, le_rfl, isThread, rfl⟩
  | of_succ time le next =>
    by_cases now : execution.threads time = thread
    · exact ⟨time, le_rfl, now, rfl⟩
    · obtain ⟨found, after, isThread, same⟩ := next
      refine ⟨found, Nat.le_of_succ_le after, isThread, same.trans ?_⟩
      exact (execution.step time).points_of_ne (Ne.symm now)

theorem isInited_of_le {later : Nat}
    (inited : ((execution.states time).dispatcher.dcs place).isInited = true) (le : time ≤ later) :
    ((execution.states later).dispatcher.dcs place).isInited = true := by
  induction le with
  | refl => exact inited
  | step _ before => exact (execution.step _).isInited before

theorem Fair.opened (fair : execution.Fair) (consistent : (execution.states time).Consistent)
    (isValid : ((execution.states time).dispatcher.dcs place).isValid = true) : ∃ later,
      time ≤ later ∧ (((execution.states later).dispatcher.dcs place).isInited = true ∨
          (execution.states later).Closing) := by
  rcases consistent.opened place isValid with inited | closing | ⟨thread, initializes⟩
  · exact ⟨time, le_rfl, .inl inited⟩
  · exact ⟨time, le_rfl, .inr closing⟩
  · have called {now : Nat}
        (initializes : ((execution.states now).points thread).initializes = some place) :
        (execution.states now).points thread ≠ .idle := by
      intro idle
      simp [idle, Point.initializes] at initializes
    obtain ⟨locks, afterTime, isThread, same⟩ := fair.next (called initializes)
    have step := execution.step locks
    rw [isThread] at step
    rcases step.of_initializes (same ▸ initializes) with ⟨still, _, _, isLocked⟩ | done
    · obtain ⟨works, afterLocks, isThread, same⟩ := fair.next (called still)
      have step := execution.step works
      rw [isThread] at step
      rcases step.of_initializes (same ▸ still) with ⟨_, ⟨_, isLock⟩, _⟩ | done
      · simp [same, isLocked] at isLock
      · exact ⟨works + 1, by omega, done⟩
    · exact ⟨locks + 1, by omega, done⟩

theorem Fair.leaves (fair : execution.Fair) (consistent : (execution.states time).Consistent)
    (waits : ((execution.states time).points thread).spins = some place) : ∃ later, time ≤ later ∧
        (((execution.states later).points thread).spins ≠ some place ∨
          (execution.states later).Closing) := by
  by_contra stays
  push Not at stays
  obtain ⟨opens, afterTime, inited | closing⟩ :=
    fair.opened consistent (consistent.spins thread place waits)
  · have called {now : Nat} (le : time ≤ now) : (execution.states now).points thread ≠ .idle := by
      intro idle
      have spins := (stays now le).1
      simp [idle, Point.spins] at spins
    have next {now : Nat} (le : opens ≤ now) := fair.next (called (afterTime.trans le))
    have leaves {now : Nat} (le : opens ≤ now) (isThread : execution.threads now = thread) :=
      (isThread ▸ execution.step now).of_spins (stays now (afterTime.trans le)).1
        (isInited_of_le inited le)
    have notLeft {now : Nat} (le : opens ≤ now) :
        ((execution.states (now + 1)).points thread).spins ≠ none := by
      simp [(stays (now + 1) (by omega)).1]
    obtain ⟨tests, afterOpens, isThread, _⟩ := next le_rfl
    rcases leaves afterOpens isThread with left | ⟨_, _, isSpin⟩
    · exact notLeft afterOpens left
    · obtain ⟨reads, afterTests, isThread, same⟩ := next (Nat.le_succ_of_le afterOpens)
      have afterOpens : opens ≤ reads := by omega
      rcases leaves afterOpens isThread with left | ⟨⟨_, isTest⟩, _⟩
      · exact notLeft afterOpens left
      · simp [same, isSpin] at isTest
  · exact (stays opens afterTime).2 closing

end Execution

/--
While the dispatcher is neither stopped nor told to destroy the keys, a data center
that is valid and not inited is being initialised by the one thread that claimed it,
and no thread stays in the loop.
-/
theorem initialised_by_one_thread
    {client : Client traits}
    {threads : List ThreadId}
    (run : Run (Step clock) (start client) threads system) :
    (∀ place, (system.dispatcher.dcs place).isValid = true → ∃ thread,
          system.claims place = [thread] ∧
            (∀ other, (system.points other).initializes = some place → other = thread) ∧
            ((system.dispatcher.dcs place).isInited = true ∨ system.Closing ∨
              (system.points thread).initializes = some place)) ∧
      ∀ execution : Execution clock system, execution.Fair →
          ∀ time thread place, ((execution.states time).points thread).spins = some place →
              ∃ later, time ≤ later ∧ (((execution.states later).points thread).spins ≠ some place ∨
                    (execution.states later).Closing) := by
  have consistent : system.Consistent := by
    refine run.invariant ⟨fun _ => rfl, nofun, nofun, nofun⟩ ?_
    exact fun _ _ _ consistent step => consistent.step step
  refine ⟨fun place isValid => ?_, fun execution fair time thread place waits => ?_⟩
  · have one := consistent.claims place
    rw [if_pos isValid, List.length_eq_one_iff] at one
    obtain ⟨thread, claimed⟩ := one
    have owner (other : ThreadId)
        (initializes : (system.points other).initializes = some place) : other = thread := by
      have owns := consistent.owns other place initializes
      simpa [claimed, eq_comm] using owns
    refine ⟨thread, claimed, owner, (consistent.opened place isValid).imp_right ?_⟩
    exact Or.imp_right fun ⟨other, initializes⟩ => owner other initializes ▸ initializes
  · exact fair.leaves (execution.consistent consistent time) waits

theorem exists_waiting {dcId : DcId} (waits : system.points thread = .spin dcId)
    (notInited : (system.dispatcher.dcs (position dcId)).isInited = false)
    (notStopped : system.dispatcher.stopFlag = false)
    (alone : ∀ other, other ≠ thread → system.points other = .idle) :
    ∃ execution : Execution clock system, execution.Fair ∧
        ∀ time, ((execution.states time).points thread).spins = some (position dcId) ∧
            (execution.states time).dispatcher = system.dispatcher := by
  let tests := system.goTo thread (.testStopFlag dcId)
  have test : Step clock system thread tests := .move thread _ (waits ▸ .notInited notInited)
  have sleep : Step clock tests thread system := by
    have back : tests.goTo thread (.spin dcId) = system := by simp [tests, goTo, ← waits]
    rw [← back]
    exact .move thread _ (by simpa [tests, goTo] using .sleep notStopped)
  refine ⟨⟨fun time => if time % 2 = 0 then system else tests, fun _ => thread, rfl, ?_⟩, ?_, ?_⟩
  · intro time
    rcases Nat.mod_two_eq_zero_or_one time with even | odd
    · simpa [even, Nat.add_mod] using test
    · simpa [odd, Nat.add_mod] using sleep
  · intro time other called
    refine ⟨time, le_rfl, ?_⟩
    by_contra differs
    refine called ?_
    dsimp only
    split <;> simp [tests, goTo, Ne.symm differs, alone]
  · intro time
    dsimp only
    split <;> simp [tests, goTo, waits, Point.spins]

section Example

open MtprotoClient (exampleClock)

/-- The first thread has claimed a data center, and the second one waits for it. -/
theorem claimed_by_first_thread : ∃ (threads : List ThreadId) (reached : Threads collidingTraits),
      Run (Step exampleClock) (start exampleDispatcher.client) threads reached ∧
        (reached.points 1).spins = some 1 ∧ ¬ reached.Closing ∧
        (reached.dispatcher.dcs 1).isInited = false ∧ reached.claims 1 = [0] ∧
        (reached.points 0).initializes = some 1 := by
  have begins : Run (Step exampleClock) (start exampleDispatcher.client) [] _ := .start
  have waits :=
    ((((begins.extend (.call 0 (.waitDcInit ⟨2, false⟩ true) rfl (.inl ⟨_, _, rfl⟩))).extend
      (.move 0 _ (.forced (by decide) (by decide) rfl))).extend
      (.exchange 0 ⟨2, false⟩ rfl rfl)).extend
      (.call 1 (.waitDcInit ⟨2, false⟩ false) rfl (.inl ⟨_, _, rfl⟩))).extend
      (.move 1 _ (.valid (by decide) (by decide) rfl))
  obtain ⟨thread, claimed, _, inited | (stopped | destroyed) | initializes⟩ :=
    (initialised_by_one_thread waits).1 1 rfl
  · cases inited
  · cases stopped
  · cases destroyed
  · cases claimed
    exact ⟨_, _, waits, rfl, by rintro (stopped | destroyed) <;> contradiction, rfl, rfl,
      initializes⟩

/--
The first thread destroys the keys. The second one claims a data center and
leaves it as it is. The third one waits for it forever.
-/
theorem waits_forever_after_destroyAuthKeys :
    ∃ (threads : List ThreadId) (reached : Threads collidingTraits),
      Run (Step exampleClock) (start exampleDispatcher.client) threads reached ∧
        (reached.dispatcher.dcs 1).isValid = true ∧ (reached.dispatcher.dcs 1).isInited = false ∧
        (∀ thread, (reached.points thread).initializes = none) ∧
        ∃ execution : Execution exampleClock reached, execution.Fair ∧
            ∀ time, ((execution.states time).points 2).spins = some 1 ∧
                (execution.states time).dispatcher.stopFlag = false := by
  have idle (thread : ThreadId) : update (fun _ => Point.idle) thread .idle = fun _ => .idle :=
    update_eq_self thread _
  have uncalled (thread : ThreadId) :
      update (fun _ => (none : Option Int)) thread none = fun _ => none :=
    update_eq_self thread _
  have begins : Run (Step exampleClock) (start exampleDispatcher.client) [] _ := .start
  have destroyed := (((((((((begins.extend (.call 0 (.destroyLoop 1) rfl (.inr (.inl rfl)))).extend
      (.move 0 (.destroyLoop 2) (.destroyNext (by decide)))).extend
      (.move 0 (.destroyLoop 3) (.destroyNext (by decide)))).extend
      (.move 0 (.destroyLoop 4) (.destroyNext (by decide)))).extend
      (.move 0 (.destroyLoop 5) (.destroyNext (by decide)))).extend
      (.move 0 (.destroyLoop 6) (.destroyNext (by decide)))).extend
      (.move 0 _ (.destroyLast (by decide)))).extend
      (.lock 0 .destroyAuthKeys rfl rfl)).extend
      (.work 0 .destroyAuthKeys _ rfl rfl)).extend
      (.unlock 0 rfl)
  simp only [goTo, setCaller, resume, start, update_idem, idle, uncalled] at destroyed
  have claimed :=
    (((((destroyed.extend (.call 1 (.waitDcInit ⟨2, false⟩ true) rfl (.inl ⟨_, _, rfl⟩))).extend
      (.move 1 _ (.forced (by decide) (by decide) rfl))).extend
      (.exchange 1 ⟨2, false⟩ rfl rfl)).extend
      (.lock 1 (.init ⟨2, false⟩) rfl rfl)).extend
      (.work 1 (.init ⟨2, false⟩) _ rfl rfl)).extend
      (.unlock 1 rfl)
  simp only [goTo, setCaller, resume, update_idem, idle, uncalled] at claimed
  have waits :=
    (claimed.extend (.call 2 (.waitDcInit ⟨2, false⟩ true) rfl (.inl ⟨_, _, rfl⟩))).extend
      (.move 2 _ (.valid (by decide) (by decide) rfl))
  simp only [goTo, update_idem] at waits
  refine ⟨_, _, waits, rfl, rfl, fun thread => ?_, ?_⟩
  · by_cases third : thread = 2 <;> simp [third, Point.initializes]
  · refine Exists.imp ?_ (@exists_waiting _ _ _ 2 ⟨2, false⟩ rfl rfl rfl ?_)
    · rintro execution ⟨fair, stays⟩
      refine ⟨fair, fun time => ⟨(stays time).1, ?_⟩⟩
      rw [(stays time).2]
      rfl
    · intro other differs
      simp [differs]

end Example

end Threads

end Autoproto.NetQueryDispatcher
