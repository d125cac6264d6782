import Mathlib.Algebra.Group.Nat.Defs
import Mathlib.Data.List.Basic
import Autoproto.Transition

namespace Autoproto

open Transition (Run)

/-!
# The queue between threads

Many threads put values into `MpscPollableQueue` and one reads them.  What the
mutex guards is one step here; the event is set by a writer that has left the
mutex, and it is cleared by the reader between its two looks at the queue.
-/

/-- Where the reader is: outside, about to clear the event, or before its second look. -/
inductive ReaderPoint where
  | idle
  | acquire
  | second
  deriving DecidableEq

/--
The queue, with the writers about to set the event. What has been put and got,
and whether `reader_wait_nonblock` has last returned zero, is recorded.
-/
structure MpscPollableQueue (Writer Value : Type) where
  waitEventFd : Bool := false
  eventFd : Bool := false
  writerVector : List Value := []
  readerVector : List Value := []
  readerPos : Nat := 0
  reader : ReaderPoint := .idle
  releases : Writer → Bool := fun _ => false
  aborted : Bool := false
  put : List (Writer × Value) := []
  delivered : List Value := []
  waits : Bool := false

namespace MpscPollableQueue

variable {Writer Value : Type} [DecidableEq Writer]

/-- What the reader has not got yet of the values that it has taken. -/
def unread (queue : MpscPollableQueue Writer Value) : List Value :=
  queue.readerVector.drop queue.readerPos

/-- The part of `writer_put` under the mutex. -/
def writerPut (writer : Writer) (value : Value)
    (queue : MpscPollableQueue Writer Value) : MpscPollableQueue Writer Value :=
  { queue with
    writerVector := queue.writerVector ++ [value]
    waitEventFd := false
    releases := Function.update queue.releases writer queue.waitEventFd
    put := queue.put ++ [(writer, value)] }

/-- The vectors are swapped; the size has to fit an `int`. -/
def swap (queue : MpscPollableQueue Writer Value) : MpscPollableQueue Writer Value :=
  { queue with
    readerVector := queue.writerVector
    readerPos := 0
    writerVector := []
    reader := .idle
    aborted := decide (2 ^ 31 ≤ queue.writerVector.length)
    waits := false }

inductive Event (Writer Value : Type) where
  | put (writer : Writer) (value : Value)
  | release (writer : Writer)
  /-- The reader is told of so many values. -/
  | returns (ready : Nat)
  | first
  | acquire
  | returnZero
  | get (value : Value)

/--
The steps of the writers and the reader. Nothing is put while the event is
cleared under the mutex, but the event may be set.
-/
inductive Step (queue : MpscPollableQueue Writer Value) :
    Event Writer Value → MpscPollableQueue Writer Value → Prop where
  | put {writer : Writer} (value : Value) :
      queue.aborted = false →
      queue.releases writer = false →
      queue.reader ≠ .acquire →
      Step queue (.put writer value) (queue.writerPut writer value)
  | release {writer : Writer} :
      queue.aborted = false →
      queue.releases writer = true →
      Step queue (.release writer)
        { queue with
          eventFd := true
          releases := Function.update queue.releases writer false }
  -- There are values that have been taken before.
  | ready :
      queue.aborted = false →
      queue.reader = .idle →
      queue.unread ≠ [] →
      Step queue (.returns queue.unread.length)
        { queue with
          waits := false
          aborted := decide (2 ^ 31 ≤ queue.unread.length) }
  | first :
      queue.aborted = false →
      queue.reader = .idle →
      queue.unread = [] →
      queue.writerVector = [] →
      Step queue .first { queue with reader := .acquire, waits := false }
  | acquire :
      queue.aborted = false →
      queue.reader = .acquire →
      Step queue .acquire { queue with reader := .second, eventFd := false }
  -- At the first look or at the second one.
  | swap :
      queue.aborted = false →
      queue.reader = .idle ∧ queue.unread = [] ∨ queue.reader = .second →
      queue.writerVector ≠ [] →
      Step queue (.returns queue.writerVector.length) queue.swap
  | returnZero :
      queue.aborted = false →
      queue.reader = .second →
      queue.writerVector = [] →
      Step queue .returnZero
        { queue with
          readerVector := []
          readerPos := 0
          waitEventFd := true
          reader := .idle
          waits := true }
  -- The reader only gets as many values as it was told.
  | get {value : Value} :
      queue.aborted = false →
      queue.reader = .idle →
      queue.readerVector[queue.readerPos]? = some value →
      Step queue (.get value)
        { queue with
          readerPos := queue.readerPos + 1
          delivered := queue.delivered ++ [value] }

/-- What holds of the queue at all times. -/
structure Consistent (queue : MpscPollableQueue Writer Value) : Prop where
  conserved : queue.put.map Prod.snd = queue.delivered ++ queue.unread ++ queue.writerVector
  looking : queue.reader ≠ .idle → queue.unread = []
  waiting : queue.waits = true →
      queue.reader = .idle ∧ queue.unread = [] ∧
        (queue.waitEventFd = true ∧ queue.writerVector = [] ∨
          queue.eventFd = true ∨ ∃ writer, queue.releases writer = true)

variable {queue after : MpscPollableQueue Writer Value} {event : Event Writer Value}

theorem Consistent.step (consistent : queue.Consistent) (step : Step queue event after) :
    after.Consistent := by
  obtain ⟨conserved, looking, waiting⟩ := consistent
  cases step with
  | @put writer value _ _ _ =>
    refine ⟨by simp_all [writerPut, unread], looking, fun waits => ?_⟩
    obtain ⟨isIdle, nothing, ⟨flag, _⟩ | event | ⟨other, releases⟩⟩ := waiting waits
    · exact ⟨isIdle, nothing, .inr (.inr ⟨writer, by simp [writerPut, flag]⟩)⟩
    · exact ⟨isIdle, nothing, .inr (.inl event)⟩
    · refine ⟨isIdle, nothing, .inr (.inr ⟨other, ?_⟩)⟩
      rcases eq_or_ne other writer with rfl | different <;> simp_all [writerPut]
  | release =>
    refine ⟨conserved, looking, fun waits => ?_⟩
    obtain ⟨isIdle, nothing, _⟩ := waiting waits
    exact ⟨isIdle, nothing, .inr (.inl rfl)⟩
  | ready => exact ⟨conserved, looking, nofun⟩
  | first _ _ nothing => exact ⟨conserved, fun _ => nothing, nofun⟩
  | acquire _ isHere =>
    refine ⟨conserved, fun _ => looking (by simp [isHere]), fun waits => ?_⟩
    simp [isHere] at waiting
    simp [waiting] at waits
  | swap _ looks _ =>
    have nothing : queue.unread = [] := by
      rcases looks with ⟨_, nothing⟩ | isSecond
      · exact nothing
      · exact looking (by simp [isSecond])
    refine ⟨?_, by simp [swap], nofun⟩
    rw [nothing, List.append_nil] at conserved
    simpa [swap, unread] using conserved
  | returnZero _ isSecond nothing =>
    have read := looking (by simp [isSecond])
    rw [read] at conserved
    exact ⟨conserved, nofun, fun _ => ⟨rfl, rfl, .inl ⟨rfl, nothing⟩⟩⟩
  | @get value _ isIdle isValue =>
    obtain ⟨isThere, rfl⟩ := List.getElem?_eq_some_iff.mp isValue
    have taken : queue.unread = _ := List.drop_eq_getElem_cons isThere
    refine ⟨?_, fun looks => absurd isIdle looks, fun waits => ?_⟩
    · rw [conserved, taken]
      simp [unread]
    · rw [(waiting waits).2.1] at taken
      cases taken

theorem signalled_after_put {events : List (Event Writer Value)} (run : Run Step queue events after)
    (flag : queue.waitEventFd = true) :
    (after.waitEventFd = true ∧ ∀ writer value, .put writer value ∉ events) ∨
      ∃ writer, .release writer ∈ events ∨ after.releases writer = true := by
  induction run with
  | start => exact .inl ⟨flag, by simp⟩
  | extend run step ih =>
    rcases ih with ⟨flag, noPut⟩ | ⟨writer, released | releases⟩
    · cases step with
      | @put writer value => exact .inr ⟨writer, .inr (by simp [writerPut, flag])⟩
      | @release writer => exact .inr ⟨writer, .inl (by simp)⟩
      | _ => exact .inl ⟨by first | exact flag | rfl, by simpa using noPut⟩
    · exact .inr ⟨writer, .inl (List.mem_append_left _ released)⟩
    · cases step with
      | @put other value _ notReleases _ =>
        have different : writer ≠ other := by
          rintro rfl
          cases releases.symm.trans notReleases
        exact .inr ⟨writer, .inr (by simp [writerPut, different, releases])⟩
      | @release other => exact .inr ⟨other, .inl (by simp)⟩
      | _ => exact .inr ⟨writer, .inr releases⟩

theorem delivered_when_idle
    (isIdle : queue.reader = .idle)
    (running : queue.aborted = false)
    {value : Value}
    {rest : List Value}
    (waiting : queue.unread ++ queue.writerVector = value :: rest)
    (few : rest.length + 1 < 2 ^ 31) :
    ∃ ready told got, Step queue (.returns ready) told ∧ 0 < ready ∧ Step told (.get value) got ∧
      got.delivered = queue.delivered ++ [value] := by
  cases hasUnread : queue.unread with
  | cons first others =>
    obtain ⟨rfl, rfl⟩ := List.cons.inj (waiting.symm.trans (congrArg (· ++ _) hasUnread))
    have isNext : queue.readerVector[queue.readerPos]? = some value :=
      List.head?_drop.symm.trans (congrArg List.head? hasUnread)
    refine ⟨_, _, _, .ready running isIdle (by simp [hasUnread]), by simp [hasUnread],
      .get (decide_eq_false ?_) isIdle isNext, rfl⟩
    rw [List.append_eq, List.length_append] at few
    rw [hasUnread, List.length_cons]
    omega
  | nil =>
    rw [hasUnread, List.nil_append] at waiting
    refine ⟨_, _, _, .swap running (.inl ⟨isIdle, hasUnread⟩) (by simp [waiting]),
      by simp [waiting], .get (decide_eq_false ?_) rfl (by simp [swap, waiting]), rfl⟩
    rw [waiting, List.length_cons]
    omega

/--
The values are delivered once and in order: a reader that comes while there are
values gets the oldest one. Zero is returned only when all have been delivered;
when there is another value, the event is set, or a writer is about to set it.
-/
theorem delivers_in_order_and_wakes
    {events : List (Event Writer Value)}
    (run : Run Step {} events queue) :
    queue.put.map Prod.snd = queue.delivered ++ queue.unread ++ queue.writerVector ∧
      (queue.reader = .idle → queue.aborted = false → ∀ value rest,
        queue.unread ++ queue.writerVector = value :: rest → rest.length + 1 < 2 ^ 31 →
          (∀ after, ¬ Step queue .first after) ∧
          ∃ ready told got, Step queue (.returns ready) told ∧ 0 < ready ∧
            Step told (.get value) got ∧ got.delivered = queue.delivered ++ [value]) ∧
      (queue.waits = true →
        queue.writerVector ≠ [] → queue.eventFd = true ∨ ∃ writer, queue.releases writer = true) ∧
      ∀ zero, Step queue .returnZero zero → zero.put.map Prod.snd = zero.delivered ∧
            ∀ later reached writer value, Run Step zero later reached → .put writer value ∈ later →
                  ∃ other, .release other ∈ later ∨ reached.releases other = true := by
  have consistent : queue.Consistent :=
    run.invariant ⟨rfl, fun _ => rfl, nofun⟩ fun _ _ _ consistent step => consistent.step step
  refine ⟨consistent.conserved, ?_, fun waits waiting => ?_, fun zero step => ?_⟩
  · intro isIdle running value rest waiting few
    refine ⟨fun after first => ?_, delivered_when_idle isIdle running waiting few⟩
    cases first with
    | first _ _ nothing nothingPut =>
      rw [nothing, nothingPut] at waiting
      cases waiting
  · rcases (consistent.waiting waits).2.2 with ⟨_, nothing⟩ | signalled
    · exact absurd nothing waiting
    · exact signalled
  · have after := consistent.step step
    cases step with
    | returnZero _ _ nothing =>
      refine ⟨by simpa [unread, nothing] using after.conserved, ?_⟩
      intro later reached writer value run isPut
      rcases signalled_after_put run rfl with ⟨_, noPut⟩ | signalled
      · exact absurd isPut (noPut writer value)
      · exact signalled

/-- A reader that was woken has got a value, and gets the next one of two that have been put. -/
theorem woken_reader_gets_values :
    ∃ queue : MpscPollableQueue Nat Nat,
      Run Step {} [.first, .acquire, .returnZero, .put 1 5, .release 1, .returns 1, .get 5,
        .put 2 6, .put 1 7] queue ∧ queue.delivered = [5] ∧
      ∃ ready told got, Step queue (.returns ready) told ∧ 0 < ready ∧ Step told (.get 6) got ∧
        got.delivered = [5, 6] := by
  have run : Run Step ({} : MpscPollableQueue Nat Nat) [.first, .acquire, .returnZero, .put 1 5,
      .release 1, .returns 1, .get 5, .put 2 6, .put 1 7] _ :=
    .cons (.first rfl rfl rfl rfl) (.cons (.acquire rfl rfl) (.cons (.returnZero rfl rfl rfl)
      (.cons (.put 5 rfl rfl nofun) (.cons (.release rfl rfl)
      (.cons (.swap rfl (.inl ⟨rfl, rfl⟩) nofun) (.cons (.get rfl rfl rfl)
      (.cons (.put 6 rfl rfl nofun) (.cons (.put 7 rfl rfl nofun) .start))))))))
  refine ⟨_, run, rfl, ?_⟩
  exact ((delivers_in_order_and_wakes run).2.1 rfl rfl 6 [7] rfl (by decide)).2

end MpscPollableQueue

end Autoproto
