import Autoproto.SharedOptions
import Autoproto.SharedStore

namespace Autoproto.SharedStore

open SharedMemory SharedTable Transition

/-!
# When the shared stores are linearizable

Without a lock the store and the options of `Global` are linearizable only as
long as their callers are kept apart. Two calls of `set` that overlap can lose a
value, and one can write to an array that the other has freed.
-/

/--
The store and the options of `Global` are linearizable, and no access faults, in
every run in which calls on one of them overlap only if they just read, and
whatever is stored has a key and room.
-/
theorem linearizable_of_separateCalls
    {traits : TableTraits Bytes}
    {optionTraits : SharedOptions.OptionTraits}
    {patience : Nat}
    (enough : traits.maxBucketCount ≤ patience)
    (patient : SharedOptions.Patient optionTraits patience) :
    (∀ memory initial events system, Represents traits memory initial → Run
        (Guarded (Separate Reads (Represents traits) (Fits traits))
          (Step performStore (program traits patience))) (System.initial memory) events system →
      Linearizable Allowed initial (historyOf events) ∧ ¬ Faulty performStore system) ∧
      ∀ memory initial events system, SharedOptions.Represents optionTraits memory initial → Run
          (Guarded (Separate SharedOptions.Reads (SharedOptions.Represents optionTraits)
              (SharedOptions.Fits optionTraits))
            (Step SharedOptions.performOption (SharedOptions.program optionTraits patience)))
          (System.initial memory) events system →
        Linearizable SharedOptions.Allowed initial (historyOf events) ∧
          ¬ Faulty SharedOptions.performOption system := by
  constructor
  · intro memory initial events system represents run
    exact linearizable_of_separate (implements_store enough) represents run
  · intro memory initial events system represents run
    exact linearizable_of_separate (SharedOptions.implements_options patient) represents run

theorem linearizable_of_separateCalls_setThenGet : ∃ events system, Run
          (Guarded (Separate Reads (Represents collidingTraits) (Fits collidingTraits))
            (Step performStore (program collidingTraits collidingTraits.maxBucketCount)))
          (System.initial {}) events system ∧
        historyOf events = [.invoke 0 (.set [1] [10]), .respond 0 (.seqNo 1),
            .invoke 1 (.get [1]), .respond 1 (.value [10])] ∧
        Linearizable Allowed StoreState.fresh (historyOf events) ∧
        ¬ Faulty performStore system := by
  have fits :
      ∀ state, Represents collidingTraits {} state → Fits collidingTraits (.set [1] [10]) state :=
    fun state represents => ⟨List.cons_ne_nil 1 [], represents.1.room_of_empty [1]⟩
  obtain ⟨stored, setResult, afterSet, sets, represents, rfl, rfl⟩ :=
    ends_alone (Nat.le_refl _) (.set [1] [10]) represents_fresh (fits _ represents_fresh)
  obtain ⟨found, getResult, afterGet, gets, _, _, rfl⟩ :=
    ends_alone (Nat.le_refl _) (.get [1]) represents trivial
  obtain ⟨setEvents, setRun, setHistory⟩ := run_call Run.start fits sets
  have getFits :
      ∀ state, Represents collidingTraits stored state → Fits collidingTraits (.get [1]) state :=
    fun _ _ => trivial
  obtain ⟨events, run, history⟩ := run_call setRun getFits gets
  rw [setHistory] at history
  have patient : SharedOptions.Patient ⟨collidingTraits, collidingTraits, collidingTraits⟩
        collidingTraits.maxBucketCount :=
    ⟨Nat.le_refl _, Nat.le_refl _, Nat.le_refl _⟩
  refine ⟨events, _, run, ?_,
    (linearizable_of_separateCalls (Nat.le_refl _) patient).1 {} StoreState.fresh events _
      represents_fresh run⟩
  simpa [historyOf, StoreState.fresh] using history

section LostWrites

def accesses (count call : Nat) : List (Event Operation Result) :=
  List.replicate count (.access call)

/-- Two calls find one empty bucket; a search follows. -/
def lostSet : List (Event StoreOperation StoreResult) :=
  .invoke 0 (.set [1] [10]) :: accesses 15 0 ++
    .invoke 1 (.set [2] [20]) :: accesses 7 1 ++
    accesses 7 0 ++ .respond 0 (.seqNo 1) :: accesses 7 1 ++ .respond 1 (.seqNo 2) ::
    .invoke 2 (.get [1]) :: accesses 8 2 ++ [.respond 2 (.value [])]

/--
A call that saw the table without an array frees the one that another call has
allocated and is about to write to.
-/
def freedArray (first second : Operation) : List (Event Operation Result) :=
  .invoke 0 first :: accesses 2 0 ++ .invoke 1 second :: accesses 15 1 ++ accesses 19 0

theorem get_of_legal {initial final : StoreState}
    {order : List (Completed StoreOperation StoreResult)}
    (legal : Legal Allowed initial order final)
    (known : ∀ completed ∈ order, completed.operation ∈ [.set [1] [10], .set [2] [20], .get [1]])
    {setter getter : Completed StoreOperation StoreResult}
    (isSet : setter.operation = .set [1] [10])
    (isGet : getter.operation = .get [1]) : (setter ∈ order → final.map [1] = some [10]) ∧
      ([setter, getter].Sublist order → getter.result = .value [10]) := by
  induction legal with
  | start => exact ⟨nofun, nofun⟩
  | @extend order before after completed earlier allowed ih =>
    obtain ⟨mapped, answered⟩ :=
      ih fun other inOrder => known other (List.mem_append_left _ inOrder)
    constructor
    · intro member
      rcases List.mem_append.mp member with inOrder | last
      · have operation := known completed (by simp)
        simp only [List.mem_cons, List.not_mem_nil, or_false] at operation
        rcases operation with same | same | same <;> rw [same] at allowed <;>
          simp [allowed.1, mapped inOrder]
      · rw [← List.mem_singleton.mp last, isSet] at allowed
        simp [allowed.1]
    · intro ordered
      by_cases isLast : getter = completed
      · have notSet : setter ≠ completed := by
          rintro rfl
          simp [isLast, isSet] at isGet
        have inOrder : setter ∈ order := by
          simpa [notSet] using ordered.subset (List.mem_cons_self ..)
        rw [← isLast, isGet] at allowed
        simp [allowed.2, mapped inOrder]
      · exact answered (sublist_of_concat ordered isLast)

theorem not_linearizable_lostSet : ¬ Linearizable Allowed StoreState.fresh (historyOf lostSet) := by
  rintro ⟨order, final, linearization⟩
  have invoked (completed : Completed StoreOperation StoreResult) (member : completed ∈ order) :
      (completed.call, completed.operation) ∈
        [(0, .set [1] [10]), (1, .set [2] [20]), (2, .get [1])] := by
    simpa [historyOf, lostSet, accesses, Event.observed, eq_comm] using
      linearization.invoked completed member
  obtain ⟨setter, setterMember, isFirst, setResult⟩ :=
    linearization.responded 0 (.seqNo 1) (by decide)
  obtain ⟨getter, getterMember, isThird, getResult⟩ :=
    linearization.responded 2 (.value []) (by decide)
  have isSet := invoked setter setterMember
  have isGet := invoked getter getterMember
  simp [isFirst] at isSet
  simp [isThird] at isGet
  have known (completed : Completed StoreOperation StoreResult) (member : completed ∈ order) :
      completed.operation ∈ [.set [1] [10], .set [2] [20], .get [1]] :=
    List.mem_map_of_mem (f := Prod.snd) (invoked completed member)
  have ordered : [setter, getter].Sublist order := by
    refine linearization.realTime setter setterMember getter getterMember ?_
    rw [isFirst, setResult, isThird, isGet]
    decide
  have answer := (get_of_legal linearization.legal known isSet isGet).2 ordered
  rw [getResult] at answer
  cases answer

theorem exists_faulty {Access Memory Operation Result : Type} {Reply : Access → Type}
    [DecidableEq Result]
    {perform : (request : Access) → Memory → Except Fault (Memory × Reply request)}
    {program : Operation → Program Access Reply Result} {events : List (Event Operation Result)}
    {first : System Access Reply Memory Operation Result}
    (fails : (events.foldlM (handle perform program) first).toOption.any
        (isFaulty perform · 1) = true) :
    ∃ events system, Run (Step perform program) first events system ∧ Faulty perform system := by
  obtain ⟨system, run, faulty⟩ := run_of_handled fails
  exact ⟨events, system, run, faulty_of_isFaulty faulty⟩

theorem overlappingSets_lost : (∃ events system, Run
          (Step performStore (program collidingTraits collidingTraits.maxBucketCount))
          (System.initial {}) events system ∧
        ¬ Linearizable Allowed StoreState.fresh (historyOf events)) ∧ (∃ events system, Run
            (Step performStore (program collidingTraits collidingTraits.maxBucketCount))
            (System.initial {}) events system ∧ Faulty performStore system) ∧ ∃ events system, Run
            (Step SharedOptions.performOption (SharedOptions.program
                ⟨collidingTraits, collidingTraits, collidingTraits⟩
                collidingTraits.maxBucketCount)) (System.initial {}) events system ∧
          Faulty SharedOptions.performOption system := by
  refine ⟨?_, ?_, ?_⟩
  · obtain ⟨system, run, _⟩ := @run_of_handled _ _ _ _ _ performStore
      (program collidingTraits collidingTraits.maxBucketCount) _ (System.initial {}) lostSet
      (fun _ => true) (by decide +kernel)
    exact ⟨lostSet, system, run, not_linearizable_lostSet⟩
  · exact @exists_faulty _ _ _ _ _ _ _ _ (freedArray (.set [1] [10]) (.set [2] [20])) _
      (by decide +kernel)
  · exact @exists_faulty _ _ _ _ _ _ _ _
      (freedArray (.setOptionString [1] [10]) (.setOptionString [2] [20])) _ (by decide +kernel)

end LostWrites

end Autoproto.SharedStore
