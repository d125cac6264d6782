import Mathlib.Data.List.Nodup
import Autoproto.SharedMemory

namespace Autoproto.SharedMemory

open List Function Transition

/-!
# Calls that are kept apart

If every call that runs alone does what a sequential object allows, then a run in
which two calls overlap only if both just read is linearizable, and no call
faults.  This is what a lock with shared readers and one writer ensures.
-/

section Order

variable {Operation Result State : Type} {Allowed : Operation → State → State → Result → Prop}
  {initial final : State} {history : List (HistoryEvent Operation Result)}
  {order : List (Completed Operation Result)}

theorem sublist_of_concat {first second last : α} {items : List α}
    (ordered : [first, second].Sublist (items ++ [last])) (notLast : second ≠ last) :
    [first, second].Sublist items := by
  obtain ⟨front, back, shape, inItems, inLast⟩ := sublist_append_iff.mp ordered
  rcases sublist_singleton.mp inLast with empty | single
  · rw [empty, append_nil] at shape
    rw [shape]
    exact inItems
  · rw [single] at shape
    have lasts := congrArg getLast? shape
    rw [getLast?_concat] at lasts
    exact absurd (Option.some.inj lasts) notLast

variable {call : Nat}

theorem Linearization.invoke (explained : Linearization Allowed initial history order final)
    (operation : Operation) (fresh : call ∉ order.map Completed.call) :
    Linearization Allowed initial (history ++ [.invoke call operation]) order final where
  distinct := explained.distinct
  invoked := by
    intro completed member
    exact mem_append_left _ (explained.invoked completed member)
  responded := by
    intro other result member
    rcases mem_append.mp member with earlier | now
    · exact explained.responded other result earlier
    · cases mem_singleton.mp now
  realTime := by
    intro first firstMember second secondMember ordered
    refine explained.realTime first firstMember second secondMember (sublist_of_concat ordered ?_)
    intro same
    injection same with sameCall _
    exact fresh (sameCall ▸ mem_map_of_mem secondMember)
  legal := explained.legal

theorem Linearization.respond (explained : Linearization Allowed initial history order final)
    {operation : Operation} {result : Result} {reached : State}
    (fresh : call ∉ order.map Completed.call) (invoked : .invoke call operation ∈ history)
    (allowed : Allowed operation final reached result) :
    Linearization Allowed initial (history ++ [.respond call result])
      (order ++ [⟨call, operation, result⟩]) reached where
  distinct := by
    rw [map_append, map_singleton]
    exact nodup_append.mpr ⟨explained.distinct, nodup_singleton _, by
        intro other member last isLast same
        rw [same, mem_singleton.mp isLast] at member
        exact fresh member⟩
  invoked := by
    intro completed member
    rcases mem_append.mp member with earlier | now
    · exact mem_append_left _ (explained.invoked completed earlier)
    · rw [mem_singleton.mp now]
      exact mem_append_left _ invoked
  responded := by
    intro other otherResult member
    rcases mem_append.mp member with earlier | now
    · obtain ⟨completed, inOrder, sameCall, sameResult⟩ :=
        explained.responded other otherResult earlier
      exact ⟨completed, mem_append_left _ inOrder, sameCall, sameResult⟩
    · cases mem_singleton.mp now
      exact ⟨_, mem_append_right _ (mem_singleton_self _), rfl, rfl⟩
  realTime := by
    intro first firstMember second secondMember ordered
    have earlier := sublist_of_concat ordered (by simp)
    have firstEarlier : first ∈ order := by
      rcases mem_append.mp firstMember with old | new
      · exact old
      · -- The call has not ended in the history before.
        obtain ⟨completed, inOrder, sameCall, _⟩ :=
          explained.responded _ _ (earlier.subset (mem_cons_self ..))
        rw [mem_singleton.mp new] at sameCall
        have inCalls := mem_map_of_mem (f := Completed.call) inOrder
        rw [sameCall] at inCalls
        exact absurd inCalls fresh
    rcases mem_append.mp secondMember with old | new
    · exact (explained.realTime first firstEarlier second old earlier).trans
        (sublist_append_left _ _)
    · rw [mem_singleton.mp new]
      exact (singleton_sublist.mpr firstEarlier).append (List.Sublist.refl _)
  legal := Legal.extend explained.legal allowed

end Order

section Runs

variable {Access : Type} {Reply : Access → Type} {Memory : Type} {Operation Result State : Type}

/--
Calls that run alone do what the object allows, and those that are said to read
change nothing.
-/
structure Implements (perform : (request : Access) → Memory → Except Fault (Memory × Reply request))
    (program : Operation → Program Access Reply Result) (Reads : Operation → Prop)
    (Represents : Memory → State → Prop) (Fits : Operation → State → Prop)
    (Allowed : Operation → State → State → Result → Prop) : Prop where
  ends : ∀ operation memory state, Represents memory state →
      Fits operation state →
      ∃ reached result next, (program operation).runAlone perform memory = .ok (reached, result) ∧
          Represents reached next ∧
          Allowed operation state next result
  readOnly : ∀ operation, Reads operation → (program operation).ReadOnly perform
  unchanged : ∀ operation state next result, Reads operation →
      Allowed operation state next result →
      next = state

/-- A call begins if its operation fits, and while it and the calls going on just read. -/
def Separate (Reads : Operation → Prop) (Represents : Memory → State → Prop)
    (Fits : Operation → State → Prop) (system : System Access Reply Memory Operation Result) :
    Event Operation Result → Prop
  | .invoke _ operation =>
    (∀ call other remaining, system.pending call = some (other, remaining) →
      Reads other ∧ Reads operation) ∧
      ∀ state, Represents system.memory state → Fits operation state
  | _ => True

variable (perform : (request : Access) → Memory → Except Fault (Memory × Reply request))
  (Reads : Operation → Prop) (Represents : Memory → State → Prop)
  (Allowed : Operation → State → State → Result → Prop)

/-- Every call going on reads and will end as allowed. -/
def Reading (history : List (HistoryEvent Operation Result))
    (order : List (Completed Operation Result)) (final : State)
    (system : System Access Reply Memory Operation Result) : Prop :=
  Represents system.memory final ∧
    ∀ call operation remaining, system.pending call = some (operation, remaining) →
      .invoke call operation ∈ history ∧
        call ∉ order.map Completed.call ∧
        Reads operation ∧
        remaining.ReadOnly perform ∧
        ∃ result, remaining.runAlone perform system.memory = .ok (system.memory, result) ∧
            Allowed operation final final result

/-- One call is going on, and it will end as the object allows. -/
def Writing (history : List (HistoryEvent Operation Result))
    (order : List (Completed Operation Result)) (final : State)
    (system : System Access Reply Memory Operation Result) : Prop :=
  ∃ (call : Nat) (operation : Operation)
      (remaining : Program Access Reply Result)
      (reached : Memory) (result : Result) (next : State),
    system.pending = Function.update (fun _ => none) call (some (operation, remaining)) ∧
      .invoke call operation ∈ history ∧
      call ∉ order.map Completed.call ∧
      ¬ Reads operation ∧
      remaining.runAlone perform system.memory = .ok (reached, result) ∧
      Represents reached next ∧
      Allowed operation final next result

structure Explained (initial : State) (history : List (HistoryEvent Operation Result))
    (order : List (Completed Operation Result)) (final : State)
    (system : System Access Reply Memory Operation Result) : Prop where
  linearization : Linearization Allowed initial history order final
  fresh : ∀ call operation, .invoke call operation ∈ history → call < system.nextCall
  current : Reading perform Reads Represents Allowed history order final system ∨
      Writing perform Reads Represents Allowed history order final system

variable {perform Reads Represents Allowed} {program : Operation → Program Access Reply Result}
  {Fits : Operation → State → Prop} {initial final : State}
  {history : List (HistoryEvent Operation Result)} {order : List (Completed Operation Result)}
  {system : System Access Reply Memory Operation Result}

theorem pending_of_update {pending : Nat → Option (Operation × Program Access Reply Result)}
    {call other : Nat} {only found : Operation × Program Access Reply Result}
    (single : pending = Function.update (fun _ => none) call (some only))
    (isPending : pending other = some found) :
    other = call ∧ only = found := by
  rw [single] at isPending
  by_cases same : other = call
  · rw [same, update_self] at isPending
    exact ⟨same, Option.some.inj isPending⟩
  · rw [update_of_ne same] at isPending
    cases isPending

variable {call : Nat} {operation : Operation} {result : Result} {memory : Memory}
  {events : List (Event Operation Result)}

section

variable (explained : Explained perform Reads Represents Allowed initial history order final system)
include explained

theorem Explained.pending_ends {remaining : Program Access Reply Result}
    (isPending : system.pending call = some (operation, remaining)) :
    ∃ ending, remaining.runAlone perform system.memory = .ok ending := by
  rcases explained.current with
    ⟨_, reading⟩ | ⟨_, _, _, _, _, _, single, _, _, _, runs, _, _⟩
  · obtain ⟨_, _, _, _, result, runs, _⟩ := reading call operation remaining isPending
    exact ⟨_, runs⟩
  · cases (pending_of_update single isPending).2
    exact ⟨_, runs⟩

theorem Explained.not_faulty : ¬ Faulty perform system := by
  rintro ⟨call, operation, fault, aborts | ⟨request, resume, isPending, fails⟩⟩
  · obtain ⟨_, runs⟩ := explained.pending_ends aborts
    cases runs
  · obtain ⟨_, runs⟩ := explained.pending_ends isPending
    rw [Program.runAlone, fails] at runs
    cases runs

theorem Explained.new : system.nextCall ∉ order.map Completed.call := by
  intro member
  obtain ⟨completed, inOrder, same⟩ := mem_map.mp member
  have older := explained.fresh _ _ (explained.linearization.invoked _ inOrder)
  rw [same] at older
  exact Nat.lt_irrefl _ older

theorem Explained.represents
    (apart : ∀ call other remaining, system.pending call = some (other, remaining) →
        Reads other ∧ Reads operation) : Represents system.memory final := by
  rcases explained.current with
    reading | ⟨call, other, remaining, _, _, _, single, _, _, writes, _⟩
  · exact reading.1
  · have isPending : system.pending call = some (other, remaining) := by
      rw [single, update_self]
    exact absurd (apart call other remaining isPending).1 writes

end

theorem Reading.invoke
    (reading : Reading perform Reads Represents Allowed history order final system)
    (new : system.nextCall ∉ order.map Completed.call) (reads : Reads operation)
    (readOnly : (program operation).ReadOnly perform)
    (runs : (program operation).runAlone perform system.memory = .ok (system.memory, result))
    (allowed : Allowed operation final final result) : Reading perform Reads Represents Allowed
      (history ++ [.invoke system.nextCall operation]) order final
      (system.invoke program operation) := by
  refine ⟨reading.1, ?_⟩
  intro call other remaining isPending
  by_cases same : call = system.nextCall
  · rw [same, System.pending_invoke, update_self] at isPending
    cases isPending
    rw [same]
    exact ⟨by simp, new, reads, readOnly, result, runs, allowed⟩
  · rw [System.pending_invoke, update_of_ne same] at isPending
    obtain ⟨invoked, rest⟩ := reading.2 call other remaining isPending
    exact ⟨mem_append_left _ invoked, rest⟩

theorem Explained.invoke (implements : Implements perform program Reads Represents Fits Allowed)
    (explained : Explained perform Reads Represents Allowed initial history order final system)
    (apart : ∀ call other remaining, system.pending call = some (other, remaining) →
        Reads other ∧ Reads operation)
    (fits : ∀ state, Represents system.memory state → Fits operation state) :
    Explained perform Reads Represents Allowed initial
      (history ++ [.invoke system.nextCall operation]) order final
      (system.invoke program operation) := by
  have represents := explained.represents apart
  obtain ⟨reached, result, next, runs, representsNext, allowed⟩ :=
    implements.ends operation system.memory final represents (fits final represents)
  refine ⟨explained.linearization.invoke operation explained.new, ?_, ?_⟩
  · intro call other member
    rcases mem_append.mp member with earlier | now
    · exact Nat.lt_succ_of_lt (explained.fresh call other earlier)
    · cases mem_singleton.mp now
      exact Nat.lt_succ_self _
  · by_cases reads : Reads operation
    · left
      have readOnly := implements.readOnly operation reads
      rw [readOnly.reached_eq runs] at runs
      rw [implements.unchanged operation _ _ _ reads allowed] at allowed
      rcases explained.current with
        reading | ⟨call, other, remaining, _, _, _, single, _, _, writes, _⟩
      · exact reading.invoke explained.new reads readOnly runs allowed
      · have isPending : system.pending call = some (other, remaining) := by
          rw [single, update_self]
        exact absurd (apart call other remaining isPending).1 writes
    · -- A call that may write begins while nothing else is going on.
      have nothing : system.pending = fun _ => none := by
        funext call
        cases isPending : system.pending call with
        | none => rfl
        | some other => exact absurd (apart call other.1 other.2 isPending).2 reads
      exact Or.inr ⟨system.nextCall, operation, program operation, reached,
        result, next, by rw [System.pending_invoke, nothing], by simp, explained.new,
        reads, runs, representsNext, allowed⟩

theorem Explained.access
    (explained : Explained perform Reads Represents Allowed initial history order final system)
    {request : Access} {resume : Reply request → Program Access Reply Result}
    {reply : Reply request}
    (isPending : system.pending call = some (operation, .access request resume))
    (performed : perform request system.memory = .ok (memory, reply)) :
    Explained perform Reads Represents Allowed initial history order final
      (system.proceed call operation memory (resume reply)) := by
  refine ⟨explained.linearization, explained.fresh, ?_⟩
  rcases explained.current with
    ⟨represents, reading⟩ | ⟨only, _, _, reached, result, next, single,
      invoked, new, writes, runs, representsNext, allowed⟩
  · left
    obtain ⟨invoked, new, reads, readOnly, result, runs, allowed⟩ :=
      reading call operation _ isPending
    have same : memory = system.memory := readOnly.1 system.memory memory reply performed
    rw [Program.runAlone, performed] at runs
    rw [same] at runs ⊢
    refine ⟨represents, ?_⟩
    intro other otherOperation remaining otherPending
    by_cases sameCall : other = call
    · rw [sameCall, System.pending_proceed, update_self] at otherPending
      cases otherPending
      rw [sameCall]
      exact ⟨invoked, new, reads, readOnly.2 reply, result, runs, allowed⟩
    · rw [System.pending_proceed, update_of_ne sameCall] at otherPending
      exact reading other otherOperation remaining otherPending
  · right
    obtain ⟨sameCall, shape⟩ := pending_of_update single isPending
    cases shape
    rw [Program.runAlone, performed] at runs
    rw [← sameCall] at invoked new single
    exact ⟨call, operation, resume reply, reached, result, next,
      by rw [System.pending_proceed, single, update_idem], invoked, new,
      writes, runs, representsNext, allowed⟩

theorem Reading.respond
    (reading : Reading perform Reads Represents Allowed history order final system) :
    Reading perform Reads Represents Allowed
      (history ++ [.respond call result])
      (order ++ [⟨call, operation, result⟩]) final (system.respond call) := by
  refine ⟨reading.1, ?_⟩
  intro other otherOperation remaining isPending
  have different : other ≠ call := by
    intro same
    rw [same, System.pending_respond, update_self] at isPending
    cases isPending
  rw [System.pending_respond, update_of_ne different] at isPending
  obtain ⟨invoked, new, rest⟩ := reading.2 other otherOperation remaining isPending
  refine ⟨mem_append_left _ invoked, ?_, rest⟩
  rw [map_append, mem_append, not_or]
  exact ⟨new, fun last => different (mem_singleton.mp last)⟩

theorem Explained.respond
    (explained : Explained perform Reads Represents Allowed initial history order final system)
    (isPending : system.pending call = some (operation, .done result)) : ∃ extended reached,
      Explained perform Reads Represents Allowed initial
        (history ++ [.respond call result]) extended reached
        (system.respond call) := by
  have fresh : ∀ other otherOperation,
        .invoke other otherOperation ∈ history ++ [HistoryEvent.respond call result] →
        other < system.nextCall := by
    intro other otherOperation member
    rcases mem_append.mp member with earlier | now
    · exact explained.fresh other otherOperation earlier
    · cases mem_singleton.mp now
  rcases explained.current with
    reading | ⟨only, _, _, reached, _, next, single, invoked, new, _, runs, representsNext, allowed⟩
  · obtain ⟨invoked, new, _, _, _, runs, allowed⟩ := reading.2 call operation _ isPending
    cases runs
    exact ⟨_, final, explained.linearization.respond new invoked allowed,
      fresh, Or.inl reading.respond⟩
  · obtain ⟨sameCall, shape⟩ := pending_of_update single isPending
    cases shape
    cases runs
    rw [← sameCall] at invoked new single
    refine ⟨_, next, explained.linearization.respond new invoked allowed,
      fresh, Or.inl ⟨representsNext, ?_⟩⟩
    intro other _ _ stillPending
    rw [System.pending_respond, single, update_idem] at stillPending
    by_cases same : other = call
    · rw [same, update_self] at stillPending
      cases stillPending
    · rw [update_of_ne same] at stillPending
      cases stillPending

theorem explained_run (implements : Implements perform program Reads Represents Fits Allowed)
    (represents : Represents memory initial)
    (run : Run (Guarded (Separate Reads Represents Fits) (Step perform program))
        (System.initial memory) events system) : ∃ order final,
      Explained perform Reads Represents Allowed initial (historyOf events) order final system := by
  induction run with
  | start =>
    exact ⟨[], initial, ⟨nodup_nil, by simp, by simp [historyOf], by simp, Legal.start⟩,
      by simp [historyOf], Or.inl ⟨represents, by simp [System.initial]⟩⟩
  | extend _ last ih =>
    obtain ⟨order, final, explained⟩ := ih
    obtain ⟨apart, step⟩ := last
    rw [historyOf, filterMap_append]
    cases step with
    | invoke operation => exact ⟨order, final, explained.invoke implements apart.1 apart.2⟩
    | access isPending performed =>
      refine ⟨order, final, ?_⟩
      have unseen := explained.access isPending performed
      rwa [← append_nil (historyOf _)] at unseen
    | respond isPending => exact explained.respond isPending

theorem linearizable_of_separate
    (implements : Implements perform program Reads Represents Fits Allowed)
    (represents : Represents memory initial)
    (run : Run (Guarded (Separate Reads Represents Fits) (Step perform program))
        (System.initial memory) events system) :
    Linearizable Allowed initial (historyOf events) ∧ ¬ Faulty perform system := by
  obtain ⟨order, final, explained⟩ := explained_run implements represents run
  exact ⟨⟨order, final, explained.linearization⟩, explained.not_faulty⟩

variable {first : System Access Reply Memory Operation Result} {reached : Memory}

theorem run_complete
    (run :
      Run (Guarded (Separate Reads Represents Fits) (Step perform program)) first events system)
    {remaining : Program Access Reply Result}
    (isPending : system.pending call = some (operation, remaining))
    (runs : remaining.runAlone perform system.memory = .ok (reached, result)) : ∃ later,
      Run (Guarded (Separate Reads Represents Fits) (Step perform program))
          first later
          ⟨reached, Function.update system.pending call none, system.nextCall⟩ ∧
        historyOf later = historyOf events ++ [.respond call result] := by
  induction remaining generalizing system events with
  | done _ =>
    cases runs
    have ends : Guarded (Separate Reads Represents Fits) (Step perform program)
          system (.respond call result) (system.respond call) :=
      ⟨trivial, Step.respond system isPending⟩
    refine ⟨_, Run.extend run ends, ?_⟩
    rw [historyOf, filterMap_append]
    rfl
  | abort _ => cases runs
  | access request resume ih =>
    obtain ⟨⟨memory, reply⟩, performed, rest⟩ := bind_eq_ok runs
    have accesses : Guarded (Separate Reads Represents Fits) (Step perform program)
          system (.access call)
          (system.proceed call operation memory (resume reply)) :=
      ⟨trivial, Step.access system isPending performed⟩
    obtain ⟨later, laterRun, history⟩ :=
      ih reply (Run.extend run accesses) (update_self ..) rest
    rw [System.pending_proceed, update_idem] at laterRun
    refine ⟨later, laterRun, ?_⟩
    rw [history, historyOf, filterMap_append]
    exact congrArg (· ++ _) (append_nil _)

theorem run_call
    (run : Run (Guarded (Separate Reads Represents Fits) (Step perform program))
        first events ⟨memory, fun _ => none, call⟩)
    (fits : ∀ state, Represents memory state → Fits operation state)
    (runs : (program operation).runAlone perform memory = .ok (reached, result)) : ∃ later,
      Run (Guarded (Separate Reads Represents Fits) (Step perform program))
          first later ⟨reached, fun _ => none, call + 1⟩ ∧
        historyOf later = historyOf events ++ [.invoke call operation, .respond call result] := by
  have apart : ∀ (other : Nat) (found : Operation × Program Access Reply Result),
        (fun _ => none : Nat → Option (Operation × _)) other = some found →
        Reads found.1 ∧ Reads operation := by
    intro other found isPending
    cases isPending
  have begins : Guarded (Separate Reads Represents Fits) (Step perform program)
        ⟨memory, fun _ => none, call⟩ (.invoke call operation)
        (System.invoke program operation ⟨memory, fun _ => none, call⟩) :=
    ⟨⟨fun other found remaining => apart other (found, remaining), fits⟩, Step.invoke _ operation⟩
  obtain ⟨later, laterRun, history⟩ := run_complete (Run.extend run begins) (update_self ..) runs
  rw [System.pending_invoke, update_idem, update_eq_self] at laterRun
  refine ⟨later, laterRun, ?_⟩
  rw [history, historyOf, filterMap_append, append_assoc]
  rfl

end Runs

end Autoproto.SharedMemory
