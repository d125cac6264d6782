import Mathlib.Init

namespace Autoproto.Transition

/-!
# Runs of labelled transition systems

A system is a relation between a state, an event and the state after it.  A run
is a finite sequence of events with the steps between them.  A guard restricts a
system to the steps whose event is admissible in the state before it.
-/

inductive Run (step : State → Event → State → Prop) (first : State) :
    List Event → State → Prop where
  | start : Run step first [] first
  | extend {events : List Event} {before after : State} {event : Event} :
      Run step first events before →
      step before event after →
      Run step first (events ++ [event]) after

/-- The steps of a system whose event is admissible. -/
def Guarded (guard : State → Event → Prop) (step : State → Event → State → Prop) (before : State)
    (event : Event) (after : State) : Prop :=
  guard before event ∧ step before event after

variable {step : State → Event → State → Prop} {first : State} {events : List Event}
  {reached : State}

theorem Run.invariant {property : State → Prop} (run : Run step first events reached)
    (atFirst : property first)
    (kept : ∀ before event after, property before → step before event after → property after) :
    property reached := by
  induction run with
  | start => exact atFirst
  | extend _ last ih => exact kept _ _ _ ih last

theorem Run.mono {larger : State → Event → State → Prop} (run : Run step first events reached)
    (included : ∀ before event after, step before event after → larger before event after) :
    Run larger first events reached := by
  induction run with
  | start => exact Run.start
  | extend _ last ih => exact Run.extend ih (included _ _ _ last)

/-- A first step can be put before a run. -/
theorem Run.cons
    {second : State}
    {event : Event}
    (begins : step first event second)
    (run : Run step second events reached) :
    Run step first (event :: events) reached := by
  induction run with
  | start => exact Run.extend Run.start begins
  | extend _ last ih => exact Run.extend ih last

theorem Run.foldlM {handle : State → Event → Except ε State}
    (isStep : ∀ before event after, handle before event = .ok after → step before event after)
    {middle last : State} {more : List Event} (run : Run step first events middle)
    (returned : more.foldlM handle middle = .ok last) : Run step first (events ++ more) last := by
  induction more generalizing middle events with
  | nil =>
    cases returned
    rw [List.append_nil]
    exact run
  | cons event rest ih =>
    rw [List.foldlM_cons] at returned
    cases handled : handle middle event with
    | error failure =>
      rw [handled] at returned
      cases returned
    | ok next =>
      rw [handled] at returned
      rw [List.append_cons]
      exact ih (.extend run (isStep _ _ _ handled)) returned

theorem Run.count_add_rank_le {property : State → Prop} {isCounted : Event → Bool}
    {rank credit : State → Nat} (run : Run step first events reached) (atFirst : property first)
    (kept : ∀ before event after, property before → step before event after → property after)
    (pays : ∀ before event after, property before → step before event after →
            (if isCounted event then 1 else 0) + rank after + credit before ≤
              rank before + credit after) :
    events.countP isCounted + rank reached + credit first ≤ rank first + credit reached := by
  induction run with
  | start =>
    simp only [List.countP_nil, Nat.zero_add, Nat.le_refl]
  | extend run last ih =>
    have paid := pays _ _ _ (run.invariant atFirst kept) last
    rw [List.countP_append, List.countP_singleton]
    omega

end Autoproto.Transition
