import Mathlib.Init

namespace Autoproto

/-!
# Faults of the modelled code

A function that can abort, read outside an object or loop forever returns in
`Except Fault`, so that what it does on every input can be stated.
-/

/-- The ways in which the modelled code stops without returning. -/
inductive Fault where
  /-- A `CHECK`, an `UNREACHABLE` or a `LOG(FATAL)` aborts the process. -/
  | check
  /-- Memory outside the object is accessed. -/
  | outOfBounds
  /-- A loop never ends. -/
  | spin
  deriving Repr, DecidableEq

/-- Abort unless a condition holds. -/
def check (condition : Prop) [Decidable condition] : Except Fault Unit :=
  if condition then .ok () else .error .check

variable {condition : Prop}

theorem check_eq_ok [Decidable condition] (holds : condition) : check condition = .ok () :=
  if_pos holds

theorem check_eq_error [Decidable condition] (fails : ¬ condition) :
    check condition = .error .check :=
  if_neg fails

theorem holds_of_check [Decidable condition] {result : Unit}
    (checked : check condition = .ok result) : condition := by
  rw [check] at checked
  split at checked
  · assumption
  · cases checked

@[simp] theorem ok_bind (result : α) (continuation : α → Except Fault β) :
    (Except.ok result >>= continuation) = continuation result :=
  rfl

@[simp] theorem error_bind (fault : Fault) (continuation : α → Except Fault β) :
    (Except.error fault >>= continuation) = .error fault :=
  rfl

@[simp] theorem pure_eq_ok (result : α) : (pure result : Except Fault α) = .ok result :=
  rfl

variable {first : Except Fault α} {continuation : α → Except Fault β}

theorem bind_eq_ok {result : β} (returned : (first >>= continuation) = .ok result) :
    ∃ intermediate, first = .ok intermediate ∧ continuation intermediate = .ok result := by
  cases first with
  | error fault => cases returned
  | ok intermediate => exact ⟨intermediate, rfl, returned⟩

variable {property : β → Prop} {turn : β → α → Except Fault β} {items : List α}

theorem foldlM_invariant_of_mem
    (kept : ∀ before, ∀ item ∈ items, ∀ after,
        property before → turn before item = .ok after → property after) {first last : β}
    (atFirst : property first) (returned : items.foldlM turn first = .ok last) : property last := by
  induction items generalizing first with
  | nil =>
    cases returned
    exact atFirst
  | cons item rest ih =>
    obtain ⟨next, turned, returned⟩ := bind_eq_ok returned
    refine ih ?_ (kept _ item List.mem_cons_self _ atFirst turned) returned
    intro before other isOther
    exact kept before other (List.mem_cons_of_mem item isOther)

theorem foldlM_invariant
    (kept : ∀ before item after, property before → turn before item = .ok after → property after)
    {first last : β} (atFirst : property first) (returned : items.foldlM turn first = .ok last) :
    property last :=
  foldlM_invariant_of_mem (fun before item _ => kept before item) atFirst returned

def Returns (computation : Except Fault α) : Prop :=
  ∃ result, computation = .ok result

variable {computation : Except Fault α}

theorem exists_of_any {test : α → Bool} (succeeds : computation.toOption.any test = true) :
    ∃ result, computation = .ok result ∧ test result = true := by
  cases computation with
  | error fault => cases succeeds
  | ok result => exact ⟨result, rfl, succeeds⟩

theorem returns_ok (result : α) : Returns (.ok result) :=
  ⟨result, rfl⟩

theorem not_returns_error (fault : Fault) : ¬ Returns (.error fault : Except Fault α) := by
  rintro ⟨result, returned⟩
  cases returned

theorem returns_bind_iff {property : Prop} (after :
      ∀ intermediate, first = .ok intermediate → (Returns (continuation intermediate) ↔ property)) :
    Returns (first >>= continuation) ↔ Returns first ∧ property := by
  constructor
  · rintro ⟨result, returned⟩
    obtain ⟨intermediate, firstDone, rest⟩ := bind_eq_ok returned
    exact ⟨⟨intermediate, firstDone⟩, (after intermediate firstDone).mp ⟨result, rest⟩⟩
  · rintro ⟨⟨intermediate, firstDone⟩, holds⟩
    rw [firstDone, ok_bind]
    exact (after intermediate firstDone).mpr holds

variable {finish : α → β}

/-- What follows only returns a result. -/
theorem returns_bind_pure_iff :
    Returns (first >>= fun intermediate => .ok (finish intermediate)) ↔ Returns first := by
  rw [returns_bind_iff (fun intermediate _ =>
    iff_of_true (returns_ok (finish intermediate)) trivial), and_true]

/-- A computation that returns just under a condition, and whose result then has a property. -/
def ReturnsIff (condition : Prop) (property : α → Prop) : Except Fault α → Prop
  | .ok result => condition ∧ property result
  | .error _ => ¬ condition

section ReturnsIff

variable {condition other : Prop} {property : α → Prop} {computation : Except Fault α}
  (returns : ReturnsIff condition property computation)

include returns

theorem ReturnsIff.returns_iff : Returns computation ↔ condition := by
  cases computation with
  | error fault => exact iff_of_false (not_returns_error fault) returns
  | ok result => exact iff_of_true (returns_ok result) returns.1

theorem ReturnsIff.result {result : α} (returned : computation = .ok result) : property result := by
  rw [returned] at returns
  exact returns.2

theorem ReturnsIff.imp {weaker : α → Prop} (same : condition ↔ other)
    (implied : ∀ result, condition → property result → weaker result) :
    ReturnsIff other weaker computation := by
  cases computation with
  | error fault => exact mt same.mpr returns
  | ok result => exact ⟨same.mp returns.1, implied result returns.1 returns.2⟩

end ReturnsIff

theorem ReturnsIff.bind_pure
    (returns : ReturnsIff condition (fun result => property (finish result)) computation) :
    ReturnsIff condition property (computation >>= fun result => .ok (finish result)) := by
  cases computation with
  | error | ok => exact returns

/-- It neither aborts nor reads outside; it may go on forever. -/
def Safe (computation : Except Fault α) : Prop :=
  ∀ fault, computation = .error fault → fault = .spin

/-- A computation that is safe, and whose result has a property. -/
def Ensures (property : α → Prop) : Except Fault α → Prop
  | .ok result => property result
  | .error fault => fault = .spin

theorem Ensures.safe {property : α → Prop} (ensures : Ensures property computation) :
    Safe computation := by
  rintro fault rfl
  exact ensures

theorem Ensures.bind {middle : α → Prop} (ensures : Ensures middle first)
    (rest : ∀ result, middle result → Ensures property (continuation result)) :
    Ensures property (first >>= continuation) := by
  cases first with
  | error fault => exact ensures
  | ok result => exact rest result ensures

end Autoproto
