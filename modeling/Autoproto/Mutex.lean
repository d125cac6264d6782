import Mathlib.Init

namespace Autoproto.Mutex

/-!
# A mutex and its critical section

The owner of a mutex is the one thread inside of the critical section.  A step of
a system keeps this if nobody enters or leaves, if a thread enters while the mutex
is free, or if its owner leaves.
-/

variable {Thread : Type} {owner : Option Thread} {inside after : Thread → Prop} {thread : Thread}

def Guards (owner : Option Thread) (inside : Thread → Prop) : Prop :=
  ∀ thread, owner = some thread ↔ inside thread

theorem Guards.keep (guards : Guards owner inside) (same : ∀ thread, after thread ↔ inside thread) :
    Guards owner after :=
  fun thread => (guards thread).trans (same thread).symm

theorem Guards.lock (guards : Guards none inside) (enters : after thread)
    (others : ∀ other, other ≠ thread → after other → inside other) :
    Guards (some thread) after := by
  intro other
  constructor
  · intro isOwner
    cases isOwner
    exact enters
  · intro isInside
    by_cases same : other = thread
    · rw [same]
    · cases (guards other).mpr (others other same isInside)

theorem Guards.unlock (guards : Guards owner inside) (isInside : inside thread)
    (leaves : ¬ after thread) (others : ∀ other, other ≠ thread → after other → inside other) :
    Guards none after := by
  have isOwner := (guards thread).mpr isInside
  intro other
  constructor
  · intro noOwner
    cases noOwner
  · intro stillInside
    by_cases same : other = thread
    · exact absurd (same ▸ stillInside) leaves
    · -- There would be two owners.
      have otherOwner := (guards other).mpr (others other same stillInside)
      rw [isOwner] at otherOwner
      exact absurd (Option.some.inj otherOwner).symm same

end Autoproto.Mutex
