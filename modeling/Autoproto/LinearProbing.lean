import Mathlib.Data.List.Basic
import Mathlib.Data.List.Perm.Basic

namespace Autoproto.LinearProbing

open List

/-!
# Open addressing with linear probing

A table is a list of slots, each empty or with an element that has a home
bucket. A search walks cyclically from the home to the first empty slot, so it
is correct exactly when no slot on the way to an element is empty.
-/

/-- The cyclic successor of a bucket. -/
def next (count bucket : Nat) : Nat :=
  if bucket + 1 = count then 0 else bucket + 1

theorem next_cases (count bucket : Nat) : (bucket + 1 = count ∧ next count bucket = 0) ∨
      (bucket + 1 ≠ count ∧ next count bucket = bucket + 1) := by
  unfold next
  split
  · rename_i last
    exact Or.inl ⟨last, rfl⟩
  · rename_i notLast
    exact Or.inr ⟨notLast, rfl⟩

/-- The bucket `probe` lies on the cyclic arc from `first` up to, but not including, `last`. -/
def InArc (first probe last : Nat) : Prop :=
  (first ≤ probe ∧ probe < last) ∨ (last < first ∧ (first ≤ probe ∨ probe < last))

instance (first probe last : Nat) : Decidable (InArc first probe last) :=
  inferInstanceAs (Decidable (_ ∨ _))

/--
Walk from `bucket` until a slot satisfies `stop`. A walk of as many steps as
there are slots never stops.
-/
def probeFrom (advance : Nat → Nat) (stop : Option α → Bool) (slots : List (Option α)) :
    Nat → Nat → Option Nat
  | 0, _ => none
  | fuel + 1, bucket =>
    match slots[bucket]? with
    | none => none
    | some slot =>
      if stop slot then
        some bucket
      else
        probeFrom advance stop slots fuel (advance bucket)

/-- The elements of a table in bucket order. -/
def elements (slots : List (Option α)) : List α :=
  slots.filterMap id

structure Chained (home : α → Nat) (slots : List (Option α)) : Prop where
  reached : ∀ {bucket element}, slots[bucket]? = some (some element) →
      home element < slots.length ∧
        ∀ {probe}, probe < slots.length →
          InArc (home element) probe bucket →
          slots[probe]? ≠ some none

section Walk

variable {advance : Nat → Nat} {stop : Option α → Bool} {slots : List (Option α)} {fuel start : Nat}

theorem probeFrom_stops {found : Nat}
    (walked : probeFrom advance stop slots fuel start = some found) :
    ∃ slot, slots[found]? = some slot ∧ stop slot = true := by
  induction fuel generalizing start with
  | zero => simp [probeFrom] at walked
  | succ fuel ih =>
    unfold probeFrom at walked
    cases atStart : slots[start]? with
    | none => simp [atStart] at walked
    | some slot =>
      simp only [atStart] at walked
      split at walked
      · rename_i stopped
        cases walked
        exact ⟨slot, atStart, stopped⟩
      · exact ih walked

variable {slot : Option α}

theorem probeFrom_passes
    (cyclic : ∀ bucket, bucket < slots.length → advance bucket = next slots.length bucket)
    {found : Nat} (walked : probeFrom advance stop slots fuel start = some found) {probe : Nat}
    (onArc : InArc start probe found) (atProbe : slots[probe]? = some slot) :
    stop slot = false := by
  have foundStops := probeFrom_stops walked
  induction fuel generalizing start with
  | zero => simp [probeFrom] at walked
  | succ fuel ih =>
    unfold probeFrom at walked
    cases atStart : slots[start]? with
    | none => simp [atStart] at walked
    | some startSlot =>
      have startBound : start < slots.length := (List.getElem?_eq_some_iff.mp atStart).1
      have probeBound : probe < slots.length := (List.getElem?_eq_some_iff.mp atProbe).1
      simp only [atStart] at walked
      split at walked
      · -- the walk stopped at once: the arc is empty
        cases walked
        simp only [InArc] at onArc
        omega
      · rename_i notStopped
        by_cases sameBucket : probe = start
        · subst sameBucket
          rw [atStart] at atProbe
          cases atProbe
          simpa using notStopped
        · rw [cyclic start startBound] at walked
          have foundNe : found ≠ start := by
            rintro rfl
            obtain ⟨_, foundAt, stopped⟩ := foundStops
            rw [atStart] at foundAt
            cases foundAt
            exact notStopped stopped
          have foundBound : found < slots.length := by
            obtain ⟨_, foundAt, _⟩ := foundStops
            exact (List.getElem?_eq_some_iff.mp foundAt).1
          apply ih walked
          have nextStart := next_cases slots.length start
          simp only [InArc] at onArc ⊢
          omega

/-- The number of cyclic steps from one bucket to another. -/
private def distance (count start target : Nat) : Nat :=
  if start ≤ target then target - start else target + count - start

theorem probeFrom_isSome (advance : Nat → Nat) (stop : Option α → Bool)
    (cyclic : ∀ bucket, bucket < slots.length → advance bucket = next slots.length bucket)
    {target : Nat} (startBound : start < slots.length) (atTarget : slots[target]? = some slot)
    (targetStops : stop slot = true) (enough : slots.length ≤ fuel) :
    ∃ found, probeFrom advance stop slots fuel start = some found := by
  have targetBound : target < slots.length := (List.getElem?_eq_some_iff.mp atTarget).1
  have near : distance slots.length start target < fuel := by
    unfold distance
    split <;> omega
  clear enough
  induction fuel generalizing start with
  | zero => omega
  | succ fuel ih =>
    have atStart : slots[start]? = some slots[start] := getElem?_eq_getElem startBound
    unfold probeFrom
    simp only [atStart]
    by_cases stopped : stop slots[start] = true
    · exact ⟨start, by simp [stopped]⟩
    · have startNe : start ≠ target := by
        rintro rfl
        rw [atStart] at atTarget
        cases atTarget
        exact stopped targetStops
      simp only [stopped, Bool.false_eq_true, ↓reduceIte]
      rw [cyclic start startBound]
      apply ih
      · have nextStart := next_cases slots.length start
        omega
      · have nextStart := next_cases slots.length start
        unfold distance at *
        split at near <;> split <;> omega

end Walk

section Contents

variable {slots : List (Option α)} {bucket : Nat} {element : α}

theorem ne_of_occupied {free : Nat} (empty : slots[free]? = some none)
    (occupied : slots[bucket]? = some (some element)) : free ≠ bucket := by
  rintro rfl
  rw [empty] at occupied
  cases occupied

theorem elements_set_perm {old : Option α} (atBucket : slots[bucket]? = some old) (new : Option α) :
    (old.toList ++ elements (slots.set bucket new)).Perm (new.toList ++ elements slots) := by
  obtain ⟨bound, oldAt⟩ := List.getElem?_eq_some_iff.mp atBucket
  have split : slots = slots.take bucket ++ old :: slots.drop (bucket + 1) := by
    rw [← oldAt, List.getElem_cons_drop, List.take_append_drop]
  have overwritten : slots.set bucket new = slots.take bucket ++ new :: slots.drop (bucket + 1) :=
    set_eq_take_append_cons_drop.trans (by simp [bound])
  have headElements : ∀ (slot : Option α) (rest : List (Option α)),
        elements (slot :: rest) = slot.toList ++ elements rest := by
    intro slot rest
    cases slot <;> simp [elements]
  have splitElements : ∀ slot : Option α,
        (elements (slots.take bucket ++ slot :: slots.drop (bucket + 1))).Perm
          (slot.toList ++
            (elements (slots.take bucket) ++ elements (slots.drop (bucket + 1)))) := by
    intro slot
    have appended : elements (slots.take bucket ++ slot :: slots.drop (bucket + 1)) =
          elements (slots.take bucket) ++ (slot.toList ++ elements (slots.drop (bucket + 1))) := by
      rw [← headElements]
      simp [elements]
    rw [appended]
    exact perm_append_comm_assoc _ _ _
  have newElements := splitElements new
  have oldElements := splitElements old
  rw [← overwritten] at newElements
  rw [← split] at oldElements
  calc
    (old.toList ++ elements (slots.set bucket new)).Perm
        (old.toList ++ (new.toList ++
          (elements (slots.take bucket) ++ elements (slots.drop (bucket + 1))))) :=
      newElements.append_left _
    List.Perm _
        (new.toList ++ (old.toList ++
          (elements (slots.take bucket) ++ elements (slots.drop (bucket + 1))))) :=
      perm_append_comm_assoc _ _ _
    List.Perm _ (new.toList ++ elements slots) := oldElements.symm.append_left _

theorem elements_fill_perm (empty : slots[bucket]? = some none) (element : α) :
    (elements (slots.set bucket (some element))).Perm (element :: elements slots) := by
  simpa using elements_set_perm empty (some element)

theorem elements_clear_perm (occupied : slots[bucket]? = some (some element)) :
    (element :: elements (slots.set bucket none)).Perm (elements slots) := by
  simpa using elements_set_perm occupied none

theorem elements_move_perm {target : Nat} (empty : slots[target]? = some none)
    (occupied : slots[bucket]? = some (some element)) :
    (elements ((slots.set target (some element)).set bucket none)).Perm (elements slots) := by
  have different := ne_of_occupied empty occupied
  have stillOccupied : (slots.set target (some element))[bucket]? = some (some element) := by
    rw [getElem?_set_ne different, occupied]
  have cleared := elements_clear_perm stillOccupied
  have filled := elements_fill_perm empty element
  exact (cleared.trans filled).cons_inv

theorem mem_elements :
    element ∈ elements slots ↔ ∃ bucket : Nat, slots[bucket]? = some (some element) := by
  simp only [elements, mem_filterMap, id_eq, exists_eq_right]
  exact mem_iff_getElem?

theorem exists_empty (room : (elements slots).length < slots.length) :
    ∃ bucket : Nat, slots[bucket]? = some none := by
  obtain ⟨slot, member, empty⟩ := length_filterMap_lt_length_iff_exists.mp room
  obtain ⟨bucket, atBucket⟩ := mem_iff_getElem?.mp member
  cases slot with
  | none => exact ⟨bucket, atBucket⟩
  | some element => simp at empty

end Contents

section Updates

variable {home : α → Nat} {slots : List (Option α)}

theorem chained_replicate (home : α → Nat) (count : Nat) :
    Chained home (List.replicate count none) := by
  refine ⟨?_⟩
  intro bucket element atBucket
  rw [getElem?_replicate] at atBucket
  split at atBucket <;> cases atBucket

variable {bucket : Nat}

theorem Chained.fill (chained : Chained home slots) {element : α}
    (homeBound : home element < slots.length) (bound : bucket < slots.length)
    (passes : ∀ {probe}, probe < slots.length → InArc (home element) probe bucket →
        slots[probe]? ≠ some none) : Chained home (slots.set bucket (some element)) := by
  have stillFilled : ∀ {probe : Nat}, slots[probe]? ≠ some none →
        (slots.set bucket (some element))[probe]? ≠ some none := by
    intro probe filled
    by_cases same : bucket = probe
    · subst same
      simp [bound]
    · rwa [getElem?_set_ne same]
  refine ⟨?_⟩
  intro target stored atTarget
  rw [length_set]
  by_cases same : bucket = target
  · subst same
    rw [getElem?_set_self bound] at atTarget
    cases atTarget
    exact ⟨homeBound, fun probeBound onArc => stillFilled (passes probeBound onArc)⟩
  · rw [getElem?_set_ne same] at atTarget
    obtain ⟨storedHome, reached⟩ := chained.reached atTarget
    exact ⟨storedHome, fun probeBound onArc => stillFilled (reached probeBound onArc)⟩

theorem Chained.replace (chained : Chained home slots) {old new : α}
    (occupied : slots[bucket]? = some (some old)) (sameHome : home new = home old) :
    Chained home (slots.set bucket (some new)) := by
  obtain ⟨homeBound, reached⟩ := chained.reached occupied
  rw [← sameHome] at homeBound reached
  exact chained.fill homeBound (List.getElem?_eq_some_iff.mp occupied).1 reached

/--
A deletion that closes its gap by shifting elements back. The slot `hole` is
empty, the slots after it have been inspected up to `scan`, and only elements
behind that may be cut off from their home bucket.
-/
structure Shifting (home : α → Nat) (slots : List (Option α)) (hole scan : Nat) : Prop where
  holeEmpty : slots[hole]? = some none
  scanBound : scan < slots.length
  cut : ∀ {bucket element}, slots[bucket]? = some (some element) →
      home element < slots.length ∧
        ∀ {probe}, probe < slots.length →
          InArc (home element) probe bucket →
          slots[probe]? = some none →
          probe = hole ∧ ¬ InArc (next slots.length hole) bucket scan

namespace Shifting

variable {hole : Nat}

theorem start (chained : Chained home slots) (bound : hole < slots.length) :
    Shifting home (slots.set hole none) hole (next slots.length hole) := by
  refine ⟨getElem?_set_self bound, ?_, ?_⟩
  · rw [length_set]
    have nextHole := next_cases slots.length hole
    omega
  · intro bucket element atBucket
    rw [length_set]
    have bucketNe : hole ≠ bucket := by
      rintro rfl
      rw [getElem?_set_self bound] at atBucket
      cases atBucket
    rw [getElem?_set_ne bucketNe] at atBucket
    obtain ⟨homeBound, reached⟩ := chained.reached atBucket
    refine ⟨homeBound, ?_⟩
    intro probe probeBound onArc empty
    by_cases same : hole = probe
    · refine ⟨same.symm, ?_⟩
      unfold InArc
      omega
    · rw [getElem?_set_ne same] at empty
      exact (reached probeBound onArc empty).elim

section

variable {scan : Nat} (shifting : Shifting home slots hole scan)
include shifting

variable {element : α}

theorem skip (atScan : slots[scan]? = some (some element))
    (reachable : ¬ InArc (home element) hole scan) :
    Shifting home slots hole (next slots.length scan) := by
  have scanBound := shifting.scanBound
  have holeBound : hole < slots.length := (List.getElem?_eq_some_iff.mp shifting.holeEmpty).1
  have scanNe := ne_of_occupied shifting.holeEmpty atScan
  refine ⟨shifting.holeEmpty, ?_, ?_⟩
  · have nextScan := next_cases slots.length scan
    omega
  · intro bucket stored atBucket
    obtain ⟨homeBound, cut⟩ := shifting.cut atBucket
    have bucketBound : bucket < slots.length := (List.getElem?_eq_some_iff.mp atBucket).1
    refine ⟨homeBound, ?_⟩
    intro probe probeBound onArc empty
    obtain ⟨probeHole, ahead⟩ := cut probeBound onArc empty
    refine ⟨probeHole, ?_⟩
    have bucketNe : bucket ≠ scan := by
      rintro rfl
      rw [atScan] at atBucket
      cases atBucket
      rw [probeHole] at onArc
      exact reachable onArc
    have nextHole := next_cases slots.length hole
    have nextScan := next_cases slots.length scan
    unfold InArc at *
    omega

theorem move (atScan : slots[scan]? = some (some element))
    (cutOff : InArc (home element) hole scan) : Shifting home
      ((slots.set hole (some element)).set scan none)
      scan (next slots.length scan) := by
  have scanBound := shifting.scanBound
  have holeBound : hole < slots.length := (List.getElem?_eq_some_iff.mp shifting.holeEmpty).1
  have holeNe := ne_of_occupied shifting.holeEmpty atScan
  have scanBound' : scan < (slots.set hole (some element)).length := by simpa using scanBound
  refine ⟨List.getElem?_set_self scanBound', ?_, ?_⟩
  · simp only [length_set]
    have nextScan := next_cases slots.length scan
    omega
  · intro bucket stored atBucket
    simp only [length_set]
    have bucketNe : scan ≠ bucket := by
      rintro rfl
      rw [getElem?_set_self scanBound'] at atBucket
      cases atBucket
    rw [getElem?_set_ne bucketNe] at atBucket
    -- an empty slot of the new table is the new hole or was empty before
    have wasEmpty : ∀ {probe : Nat}, scan ≠ probe →
          ((slots.set hole (some element)).set scan none)[probe]? = some none →
          hole ≠ probe ∧ slots[probe]? = some none := by
      intro probe probeNe empty
      rw [getElem?_set_ne probeNe] at empty
      by_cases same : hole = probe
      · subst same
        rw [getElem?_set_self holeBound] at empty
        cases empty
      · rw [getElem?_set_ne same] at empty
        exact ⟨same, empty⟩
    have noneScanned :
        ∀ bucket, ¬ InArc (next slots.length scan) bucket (next slots.length scan) := by
      intro bucket onArc
      unfold InArc at onArc
      omega
    by_cases moved : hole = bucket
    · subst moved
      rw [getElem?_set_self holeBound] at atBucket
      cases atBucket
      obtain ⟨homeBound, cut⟩ := shifting.cut atScan
      refine ⟨homeBound, ?_⟩
      intro probe probeBound onArc empty
      refine ⟨?_, noneScanned _⟩
      by_contra probeNe
      obtain ⟨holeNeProbe, emptyBefore⟩ := wasEmpty (fun same => probeNe same.symm) empty
      have onLongerArc : InArc (home element) probe scan := by
        unfold InArc at *
        omega
      exact holeNeProbe (cut probeBound onLongerArc emptyBefore).1.symm
    · rw [getElem?_set_ne moved] at atBucket
      obtain ⟨homeBound, cut⟩ := shifting.cut atBucket
      refine ⟨homeBound, ?_⟩
      intro probe probeBound onArc empty
      refine ⟨?_, noneScanned _⟩
      by_contra probeNe
      obtain ⟨holeNeProbe, emptyBefore⟩ := wasEmpty (fun same => probeNe same.symm) empty
      exact holeNeProbe (cut probeBound onArc emptyBefore).1.symm

theorem finish (atScan : slots[scan]? = some none) : Chained home slots := by
  have scanBound := shifting.scanBound
  have holeBound : hole < slots.length := (List.getElem?_eq_some_iff.mp shifting.holeEmpty).1
  refine ⟨?_⟩
  intro bucket element atBucket
  have bucketBound : bucket < slots.length := (List.getElem?_eq_some_iff.mp atBucket).1
  have bucketNeHole := ne_of_occupied shifting.holeEmpty atBucket
  have bucketNeScan := ne_of_occupied atScan atBucket
  obtain ⟨homeBound, cut⟩ := shifting.cut atBucket
  refine ⟨homeBound, ?_⟩
  intro probe probeBound onArc empty
  obtain ⟨probeHole, ahead⟩ := cut probeBound onArc empty
  subst probeHole
  -- the scan stopped between the hole and the element, at an empty slot
  have nextHole := next_cases slots.length probe
  have scanOnArc : InArc (home element) scan bucket := by
    unfold InArc at *
    omega
  obtain ⟨scanIsHole, _⟩ := cut scanBound scanOnArc atScan
  unfold InArc at *
  omega

end

end Shifting

/-- A table with the same elements, each of which is reached. -/
structure Closed (home : α → Nat) (original slots : List (Option α)) : Prop where
  length : slots.length = original.length
  perm : (elements slots).Perm (elements original)
  chained : Chained home slots

/-- A deletion under way, and a slot `free` that was empty before it. -/
structure Closing (home : α → Nat) (original slots : List (Option α))
    (free hole scan : Nat) : Prop where
  length : slots.length = original.length
  perm : (elements slots).Perm (elements original)
  shifting : Shifting home slots hole scan
  freeEmpty : slots[free]? = some none
  freeNe : free ≠ hole

namespace Closing

variable {original : List (Option α)} {free hole scan : Nat} {element : α}

section

variable (closing : Closing home original slots free hole scan)
include closing

theorem freeBound : free < original.length :=
  closing.length ▸ (List.getElem?_eq_some_iff.mp closing.freeEmpty).1

theorem finish (atScan : slots[scan]? = some none) : Closed home original slots :=
  ⟨closing.length, closing.perm, closing.shifting.finish atScan⟩

theorem skip (atScan : slots[scan]? = some (some element))
    (reachable : ¬ InArc (home element) hole scan) :
    Closing home original slots free hole (next original.length scan) :=
  { closing with shifting := closing.length ▸ closing.shifting.skip atScan reachable }

theorem move (atScan : slots[scan]? = some (some element))
    (cutOff : InArc (home element) hole scan) :
    Closing home original ((slots.set hole (some element)).set scan none) free scan
      (next original.length scan) where
  length := by simpa using closing.length
  perm := (elements_move_perm closing.shifting.holeEmpty atScan).trans closing.perm
  shifting := closing.length ▸ closing.shifting.move atScan cutOff
  freeEmpty := by
    rw [getElem?_set_ne (ne_of_occupied closing.freeEmpty atScan).symm,
      getElem?_set_ne closing.freeNe.symm, closing.freeEmpty]
  freeNe := ne_of_occupied closing.freeEmpty atScan

end

end Closing

end Updates

end Autoproto.LinearProbing
