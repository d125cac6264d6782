import Mathlib.Order.Lattice
import Mathlib.Tactic.Common
import Autoproto.Fault

namespace Autoproto.ArrayAlgorithms

open List

/-!
# Algorithms on arrays

An array is the list of its cells.  A read or a write at an index that the array
does not have is a fault, so an algorithm that returns has stayed inside it.
-/

variable {Cell : Type}

def read (cells : List Cell) (index : Nat) : Except Fault Cell :=
  match cells[index]? with
  | some cell => .ok cell
  | none => .error .outOfBounds

def write (cells : List Cell) (index : Nat) (cell : Cell) : Except Fault (List Cell) :=
  if index < cells.length then
    .ok (cells.set index cell)
  else
    .error .outOfBounds

/-- The function `std::copy_n`, which copies the first cell first. -/
def copyN (cells : List Cell) (source target : Nat) : Nat → Except Fault (List Cell)
  | 0 => .ok cells
  | count + 1 => do
      let cell ← read cells source
      let cells ← write cells target cell
      copyN cells (source + 1) (target + 1) count

/-- The function `std::copy_backward`: the last cell first. -/
def copyBackward (cells : List Cell) (source target : Nat) : Nat → Except Fault (List Cell)
  | 0 => .ok cells
  | count + 1 => do
      let cell ← read cells (source + count)
      let cells ← write cells (target + count) cell
      copyBackward cells source target count

/-- The function `std::lower_bound`, with a bound on its rounds. -/
def lowerBound [LT Cell] [DecidableLT Cell] (cells : List Cell)
    (value : Cell) : Nat → Nat → Nat → Except Fault Nat
  | _, first, 0 => .ok first
  | 0, _, _ + 1 => .error .spin
  | patience + 1, first, count + 1 => do
      let half := (count + 1) / 2
      let middle ← read cells (first + half)
      if middle < value then
        lowerBound cells value patience (first + half + 1) (count - half)
      else
        lowerBound cells value patience first half

/-- The array after some cells have been copied to another place in it. -/
def moved (cells : List Cell) (source target count : Nat) : List Cell :=
  cells.take target ++ (cells.drop source).take count ++ cells.drop (target + count)

variable {cells : List Cell}

theorem read_eq {index : Nat} (inside : index < cells.length) :
    read cells index = .ok cells[index] := by
  rw [read, getElem?_eq_getElem inside]

theorem write_eq {index : Nat} (inside : index < cells.length) (cell : Cell) :
    write cells index cell = .ok (cells.set index cell) :=
  if_pos inside

theorem moved_zero (source target : Nat) : moved cells source target 0 = cells := by
  simp [moved]

variable {source target : Nat}

theorem moved_set_first (downwards : target ≤ source) (inside : source < cells.length)
    (count : Nat) : moved (cells.set target cells[source]) (source + 1) (target + 1) count =
      moved cells source target (count + 1) := by
  have firstCell : (cells.drop source).take (count + 1) =
        cells[source] :: (cells.drop (source + 1)).take count := by
    rw [drop_eq_getElem_cons inside, take_succ_cons]
  have leading : (cells.set target cells[source]).take (target + 1) =
        cells.take target ++ [cells[source]] := by
    rw [set_eq_take_append_cons_drop, if_pos (by omega), append_cons]
    exact take_left' (by
      rw [length_append, length_take, length_singleton]
      omega)
  have rest : (cells.set target cells[source]).drop (source + 1) = cells.drop (source + 1) := by
    rw [drop_set, if_pos (by omega)]
  have behind : (cells.set target cells[source]).drop (target + 1 + count) =
        cells.drop (target + (count + 1)) := by
    rw [drop_set, if_pos (by omega)]
    congr 1
    omega
  rw [moved, moved, leading, rest, behind, firstCell]
  simp

variable {count : Nat}

theorem moved_set_last (upwards : source ≤ target) (inside : target + count < cells.length) :
    moved (cells.set (target + count) cells[source + count]) source target count =
      moved cells source target (count + 1) := by
  have sourceInside : source + count < cells.length := by omega
  have leading :
      (cells.set (target + count) cells[source + count]).take target = cells.take target := by
    rw [take_set, set_eq_of_length_le (by rw [length_take]; omega)]
  have copied : ((cells.set (target + count) cells[source + count]).drop source).take count =
        (cells.drop source).take count := by
    rw [drop_set, if_neg (by omega), take_set, set_eq_of_length_le (by rw [length_take]; omega)]
  have behind : (cells.set (target + count) cells[source + count]).drop (target + count) =
        cells[source + count] :: cells.drop (target + (count + 1)) := by
    rw [set_eq_take_append_cons_drop, if_pos inside]
    exact drop_left' (by rw [length_take]; omega)
  have lastCell : (cells.drop source).take (count + 1) =
        (cells.drop source).take count ++ [cells[source + count]] := by
    rw [take_add_one, getElem?_drop, getElem?_eq_getElem sourceInside]
    rfl
  rw [moved, moved, leading, copied, behind, lastCell]
  simp

theorem length_moved (sourceInside : source + count ≤ cells.length)
    (targetInside : target + count ≤ cells.length) :
    (moved cells source target count).length = cells.length := by
  simp only [moved, length_append, length_take, length_drop]
  omega

/-- Copying to lower indices. -/
theorem copyN_eq (downwards : target ≤ source) (inside : source + count ≤ cells.length) :
    copyN cells source target count = .ok (moved cells source target count) := by
  induction count generalizing cells source target with
  | zero => rw [copyN, moved_zero]
  | succ count ih =>
    have sourceInside : source < cells.length := by omega
    rw [copyN, read_eq sourceInside, ok_bind, write_eq (by omega), ok_bind,
      ih (by omega) (by rw [length_set]; omega),
      moved_set_first downwards sourceInside]

/-- Copying to higher indices. -/
theorem copyBackward_eq (upwards : source ≤ target) (inside : target + count ≤ cells.length) :
    copyBackward cells source target count = .ok (moved cells source target count) := by
  induction count generalizing cells with
  | zero => rw [copyBackward, moved_zero]
  | succ count ih =>
    have targetInside : target + count < cells.length := by omega
    rw [copyBackward, read_eq (by omega), ok_bind, write_eq targetInside,
      ok_bind, ih (by rw [length_set]; omega),
      moved_set_last upwards targetInside]

theorem read_append (before : List Cell) (cell : Cell) (after : List Cell) :
    read (before ++ cell :: after) before.length = .ok cell := by
  rw [read, getElem?_append_right (Nat.le_refl _), Nat.sub_self]
  rfl

theorem lowerBound_spec [LT Cell] [DecidableLT Cell] {value : Cell} {lower upper rest : List Cell}
    {patience first : Nat} (below : ∀ cell ∈ lower, cell < value)
    (above : ∀ cell ∈ upper, ¬ cell < value) (begins : first ≤ lower.length)
    (ends : lower.length ≤ first + count) (bounded : first + count ≤ (lower ++ upper).length)
    (patient : count ≤ patience) :
    lowerBound (lower ++ upper ++ rest) value patience first count = .ok lower.length := by
  induction patience generalizing first count with
  | zero =>
    obtain rfl : count = 0 := by omega
    obtain rfl : first = lower.length := by omega
    rfl
  | succ patience ih =>
    cases count with
    | zero =>
      obtain rfl : first = lower.length := by omega
      rfl
    | succ count =>
      have inside : first + (count + 1) / 2 < (lower ++ upper).length := by omega
      rw [lowerBound, read_eq (by rw [length_append]; omega), ok_bind, getElem_append_left inside]
      by_cases left : first + (count + 1) / 2 < lower.length
      · rw [getElem_append_left left, if_pos (below _ (getElem_mem left))]
        exact ih (by omega) (by omega) (by omega) (by omega)
      · rw [getElem_append_right (Nat.le_of_not_lt left), if_neg (above _ (getElem_mem _))]
        exact ih begins (by omega) (by omega) (by omega)

end Autoproto.ArrayAlgorithms
