import Autoproto.FlatHashTableInvariant
import Mathlib.Data.List.Rotate

namespace Autoproto.FlatHashTable

open List LinearProbing

/-!
# Iterating over the hash table

A range-based loop starts at a random node and follows the array cyclically.
It visits the nodes of the array rotated to that start, so every entry is
visited exactly once, whatever the random choice.
-/

variable {traits : TableTraits Key} {table : FlatHashTable Key Value}
  {nodes : List (Option (Key × Value))} {start : Nat}

theorem next_rotated {count offset : Nat} (startBound : start < count)
    (offsetBound : offset < count) :
    next count ((offset + start) % count) = (offset + 1 + start) % count ∧
      ((offset + 1 + start) % count = start ↔ offset + 1 = count) := by
  have remainder : ∀ number, number < 2 * count → (number < count ∧ number % count = number) ∨
          (count ≤ number ∧ number % count = number - count) := by
    intro number small
    rcases Nat.lt_or_ge number count with below | above
    · exact Or.inl ⟨below, Nat.mod_eq_of_lt below⟩
    · refine Or.inr ⟨above, ?_⟩
      rw [Nat.mod_eq_sub_mod above, Nat.mod_eq_of_lt (by omega)]
  have successor := next_cases count ((offset + start) % count)
  have here := remainder (offset + start) (by omega)
  have there := remainder (offset + 1 + start) (by omega)
  omega

theorem iteratorNext_spec (startBound : start < nodes.length) (fuel : Nat) {offset : Nat}
    (offsetBound : offset < nodes.length) (enough : nodes.length ≤ fuel + offset) :
    (iteratorNext nodes start fuel ((offset + start) % nodes.length) = none ∧
        elements ((nodes.rotate start).drop (offset + 1)) = []) ∨
      ∃ later entry, offset < later ∧ later < nodes.length ∧
          iteratorNext nodes start fuel ((offset + start) % nodes.length) =
            some ((later + start) % nodes.length) ∧
          (nodes.rotate start)[later]? = some (some entry) ∧
          elements ((nodes.rotate start).drop (offset + 1)) =
            elements ((nodes.rotate start).drop later) := by
  induction fuel generalizing offset with
  | zero => omega
  | succ fuel ih =>
    obtain ⟨following, back⟩ := next_rotated startBound offsetBound
    by_cases atEnd : offset + 1 = nodes.length
    · refine Or.inl ⟨?_, ?_⟩
      · simp only [iteratorNext, following, back.mpr atEnd, ↓reduceIte]
      · have pastEnd : (nodes.rotate start).drop (offset + 1) = [] := by
          rw [drop_eq_nil_iff, length_rotate]
          omega
        rw [pastEnd]
        rfl
    · have nextBound : offset + 1 < nodes.length := by omega
      have notBack : (offset + 1 + start) % nodes.length ≠ start :=
        fun isStart => atEnd (back.mp isStart)
      have sameNode :
          (nodes.rotate start)[offset + 1]? = nodes[(offset + 1 + start) % nodes.length]? :=
        getElem?_rotate nextBound
      have rotatedBound : offset + 1 < (nodes.rotate start).length := by
        rw [length_rotate]
        exact nextBound
      cases atNext : (nodes.rotate start)[offset + 1] with
      | some entry =>
        have occupied : (nodes.rotate start)[offset + 1]? = some (some entry) := by
          rw [getElem?_eq_getElem rotatedBound, atNext]
        refine Or.inr ⟨offset + 1, entry, by omega, nextBound, ?_, occupied, rfl⟩
        simp only [iteratorNext, following, notBack, ↓reduceIte, ← sameNode, occupied]
      | none =>
        have empty : (nodes.rotate start)[offset + 1]? = some none := by
          rw [getElem?_eq_getElem rotatedBound, atNext]
        have skipped : iteratorNext nodes start (fuel + 1) ((offset + start) % nodes.length) =
              iteratorNext nodes start fuel ((offset + 1 + start) % nodes.length) := by
          simp only [iteratorNext, following, notBack, ↓reduceIte, ← sameNode, empty]
        have sameElements : elements ((nodes.rotate start).drop (offset + 1)) =
              elements ((nodes.rotate start).drop (offset + 2)) := by
          rw [drop_eq_getElem_cons rotatedBound, atNext]
          rfl
        rw [skipped, sameElements]
        rcases ih nextBound (by omega) with
            finished | ⟨later, entry, after, rest⟩
        · exact Or.inl finished
        · exact Or.inr ⟨later, entry, by omega, rest⟩

theorem iterateFrom_spec (startBound : start < nodes.length) (fuel : Nat) {offset : Nat}
    {entry : Key × Value} (offsetBound : offset < nodes.length)
    (enough : nodes.length ≤ fuel + offset)
    (occupied : (nodes.rotate start)[offset]? = some (some entry)) :
    iterateFrom nodes start fuel ((offset + start) % nodes.length) =
      elements ((nodes.rotate start).drop offset) := by
  induction fuel generalizing offset entry with
  | zero => omega
  | succ fuel ih =>
    obtain ⟨rotatedBound, atOffset⟩ := List.getElem?_eq_some_iff.mp occupied
    have atBucket : nodes[(offset + start) % nodes.length]? = some (some entry) := by
      rw [← List.getElem?_rotate offsetBound, occupied]
    have headElement : elements ((nodes.rotate start).drop offset) =
          entry :: elements ((nodes.rotate start).drop (offset + 1)) := by
      rw [drop_eq_getElem_cons rotatedBound, atOffset]
      rfl
    rw [headElement]
    simp only [iterateFrom, atBucket]
    rcases iteratorNext_spec startBound nodes.length offsetBound (by omega) with
      ⟨finished, nothing⟩ |
      ⟨later, laterEntry, after, laterBound, advanced, laterOccupied, sameElements⟩
    · rw [finished, nothing]
    · rw [advanced, sameElements]
      exact congrArg (entry :: ·) (ih laterBound (by omega) laterOccupied)

variable [Inhabited Key]

theorem beginImpl_spec (wellFormed : table.WellFormed traits) (random : UInt32)
    (nonempty : table.usedNodeCount ≠ 0) : ∃ start entry,
      table.beginImpl random = .ok ({ table with beginBucket := start }, some start) ∧
        table.nodes[start]? = some (some entry) := by
  by_cases chosen : table.beginBucket = invalidBucket
  · have allocated : table.nodes ≠ [] := fun unallocated =>
      nonempty (wellFormed.used_of_unallocated unallocated)
    have sized := (wellFormed.nodesWellFormed allocated).sized
    obtain ⟨entry, stored⟩ : ∃ entry, entry ∈ elements table.nodes := by
      apply exists_mem_of_ne_nil
      intro noElements
      apply nonempty
      rw [wellFormed.used, entries, noElements]
      rfl
    obtain ⟨bucket, atBucket⟩ := mem_elements.mp stored
    obtain ⟨found, walked⟩ := probeFrom_isSome (nextBucket table.bucketCountMask) Option.isSome
        (fun bucket bound => nextBucket_eq_next sized bound)
        (random_lt sized random.toNat) atBucket rfl (Nat.le_refl _)
    obtain ⟨slot, atFound, stopped⟩ := probeFrom_stops walked
    obtain ⟨foundEntry, isSome⟩ := Option.isSome_iff_exists.mp stopped
    refine ⟨found, foundEntry, ?_, by rw [atFound, isSome]⟩
    have walkedAll : probeFrom (nextBucket table.bucketCountMask) Option.isSome
            table.nodes table.bucketCount
            (random.toNat &&& table.bucketCountMask) =
          some found :=
      walked
    simp only [beginImpl, nonempty, chosen, ↓reduceIte, walkedAll]
  · obtain ⟨entry, occupied⟩ := wellFormed.begun nonempty chosen
    refine ⟨table.beginBucket, entry, ?_, occupied⟩
    simp only [beginImpl, nonempty, chosen, ↓reduceIte]

theorem iterate_spec (wellFormed : table.WellFormed traits) (random : UInt32) : ∃ begun order,
      table.iterate random = .ok ({ table with beginBucket := begun }, order) ∧
        WellFormed traits { table with beginBucket := begun } ∧
        order.Perm table.entries := by
  by_cases empty : table.usedNodeCount = 0
  · have noEntries : table.entries = [] := by
      rw [← length_eq_zero_iff, ← wellFormed.used, empty]
    refine ⟨table.beginBucket, [], ?_, wellFormed, ?_⟩
    · rw [iterate, beginImpl, if_pos empty, ok_bind]
      rfl
    · rw [noEntries]
  · obtain ⟨start, entry, begun, occupied⟩ := beginImpl_spec wellFormed random empty
    have startBound : start < table.nodes.length := (List.getElem?_eq_some_iff.mp occupied).1
    have positive : 0 < table.nodes.length := by omega
    have rotatedOccupied : (table.nodes.rotate start)[0]? = some (some entry) := by
      rw [List.getElem?_rotate positive, Nat.zero_add, Nat.mod_eq_of_lt startBound, occupied]
    have visited :=
      iterateFrom_spec startBound table.nodes.length positive (by omega) rotatedOccupied
    rw [Nat.zero_add, Nat.mod_eq_of_lt startBound, drop_zero] at visited
    refine ⟨start, elements (table.nodes.rotate start), ?_, ?_, ?_⟩
    · simp only [iterate, begun, ok_bind, bucketCount, visited, pure_eq_ok]
    · exact {
        wellFormed with
        begun := fun _ _ => ⟨entry, occupied⟩
      }
    · exact (rotate_perm table.nodes start).filterMap id

end Autoproto.FlatHashTable
