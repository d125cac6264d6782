import Autoproto.FlatHashTable
import Mathlib.Data.List.Nodup

namespace Autoproto.FlatHashTable

open LinearProbing

/-!
# The invariant of the hash table

A well-formed table has a power of two of buckets, stores distinct non-default keys, keeps every
key reachable by probing and has room for another node.
-/

/-- The home bucket of an entry in an array of the given size. -/
def homeOf (traits : TableTraits Key) (count : Nat) (entry : Key × Value) : Nat :=
  traits.calcBucket (count - 1) entry.1

/-- The invariant of an allocated node array. -/
structure NodesWellFormed [Inhabited Key] (traits : TableTraits Key)
    (nodes : List (Option (Key × Value))) : Prop where
  sized : ∃ exponent, 3 ≤ exponent ∧ nodes.length = 2 ^ exponent
  chained : Chained (homeOf traits nodes.length) nodes
  distinct : ((elements nodes).map Prod.fst).Nodup
  keyed : ∀ {entry}, entry ∈ elements nodes → entry.1 ≠ default

/-- The invariant of a table between two operations. -/
structure WellFormed [Inhabited Key] (traits : TableTraits Key)
    (table : FlatHashTable Key Value) : Prop where
  nodesWellFormed : table.nodes ≠ [] → NodesWellFormed traits table.nodes
  used : table.usedNodeCount = table.entries.length
  load : table.nodes ≠ [] → 5 * table.usedNodeCount < 3 * table.bucketCountMask + 5
  capacity : table.bucketCount ≤ traits.maxBucketCount
  begun : table.usedNodeCount ≠ 0 →
    table.beginBucket ≠ invalidBucket →
    ∃ entry, table.nodes[table.beginBucket]? = some (some entry)

/-- What the table stores, as a finite map. -/
def contents [DecidableEq Key] (table : FlatHashTable Key Value) (key : Key) : Option Value :=
  (table.entries.find? (fun entry => entry.1 = key)).map Prod.snd

/-- The largest number of nodes a table can hold. -/
def maxNodeCount (traits : TableTraits Key) : Nat :=
  (3 * (2 ^ Nat.log2 traits.maxBucketCount - 1) + 4) / 5

section Arithmetic

theorem eight_le_maxBucketCount (traits : TableTraits Key) : 8 ≤ traits.maxBucketCount := by
  have fits : 8 ≤ 0x7FFFFFFF / traits.sizeofNode :=
    (Nat.le_div_iff_mul_le traits.sizeofNodePos).mpr traits.sizeofNodeLe
  unfold TableTraits.maxBucketCount
  omega

theorem maxBucketCount_le (traits : TableTraits Key) : traits.maxBucketCount ≤ 2 ^ 29 :=
  Nat.min_le_left _ _

variable {count : Nat}

theorem calcBucket_lt (traits : TableTraits Key)
    (sized : ∃ exponent, 3 ≤ exponent ∧ count = 2 ^ exponent) (key : Key) :
    traits.calcBucket (count - 1) key < count := by
  obtain ⟨exponent, _, rfl⟩ := sized
  rw [TableTraits.calcBucket, Nat.and_two_pow_sub_one_eq_mod]
  exact Nat.mod_lt _ (Nat.two_pow_pos exponent)

section

variable (sized : ∃ exponent, 3 ≤ exponent ∧ count = 2 ^ exponent)
include sized

theorem random_lt (random : Nat) : random &&& (count - 1) < count := by
  obtain ⟨exponent, _, rfl⟩ := sized
  rw [Nat.and_two_pow_sub_one_eq_mod]
  exact Nat.mod_lt _ (Nat.two_pow_pos exponent)

theorem nextBucket_eq_next {bucket : Nat} (bound : bucket < count) :
    nextBucket (count - 1) bucket = next count bucket := by
  obtain ⟨exponent, _, rfl⟩ := sized
  rw [nextBucket, Nat.and_two_pow_sub_one_eq_mod, next]
  split
  · rename_i last
    rw [last, Nat.mod_self]
  · exact Nat.mod_eq_of_lt (by omega)

theorem eight_le_of_sized : 8 ≤ count := by
  obtain ⟨exponent, large, rfl⟩ := sized
  calc
    8 = 2 ^ 3 := rfl
    _ ≤ 2 ^ exponent := Nat.pow_le_pow_right (by decide) large

end

theorem normalizeFlatHashTableSize_spec {size : Nat} (positive : 0 < size) :
    (∃ exponent, 3 ≤ exponent ∧ normalizeFlatHashTableSize size = 2 ^ exponent) ∧
      size < normalizeFlatHashTableSize size ∧
      normalizeFlatHashTableSize size ≤ max (2 * size) 8 := by
  have nonzero : size ≠ 0 := Nat.pos_iff_ne_zero.mp positive
  have above : size < 2 ^ (size.log2 + 1) := Nat.lt_log2_self
  have below : 2 ^ size.log2 ≤ size := Nat.log2_self_le nonzero
  have doubled : 2 ^ (size.log2 + 1) = 2 * 2 ^ size.log2 := by rw [Nat.pow_succ, Nat.mul_comm]
  simp only [normalizeFlatHashTableSize, nonzero, ↓reduceIte]
  refine ⟨?_, by omega, by omega⟩
  by_cases large : 3 ≤ size.log2 + 1
  · refine ⟨size.log2 + 1, large, ?_⟩
    apply Nat.max_eq_left
    calc
      8 = 2 ^ 3 := rfl
      _ ≤ 2 ^ (size.log2 + 1) := Nat.pow_le_pow_right (by decide) large
  · refine ⟨3, Nat.le_refl 3, ?_⟩
    apply Nat.max_eq_right
    calc
      2 ^ (size.log2 + 1) ≤ 2 ^ 3 := Nat.pow_le_pow_right (by decide) (by omega)
      _ = 8 := rfl

end Arithmetic

variable {traits : TableTraits Key} {table : FlatHashTable Key Value}

section Probing

variable [DecidableEq Key] [Inhabited Key]

theorem probeKey_spec (nodesWellFormed : NodesWellFormed traits table.nodes)
    (room : (elements table.nodes).length < table.nodes.length) (key : Key) : ∃ bucket,
      table.probeKey traits key = .ok bucket ∧
        ((∃ value, table.nodes[bucket]? = some (some (key, value))) ∨
          (table.nodes[bucket]? = some none ∧ (∀ value, (key, value) ∉ elements table.nodes) ∧
            ∀ {probe}, probe < table.nodes.length →
              InArc (traits.calcBucket (table.nodes.length - 1) key) probe bucket →
              table.nodes[probe]? ≠ some none)) := by
  have sized := nodesWellFormed.sized
  have cyclic : ∀ bucket, bucket < table.nodes.length →
        nextBucket table.bucketCountMask bucket = next table.nodes.length bucket :=
    fun bucket bound => nextBucket_eq_next sized bound
  obtain ⟨free, freeEmpty⟩ := exists_empty room
  obtain ⟨found, walked⟩ := probeFrom_isSome (nextBucket table.bucketCountMask)
      (fun node : Option (Key × Value) => node.isNone || node.any (fun entry => entry.1 = key))
      cyclic (calcBucket_lt traits sized key) freeEmpty rfl
      (Nat.le_refl _)
  refine ⟨found, ?_, ?_⟩
  · have walkedAll : probeFrom (nextBucket table.bucketCountMask)
            (fun node => node.isNone || node.any (fun entry => entry.1 = key))
            table.nodes table.bucketCount
            (traits.calcBucket table.bucketCountMask key) =
          some found :=
      walked
    simp only [probeKey, walkedAll]
  obtain ⟨slot, atFound, stopped⟩ := probeFrom_stops walked
  cases slot with
  | some entry =>
    have sameKey : entry.1 = key := by simpa using stopped
    exact Or.inl ⟨entry.2, by rw [atFound, ← sameKey]⟩
  | none =>
    refine Or.inr ⟨atFound, ?_, ?_⟩
    · intro value stored
      obtain ⟨bucket, atBucket⟩ := mem_elements.mp stored
      have bucketNe : bucket ≠ found := by
        rintro rfl
        rw [atFound] at atBucket
        cases atBucket
      have notPassed : ¬ InArc (traits.calcBucket (table.nodes.length - 1) key) bucket found := by
        intro onArc
        have passed := probeFrom_passes cyclic walked onArc atBucket
        simp at passed
      obtain ⟨_, reached⟩ := nodesWellFormed.chained.reached atBucket
      have foundBound : found < table.nodes.length := (List.getElem?_eq_some_iff.mp atFound).1
      refine reached foundBound ?_ atFound
      change InArc (traits.calcBucket (table.nodes.length - 1) key) found bucket
      unfold InArc at *
      omega
    · intro probe probeBound onArc empty
      have passed := probeFrom_passes cyclic walked onArc empty
      simp at passed

end Probing

section Resizing

theorem rehash_spec (traits : TableTraits Key) {count : Nat}
    (sized : ∃ exponent, 3 ≤ exponent ∧ count = 2 ^ exponent)
    (old slots : List (Option (Key × Value))) (slotsLength : slots.length = count)
    (chained : Chained (homeOf traits count) slots)
    (room : (elements old).length + (elements slots).length < count) : ∃ filled,
      rehash traits (count - 1) old slots = .ok filled ∧ filled.length = count ∧
        Chained (homeOf traits count) filled ∧
        (elements filled).Perm (elements old ++ elements slots) := by
  induction old generalizing slots with
  | nil => exact ⟨slots, rfl, slotsLength, chained, List.Perm.refl _⟩
  | cons node rest ih =>
    cases node with
    | none =>
      simpa [rehash, elements] using
        ih slots slotsLength chained (by simpa [elements] using room)
    | some entry =>
      have restRoom : (elements rest).length + (elements slots).length + 1 < count := by
        simp only [elements, List.filterMap_cons, id_eq, List.length_cons] at room ⊢
        omega
      have cyclic : ∀ bucket, bucket < slots.length →
            nextBucket (count - 1) bucket = next slots.length bucket := by
        intro bucket bound
        rw [slotsLength] at bound ⊢
        exact nextBucket_eq_next sized bound
      have homeBound : traits.calcBucket (count - 1) entry.1 < slots.length := by
        rw [slotsLength]
        exact calcBucket_lt traits sized entry.1
      have slotsRoom : (elements slots).length < slots.length := by omega
      obtain ⟨free, freeEmpty⟩ := exists_empty slotsRoom
      obtain ⟨found, walked⟩ := probeFrom_isSome (nextBucket (count - 1)) Option.isNone
          cyclic homeBound freeEmpty rfl (Nat.le_refl _)
      obtain ⟨slot, atFound, stopped⟩ := probeFrom_stops walked
      have foundEmpty : slots[found]? = some none := by
        rw [atFound, Option.isNone_iff_eq_none.mp stopped]
      have filledChained : Chained (homeOf traits count) (slots.set found (some entry)) := by
        apply chained.fill homeBound (List.getElem?_eq_some_iff.mp foundEmpty).1
        intro probe _ onArc empty
        have passed := probeFrom_passes cyclic walked onArc empty
        simp at passed
      have filledPerm := elements_fill_perm foundEmpty entry
      obtain ⟨filled, rehashed, filledLength, allChained, perm⟩ :=
        ih (slots.set found (some entry))
          (by rw [List.length_set, slotsLength])
          filledChained
          (by
            rw [filledPerm.length_eq, List.length_cons]
            omega)
      refine ⟨filled, ?_, filledLength, allChained, ?_⟩
      · simpa only [rehash, walked] using rehashed
      · calc
          (elements filled).Perm (elements rest ++ elements (slots.set found (some entry))) := perm
          List.Perm _ (elements rest ++ entry :: elements slots) := filledPerm.append_left _
          List.Perm _ (elements (some entry :: rest) ++ elements slots) := by simp [elements]

variable [Inhabited Key]

section

variable (wellFormed : table.WellFormed traits)
include wellFormed

theorem WellFormed.distinct : (table.entries.map Prod.fst).Nodup := by
  by_cases allocated : table.nodes = []
  · simp [entries, elements, allocated]
  · exact (wellFormed.nodesWellFormed allocated).distinct

theorem WellFormed.keyed {entry : Key × Value} (stored : entry ∈ table.entries) :
    entry.1 ≠ default := by
  by_cases allocated : table.nodes = []
  · simp [entries, elements, allocated] at stored
  · exact (wellFormed.nodesWellFormed allocated).keyed stored

theorem resize_spec {newSize : Nat} (sized : ∃ exponent, 3 ≤ exponent ∧ newSize = 2 ^ exponent)
    (fits : newSize ≤ traits.maxBucketCount) (room : table.usedNodeCount < newSize) : ∃ resized,
      table.resize traits newSize = .ok resized ∧ NodesWellFormed traits resized.nodes ∧
        resized.nodes.length = newSize ∧ resized.entries.Perm table.entries ∧
        resized.usedNodeCount = table.usedNodeCount ∧ resized.beginBucket = invalidBucket := by
  have noElements : elements (List.replicate newSize (none : Option (Key × Value))) = [] := by
    simp [elements]
  obtain ⟨filled, rehashed, filledLength, chained, perm⟩ := rehash_spec traits sized table.nodes
      (List.replicate newSize none)
      List.length_replicate
      (chained_replicate _ newSize)
      (by
        rw [noElements, List.length_nil, Nat.add_zero]
        exact wellFormed.used ▸ room)
  rw [noElements, List.append_nil] at perm
  have sameCount :
      (if table.nodes = [] then 0 else table.usedNodeCount) = table.usedNodeCount := by
    split
    · rename_i unallocated
      rw [wellFormed.used]
      simp [entries, elements, unallocated]
    · rfl
  refine ⟨{
      nodes := filled
      usedNodeCount := table.usedNodeCount
      beginBucket := invalidBucket },
    ?_, ⟨?_, ?_, ?_, ?_⟩, filledLength, perm, rfl, rfl⟩
  · simp only [resize, check_eq_ok fits, ok_bind, rehashed, sameCount, pure_eq_ok]
  · simpa only [filledLength] using sized
  · rw [filledLength]
    exact chained
  · exact (perm.map Prod.fst).nodup_iff.mpr wellFormed.distinct
  · intro entry stored
    exact wellFormed.keyed (perm.mem_iff.mp stored)

end

omit [Inhabited Key] in
/-- Growing past the largest array aborts. -/
theorem resize_aborts {newSize : Nat} (large : traits.maxBucketCount < newSize) :
    table.resize traits newSize = .error .check := by
  have tooLarge : ¬ newSize ≤ traits.maxBucketCount := by omega
  simp only [resize, check_eq_error tooLarge, error_bind]

end Resizing

section Load

variable [Inhabited Key]

section

variable (wellFormed : table.WellFormed traits)
include wellFormed

theorem WellFormed.eight_le (allocated : table.nodes ≠ []) : 8 ≤ table.nodes.length :=
  eight_le_of_sized (wellFormed.nodesWellFormed allocated).sized

theorem WellFormed.used_of_unallocated (unallocated : table.nodes = []) :
    table.usedNodeCount = 0 := by
  rw [wellFormed.used]
  simp [entries, elements, unallocated]

section

variable (allocated : table.nodes ≠ [])
include allocated

theorem WellFormed.isCrowded_iff :
    table.isCrowded = true ↔ 3 * table.bucketCountMask ≤ 5 * table.usedNodeCount := by
  have load := wellFormed.load allocated
  have bounded : table.nodes.length ≤ 2 ^ 29 := wellFormed.capacity.trans (maxBucketCount_le traits)
  unfold isCrowded bucketCountMask at *
  rw [decide_eq_true_iff, Nat.mod_eq_of_lt (by omega), Nat.mod_eq_of_lt (by omega)]
  omega

theorem WellFormed.room : (elements table.nodes).length + 1 < table.nodes.length := by
  have load := wellFormed.load allocated
  have large := wellFormed.eight_le allocated
  have used := wellFormed.used
  unfold bucketCountMask at load
  unfold entries at used
  omega

theorem WellFormed.largest_or_doubles : 2 ^ traits.maxBucketCount.log2 = table.nodes.length ∨
      2 * table.nodes.length ≤ 2 ^ traits.maxBucketCount.log2 := by
  have limit := eight_le_maxBucketCount traits
  obtain ⟨exponent, _, length⟩ := (wellFormed.nodesWellFormed allocated).sized
  have exponentLe : exponent ≤ traits.maxBucketCount.log2 := by
    rw [Nat.le_log2 (by omega), ← length]
    exact wellFormed.capacity
  rcases Nat.lt_or_eq_of_le exponentLe with smaller | equal
  · right
    rw [length, ← Nat.pow_succ']
    exact Nat.pow_le_pow_right (by decide) smaller
  · left
    rw [length, equal]

theorem WellFormed.full_iff :
    (table.isCrowded = true ∧ traits.maxBucketCount < 2 * table.bucketCount) ↔
      maxNodeCount traits ≤ table.usedNodeCount := by
  rw [wellFormed.isCrowded_iff allocated]
  have load := wellFormed.load allocated
  have large := wellFormed.eight_le allocated
  have limit := eight_le_maxBucketCount traits
  have below := Nat.log2_self_le (n := traits.maxBucketCount) (by omega)
  have above : traits.maxBucketCount < 2 * 2 ^ traits.maxBucketCount.log2 := by
    have := Nat.lt_log2_self (n := traits.maxBucketCount)
    omega
  have sizes := wellFormed.largest_or_doubles allocated
  unfold maxNodeCount bucketCountMask bucketCount at *
  omega

end

theorem WellFormed.used_le : table.usedNodeCount ≤ maxNodeCount traits := by
  by_cases unallocated : table.nodes = []
  · rw [wellFormed.used_of_unallocated unallocated]
    exact Nat.zero_le _
  · have load := wellFormed.load unallocated
    have sizes := wellFormed.largest_or_doubles unallocated
    unfold maxNodeCount bucketCountMask at *
    omega

end

omit [Inhabited Key] in
theorem five_le_maxNodeCount : 5 ≤ maxNodeCount traits := by
  have limit := eight_le_maxBucketCount traits
  have eight : 2 ^ 3 ≤ 2 ^ traits.maxBucketCount.log2 :=
    Nat.pow_le_pow_right (by decide) ((Nat.le_log2 (by omega)).mpr limit)
  unfold maxNodeCount
  omega

omit [Inhabited Key] in
theorem maxNodeCount_pos (traits : TableTraits Key) : 0 < maxNodeCount traits :=
  Nat.lt_of_lt_of_le (by decide) (five_le_maxNodeCount)

theorem resize_wellFormed (wellFormed : table.WellFormed traits) (newSize : Nat)
    (sized : ∃ exponent, 3 ≤ exponent ∧ newSize = 2 ^ exponent)
    (fits : newSize ≤ traits.maxBucketCount) (load : 5 * table.usedNodeCount < 3 * (newSize - 1)) :
    ∃ resized, table.resize traits newSize = .ok resized ∧ resized.WellFormed traits ∧
        resized.nodes.length = newSize ∧ resized.entries.Perm table.entries ∧
        resized.usedNodeCount = table.usedNodeCount ∧ resized.isCrowded = false := by
  obtain ⟨resized, done, nodesWellFormed, length, perm, used, begun⟩ :=
    resize_spec wellFormed sized fits (by omega)
  have resizedWellFormed : resized.WellFormed traits := {
    nodesWellFormed := fun _ => nodesWellFormed
    used := by rw [used, wellFormed.used, perm.length_eq]
    load := by
      intro _
      unfold bucketCountMask
      omega
    capacity := by
      unfold bucketCount
      omega
    begun := fun _ chosen => (chosen begun).elim
  }
  refine ⟨resized, done, resizedWellFormed, length, perm, used, ?_⟩
  have allocated : resized.nodes ≠ [] := by
    have large := eight_le_of_sized sized
    intro empty
    rw [empty] at length
    simp at length
    omega
  rw [← Bool.not_eq_true, resizedWellFormed.isCrowded_iff allocated]
  unfold bucketCountMask
  omega

end Load

end Autoproto.FlatHashTable
