import Autoproto.FlatHashTableInvariant

namespace Autoproto.FlatHashTable

open LinearProbing

/-!
# Inserting into the hash table

`emplace` finds the key or the first free bucket after its home, and grows a
crowded table before it stores a new node.  It aborts in exactly two cases: for
the default key, and for a new key when the table cannot grow any more.
-/

variable {traits : TableTraits Key} {table : FlatHashTable Key Value} [DecidableEq Key]
  [Inhabited Key]

omit [DecidableEq Key] in
theorem WellFormed.bucketCountMask_ne_zero (wellFormed : table.WellFormed traits)
    (allocated : table.nodes ≠ []) : table.bucketCountMask ≠ 0 := by
  have large := wellFormed.eight_le allocated
  unfold bucketCountMask
  omega

variable {key : Key}

section

variable (wellFormed : table.WellFormed traits)
include wellFormed

omit [DecidableEq Key] in
theorem WellFormed.place (allocated : table.nodes ≠ []) (uncrowded : table.isCrowded = false)
    {bucket : Nat} (keyNonempty : key ≠ default) (free : table.nodes[bucket]? = some none)
    (absent : ∀ value, (key, value) ∉ table.entries)
    (passes : ∀ {probe}, probe < table.nodes.length →
        InArc (traits.calcBucket (table.nodes.length - 1) key) probe bucket →
        table.nodes[probe]? ≠ some none) (value : Value) : WellFormed traits {
      nodes := table.nodes.set bucket (some (key, value))
      usedNodeCount := table.usedNodeCount + 1
      beginBucket := invalidBucket
    } := by
  have nodesWellFormed := wellFormed.nodesWellFormed allocated
  have perm := elements_fill_perm free (key, value)
  have homeBound := calcBucket_lt traits nodesWellFormed.sized key
  refine ⟨?_, ?_, ?_, ?_, ?_⟩
  · intro _
    refine ⟨?_, ?_, ?_, ?_⟩
    · simpa using nodesWellFormed.sized
    · simp only [List.length_set]
      exact nodesWellFormed.chained.fill homeBound (List.getElem?_eq_some_iff.mp free).1 passes
    · rw [(perm.map Prod.fst).nodup_iff, List.map_cons, List.nodup_cons]
      refine ⟨?_, nodesWellFormed.distinct⟩
      intro stored
      obtain ⟨entry, member, sameKey⟩ := List.mem_map.mp stored
      have entryShape : (key, entry.2) = entry := by rw [← show entry.1 = key from sameKey]
      exact absent entry.2 (entryShape ▸ member)
    · intro entry stored
      rcases List.mem_cons.mp (perm.mem_iff.mp stored) with
          isNew | isOld
      · rw [isNew]
        exact keyNonempty
      · exact nodesWellFormed.keyed isOld
  · change table.usedNodeCount + 1 = (elements _).length
    rw [perm.length_eq, List.length_cons, wellFormed.used, entries]
  · intro _
    have notCrowded : ¬ 3 * table.bucketCountMask ≤ 5 * table.usedNodeCount := by
      rw [← wellFormed.isCrowded_iff allocated, uncrowded]
      decide
    simp only [bucketCountMask, List.length_set] at notCrowded ⊢
    omega
  · simpa [bucketCount] using wellFormed.capacity
  · intro _ chosen
    exact (chosen rfl).elim

theorem emplace_present {old : Value} (stored : (key, old) ∈ table.entries) (value : Value) :
    ∃ bucket, table.emplace traits key value = .ok (table, bucket, false) ∧
        table.nodes[bucket]? = some (some (key, old)) := by
  have allocated : table.nodes ≠ [] := by
    intro unallocated
    simp [entries, elements, unallocated] at stored
  have nodesWellFormed := wellFormed.nodesWellFormed allocated
  have room := wellFormed.room allocated
  have keyNonempty := wellFormed.keyed stored
  have masked := wellFormed.bucketCountMask_ne_zero allocated
  obtain ⟨bucket, probed, found | notFound⟩ := probeKey_spec nodesWellFormed (by omega) key
  · obtain ⟨found, atBucket⟩ := found
    have sameValue : found = old := by
      have member : (key, found) ∈ table.entries := mem_elements.mpr ⟨bucket, atBucket⟩
      have same := List.inj_on_of_nodup_map nodesWellFormed.distinct member stored rfl
      exact congrArg Prod.snd same
    subst sameValue
    refine ⟨bucket, ?_, atBucket⟩
    simp [emplace, emplaceAtDepth, check_eq_ok keyNonempty, masked, probed, atBucket]
  · exact (notFound.2.1 old stored).elim

theorem emplaceAtDepth_uncrowded (allocated : table.nodes ≠ [])
    (uncrowded : table.isCrowded = false) (keyNonempty : key ≠ default)
    (absent : ∀ value, (key, value) ∉ table.entries) (value : Value) (depth : Nat) :
    ∃ placed bucket,
      emplaceAtDepth traits key value (depth + 1) table = .ok (placed, bucket, true) ∧
        placed.WellFormed traits ∧ placed.nodes[bucket]? = some (some (key, value)) ∧
        placed.entries.Perm ((key, value) :: table.entries) := by
  have nodesWellFormed := wellFormed.nodesWellFormed allocated
  have room := wellFormed.room allocated
  have masked := wellFormed.bucketCountMask_ne_zero allocated
  obtain ⟨bucket, probed, found | notFound⟩ := probeKey_spec nodesWellFormed (by omega) key
  · obtain ⟨found, atBucket⟩ := found
    exact (absent found (mem_elements.mpr ⟨bucket, atBucket⟩)).elim
  · obtain ⟨free, _, passes⟩ := notFound
    have bound : bucket < table.nodes.length := (List.getElem?_eq_some_iff.mp free).1
    refine ⟨_, bucket, ?_,
      wellFormed.place allocated uncrowded keyNonempty free absent passes value, ?_, ?_⟩
    · simp [emplaceAtDepth, check_eq_ok keyNonempty, masked, probed, free, uncrowded]
    · exact List.getElem?_set_self bound
    · exact elements_fill_perm free (key, value)

theorem emplaceAtDepth_crowded (allocated : table.nodes ≠ []) (crowded : table.isCrowded = true)
    (keyNonempty : key ≠ default) (absent : ∀ value, (key, value) ∉ table.entries) (value : Value)
    (depth : Nat) : emplaceAtDepth traits key value (depth + 1) table =
      (do
        let grown ← table.resize traits (2 * table.bucketCount)
        check (grown.isCrowded = false)
        emplaceAtDepth traits key value depth grown) := by
  have room := wellFormed.room allocated
  have masked := wellFormed.bucketCountMask_ne_zero allocated
  obtain ⟨bucket, probed, found | notFound⟩ :=
    probeKey_spec (wellFormed.nodesWellFormed allocated) (by omega) key
  · obtain ⟨found, atBucket⟩ := found
    exact (absent found (mem_elements.mpr ⟨bucket, atBucket⟩)).elim
  · rw [emplaceAtDepth]
    simp [check_eq_ok keyNonempty, masked, probed, notFound.1, crowded]

theorem emplace_unallocated (unallocated : table.nodes = []) (keyNonempty : key ≠ default)
    (value : Value) : ∃ placed bucket, table.emplace traits key value = .ok (placed, bucket, true) ∧
        placed.WellFormed traits ∧ placed.nodes[bucket]? = some (some (key, value)) ∧
        placed.entries.Perm ((key, value) :: table.entries) := by
  have used := wellFormed.used_of_unallocated unallocated
  obtain ⟨grown, resized, grownWellFormed, length, perm, _, uncrowded⟩ :=
    resize_wellFormed wellFormed 8
      ⟨3, Nat.le_refl 3, rfl⟩
      (eight_le_maxBucketCount traits) (by omega)
  have grownAllocated : grown.nodes ≠ [] := by
    intro empty
    simp [empty] at length
  have noEntries : table.entries = [] := by simp [entries, elements, unallocated]
  have absent : ∀ value, (key, value) ∉ grown.entries := by
    intro value stored
    rw [perm.mem_iff, noEntries] at stored
    cases stored
  obtain ⟨placed, bucket, done, placedWellFormed, stored, placedPerm⟩ :=
    emplaceAtDepth_uncrowded grownWellFormed grownAllocated uncrowded keyNonempty absent value 1
  refine ⟨placed, bucket, ?_, placedWellFormed, stored, placedPerm.trans (perm.cons _)⟩
  have maskZero : table.bucketCountMask = 0 := by simp [bucketCountMask, unallocated]
  have maskNonzero := grownWellFormed.bucketCountMask_ne_zero grownAllocated
  rw [← done]
  simp [emplace, emplaceAtDepth, check_eq_ok keyNonempty, maskZero,
    maskNonzero, check_eq_ok used, resized]

theorem emplace_absent (keyNonempty : key ≠ default)
    (absent : ∀ value, (key, value) ∉ table.entries)
    (room : table.usedNodeCount < maxNodeCount traits) (value : Value) : ∃ placed bucket,
      table.emplace traits key value = .ok (placed, bucket, true) ∧ placed.WellFormed traits ∧
        placed.nodes[bucket]? = some (some (key, value)) ∧
        placed.entries.Perm ((key, value) :: table.entries) := by
  by_cases unallocated : table.nodes = []
  · exact emplace_unallocated wellFormed unallocated keyNonempty value
  · cases crowded : table.isCrowded with
    | false =>
      exact emplaceAtDepth_uncrowded wellFormed unallocated crowded keyNonempty absent value 1
    | true =>
      have load := wellFormed.load unallocated
      have large := wellFormed.eight_le unallocated
      have fits : 2 * table.bucketCount ≤ traits.maxBucketCount := by
        by_contra tooLarge
        have full := (wellFormed.full_iff unallocated).mp ⟨crowded, by omega⟩
        omega
      have sized : ∃ exponent, 3 ≤ exponent ∧ 2 * table.bucketCount = 2 ^ exponent := by
        obtain ⟨exponent, atLeast, length⟩ := (wellFormed.nodesWellFormed unallocated).sized
        exact ⟨exponent + 1, by omega, by rw [bucketCount, length, Nat.pow_succ, Nat.mul_comm]⟩
      obtain ⟨grown, resized, grownWellFormed, length, perm, _, uncrowded⟩ :=
        resize_wellFormed wellFormed _ sized fits (by
          unfold bucketCountMask bucketCount at *
          omega)
      have grownAllocated : grown.nodes ≠ [] := by
        intro empty
        rw [empty, bucketCount] at length
        simp at length
        exact unallocated length
      have grownAbsent : ∀ value, (key, value) ∉ grown.entries := by
        intro value stored
        exact absent value (perm.mem_iff.mp stored)
      obtain ⟨placed, bucket, done, placedWellFormed, stored, placedPerm⟩ :=
        emplaceAtDepth_uncrowded grownWellFormed grownAllocated
          uncrowded keyNonempty grownAbsent value 0
      refine ⟨placed, bucket, ?_, placedWellFormed, stored, placedPerm.trans (perm.cons _)⟩
      rw [emplace, emplaceAtDepth_crowded wellFormed unallocated crowded keyNonempty absent value 1,
        resized, ok_bind, check_eq_ok uncrowded, ok_bind, done]

theorem emplace_full (keyNonempty : key ≠ default) (absent : ∀ value, (key, value) ∉ table.entries)
    (full : maxNodeCount traits ≤ table.usedNodeCount) (value : Value) :
    table.emplace traits key value = .error .check := by
  have allocated : table.nodes ≠ [] := by
    intro unallocated
    have used := wellFormed.used_of_unallocated unallocated
    have positive := maxNodeCount_pos traits
    omega
  obtain ⟨crowded, tooLarge⟩ := (wellFormed.full_iff allocated).mpr full
  rw [emplace, emplaceAtDepth_crowded wellFormed allocated crowded keyNonempty absent value 1,
    resize_aborts tooLarge, error_bind]

end

end Autoproto.FlatHashTable
