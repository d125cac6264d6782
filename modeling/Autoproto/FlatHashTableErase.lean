import Autoproto.FlatHashTableEmplace

namespace Autoproto.FlatHashTable

open List LinearProbing

/-!
# Searching and erasing in the hash table

Erasing a node opens a gap that may cut nodes off from their home. The two loops
of `erase_node` are a run of backward shifts, to the end of the array and then
from its start, which a bucket that was empty before ends in time.
-/

variable {traits : TableTraits Key} {table : FlatHashTable Key Value}
  {nodes : List (Option (Key × Value))} {hole : Nat} {entry : Key × Value}

theorem shiftNode_eq {test : Nat} (atTest : nodes[test]? = some (some entry)) :
    shiftNode hole test nodes = (nodes.set hole (some entry)).set test none := by
  simp [shiftNode, atTest]

variable {original : List (Option (Key × Value))} {free : Nat}

theorem eraseForward_spec {remaining test : Nat} (left : test + remaining = original.length)
    (behind : hole < test)
    (closing : Closing (homeOf traits original.length) original nodes free hole
        (if test = original.length then 0 else test)) : ∃ erased ending,
      eraseForward traits (original.length - 1) remaining test hole nodes = (erased, ending) ∧
        (ending = none ∧ Closed (homeOf traits original.length) original erased ∨ ∃ lastHole,
            ending = some lastHole ∧
              Closing (homeOf traits original.length) original erased free lastHole 0 ∧
              free < test ∧ hole ≤ lastHole) := by
  induction remaining generalizing test hole nodes with
  | zero =>
    have freeBound := closing.freeBound
    rw [if_pos (show test = original.length from left)] at closing
    exact ⟨nodes, some hole, rfl, Or.inr ⟨hole, rfl, closing, by omega, Nat.le_refl _⟩⟩
  | succ remaining ih =>
    rw [if_neg (by omega)] at closing
    obtain ⟨slot, atTest⟩ : ∃ slot, nodes[test]? = some slot :=
      ⟨_, getElem?_eq_getElem closing.shifting.scanBound⟩
    cases slot with
    | none =>
      refine ⟨nodes, none, ?_, Or.inl ⟨rfl, closing.finish atTest⟩⟩
      simp only [eraseForward, atTest]
    | some entry =>
      have freeNe := ne_of_occupied closing.freeEmpty atTest
      have arcIff : (traits.calcBucket (original.length - 1) entry.1 ≤ hole ∨
              traits.calcBucket (original.length - 1) entry.1 > test) ↔
            InArc (homeOf traits original.length entry) hole test := by
        unfold InArc homeOf
        omega
      by_cases cutOff :
          traits.calcBucket (original.length - 1) entry.1 ≤ hole ∨
            traits.calcBucket (original.length - 1) entry.1 > test
      · obtain ⟨erased, ending, scanned, atEnd⟩ :=
          ih (by omega) (by omega) (closing.move atTest (arcIff.mp cutOff))
        refine ⟨erased, ending, ?_, atEnd.imp_right ?_⟩
        · simpa only [eraseForward, atTest, cutOff, ↓reduceIte, shiftNode_eq atTest] using scanned
        · rintro ⟨lastHole, isLast, opened, near, later⟩
          exact ⟨lastHole, isLast, opened, by omega, by omega⟩
      · obtain ⟨erased, ending, scanned, atEnd⟩ :=
          ih (by omega) (by omega) (closing.skip atTest (mt arcIff.mpr cutOff))
        refine ⟨erased, ending, ?_, atEnd.imp_right ?_⟩
        · simpa only [eraseForward, atTest, cutOff, ↓reduceIte] using scanned
        · rintro ⟨lastHole, isLast, opened, near, later⟩
          exact ⟨lastHole, isLast, opened, by omega, later⟩

variable {bucket : Nat}

theorem eraseWrapped_spec {count remaining : Nat} (emptyI : Nat) (isCount : original.length = count)
    (left : bucket + remaining = count)
    (isHole : hole = if emptyI < count then emptyI else emptyI - count)
    (position : free < emptyI ∧ emptyI < count ∨ count ≤ emptyI ∧ emptyI < bucket + count)
    (closing : Closing (homeOf traits count) original nodes free hole bucket)
    (ahead : bucket ≤ free) : ∃ erased,
      eraseWrapped traits (count - 1) count remaining (bucket + count) emptyI nodes = .ok erased ∧
        Closed (homeOf traits count) original erased := by
  induction remaining generalizing bucket emptyI hole nodes with
  | zero =>
    have freeBound := closing.freeBound
    omega
  | succ remaining ih =>
    have freeBound := closing.freeBound
    have testBucket : bucket + count - count = bucket := by omega
    obtain ⟨slot, atBucket⟩ : ∃ slot, nodes[bucket]? = some slot :=
      ⟨_, getElem?_eq_getElem closing.shifting.scanBound⟩
    cases slot with
    | none =>
      refine ⟨nodes, ?_, closing.finish atBucket⟩
      simp only [eraseWrapped, testBucket, atBucket]
    | some entry =>
      have freeNe := ne_of_occupied closing.freeEmpty atBucket
      have following : next original.length bucket = bucket + 1 := by
        have cases := next_cases original.length bucket
        omega
      have testNext : bucket + count + 1 = bucket + 1 + count := by omega
      -- the comparisons past the end of the array decide the same arc
      have arcIff : ((if traits.calcBucket (count - 1) entry.1 < emptyI then
                traits.calcBucket (count - 1) entry.1 + count
              else
                traits.calcBucket (count - 1) entry.1) ≤ emptyI ∨
              (if traits.calcBucket (count - 1) entry.1 < emptyI then
                traits.calcBucket (count - 1) entry.1 + count
              else
                traits.calcBucket (count - 1) entry.1) >
                bucket + count) ↔
            InArc (homeOf traits count entry) hole bucket := by
        have homeBound := (closing.shifting.cut atBucket).1
        have length := closing.length
        unfold homeOf at homeBound
        unfold InArc homeOf
        split at isHole <;> split <;> omega
      by_cases cutOff : InArc (homeOf traits count entry) hole bucket
      · obtain ⟨erased, scanned, closed⟩ :=
          ih (bucket + count) (by omega) (by split <;> omega) (by omega)
            (following ▸ closing.move atBucket cutOff) (by omega)
        refine ⟨erased, ?_, closed⟩
        simpa only [eraseWrapped, testBucket, atBucket, arcIff.mpr cutOff, ↓reduceIte, ← isHole,
          shiftNode_eq atBucket, testNext] using scanned
      · obtain ⟨erased, scanned, closed⟩ := ih emptyI (by omega) isHole (by omega)
            (following ▸ closing.skip atBucket cutOff) (by omega)
        refine ⟨erased, ?_, closed⟩
        simpa only [eraseWrapped, testBucket, atBucket,
          mt arcIff.mp cutOff, ↓reduceIte, testNext] using scanned

theorem closeGap_spec (chained : Chained (homeOf traits nodes.length) nodes)
    (bound : bucket < nodes.length) (freeEmpty : nodes[free]? = some none)
    (freeNe : free ≠ bucket) : ∃ closed,
      closeGap traits bucket (nodes.set bucket none) = .ok closed ∧
        Closed (homeOf traits nodes.length) (nodes.set bucket none) closed := by
  have length : (nodes.set bucket none).length = nodes.length := length_set
  have starts : Closing (homeOf traits (nodes.set bucket none).length) (nodes.set bucket none)
        (nodes.set bucket none) free bucket (next (nodes.set bucket none).length bucket) := by
    rw [length]
    exact ⟨rfl, List.Perm.refl _, Shifting.start chained bound,
      by rw [getElem?_set_ne freeNe.symm, freeEmpty], freeNe⟩
  obtain ⟨erased, ending, scanned, atEnd⟩ :=
    eraseForward_spec (show bucket + 1 + (nodes.length - (bucket + 1)) = _ by omega)
      (Nat.lt_succ_self bucket) starts
  rw [length] at scanned atEnd
  rcases atEnd with ⟨isNone, closed⟩ | ⟨lastHole, isLast, closing, near, later⟩
  · refine ⟨erased, ?_, closed⟩
    simp only [closeGap, length, scanned, isNone]
  · have holeBound : lastHole < erased.length :=
      (List.getElem?_eq_some_iff.mp closing.shifting.holeEmpty).1
    rw [closing.length, length] at holeBound
    obtain ⟨wrapped, done, closed⟩ :=
      eraseWrapped_spec lastHole length (Nat.zero_add _) (by rw [if_pos holeBound])
        (by have := closing.freeNe; omega) closing (Nat.zero_le _)
    rw [Nat.zero_add] at done
    refine ⟨wrapped, ?_, closed⟩
    simp only [closeGap, length, scanned, isLast, done]

variable [Inhabited Key]

theorem eraseNode_spec (wellFormed : table.WellFormed traits)
    (occupied : table.nodes[bucket]? = some (some entry)) : ∃ erased,
      table.eraseNode traits bucket = .ok erased ∧ erased.invalidateIterators.WellFormed traits ∧
        erased.nodes ≠ [] ∧ (entry :: erased.entries).Perm table.entries := by
  have bound : bucket < table.nodes.length := (List.getElem?_eq_some_iff.mp occupied).1
  have allocated := List.ne_nil_of_mem (List.mem_of_getElem? occupied)
  have nodesWellFormed := wellFormed.nodesWellFormed allocated
  have load := wellFormed.load allocated
  have large := wellFormed.eight_le allocated
  have room := wellFormed.room allocated
  obtain ⟨free, freeEmpty⟩ := exists_empty (Nat.lt_of_succ_lt room)
  obtain ⟨nodes, done, length, perm, chained⟩ :=
    closeGap_spec nodesWellFormed.chained bound freeEmpty (ne_of_occupied freeEmpty occupied)
  rw [length_set] at length
  have erasedPerm : (entry :: elements nodes).Perm table.entries :=
    (perm.cons entry).trans (elements_clear_perm occupied)
  have keysPerm := erasedPerm.map Prod.fst
  have used : table.usedNodeCount = (elements nodes).length + 1 := by
    rw [wellFormed.used, ← erasedPerm.length_eq, length_cons]
  have erasedAllocated : nodes ≠ [] := by
    intro unallocated
    rw [unallocated] at length
    simp at length
    omega
  refine ⟨{
      table with
      nodes := nodes
      usedNodeCount := table.usedNodeCount - 1 },
    ?_, ?_, erasedAllocated, erasedPerm⟩
  · simp only [eraseNode, done, ok_bind, pure_eq_ok]
  · refine ⟨fun _ => ⟨?_, ?_, ?_, ?_⟩, ?_, ?_, ?_, ?_⟩
    · simpa only [invalidateIterators, length] using nodesWellFormed.sized
    · simp only [invalidateIterators, length]
      exact chained
    · exact (nodup_cons.mp (keysPerm.nodup_iff.mpr nodesWellFormed.distinct)).2
    · intro stored member
      exact nodesWellFormed.keyed (erasedPerm.mem_iff.mp (mem_cons_of_mem _ member))
    · simp only [invalidateIterators, entries]
      omega
    · intro _
      simp only [invalidateIterators, bucketCountMask, length] at load ⊢
      omega
    · simpa only [invalidateIterators, bucketCount, length] using wellFormed.capacity
    · exact fun _ chosen => (chosen rfl).elim

theorem tryShrink_spec (wellFormed : table.invalidateIterators.WellFormed traits)
    (allocated : table.nodes ≠ []) : ∃ shrunk, table.tryShrink traits = .ok shrunk ∧
        shrunk.WellFormed traits ∧ shrunk.entries.Perm table.entries := by
  by_cases sparse :
      (table.usedNodeCount * 10) % 2 ^ 32 < table.bucketCountMask ∧ table.bucketCountMask > 7
  · have capacity := wellFormed.capacity
    have load := wellFormed.load allocated
    have bounded := maxBucketCount_le traits
    simp only [invalidateIterators, bucketCountMask, bucketCount] at sparse capacity load
    rw [Nat.mod_eq_of_lt (by omega)] at sparse
    have positive : 0 < (table.usedNodeCount + 1) * 5 / 3 + 1 := Nat.succ_pos _
    obtain ⟨sized, above, below⟩ := normalizeFlatHashTableSize_spec positive
    obtain ⟨shrunk, resized, shrunkWellFormed, _, perm, _, _⟩ :=
      resize_wellFormed wellFormed _ sized (by omega) (by
        simp only [invalidateIterators]
        omega)
    refine ⟨shrunk.invalidateIterators, ?_, ?_, perm⟩
    · have resizedTable :
          table.resize traits (normalizeFlatHashTableSize ((table.usedNodeCount + 1) * 5 / 3 + 1)) =
            .ok shrunk :=
        resized
      rw [tryShrink, if_pos (by
        rw [bucketCountMask, Nat.mod_eq_of_lt (by omega)]
        exact sparse), resizedTable, ok_bind]
      rfl
    · exact {
        shrunkWellFormed with
        begun := fun _ chosen => (chosen rfl).elim
      }
  · refine ⟨table.invalidateIterators, ?_, wellFormed, List.Perm.refl _⟩
    rw [tryShrink, if_neg sparse, pure_eq_ok, ok_bind]
    rfl

variable [DecidableEq Key] {key : Key}

section

variable (wellFormed : table.WellFormed traits)
include wellFormed

variable {value : Value}

theorem findImpl_present (stored : (key, value) ∈ table.entries) : ∃ bucket,
      table.findImpl traits key = .ok (some bucket) ∧
        table.nodes[bucket]? = some (some (key, value)) := by
  have allocated : table.nodes ≠ [] := by
    intro unallocated
    simp [entries, elements, unallocated] at stored
  have keyNonempty : key ≠ default := wellFormed.keyed stored
  have nodesWellFormed := wellFormed.nodesWellFormed allocated
  have room := wellFormed.room allocated
  obtain ⟨bucket, probed, found | notFound⟩ := probeKey_spec nodesWellFormed (by omega) key
  · obtain ⟨foundValue, atBucket⟩ := found
    have same := inj_on_of_nodup_map nodesWellFormed.distinct
        (mem_elements.mpr ⟨bucket, atBucket⟩) stored rfl
    rw [same] at atBucket
    refine ⟨bucket, ?_, atBucket⟩
    simp [findImpl, allocated, keyNonempty, probed, atBucket]
  · exact (notFound.2.1 value stored).elim

theorem findImpl_absent (absent : ∀ value, (key, value) ∉ table.entries) :
    table.findImpl traits key = .ok none := by
  by_cases trivially : table.nodes = [] ∨ key = default
  · rw [findImpl, if_pos trivially]
  · have allocated : table.nodes ≠ [] := fun unallocated => trivially (Or.inl unallocated)
    have room := wellFormed.room allocated
    obtain ⟨bucket, probed, found | notFound⟩ :=
      probeKey_spec (wellFormed.nodesWellFormed allocated) (by omega) key
    · obtain ⟨value, atBucket⟩ := found
      exact (absent value (mem_elements.mpr ⟨bucket, atBucket⟩)).elim
    · simp only [findImpl, if_neg trivially, probed, ok_bind, notFound.1, pure_eq_ok]

omit [DecidableEq Key] in
theorem erase_occupied {entry : Key × Value}
    (occupied : table.nodes[bucket]? = some (some entry)) : ∃ cleared shrunk,
      table.eraseNode traits bucket = .ok cleared ∧ cleared.tryShrink traits = .ok shrunk ∧
        shrunk.WellFormed traits ∧ (entry :: shrunk.entries).Perm table.entries := by
  obtain ⟨cleared, clearedDone, clearedWellFormed, allocated, perm⟩ :=
    eraseNode_spec wellFormed occupied
  obtain ⟨shrunk, shrunkDone, shrunkWellFormed, shrunkPerm⟩ :=
    tryShrink_spec clearedWellFormed allocated
  exact ⟨cleared, shrunk, clearedDone, shrunkDone, shrunkWellFormed, (shrunkPerm.cons _).trans perm⟩

theorem erase_present (stored : (key, value) ∈ table.entries) : ∃ erased,
      table.erase traits key = .ok (erased, 1) ∧ erased.WellFormed traits ∧
        ((key, value) :: erased.entries).Perm table.entries := by
  obtain ⟨bucket, found, occupied⟩ := findImpl_present wellFormed stored
  obtain ⟨cleared, shrunk, clearedDone, shrunkDone, shrunkWellFormed, perm⟩ :=
    erase_occupied wellFormed occupied
  refine ⟨shrunk, ?_, shrunkWellFormed, perm⟩
  simp only [erase, found, ok_bind, clearedDone, shrunkDone, pure_eq_ok]

end

end Autoproto.FlatHashTable
