import Autoproto.SharedTableEmplace

namespace Autoproto.SharedTable

open List FlatHashTable SharedMemory SharedMemory.Program LinearProbing

/-!
# Erasing alone

A program that erases a node, closes the gap and shrinks the table, and that
nothing interferes with, leaves a memory that holds what the table becomes.
-/

variable [Inhabited Key] [DecidableEq Key]

section Gap

variable {traits : TableTraits Key} {cells : TableCells Key Value} {mask : Nat}
  {nodes : List (Option (Key × Value))}

theorem le_of_sameArray (array first second : Nat) :
    NodePointer.le ⟨array, first⟩ ⟨array, second⟩ = decide (first ≤ second) := by
  simp [NodePointer.le]

omit [DecidableEq Key] in
theorem Shows.moved (shows : Shows cells mask nodes) {hole test : Nat} {entry : Key × Value}
    (atHole : nodes[hole]? = some none) (atTest : nodes[test]? = some (some entry)) : Shows
      { cells with
        heap := moved ⟨cells.nodes, hole⟩ ⟨cells.nodes, test⟩ entry cells.heap }
      mask ((nodes.set hole (some entry)).set test none) where
  mask_eq := shows.mask_eq
  stored := shows.stored.moved atHole atTest
  keyed := by
    refine Keyed.set (shows.keyed.set ?_ hole) ?_ test
    · intro other same
      cases same
      exact shows.keyed test entry atTest
    · intro other same
      cases same

theorem runAlone_eraseForward {remaining test hole patience : Nat} (shows : Shows cells mask nodes)
    (ends : test + remaining = nodes.length) (atHole : nodes[hole]? = some none)
    (enough : remaining < patience) {shifted : List (Option (Key × Value))} {ending : Option Nat}
    (scanned :
      FlatHashTable.eraseForward traits mask remaining test hole nodes = (shifted, ending)) :
    ∃ heap, (eraseForward traits ⟨cells.nodes, nodes.length⟩ patience
          ⟨cells.nodes, test⟩ ⟨cells.nodes, hole⟩).runAlone performTable cells =
          .ok ({ cells with heap := heap }, ending.map (NodePointer.mk cells.nodes)) ∧
        Shows { cells with heap := heap } mask shifted ∧
        shifted.length = nodes.length ∧
        ∀ last, ending = some last → shifted[last]? = some none := by
  induction remaining generalizing test hole patience cells nodes with
  | zero =>
    obtain ⟨patience, rfl⟩ := Nat.exists_eq_add_of_lt enough
    cases scanned
    refine ⟨cells.heap, ?_, shows, rfl, ?_⟩
    · rw [eraseForward, if_pos (by rw [← ends, Nat.add_zero])]
      rfl
    · intro last isLast
      cases isLast
      exact atHole
  | succ remaining ih =>
    obtain ⟨patience, rfl⟩ := Nat.exists_eq_add_of_lt enough
    have bound : test < nodes.length := by omega
    have notEnding : (⟨cells.nodes, test⟩ : NodePointer) ≠ ⟨cells.nodes, nodes.length⟩ := by
      intro same
      exact Nat.ne_of_lt bound (congrArg NodePointer.bucket same)
    rw [FlatHashTable.eraseForward] at scanned
    rw [eraseForward, if_neg notEnding]
    cases node : nodes[test] with
    | none =>
      have atTest : nodes[test]? = some none := by rw [getElem?_eq_getElem bound, node]
      rw [atTest] at scanned
      cases scanned
      rw [runAlone_bind_ok (shows.runAlone_isEmpty atTest)]
      refine ⟨cells.heap, rfl, shows, rfl, ?_⟩
      intro last isLast
      cases isLast
    | some entry =>
      have atTest : nodes[test]? = some (some entry) := by rw [getElem?_eq_getElem bound, node]
      simp only [atTest] at scanned
      have found := shows.stored.heap_eq atTest
      have comparison :
          (NodePointer.le ⟨cells.nodes, traits.calcBucket mask entry.1⟩ ⟨cells.nodes, hole⟩ = true ∨
              NodePointer.le
                ⟨cells.nodes, traits.calcBucket mask entry.1⟩
                ⟨cells.nodes, test⟩ = false) ↔
            (traits.calcBucket mask entry.1 ≤ hole ∨ traits.calcBucket mask entry.1 > test) := by
        rw [le_of_sameArray, le_of_sameArray, decide_eq_true_iff,
          decide_eq_false_iff_not, Nat.not_le]
      have later : remaining < remaining + 1 + patience := by omega
      rw [runAlone_bind_ok (shows.runAlone_isEmpty atTest),
        Option.isNone_some, if_neg Bool.false_ne_true,
        runAlone_bind_ok runAlone_readNodes,
        runAlone_bind_ok (shows.runAlone_readKey atTest),
        runAlone_bind_ok (runAlone_calcBucket shows.mask_eq traits entry.1)]
      by_cases shifts :
          traits.calcBucket mask entry.1 ≤ hole ∨ traits.calcBucket mask entry.1 > test
      · rw [if_pos shifts, shiftNode_eq atTest] at scanned
        have testBound : test < (nodes.set hole (some entry)).length := by
          rw [length_set]
          exact bound
        obtain ⟨heap, runs, shiftedShows, length, atLast⟩ :=
          ih (shows.moved atHole atTest)
            (by simp only [length_set]; omega)
            (getElem?_set_self testBound) later scanned
        simp only [length_set] at runs length
        refine ⟨heap, ?_, shiftedShows, length, atLast⟩
        rw [if_pos (comparison.mpr shifts)]
        refine (runAlone_bind_ok (runAlone_moveNode (shows.stored.heap_eq atHole) found)).trans ?_
        exact runs
      · rw [if_neg shifts] at scanned
        obtain ⟨heap, runs, shiftedShows, length, atLast⟩ :=
          ih shows (by omega) atHole later scanned
        refine ⟨heap, ?_, shiftedShows, length, atLast⟩
        rw [if_neg (mt comparison.mp shifts)]
        exact runs

theorem runAlone_eraseWrapped {count remaining bucket emptyI emptyBucket patience : Nat}
    (shows : Shows cells mask nodes) (isCount : cells.member .bucketCount = count)
    (small : count ≤ 2 ^ 29) (length : nodes.length = count) (left : bucket + remaining = count)
    (isEmpty : emptyBucket = if emptyI < count then emptyI else emptyI - count)
    (atEmpty : nodes[emptyBucket]? = some none) (enough : remaining ≤ patience)
    {closed : List (Option (Key × Value))}
    (scanned : FlatHashTable.eraseWrapped traits mask count remaining
        (bucket + count) emptyI nodes = .ok closed) : ∃ heap,
      (eraseWrapped traits count patience (bucket + count) emptyI
          emptyBucket).runAlone performTable cells = .ok ({ cells with heap := heap }, ()) ∧
        Shows { cells with heap := heap } mask closed ∧
        closed.length = nodes.length := by
  induction remaining generalizing bucket emptyI emptyBucket patience cells nodes with
  | zero => cases scanned
  | succ remaining ih =>
    obtain ⟨patience, rfl⟩ := Nat.exists_eq_add_of_lt enough
    have bound : bucket < nodes.length := by omega
    have testBucket : (bucket + count + 2 ^ 32 - cells.member .bucketCount) % 2 ^ 32 = bucket := by
      omega
    have tested : bucket + count - count = bucket := Nat.add_sub_cancel bucket count
    rw [FlatHashTable.eraseWrapped, tested] at scanned
    rw [eraseWrapped, runAlone_bind_ok (runAlone_readMember _), testBucket,
      runAlone_bind_ok runAlone_readNodes]
    cases node : nodes[bucket] with
    | none =>
      have atBucket : nodes[bucket]? = some none := by rw [getElem?_eq_getElem bound, node]
      rw [atBucket] at scanned
      cases scanned
      rw [runAlone_bind_ok (shows.runAlone_isEmpty atBucket)]
      exact ⟨cells.heap, rfl, shows, rfl⟩
    | some entry =>
      have atBucket : nodes[bucket]? = some (some entry) := by
        rw [getElem?_eq_getElem bound, node]
      simp only [atBucket] at scanned
      have following : bucket + count + 1 = bucket + 1 + count := Nat.add_right_comm bucket count 1
      have later : remaining ≤ remaining + patience := Nat.le_add_right remaining patience
      rw [runAlone_bind_ok (shows.runAlone_isEmpty atBucket),
        Option.isNone_some, if_neg Bool.false_ne_true,
        runAlone_bind_ok runAlone_readNodes,
        runAlone_bind_ok (shows.runAlone_readKey atBucket),
        runAlone_bind_ok (runAlone_calcBucket shows.mask_eq traits entry.1)]
      generalize (if traits.calcBucket mask entry.1 < emptyI then
        traits.calcBucket mask entry.1 + count
      else
        traits.calcBucket mask entry.1) = want at scanned ⊢
      by_cases shifts : want ≤ emptyI ∨ want > bucket + count
      · rw [if_pos shifts, ← isEmpty, shiftNode_eq atBucket, following] at scanned
        have bucketBound : bucket < (nodes.set emptyBucket (some entry)).length := by
          rw [length_set]
          exact bound
        obtain ⟨heap, runs, closedShows, closedLength⟩ :=
          ih (shows.moved atEmpty atBucket) isCount
            (by simp only [length_set]; exact length) (by omega)
            (by rw [if_neg (by omega), tested])
            (getElem?_set_self bucketBound) later scanned
        simp only [length_set] at closedLength
        refine ⟨heap, ?_, closedShows, closedLength⟩
        rw [if_pos shifts, runAlone_bind_ok runAlone_readNodes,
          runAlone_bind_ok runAlone_readNodes, following]
        refine (runAlone_bind_ok (runAlone_moveNode (shows.stored.heap_eq atEmpty)
          (shows.stored.heap_eq atBucket))).trans ?_
        exact runs
      · rw [if_neg shifts, following] at scanned
        obtain ⟨heap, runs, closedShows, closedLength⟩ :=
          ih shows isCount length (by omega) isEmpty atEmpty later scanned
        refine ⟨heap, ?_, closedShows, closedLength⟩
        rw [if_neg shifts, following]
        exact runs

end Gap

section Erasing

variable {traits : TableTraits Key} {cells : TableCells Key Value} {table : FlatHashTable Key Value}
  {patience : Nat} {entry : Key × Value}

omit [DecidableEq Key] in
theorem runAlone_clearNode {pointer : NodePointer}
    (found : cells.heap pointer = some (nodeOf (some entry))) :
    (clearNode pointer).runAlone performTable cells =
      .ok (cells.setNode pointer (nodeOf none), ()) := by
  let unkeyed := cells.setNode pointer ⟨default, some entry.2⟩
  have unkeyedNode : unkeyed.heap pointer = some ⟨default, some entry.2⟩ := Function.update_self ..
  have heapEq : (unkeyed.setNode pointer (nodeOf none)).heap =
        Function.update cells.heap pointer (some (nodeOf none)) :=
    Function.update_idem ..
  refine (runAlone_bind_ok (runAlone_writeKey found default)).trans ?_
  refine (runAlone_destroyValue unkeyedNode rfl).trans ?_
  change Except.ok ({ cells with heap := (unkeyed.setNode pointer (nodeOf none)).heap }, ()) = _
  rw [heapEq]
  rfl

omit [DecidableEq Key] in
theorem runAlone_bucketOf (bucket : Nat) :
    (bucketOf ⟨cells.nodes, bucket⟩).runAlone performTable cells = .ok (cells, bucket) := by
  rw [bucketOf, runAlone_bind_ok runAlone_readNodes, if_pos rfl]
  rfl

variable {bucket : Nat}

omit [DecidableEq Key] in
theorem decrement_usedNodeCount (wellFormed : table.WellFormed traits)
    (occupied : table.nodes[bucket]? = some (some entry)) :
    (table.usedNodeCount + (2 ^ 32 - 1)) % 2 ^ 32 = table.usedNodeCount - 1 := by
  have stored : entry ∈ table.entries := mem_elements.mpr ⟨bucket, occupied⟩
  have positive := length_pos_of_mem stored
  have bounded := usedNodeCount_le wellFormed
  rw [← wellFormed.used] at positive
  omega

theorem runAlone_closeGap {nodes closed : List (Option (Key × Value))}
    (shows : Shows cells (nodes.length - 1) nodes)
    (isCount : cells.member .bucketCount = nodes.length) (small : nodes.length ≤ 2 ^ 29)
    (enough : nodes.length ≤ patience) (atHole : nodes[bucket]? = some none)
    (done : FlatHashTable.closeGap traits bucket nodes = .ok closed) : ∃ heap,
      (closeGap traits patience ⟨cells.nodes, bucket⟩).runAlone
          performTable cells = .ok ({ cells with heap := heap }, ()) ∧
        Shows { cells with heap := heap } (nodes.length - 1) closed ∧
        closed.length = nodes.length := by
  have bound := (List.getElem?_eq_some_iff.mp atHole).1
  rw [FlatHashTable.closeGap] at done
  rcases scanned : FlatHashTable.eraseForward traits (nodes.length - 1)
        (nodes.length - (bucket + 1)) (bucket + 1) bucket nodes with
    ⟨shifted, ending⟩
  have patient : nodes.length - (bucket + 1) < patience := by omega
  obtain ⟨heap, runs, shiftedShows, length, atLast⟩ :=
    runAlone_eraseForward shows (by omega) atHole patient scanned
  rw [scanned] at done
  rw [closeGap, runAlone_bind_ok (runAlone_readMember _), isCount,
    runAlone_bind_ok runAlone_readNodes, NodePointer.next,
    runAlone_bind_ok runs]
  cases ending with
  | none =>
    cases done
    exact ⟨heap, rfl, shiftedShows, length⟩
  | some last =>
    have lastEmpty := atLast last rfl
    have lastBound := (List.getElem?_eq_some_iff.mp lastEmpty).1
    have wrapped : FlatHashTable.eraseWrapped traits (nodes.length - 1) nodes.length
          nodes.length (0 + nodes.length) last shifted = .ok closed := by
      rw [Nat.zero_add]
      exact done
    obtain ⟨closedHeap, closedRuns, closedShows, closedLength⟩ :=
      runAlone_eraseWrapped shiftedShows isCount small length
        (Nat.zero_add nodes.length) (by rw [if_pos (by omega)]) lastEmpty
        enough wrapped
    rw [Nat.zero_add] at closedRuns
    exact ⟨closedHeap, (runAlone_bind_ok (runAlone_bucketOf last)).trans closedRuns,
      closedShows, closedLength.trans length⟩

variable {erased : FlatHashTable Key Value}

theorem runAlone_eraseNode (holds : Holds cells table) (wellFormed : table.WellFormed traits)
    (enough : traits.maxBucketCount ≤ patience)
    (occupied : table.nodes[bucket]? = some (some entry))
    (done : table.eraseNode traits bucket = .ok erased) : ∃ reached,
      (eraseNode traits patience ⟨cells.nodes, bucket⟩).runAlone
          performTable cells = .ok (reached, ()) ∧ Holds reached erased := by
  have bound := (List.getElem?_eq_some_iff.mp occupied).1
  have capacity : table.nodes.length ≤ traits.maxBucketCount := wellFormed.capacity
  have small := capacity.trans (maxBucketCount_le traits)
  obtain ⟨closed, closedDone, isErased⟩ := bind_eq_ok done
  cases isErased
  let counted :=
    (cells.setNode ⟨cells.nodes, bucket⟩ (nodeOf none)).setMember
      .usedNodeCount (table.usedNodeCount - 1)
  have length : (table.nodes.set bucket none).length = table.nodes.length := length_set
  have shows :
      Shows counted ((table.nodes.set bucket none).length - 1) (table.nodes.set bucket none) := by
    refine ⟨holds.mask.trans (by rw [length]; rfl),
      holds.stored.set bound none, holds.keyed.set ?_ bucket⟩
    intro other same
    cases same
  have patient : (table.nodes.set bucket none).length ≤ patience := by
    rw [length]
    exact capacity.trans enough
  obtain ⟨heap, runs, closedShows, closedLength⟩ :=
    runAlone_closeGap shows (holds.count.trans length.symm)
      (by rw [length]; exact small) patient
      (getElem?_set_self bound) closedDone
  rw [length] at closedLength
  refine ⟨{ counted with heap := heap }, ?_, ?_⟩
  · refine (runAlone_bind_ok (runAlone_clearNode (holds.stored.heap_eq occupied))).trans ?_
    refine (runAlone_bind_ok (runAlone_readMember _)).trans ?_
    change ((writeMember .usedNodeCount
      ((cells.member .usedNodeCount + (2 ^ 32 - 1)) % 2 ^ 32)) >>= _).runAlone _ _ = _
    rw [holds.used, decrement_usedNodeCount wellFormed occupied]
    exact (runAlone_bind_ok (runAlone_writeMember _ _)).trans runs
  · refine ⟨rfl, holds.mask.trans ?_, holds.count.trans closedLength.symm,
      holds.begun, holds.null.trans ?_, closedShows.stored,
      closedShows.keyed, holds.older⟩
    · exact congrArg (· - 1) closedLength.symm
    · rw [← length_eq_zero_iff, ← length_eq_zero_iff, closedLength]

omit [DecidableEq Key] in
theorem runAlone_isSparse (holds : Holds cells table) : isSparse.runAlone performTable cells =
      .ok (cells, decide ((table.usedNodeCount * 10) % 2 ^ 32 < table.bucketCountMask ∧
            table.bucketCountMask > 7)) := by
  rw [isSparse, runAlone_bind_ok (runAlone_readMember _),
    runAlone_bind_ok (runAlone_readMember _), holds.used, holds.mask]
  by_cases few : (table.usedNodeCount * 10) % 2 ^ 32 < table.bucketCountMask
  · rw [if_pos few, runAlone_bind_ok (runAlone_readMember _), holds.mask]
    simp only [few, true_and]
    rfl
  · simp only [few, false_and]
    rfl

omit [DecidableEq Key] in
theorem runAlone_invalidateIterators (holds : Holds cells table) : ∃ reached,
      invalidateIterators.runAlone performTable cells = .ok (reached, ()) ∧
        Holds reached table.invalidateIterators :=
  ⟨_, rfl, { holds with begun := rfl }⟩

theorem runAlone_tryShrink (holds : Holds cells table) (few : table.usedNodeCount ≤ 2 ^ 29)
    (enough : traits.maxBucketCount ≤ patience) {shrunk : FlatHashTable Key Value}
    (done : table.tryShrink traits = .ok shrunk) : ∃ reached,
      (tryShrink traits patience).runAlone performTable cells = .ok (reached, ()) ∧
        Holds reached shrunk := by
  rw [FlatHashTable.tryShrink] at done
  rw [tryShrink, runAlone_bind_ok (runAlone_isSparse holds)]
  by_cases sparse :
      (table.usedNodeCount * 10) % 2 ^ 32 < table.bucketCountMask ∧ table.bucketCountMask > 7
  · rw [if_pos sparse] at done
    obtain ⟨smaller, resized, isShrunk⟩ := bind_eq_ok done
    cases isShrunk
    have noWrap : ((table.usedNodeCount + 1) * 5 % 2 ^ 32) / 3 + 1 =
          (table.usedNodeCount + 1) * 5 / 3 + 1 := by
      rw [Nat.mod_eq_of_lt (by omega)]
    have positive : 0 < normalizeFlatHashTableSize ((table.usedNodeCount + 1) * 5 / 3 + 1) :=
      Nat.lt_of_lt_of_le (by decide) (Nat.le_max_right _ 8)
    obtain ⟨resizedCells, runs, resizedHolds⟩ := runAlone_resize holds positive enough resized
    obtain ⟨reached, forgotten, reachedHolds⟩ := runAlone_invalidateIterators resizedHolds
    refine ⟨reached, ?_, reachedHolds⟩
    rw [if_pos (decide_eq_true sparse),
      runAlone_bind_ok (runAlone_readMember _), holds.used, noWrap,
      runAlone_bind_ok runs]
    exact forgotten
  · rw [if_neg sparse] at done
    cases done
    rw [if_neg (by rw [decide_eq_true_iff]; exact sparse)]
    exact runAlone_invalidateIterators holds

variable {key : Key}

theorem occupied_of_findImpl (searched : table.findImpl traits key = .ok (some bucket)) :
    ∃ entry, table.nodes[bucket]? = some (some entry) := by
  rw [FlatHashTable.findImpl] at searched
  split at searched
  · cases searched
  · obtain ⟨found, _, atFound⟩ := bind_eq_ok searched
    split at atFound
    · rename_i entry stored
      cases atFound
      exact ⟨entry, stored⟩
    · cases atFound

theorem runAlone_erase (holds : Holds cells table) (wellFormed : table.WellFormed traits)
    (enough : traits.maxBucketCount ≤ patience) {erasedCount : Nat}
    (done : table.erase traits key = .ok (erased, erasedCount)) : ∃ reached,
      (erase traits patience key).runAlone performTable cells = .ok (reached, erasedCount) ∧
        Holds reached erased := by
  obtain ⟨found, searched, rest⟩ := bind_eq_ok done
  rw [erase, runAlone_bind_ok (runAlone_findImpl holds (wellFormed.capacity.trans enough) searched)]
  cases found with
  | none =>
    cases rest
    exact ⟨cells, rfl, holds⟩
  | some bucket =>
    obtain ⟨entry, occupied⟩ := occupied_of_findImpl searched
    obtain ⟨cleared, clearedDone, rest⟩ := bind_eq_ok rest
    obtain ⟨shrunk, shrunkDone, isErased⟩ := bind_eq_ok rest
    cases isErased
    have few : cleared.usedNodeCount ≤ 2 ^ 29 := by
      obtain ⟨_, _, isCleared⟩ := bind_eq_ok clearedDone
      cases isCleared
      exact (Nat.sub_le _ 1).trans (usedNodeCount_le wellFormed)
    obtain ⟨clearedCells, clearedRuns, clearedHolds⟩ :=
      runAlone_eraseNode holds wellFormed enough occupied clearedDone
    obtain ⟨reached, runs, reachedHolds⟩ := runAlone_tryShrink clearedHolds few enough shrunkDone
    refine ⟨reached, ?_, reachedHolds⟩
    refine (runAlone_bind_ok clearedRuns).trans ?_
    exact runAlone_bind_ok runs

end Erasing

end Autoproto.SharedTable
