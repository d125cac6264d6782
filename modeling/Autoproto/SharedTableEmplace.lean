import Autoproto.SharedTableHolds

namespace Autoproto.SharedTable

open List FlatHashTable Function SharedMemory SharedMemory.Program LinearProbing
open FlatHashTable (nextBucket rehash)

/-!
# Inserting alone

A program that moves nodes, grows the table or inserts a node and that nothing
interferes with leaves a memory that holds what the table becomes.
-/

variable [Inhabited Key]

section Moving

variable {cells : TableCells Key Value}

def moved (target source : NodePointer) (entry : Key × Value)
    (heap : NodePointer → Option (MapNode Key Value)) :
    NodePointer → Option (MapNode Key Value) :=
  Function.update
    (Function.update heap target (some (nodeOf (some entry))))
    source (some (nodeOf none))

variable {entry : Key × Value}

theorem isSome_moved {target source pointer : NodePointer}
    {heap : NodePointer → Option (MapNode Key Value)} (allocated : (heap pointer).isSome) :
    (moved target source entry heap pointer).isSome := by
  rw [moved, update_apply, update_apply]
  split
  · rfl
  · split
    · rfl
    · exact allocated

/-- A node is moved to an empty one. -/
theorem runAlone_moveNode {target source : NodePointer}
    (atTarget : cells.heap target = some (nodeOf none))
    (atSource : cells.heap source = some (nodeOf (some entry))) :
    (moveNode target source).runAlone performTable cells =
      .ok ({ cells with heap := moved target source entry cells.heap }, ()) := by
  have different : target ≠ source := by
    rintro rfl
    rw [atTarget] at atSource
    have values := congrArg MapNode.second (Option.some.inj atSource)
    cases values
  let keyed := cells.setNode target ⟨entry.1, none⟩
  have keyedSource : keyed.heap source = some (nodeOf (some entry)) := by
    rw [← atSource]
    exact update_of_ne different.symm ..
  let cleared := keyed.setNode source ⟨default, some entry.2⟩
  have clearedSource : cleared.heap source = some ⟨default, some entry.2⟩ := update_self ..
  have clearedTarget : cleared.heap target = some ⟨entry.1, none⟩ := by
    refine (update_of_ne different ..).trans ?_
    exact update_self ..
  let filled := cleared.setNode target ⟨entry.1, some entry.2⟩
  have filledSource : filled.heap source = some ⟨default, some entry.2⟩ := by
    rw [← clearedSource]
    exact update_of_ne different.symm ..
  have lastHeap : update filled.heap source (some ⟨default, none⟩) =
        moved target source entry cells.heap := by
    change update
      (update (update (update cells.heap target _) source _) target _)
      source _ = _
    rw [update_comm different, update_idem, update_comm different.symm, update_idem]
    rfl
  rw [← lastHeap]
  refine (runAlone_bind_ok (runAlone_readKey atSource)).trans ?_
  refine (runAlone_bind_ok (runAlone_writeKey atTarget _)).trans ?_
  refine (runAlone_bind_ok (runAlone_writeKey keyedSource _)).trans ?_
  refine (runAlone_bind_ok (runAlone_readValue clearedSource rfl)).trans ?_
  refine (runAlone_bind_ok (runAlone_constructValue clearedTarget _)).trans ?_
  exact runAlone_destroyValue filledSource rfl

variable {array : Nat} {nodes : List (Option (Key × Value))}

theorem Stores.moved (stored : Stores cells.heap array nodes) {hole test : Nat}
    (atHole : nodes[hole]? = some none) (atTest : nodes[test]? = some (some entry)) :
    Stores (moved ⟨array, hole⟩ ⟨array, test⟩ entry cells.heap) array
      ((nodes.set hole (some entry)).set test none) := by
  have holeBound := (List.getElem?_eq_some_iff.mp atHole).1
  have testBound := (List.getElem?_eq_some_iff.mp atTest).1
  exact (stored.set holeBound (some entry)).set (by rw [List.length_set]; exact testBound) none

end Moving

variable [DecidableEq Key]

section Resizing

variable {traits : TableTraits Key} {cells : TableCells Key Value} {mask patience : Nat}

theorem runAlone_probeEmpty {nodes : List (Option (Key × Value))} (shows : Shows cells mask nodes)
    {fuel start found : Nat}
    (walked : probeFrom (nextBucket mask) Option.isNone nodes fuel start = some found)
    (enough : fuel ≤ patience) :
    (probeEmpty patience start).runAlone performTable cells = .ok (cells, found) := by
  induction fuel generalizing patience start with
  | zero => cases walked
  | succ fuel ih =>
    obtain ⟨patience, rfl⟩ := Nat.exists_eq_add_of_lt enough
    rw [probeFrom] at walked
    cases atStart : nodes[start]? with
    | none =>
      rw [atStart] at walked
      cases walked
    | some node =>
      rw [atStart] at walked
      rw [probeEmpty, runAlone_bind_ok runAlone_readNodes,
        runAlone_bind_ok (shows.runAlone_isEmpty atStart)]
      cases node with
      | none =>
        cases walked
        rfl
      | some entry =>
        exact (runAlone_bind_ok (runAlone_followingBucket shows.mask_eq)).trans
          (ih walked (Nat.le_add_right fuel patience))

variable {filled : List (Option (Key × Value))}

omit [Inhabited Key] [DecidableEq Key] in
theorem length_rehash {old slots : List (Option (Key × Value))}
    (rehashed : rehash traits mask old slots = .ok filled) : filled.length = slots.length := by
  induction old generalizing slots with
  | nil =>
    cases rehashed
    rfl
  | cons node old ih =>
    cases node with
    | none => exact ih rehashed
    | some entry =>
      rw [rehash] at rehashed
      split at rehashed
      · cases rehashed
      · rw [ih rehashed, length_set]

theorem runAlone_moveNodes {oldNodes : Nat} {old slots : List (Option (Key × Value))}
    (rehashed : rehash traits mask old slots = .ok filled) {index : Nat}
    (shows : Shows cells mask slots) (different : oldNodes ≠ cells.nodes)
    (oldStored : ∀ offset, cells.heap ⟨oldNodes, index + offset⟩ = old[offset]?.map nodeOf)
    (oldKeyed : Keyed old) (enough : slots.length ≤ patience) : ∃ heap,
      (moveNodes traits patience oldNodes old.length index).runAlone
          performTable cells = .ok ({ cells with heap := heap }, ()) ∧
        Stores heap cells.nodes filled ∧
        Keyed filled ∧
        ∀ pointer, (cells.heap pointer).isSome → (heap pointer).isSome := by
  induction old generalizing slots index cells with
  | nil =>
    cases rehashed
    exact ⟨cells.heap, rfl, shows.stored, shows.keyed, fun _ => id⟩
  | cons node old ih =>
    have restStored :
        ∀ offset, cells.heap ⟨oldNodes, index + 1 + offset⟩ = old[offset]?.map nodeOf := by
      intro offset
      have later := oldStored (offset + 1)
      rwa [getElem?_cons_succ, ← Nat.add_assoc, Nat.add_right_comm] at later
    have restKeyed : Keyed old := by
      intro bucket entry found
      exact oldKeyed (bucket + 1) entry found
    have here : cells.heap ⟨oldNodes, index⟩ = some (nodeOf node) := oldStored 0
    have hereKeyed : ∀ entry, node = some entry → entry.1 ≠ default := by
      rintro entry rfl
      exact oldKeyed 0 entry rfl
    rw [length_cons, moveNodes, runAlone_bind_ok (runAlone_isEmpty here hereKeyed)]
    cases node with
    | none => exact ih rehashed shows different restStored restKeyed enough
    | some entry =>
      rw [rehash] at rehashed
      split at rehashed
      · cases rehashed
      rename_i bucket walked
      obtain ⟨slot, atBucket, isEmpty⟩ := probeFrom_stops walked
      have free : slots[bucket]? = some none := by
        rw [atBucket, Option.isNone_iff_eq_none.mp isEmpty]
      have bound := (List.getElem?_eq_some_iff.mp free).1
      let target : NodePointer := ⟨cells.nodes, bucket⟩
      let source : NodePointer := ⟨oldNodes, index⟩
      let next : TableCells Key Value :=
        { cells with heap := moved target source entry cells.heap }
      have nextShows : Shows next mask (slots.set bucket (some entry)) :=
        ⟨shows.mask_eq, (shows.stored.set bound (some entry)).set_other different _,
          shows.keyed.set hereKeyed bucket⟩
      have nextStored :
          ∀ offset, next.heap ⟨oldNodes, index + 1 + offset⟩ = old[offset]?.map nodeOf := by
        intro offset
        rw [← restStored offset]
        refine (update_of_ne ?_ ..).trans (update_of_ne ?_ ..)
        · intro same
          have sameBucket := congrArg NodePointer.bucket same
          simp only [source] at sameBucket
          omega
        · intro same
          exact different (congrArg NodePointer.array same)
      obtain ⟨heap, runs, filledStored, filledKeyed, stillThere⟩ :=
        ih rehashed nextShows different
          nextStored restKeyed (by rwa [length_set])
      refine ⟨heap, ?_, filledStored, filledKeyed, ?_⟩
      · refine (runAlone_bind_ok (runAlone_readKey here)).trans ?_
        refine (runAlone_bind_ok (runAlone_calcBucket shows.mask_eq traits _)).trans ?_
        refine (runAlone_bind_ok (runAlone_probeEmpty shows walked enough)).trans ?_
        refine (runAlone_bind_ok runAlone_readNodes).trans ?_
        refine (runAlone_bind_ok (runAlone_moveNode (shows.stored.heap_eq free) here)).trans ?_
        exact runs
      · intro pointer allocated
        exact stillThere pointer (isSome_moved allocated)

/-- The new array of a table, before the nodes are moved to it. -/
def allocatedCells (size : Nat) (cells : TableCells Key Value) : TableCells Key Value :=
  (({ cells.allocate size with nodes := cells.nextArray }.setMember
    .bucketCountMask (size - 1)).setMember .bucketCount size).setMember
    .beginBucket FlatHashTable.invalidBucket

omit [DecidableEq Key] in
theorem runAlone_allocateNodes {size : Nat} (small : size ≤ traits.maxBucketCount) :
    (allocateNodes traits size).runAlone performTable cells =
      .ok (allocatedCells size cells, ()) := by
  rw [allocateNodes, runAlone_bind_ok (runAlone_require small)]
  rfl

omit [DecidableEq Key] in
/-- A new array has empty nodes. -/
theorem stores_allocatedCells (size : Nat) : Stores (allocatedCells size cells).heap cells.nextArray
      (List.replicate size (none : Option (Key × Value))) := by
  intro bucket
  rw [getElem?_replicate]
  refine (if_pos rfl).trans ?_
  by_cases bound : bucket < size
  · rw [if_pos bound, if_pos bound]
    rfl
  · rw [if_neg bound, if_neg bound]
    rfl

omit [DecidableEq Key] in
/-- Empty nodes have no keys. -/
theorem keyed_replicate (size : Nat) :
    Keyed (List.replicate size (none : Option (Key × Value))) := by
  intro bucket entry found
  rw [getElem?_replicate] at found
  split at found
  · cases found
  · cases found

omit [DecidableEq Key] in
theorem holds_filled {heap : NodePointer → Option (MapNode Key Value)} {size : Nat}
    (older : cells.nodes < cells.nextArray) (positive : 0 < size) (length : filled.length = size)
    (stored : Stores heap cells.nextArray filled) (keyed : Keyed filled) (used : Nat) : Holds
      { (allocatedCells size cells).setMember .usedNodeCount used with
        heap := heap }
      ⟨filled, used, FlatHashTable.invalidBucket⟩ where
  used := rfl
  mask := congrArg (· - 1) length.symm
  count := length.symm
  begun := rfl
  null := by
    constructor
    · intro isNull
      exact absurd isNull (Nat.ne_of_gt (Nat.zero_lt_of_lt older))
    · intro empty
      rw [show filled = [] from empty] at length
      exact absurd length (Nat.ne_of_lt positive)
  stored := stored
  keyed := keyed
  older := Nat.lt_succ_self _

theorem runAlone_resize {table resized : FlatHashTable Key Value} (holds : Holds cells table)
    {newSize : Nat} (positive : 0 < newSize) (enough : traits.maxBucketCount ≤ patience)
    (done : table.resize traits newSize = .ok resized) : ∃ reached,
      (resize traits patience newSize).runAlone performTable cells = .ok (reached, ()) ∧
        Holds reached resized := by
  obtain ⟨_, checked, rest⟩ := bind_eq_ok done
  have small := holds_of_check checked
  obtain ⟨filled, rehashed, isResized⟩ := bind_eq_ok rest
  cases isResized
  have length : filled.length = newSize := by rw [length_rehash rehashed, length_replicate]
  have stored : Stores (allocatedCells newSize cells).heap cells.nextArray
        (replicate newSize (none : Option (Key × Value))) :=
    stores_allocatedCells newSize
  rw [resize, runAlone_bind_ok runAlone_readNodes]
  by_cases unallocated : table.nodes = []
  · rw [if_pos (holds.null.mpr unallocated),
      runAlone_bind_ok (runAlone_allocateNodes small), if_pos unallocated]
    rw [unallocated] at rehashed
    cases rehashed
    exact ⟨_, runAlone_writeMember .usedNodeCount 0,
      holds_filled holds.older positive length stored (keyed_replicate newSize) 0⟩
  · rw [if_neg (fun isNull => unallocated (holds.null.mp isNull)), if_neg unallocated]
    have different : cells.nodes ≠ cells.nextArray := Nat.ne_of_lt holds.older
    let begun :=
      (allocatedCells newSize cells).setMember .usedNodeCount (cells.member .usedNodeCount)
    have shows : Shows begun (newSize - 1) (replicate newSize (none : Option (Key × Value))) :=
      ⟨rfl, stored, keyed_replicate newSize⟩
    have oldStored :
        ∀ offset, begun.heap ⟨cells.nodes, 0 + offset⟩ = table.nodes[offset]?.map nodeOf := by
      intro offset
      rw [Nat.zero_add]
      exact (if_neg different).trans (holds.stored offset)
    have fits : (replicate newSize (none : Option (Key × Value))).length ≤ patience := by
      rw [length_replicate]
      exact small.trans enough
    obtain ⟨heap, runs, filledStored, filledKeyed, stillThere⟩ :=
      runAlone_moveNodes rehashed shows different oldStored holds.keyed fits
    have firstAllocated : (begun.heap ⟨cells.nodes, 0⟩).isSome := by
      have nodesPositive := length_pos_of_ne_nil unallocated
      have atFirst := oldStored 0
      rw [Nat.zero_add, getElem?_eq_getElem nodesPositive] at atFirst
      rw [atFirst]
      rfl
    obtain ⟨node, atFirst⟩ := Option.isSome_iff_exists.mp (stillThere _ firstAllocated)
    let filledCells : TableCells Key Value := { begun with heap := heap }
    refine ⟨filledCells.deallocate cells.nodes, ?_, ?_⟩
    · refine (runAlone_bind_ok runAlone_readNodes).trans ?_
      refine (runAlone_bind_ok (runAlone_readMember _)).trans ?_
      refine (runAlone_bind_ok (runAlone_readMember _)).trans ?_
      refine (runAlone_bind_ok (runAlone_allocateNodes small)).trans ?_
      refine (runAlone_bind_ok (runAlone_writeMember _ _)).trans ?_
      rw [holds.count]
      refine (runAlone_bind_ok runs).trans ?_
      exact runAlone_clearNodes atFirst
    · rw [← holds.used]
      refine holds_filled holds.older positive length ?_ filledKeyed _
      intro bucket
      exact (if_neg different.symm).trans (filledStored bucket)

end Resizing

section Inserting

variable {traits : TableTraits Key} {cells : TableCells Key Value} {table : FlatHashTable Key Value}
  {patience : Nat}

omit [Inhabited Key] [DecidableEq Key] in
theorem resize_bounds {resized : FlatHashTable Key Value} {newSize : Nat}
    (done : table.resize traits newSize = .ok resized) :
    resized.usedNodeCount ≤ table.usedNodeCount ∧ resized.bucketCount ≤ traits.maxBucketCount := by
  obtain ⟨_, checked, rest⟩ := bind_eq_ok done
  obtain ⟨filled, rehashed, isResized⟩ := bind_eq_ok rest
  cases isResized
  constructor
  · split
    · exact Nat.zero_le _
    · exact Nat.le_refl _
  · change filled.length ≤ _
    rw [length_rehash rehashed, length_replicate]
    exact holds_of_check checked

omit [DecidableEq Key] in
theorem runAlone_isCrowded (holds : Holds cells table) :
    isCrowded.runAlone performTable cells = .ok (cells, table.isCrowded) := by
  rw [FlatHashTable.isCrowded, ← holds.mask, ← holds.used]
  rfl

def withArray (traits : TableTraits Key) (table : FlatHashTable Key Value) :
    Except Fault (FlatHashTable Key Value) :=
  if table.bucketCountMask = 0 then do
    check (table.usedNodeCount = 0)
    table.resize traits 8
  else
    pure table

theorem runAlone_allocateFirst (holds : Holds cells table)
    (enough : traits.maxBucketCount ≤ patience) {first : FlatHashTable Key Value}
    (done : withArray traits table = .ok first) : ∃ reached,
      (allocateFirst traits patience).runAlone performTable cells = .ok (reached, ()) ∧
        Holds reached first := by
  rw [withArray] at done
  rw [allocateFirst, runAlone_bind_ok (runAlone_readMember _), holds.mask]
  by_cases unmasked : table.bucketCountMask = 0
  · rw [if_pos unmasked] at done ⊢
    obtain ⟨_, checked, resized⟩ := bind_eq_ok done
    have unused := holds_of_check checked
    rw [runAlone_bind_ok (runAlone_readMember _), holds.used,
      runAlone_bind_ok (runAlone_require unused)]
    exact runAlone_resize holds (by decide) enough resized
  · rw [if_neg unmasked] at done ⊢
    cases done
    exact ⟨cells, rfl, holds⟩

variable {key : Key}

omit [DecidableEq Key] in
theorem runAlone_constructNode (holds : Holds cells table) {bucket : Nat}
    (free : table.nodes[bucket]? = some none) (few : table.usedNodeCount + 1 < 2 ^ 32)
    (keyNonempty : key ≠ default) (value : Value) : ∃ reached,
      (constructNode ⟨cells.nodes, bucket⟩ key value).runAlone performTable
          cells = .ok (reached, ()) ∧ reached.nodes = cells.nodes ∧ Holds reached
          ⟨table.nodes.set bucket (some (key, value)),
            table.usedNodeCount + 1, FlatHashTable.invalidBucket⟩ := by
  have bound := (List.getElem?_eq_some_iff.mp free).1
  let pointer : NodePointer := ⟨cells.nodes, bucket⟩
  let invalidated :=
    cells.setMember .beginBucket invalidBucket
  have atBucket : invalidated.heap pointer = some (nodeOf none) := holds.stored.heap_eq free
  let keyed := invalidated.setNode pointer ⟨key, none⟩
  have keyedBucket : keyed.heap pointer = some ⟨key, none⟩ := update_self ..
  let filled := keyed.setNode pointer ⟨key, some value⟩
  have filledHeap : filled.heap = update cells.heap pointer (some (nodeOf (some (key, value)))) :=
    update_idem ..
  refine ⟨filled.setMember .usedNodeCount (table.usedNodeCount + 1), ?_, rfl, ?_⟩
  · refine (runAlone_bind_ok (runAlone_writeMember _ _)).trans ?_
    refine (runAlone_bind_ok (runAlone_writeKey atBucket key)).trans ?_
    refine (runAlone_bind_ok (runAlone_constructValue keyedBucket value)).trans ?_
    refine (runAlone_bind_ok (runAlone_readMember _)).trans ?_
    change (writeMember _ ((cells.member .usedNodeCount + 1) % 2 ^ 32)).runAlone _ _ = _
    rw [holds.used, Nat.mod_eq_of_lt few]
    rfl
  · refine ⟨rfl, ?_, ?_, rfl, ?_, ?_, ?_, holds.older⟩
    · exact holds.mask.trans (by simp [bucketCountMask])
    · exact holds.count.trans (by simp [bucketCount])
    · exact holds.null.trans (by simp)
    · change Stores filled.heap cells.nodes _
      rw [filledHeap]
      exact holds.stored.set bound (some (key, value))
    · refine holds.keyed.set ?_ bucket
      rintro entry same
      cases same
      exact keyNonempty

variable {value : Value}

theorem emplaceAtDepth_eq_ok {depth : Nat} {result : FlatHashTable Key Value × Nat × Bool}
    (done : FlatHashTable.emplaceAtDepth traits key value (depth + 1) table = .ok result) :
    key ≠ default ∧
      ∃ first found, withArray traits table = .ok first ∧
          first.probeKey traits key = .ok found ∧
          (match first.nodes[found]? with
            | some none =>
              if first.isCrowded then do
                let grown ← first.resize traits (2 * first.bucketCount)
                check (grown.isCrowded = false)
                FlatHashTable.emplaceAtDepth traits key value depth grown
              else
                .ok (⟨first.nodes.set found (some (key, value)),
                  first.usedNodeCount + 1, FlatHashTable.invalidBucket⟩, found, true)
            | _ => .ok (first, found, false)) = .ok result := by
  obtain ⟨_, checked, rest⟩ := bind_eq_ok done
  refine ⟨holds_of_check checked, ?_⟩
  rw [withArray]
  split at rest
  case isTrue unmasked =>
    obtain ⟨_, unused, rest⟩ := bind_eq_ok rest
    obtain ⟨first, resized, rest⟩ := bind_eq_ok rest
    obtain ⟨found, probed, rest⟩ := bind_eq_ok rest
    refine ⟨first, found, ?_, probed, rest⟩
    rw [if_pos unmasked, unused, ok_bind, resized]
  case isFalse masked =>
    obtain ⟨first, same, rest⟩ := bind_eq_ok rest
    obtain ⟨found, probed, rest⟩ := bind_eq_ok rest
    exact ⟨first, found, (if_neg masked).trans same, probed, rest⟩

theorem runAlone_emplace (enough : traits.maxBucketCount ≤ patience) {depth levels : Nat}
    (deep : depth ≤ levels) (holds : Holds cells table)
    (capacity : table.bucketCount ≤ traits.maxBucketCount) (few : table.usedNodeCount + 1 < 2 ^ 32)
    {placed : FlatHashTable Key Value} {bucket : Nat} {isNew : Bool} (done :
      FlatHashTable.emplaceAtDepth traits key value depth table = .ok (placed, bucket, isNew)) :
    ∃ reached, (emplace traits patience key value levels).runAlone performTable
          cells = .ok (reached, ⟨reached.nodes, bucket⟩, isNew) ∧ Holds reached placed ∧
        ∃ entry, placed.nodes[bucket]? = some (some entry) := by
  induction depth generalizing levels cells table with
  | zero => cases done
  | succ depth ih =>
    obtain ⟨levels, rfl⟩ := Nat.exists_eq_add_of_lt deep
    obtain ⟨keyNonempty, first, found, allocated, probed, rest⟩ := emplaceAtDepth_eq_ok done
    obtain ⟨firstCells, firstRuns, firstHolds⟩ := runAlone_allocateFirst holds enough allocated
    obtain ⟨firstUsed, firstCapacity⟩ :
        first.usedNodeCount ≤ table.usedNodeCount ∧ first.bucketCount ≤ traits.maxBucketCount := by
      rw [withArray] at allocated
      split at allocated
      · obtain ⟨_, _, resized⟩ := bind_eq_ok allocated
        exact resize_bounds resized
      · cases allocated
        exact ⟨Nat.le_refl _, capacity⟩
    have firstFew : first.usedNodeCount + 1 < 2 ^ 32 :=
      Nat.lt_of_le_of_lt (Nat.succ_le_succ firstUsed) few
    obtain ⟨node, atFound, probeRuns⟩ :=
      runAlone_probeKey firstHolds.shows (walked_of_probeKey probed) (firstCapacity.trans enough)
    rw [emplace, runAlone_bind_ok (runAlone_require keyNonempty), runAlone_bind_ok firstRuns,
      runAlone_bind_ok (runAlone_calcBucket firstHolds.mask traits key),
      runAlone_bind_ok probeRuns]
    rw [atFound] at rest
    cases node with
    | some entry =>
      cases rest
      exact ⟨firstCells, rfl, firstHolds, entry, atFound⟩
    | none =>
      have bound := (List.getElem?_eq_some_iff.mp atFound).1
      have crowdRuns := runAlone_isCrowded firstHolds
      dsimp only at rest
      split at rest
      case isTrue crowded =>
        obtain ⟨grown, resized, rest⟩ := bind_eq_ok rest
        obtain ⟨_, uncrowded, rest⟩ := bind_eq_ok rest
        have doubled : (2 * firstCells.member .bucketCount) % 2 ^ 32 = 2 * first.bucketCount := by
          have bounded := maxBucketCount_le traits
          rw [firstHolds.count]
          exact Nat.mod_eq_of_lt (by omega)
        have positive : 0 < 2 * first.bucketCount := by
          rw [bucketCount]
          omega
        obtain ⟨grownUsed, grownCapacity⟩ := resize_bounds resized
        obtain ⟨grownCells, grownRuns, grownHolds⟩ :=
          runAlone_resize firstHolds positive enough resized
        rw [← doubled] at grownRuns
        obtain ⟨reached, runs, reachedHolds, stored⟩ :=
          ih (Nat.le_add_right depth levels) grownHolds
            grownCapacity
            (Nat.lt_of_le_of_lt (Nat.succ_le_succ grownUsed) firstFew) rest
        refine ⟨reached, ?_, reachedHolds, stored⟩
        rw [crowded] at crowdRuns
        refine (runAlone_bind_ok crowdRuns).trans ?_
        refine (runAlone_bind_ok (runAlone_readMember _)).trans ?_
        refine (runAlone_bind_ok grownRuns).trans ?_
        refine (runAlone_bind_ok (runAlone_isCrowded grownHolds)).trans ?_
        rw [runAlone_bind_ok (runAlone_require (holds_of_check uncrowded))]
        exact runs
      case isFalse uncrowded =>
        cases rest
        obtain ⟨reached, runs, sameArray, reachedHolds⟩ :=
          runAlone_constructNode firstHolds atFound firstFew keyNonempty value
        refine ⟨reached, ?_, reachedHolds, (key, value), getElem?_set_self bound⟩
        rw [Bool.eq_false_iff.mpr uncrowded] at crowdRuns
        refine (runAlone_bind_ok crowdRuns).trans ?_
        rw [sameArray]
        exact runAlone_bind_ok runs

theorem runAlone_insertOrAssign [Inhabited Value] (holds : Holds cells table)
    (wellFormed : table.WellFormed traits) (enough : traits.maxBucketCount ≤ patience)
    {assigned : FlatHashTable Key Value}
    (done : table.insertOrAssign traits key value = .ok assigned) : ∃ reached,
      (insertOrAssign traits patience key value).runAlone performTable cells = .ok (reached, ()) ∧
        Holds reached assigned := by
  obtain ⟨⟨placed, bucket, isNew⟩, emplaced, isAssigned⟩ := bind_eq_ok done
  have deep : 2 ≤ patience := by
    have large := eight_le_maxBucketCount traits
    omega
  have few : table.usedNodeCount + 1 < 2 ^ 32 := by
    have bounded := usedNodeCount_le wellFormed
    omega
  obtain ⟨placedCells, runs, placedHolds, entry, stored⟩ :=
    runAlone_emplace enough deep holds wellFormed.capacity few emplaced
  have atBucket := placedHolds.stored.heap_eq stored
  have bound := (List.getElem?_eq_some_iff.mp stored).1
  cases isAssigned
  refine ⟨_, (runAlone_bind_ok runs).trans (runAlone_assignValue atBucket rfl value), ?_⟩
  simp only [assign, stored]
  exact {
    placedHolds with
    mask := placedHolds.mask.trans (by simp [bucketCountMask])
    count := placedHolds.count.trans (by simp [bucketCount])
    null := placedHolds.null.trans (by simp)
    stored := placedHolds.stored.set bound (some (entry.1, value))
    keyed := placedHolds.keyed.set (by
      rintro other same
      cases same
      exact placedHolds.keyed bucket entry stored) bucket
  }

end Inserting

end Autoproto.SharedTable
