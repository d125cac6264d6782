import Autoproto.FlatHashMap
import Autoproto.SharedTable

namespace Autoproto.SharedTable

open FlatHashTable SharedMemory SharedMemory.Program LinearProbing
open FlatHashTable (nextBucket)

/-!
# The memory of a table and the table

A memory holds a table when its members and the nodes of its array are those of the table.  A
program that runs alone on such a memory then does what the function of the table does.
-/

variable [Inhabited Key]

/-- A bucket of the table as a node in memory. -/
def nodeOf : Option (Key × Value) → MapNode Key Value
  | none => ⟨default, none⟩
  | some entry => ⟨entry.1, some entry.2⟩

def Stores (heap : NodePointer → Option (MapNode Key Value)) (array : Nat)
    (nodes : List (Option (Key × Value))) : Prop :=
  ∀ bucket, heap ⟨array, bucket⟩ = nodes[bucket]?.map nodeOf

/-- No node has the key of an empty one. -/
def Keyed (nodes : List (Option (Key × Value))) : Prop :=
  ∀ (bucket : Nat) (entry : Key × Value), nodes[bucket]? = some (some entry) → entry.1 ≠ default

structure Shows (cells : TableCells Key Value) (mask : Nat)
    (nodes : List (Option (Key × Value))) : Prop where
  mask_eq : cells.member .bucketCountMask = mask
  stored : Stores cells.heap cells.nodes nodes
  keyed : Keyed nodes

structure Holds (cells : TableCells Key Value) (table : FlatHashTable Key Value) : Prop where
  used : cells.member .usedNodeCount = table.usedNodeCount
  mask : cells.member .bucketCountMask = table.bucketCountMask
  count : cells.member .bucketCount = table.bucketCount
  begun : cells.member .beginBucket = table.beginBucket
  null : cells.nodes = nullptr ↔ table.nodes = []
  stored : Stores cells.heap cells.nodes table.nodes
  keyed : Keyed table.nodes
  older : cells.nodes < cells.nextArray

theorem holds_empty : Holds ({} : TableCells Key Value) {} where
  used := rfl
  mask := rfl
  count := rfl
  begun := rfl
  null := ⟨fun _ => rfl, fun _ => rfl⟩
  stored := fun _ => rfl
  keyed := by
    intro bucket entry found
    simp at found
  older := Nat.zero_lt_one

variable {table : FlatHashTable Key Value}

theorem Holds.shows {cells : TableCells Key Value} (holds : Holds cells table) :
    Shows cells table.bucketCountMask table.nodes :=
  ⟨holds.mask, holds.stored, holds.keyed⟩

theorem usedNodeCount_le {traits : TableTraits Key} (wellFormed : table.WellFormed traits) :
    table.usedNodeCount ≤ 2 ^ 29 := by
  by_cases unallocated : table.nodes = []
  · rw [wellFormed.used_of_unallocated unallocated]
    exact Nat.zero_le _
  · have load := wellFormed.load unallocated
    have capacity := wellFormed.capacity
    have bounded := maxBucketCount_le traits
    unfold bucketCountMask at load
    unfold bucketCount at capacity
    omega

section Arrays

variable {heap : NodePointer → Option (MapNode Key Value)} {array : Nat}
  {nodes : List (Option (Key × Value))}

section

variable (stored : Stores heap array nodes)
include stored

variable {bucket : Nat}

theorem Stores.heap_eq {node : Option (Key × Value)} (atBucket : nodes[bucket]? = some node) :
    heap ⟨array, bucket⟩ = some (nodeOf node) := by
  rw [stored bucket, atBucket]
  rfl

theorem Stores.set (bound : bucket < nodes.length) (node : Option (Key × Value)) :
    Stores (Function.update heap ⟨array, bucket⟩ (some (nodeOf node))) array
      (nodes.set bucket node) := by
  intro other
  by_cases same : other = bucket
  · rw [same, Function.update_self, List.getElem?_set_self bound]
    rfl
  · have different : (⟨array, other⟩ : NodePointer) ≠ ⟨array, bucket⟩ := by
      intro samePointer
      exact same (congrArg NodePointer.bucket samePointer)
    rw [Function.update_of_ne different, List.getElem?_set_ne (Ne.symm same)]
    exact stored other

theorem Stores.set_other {pointer : NodePointer} (different : pointer.array ≠ array)
    (node : Option (MapNode Key Value)) :
    Stores (Function.update heap pointer node) array nodes := by
  intro bucket
  have differs : (⟨array, bucket⟩ : NodePointer) ≠ pointer := by
    intro same
    exact different (congrArg NodePointer.array same).symm
  rw [Function.update_of_ne differs]
  exact stored bucket

end

/-- A key that may be stored is stored. -/
theorem Keyed.set (keyed : Keyed nodes) {node : Option (Key × Value)}
    (nodeKeyed : ∀ entry, node = some entry → entry.1 ≠ default) (bucket : Nat) :
    Keyed (nodes.set bucket node) := by
  intro other entry found
  rw [List.getElem?_set] at found
  split at found
  · split at found
    · exact nodeKeyed entry (Option.some.inj found)
    · cases found
  · exact keyed other entry found

end Arrays

section Accesses

variable {cells : TableCells Key Value}

@[simp] theorem runAlone_readNodes :
    readNodes.runAlone performTable cells = .ok (cells, cells.nodes) :=
  rfl

@[simp] theorem runAlone_readMember (member : Member) :
    (readMember member).runAlone performTable cells = .ok (cells, cells.member member) :=
  rfl

@[simp] theorem runAlone_writeMember (member : Member) (number : Nat) :
    (writeMember member number).runAlone performTable cells =
      .ok (cells.setMember member number, ()) :=
  rfl

variable {pointer : NodePointer} {node : MapNode Key Value}

theorem runAlone_access {request : TableAccess Key Value} {reached : TableCells Key Value}
    {reply : request.Reply} (performed : performTable request cells = .ok (reached, reply)) :
    (Program.request request : TableProgram Key Value request.Reply).runAlone performTable cells =
      .ok (reached, reply) := by
  rw [runAlone_request, performed]

omit [Inhabited Key] in
theorem node_eq (found : cells.heap pointer = some node) : cells.node pointer = .ok node := by
  rw [TableCells.node, found]

theorem runAlone_clearNodes {array : Nat} (found : cells.heap ⟨array, 0⟩ = some node) :
    (clearNodes array).runAlone performTable cells = .ok (cells.deallocate array, ()) :=
  runAlone_access (by
    simp [performTable, node_eq found])

section

variable (found : cells.heap pointer = some node)
include found

theorem runAlone_readKey :
    (readKey pointer).runAlone performTable cells = .ok (cells, node.first) :=
  runAlone_access (by
    simp [performTable, node_eq found])

theorem runAlone_writeKey (key : Key) : (writeKey pointer key).runAlone performTable cells =
      .ok (cells.setNode pointer ⟨key, node.second⟩, ()) :=
  runAlone_access (by
    simp [performTable, node_eq found])

variable {value : Value}

theorem runAlone_readValue (constructed : node.second = some value) :
    (readValue pointer).runAlone performTable cells = .ok (cells, value) :=
  runAlone_access (by
    simp [performTable, TableCells.value, node_eq found, constructed])

theorem runAlone_assignValue {old : Value} (constructed : node.second = some old) (value : Value) :
    (assignValue pointer value).runAlone performTable cells =
      .ok (cells.setNode pointer ⟨node.first, some value⟩, ()) :=
  runAlone_access (by
    simp [performTable, TableCells.value, node_eq found, constructed])

theorem runAlone_constructValue (value : Value) :
    (constructValue pointer value).runAlone performTable cells =
      .ok (cells.setNode pointer ⟨node.first, some value⟩, ()) :=
  runAlone_access (by
    simp [performTable, node_eq found])

theorem runAlone_destroyValue (constructed : node.second = some value) :
    (destroyValue pointer).runAlone performTable cells =
      .ok (cells.setNode pointer ⟨node.first, none⟩, ()) :=
  runAlone_access (by
    simp [performTable, TableCells.value, node_eq found, constructed])

end

end Accesses

variable [DecidableEq Key]

section Walks

variable {cells : TableCells Key Value} {mask bucket : Nat} {nodes : List (Option (Key × Value))}
  {node : Option (Key × Value)}

theorem runAlone_isEmpty {pointer : NodePointer} (found : cells.heap pointer = some (nodeOf node))
    (keyed : ∀ entry, node = some entry → entry.1 ≠ default) :
    (isEmpty pointer).runAlone performTable cells = .ok (cells, node.isNone) := by
  have empty : decide ((nodeOf node).first = default) = node.isNone := by
    cases node with
    | none => exact decide_eq_true rfl
    | some entry => exact decide_eq_false (keyed entry rfl)
  rw [isEmpty, runAlone_bind_ok (runAlone_readKey found)]
  exact congrArg (fun answer => Except.ok (cells, answer)) empty

theorem Shows.runAlone_isEmpty (shows : Shows cells mask nodes)
    (atBucket : nodes[bucket]? = some node) :
    (isEmpty ⟨cells.nodes, bucket⟩).runAlone performTable cells = .ok (cells, node.isNone) := by
  refine SharedTable.runAlone_isEmpty (shows.stored.heap_eq atBucket) ?_
  rintro entry rfl
  exact shows.keyed bucket entry atBucket

omit [DecidableEq Key] in
theorem Shows.runAlone_readKey (shows : Shows cells mask nodes) {entry : Key × Value}
    (atBucket : nodes[bucket]? = some (some entry)) :
    (readKey ⟨cells.nodes, bucket⟩).runAlone performTable cells = .ok (cells, entry.1) :=
  SharedTable.runAlone_readKey (shows.stored.heap_eq atBucket)

omit [Inhabited Key] [DecidableEq Key] in
theorem runAlone_calcBucket [Inhabited Key] (mask_eq : cells.member .bucketCountMask = mask)
    (traits : TableTraits Key) (key : Key) : (calcBucket traits key).runAlone performTable cells =
      .ok (cells, traits.calcBucket mask key) := by
  rw [← mask_eq]
  rfl

omit [DecidableEq Key] in
theorem runAlone_followingBucket (mask_eq : cells.member .bucketCountMask = mask) :
    (followingBucket bucket).runAlone performTable cells = .ok (cells, nextBucket mask bucket) := by
  rw [← mask_eq]
  rfl

theorem runAlone_probeKey (shows : Shows cells mask nodes) {key : Key}
    {fuel patience start found : Nat}
    (walked : probeFrom (nextBucket mask)
        (fun node => node.isNone || node.any (fun entry => entry.1 = key))
        nodes fuel start = some found)
    (enough : fuel ≤ patience) : ∃ node, nodes[found]? = some node ∧
        (probeKey key patience start).runAlone performTable cells =
          .ok (cells, ⟨cells.nodes, found⟩, node.isSome) := by
  induction fuel generalizing patience start with
  | zero => cases walked
  | succ fuel ih =>
    obtain ⟨patience, rfl⟩ := Nat.exists_eq_add_of_lt enough
    rw [probeFrom] at walked
    cases atStart : nodes[start]? with
    | none => simp [atStart] at walked
    | some node =>
      have empty := shows.runAlone_isEmpty atStart
      simp only [atStart] at walked
      rw [probeKey]
      cases node with
      | none =>
        cases walked
        exact ⟨none, atStart, by simp [empty]⟩
      | some entry =>
        have read := shows.runAlone_readKey atStart
        by_cases same : entry.1 = key
        · rw [if_pos (by simp [same])] at walked
          cases walked
          exact ⟨some entry, atStart, by simp [empty, read, same]⟩
        · rw [if_neg (by simp [same])] at walked
          obtain ⟨node, atFound, runs⟩ :=
            ih walked (Nat.le_add_right fuel patience)
          refine ⟨node, atFound, ?_⟩
          simp [empty, read, same, runAlone_followingBucket shows.mask_eq, runs]

end Walks

section Search

variable {traits : TableTraits Key} {cells : TableCells Key Value} {table : FlatHashTable Key Value}
  {patience : Nat} {key : Key}

omit [Inhabited Key] in
theorem walked_of_probeKey {found : Nat} (probed : table.probeKey traits key = .ok found) :
    probeFrom (nextBucket table.bucketCountMask)
        (fun node => node.isNone || node.any (fun entry => entry.1 = key))
        table.nodes table.bucketCount
        (traits.calcBucket table.bucketCountMask key) = some found := by
  rw [FlatHashTable.probeKey] at probed
  split at probed
  · cases probed
  · rename_i walked
    cases probed
    exact walked

theorem runAlone_findImpl (holds : Holds cells table) (enough : table.bucketCount ≤ patience)
    {found : Option Nat} (searched : table.findImpl traits key = .ok found) :
    (findImpl traits patience key).runAlone performTable cells =
      .ok (cells, found.map (NodePointer.mk cells.nodes)) := by
  rw [FlatHashTable.findImpl] at searched
  rw [findImpl, runAlone_bind_ok runAlone_readNodes]
  by_cases trivially : table.nodes = [] ∨ key = default
  · rw [if_pos trivially] at searched
    cases searched
    rw [if_pos (trivially.imp_left holds.null.mpr)]
    rfl
  · rw [if_neg trivially] at searched
    rw [if_neg (fun isNull => trivially (isNull.imp_left holds.null.mp))]
    obtain ⟨bucket, probed, atBucket⟩ := bind_eq_ok searched
    obtain ⟨node, stored, runs⟩ := runAlone_probeKey holds.shows (walked_of_probeKey probed) enough
    rw [runAlone_bind_ok (runAlone_calcBucket holds.mask traits key), runAlone_bind_ok runs]
    rw [stored] at atBucket
    cases node with
    | none | some =>
      cases atBucket
      rfl

theorem runAlone_findValue (holds : Holds cells table) (wellFormed : table.WellFormed traits)
    (enough : traits.maxBucketCount ≤ patience) :
    (findValue traits patience key).runAlone performTable cells =
      .ok (cells, table.contents key) := by
  obtain ⟨found, searched, same⟩ := findImpl_spec wellFormed key
  rw [findValue,
    runAlone_bind_ok (runAlone_findImpl holds (wellFormed.capacity.trans enough) searched)]
  cases found with
  | none =>
    rw [Option.map_eq_none_iff.mp same.symm]
    rfl
  | some bucket =>
    obtain ⟨value, mapped, stored⟩ := Option.map_eq_some_iff.mp same.symm
    rw [mapped]
    exact runAlone_bind_ok (runAlone_readValue (holds.stored.heap_eq stored.symm) rfl)

theorem runAlone_count (holds : Holds cells table) (wellFormed : table.WellFormed traits)
    (enough : traits.maxBucketCount ≤ patience) :
    (count traits patience key).runAlone performTable cells =
      .ok (cells, if (table.contents key).isSome then 1 else 0) := by
  obtain ⟨found, searched, same⟩ := findImpl_spec wellFormed key
  have isFound : (found.map (NodePointer.mk cells.nodes)).isSome = (table.contents key).isSome := by
    simpa using congrArg Option.isSome same
  rw [← isFound]
  exact runAlone_bind_ok (runAlone_findImpl holds (wellFormed.capacity.trans enough) searched)

end Search

section ReadOnly

/-- The accesses that do not change the memory. -/
def TableAccess.Reads : TableAccess Key Value → Prop
  | .readNodes | .readMember _ | .readKey _ | .readValue _ => True
  | _ => False

omit [DecidableEq Key] in
theorem readOnly_read (request : TableAccess Key Value) (reads : request.Reads)
    (answer : request.Reply → Result) :
    (Program.access request (fun reply => .done (answer reply))).ReadOnly performTable := by
  refine ⟨fun cells reached reply performed => ?_, fun _ => trivial⟩
  cases request with
  | readNodes | readMember =>
    cases performed
    rfl
  | readKey | readValue =>
    obtain ⟨_, _, same⟩ := bind_eq_ok performed
    cases same
    rfl
  | _ => cases reads

theorem readOnly_probeKey (key : Key) (patience bucket : Nat) :
    (probeKey key patience bucket : TableProgram Key Value (NodePointer × Bool)).ReadOnly
      performTable := by
  induction patience generalizing bucket with
  | zero => trivial
  | succ patience ih =>
    refine ReadOnly.bind (readOnly_read .readNodes trivial id) fun array => ?_
    refine ReadOnly.bind (readOnly_read (.readKey _) trivial _) fun empty => ?_
    split
    · trivial
    · refine ReadOnly.bind (readOnly_read (.readKey _) trivial id) fun nodeKey => ?_
      split
      · trivial
      · exact ReadOnly.bind (readOnly_read (.readMember _) trivial _) ih

variable (traits : TableTraits Key)

theorem readOnly_findImpl (patience : Nat) (key : Key) :
    (findImpl traits patience key : TableProgram Key Value (Option NodePointer)).ReadOnly
      performTable := by
  refine ReadOnly.bind (readOnly_read .readNodes trivial id) fun array => ?_
  split
  · trivial
  · refine ReadOnly.bind (readOnly_read (.readMember _) trivial _) fun bucket => ?_
    exact (readOnly_probeKey key patience bucket).bind fun _ => trivial

theorem readOnly_findValue (patience : Nat) (key : Key) : (findValue traits patience key :
      TableProgram Key Value (Option Value)).ReadOnly performTable := by
  refine (readOnly_findImpl traits patience key).bind fun found => ?_
  cases found with
  | none => trivial
  | some node => exact readOnly_read (.readValue node) trivial some

theorem readOnly_count (patience : Nat) (key : Key) :
    (count traits patience key : TableProgram Key Value Nat).ReadOnly performTable :=
  (readOnly_findImpl traits patience key).bind fun _ => trivial

end ReadOnly

end Autoproto.SharedTable
