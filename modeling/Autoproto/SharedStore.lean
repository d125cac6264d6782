import Autoproto.InMemoryKeyValue
import Autoproto.SeparateCalls
import Autoproto.SharedMap

namespace Autoproto.SharedStore

open SharedMemory SharedMemory.Program SharedTable LengthPrefixed
open InMemoryKeyValue (beginsWith)

/-!
# The key-value store as threads share it

`InMemoryKeyValue` has no lock either.  Its functions are programs that access
the map and the counter of writes, and the store they should look like is a
finite map with a counter.
-/

structure StoreCells where
  map : TableCells Bytes Bytes := {}
  seqNo : UInt64 := 0

inductive StoreAccess where
  | map (request : TableAccess Bytes Bytes)
  | readSeqNo
  | writeSeqNo (seqNo : UInt64)
  deriving Repr, DecidableEq

def StoreAccess.Reply : StoreAccess → Type
  | .map request => request.Reply
  | .readSeqNo => UInt64
  | .writeSeqNo _ => Unit

/-- Carry out an access. -/
def performStore :
    (request : StoreAccess) → StoreCells → Except Fault (StoreCells × request.Reply)
  | .map request, cells => do
      let (map, reply) ← performTable request cells.map
      return (⟨map, cells.seqNo⟩, reply)
  | .readSeqNo, cells => .ok (cells, cells.seqNo)
  | .writeSeqNo seqNo, cells => .ok (⟨cells.map, seqNo⟩, ())

def mapPart :
    Part (@performTable Bytes Bytes _) performStore where
  embed := .map
  reply := fun _ reply => reply
  get := StoreCells.map
  set := fun cells map => ⟨map, cells.seqNo⟩
  get_set := fun _ _ => rfl
  set_get := fun _ => rfl
  set_set := fun _ _ _ => rfl
  performs := by
    intro request cells
    rw [performStore]
    cases performTable request cells.map <;> rfl

abbrev StoreProgram (Result : Type) :=
  Program StoreAccess StoreAccess.Reply Result

/-- The operations of a store.  An iteration starts at a random bucket. -/
inductive StoreOperation where
  | set (key value : Bytes)
  | get (key : Bytes)
  | isset (key : Bytes)
  | erase (key : Bytes)
  | eraseByPrefix (random : UInt32) (leading : Bytes)
  | prefixGet (random : UInt32) (leading : Bytes)
  | serializeAll (random : UInt32)
  deriving Repr, DecidableEq

/-- What the operations return. -/
inductive StoreResult where
  | seqNo (seqNo : UInt64)
  | value (value : Bytes)
  | found (found : Bool)
  | pairs (pairs : List (Bytes × Bytes))
  | text (text : Bytes)
  | done
  deriving Repr, DecidableEq

section Programs

variable (traits : TableTraits Bytes) (patience : Nat)

def readSeqNo : StoreProgram UInt64 :=
  Program.request StoreAccess.readSeqNo

def writeSeqNo (seqNo : UInt64) : StoreProgram Unit :=
  Program.request (StoreAccess.writeSeqNo seqNo)

/-- The expression `++seq_no_`. -/
def countWrite : StoreProgram UInt64 := do
  let seqNo ← readSeqNo
  writeSeqNo (seqNo + 1)
  return seqNo + 1

/-- The body of the loop of `prefix_get`. -/
def visitPair (leading : Bytes) (node : NodePointer) :
    TableProgram Bytes Bytes (Option (Bytes × Bytes)) := do
  let first ← readKey node
  if beginsWith first leading then
    let key ← readKey node
    let value ← readValue node
    return some (key, value)
  else
    return none

/-- The body of the first loop of `erase_by_prefix`. -/
def visitKey (leading : Bytes) (node : NodePointer) : TableProgram Bytes Bytes (Option Bytes) := do
  let first ← readKey node
  if beginsWith first leading then
    let key ← readKey node
    return some key
  else
    return none

/-- The body of the loop of `serialize_all`. -/
def visitRecord (node : NodePointer) : TableProgram Bytes Bytes Bytes := do
  let measuredKey ← readKey node
  let measuredValue ← readValue node
  let key ← readKey node
  let value ← readValue node
  return ByteEncoding.leOfNat 4 measuredKey.length ++ key ++
    (ByteEncoding.leOfNat 4 measuredValue.length ++ value)

/-- The second loop of `erase_by_prefix`. -/
def eraseKeys : List Bytes → TableProgram Bytes Bytes Unit
  | [] => return ()
  | key :: keys => do
      let _ ← SharedTable.erase traits patience key
      eraseKeys keys

def program : StoreOperation → StoreProgram StoreResult
  | .set key value => do
      mapPart.lift (insertOrAssign traits patience key value)
      let seqNo ← countWrite
      return .seqNo seqNo
  | .get key => do
      let found ← mapPart.lift (findValue traits patience key)
      return .value (found.getD [])
  | .isset key => do
      let nodes ← mapPart.lift (SharedTable.count traits patience key)
      return .found (decide (nodes > 0))
  | .erase key => do
      let _ ← mapPart.lift (SharedTable.erase traits patience key)
      let seqNo ← countWrite
      return .seqNo seqNo
  | .eraseByPrefix random leading => do
      let visited ← mapPart.lift (iterate patience random (visitKey leading))
      mapPart.lift (eraseKeys traits patience (visited.filterMap id))
      return .done
  | .prefixGet random leading => do
      let visited ← mapPart.lift (iterate patience random (visitPair leading))
      return .pairs (visited.filterMap id)
  | .serializeAll random => do
      let visited ← mapPart.lift (iterate patience random visitRecord)
      return .text visited.flatten

end Programs

/-- The store as a sequential object: a finite map and a counter. -/
structure StoreState where
  map : Bytes → Option Bytes
  seqNo : UInt64

def StoreState.fresh : StoreState :=
  ⟨fun _ => none, 0⟩

def Allowed :
    StoreOperation → StoreState → StoreState → StoreResult → Prop
  | .set key value, before, after, result =>
    after = ⟨Function.update before.map key (some value), before.seqNo + 1⟩ ∧
      result = .seqNo (before.seqNo + 1)
  | .get key, before, after, result => after = before ∧ result = .value ((before.map key).getD [])
  | .isset key, before, after, result => after = before ∧ result = .found (before.map key).isSome
  | .erase key, before, after, result =>
    after = ⟨Function.update before.map key none, before.seqNo + 1⟩ ∧
      result = .seqNo (before.seqNo + 1)
  | .eraseByPrefix _ leading, before, after, result =>
    after = ⟨fun key => if leading <+: key then none else before.map key, before.seqNo⟩ ∧
      result = .done
  | .prefixGet _ leading, before, after, result =>
    after = before ∧
      ∃ pairs, result = .pairs pairs ∧
          FlatHashMap.Enumerates pairs (fun key => if leading <+: key then before.map key else none)
  | .serializeAll _, before, after, result =>
    after = before ∧
      ∃ records, result = .text (encode records) ∧ FlatHashMap.Enumerates records before.map

/-- The operations that only read.  A loop chooses where iterations start. -/
def Reads : StoreOperation → Prop
  | .get _ => True
  | .isset _ => True
  | _ => False

def Fits (traits : TableTraits Bytes) : StoreOperation → StoreState → Prop
  | .set key _, state => key ≠ [] ∧ Room traits state.map key
  | _, _ => True

/-- The memory of a store stands for a map and a counter. -/
def Represents (traits : TableTraits Bytes) (cells : StoreCells) (state : StoreState) : Prop :=
  HoldsMap traits cells.map state.map ∧ cells.seqNo = state.seqNo

section Bodies

variable {cells : TableCells Bytes Bytes} {pointer : NodePointer} {entry : Bytes × Bytes}

theorem runAlone_visitPair (leading : Bytes)
    (found : cells.heap pointer = some (nodeOf (some entry))) :
    (visitPair leading pointer).runAlone performTable cells =
      .ok (cells, if beginsWith entry.1 leading then some entry else none) := by
  rw [visitPair, runAlone_bind_ok (runAlone_readKey found)]
  change (if beginsWith entry.1 leading then _ else _ :
    TableProgram Bytes Bytes (Option (Bytes × Bytes))).runAlone _ _ = _
  split
  · refine (runAlone_bind_ok (runAlone_readKey found)).trans ?_
    exact runAlone_bind_ok (runAlone_readValue found rfl)
  · rfl

theorem runAlone_visitKey (leading : Bytes)
    (found : cells.heap pointer = some (nodeOf (some entry))) :
    (visitKey leading pointer).runAlone performTable cells = .ok (cells,
        if beginsWith entry.1 leading then some entry.1 else none) := by
  rw [visitKey, runAlone_bind_ok (runAlone_readKey found)]
  change (if beginsWith entry.1 leading then _ else _ :
    TableProgram Bytes Bytes (Option Bytes)).runAlone _ _ = _
  split
  · exact runAlone_bind_ok (runAlone_readKey found)
  · rfl

theorem runAlone_visitRecord (found : cells.heap pointer = some (nodeOf (some entry))) :
    (visitRecord pointer).runAlone performTable cells = .ok (cells, encodeRecord entry) := by
  rw [visitRecord, runAlone_bind_ok (runAlone_readKey found),
    runAlone_bind_ok (runAlone_readValue found rfl),
    runAlone_bind_ok (runAlone_readKey found),
    runAlone_bind_ok (runAlone_readValue found rfl)]
  rfl

end Bodies

section Alone

variable {traits : TableTraits Bytes} {patience : Nat} {contents : Bytes → Option Bytes}

theorem runAlone_eraseKeys (enough : traits.maxBucketCount ≤ patience)
    {cells : TableCells Bytes Bytes} (holds : HoldsMap traits cells contents) (keys : List Bytes) :
    ∃ reached, (eraseKeys traits patience keys).runAlone performTable cells = .ok (reached, ()) ∧
        HoldsMap traits reached (fun key => if key ∈ keys then none else contents key) := by
  induction keys generalizing cells contents with
  | nil => exact ⟨cells, rfl, by simpa using holds⟩
  | cons key keys ih =>
    obtain ⟨erased, erasedCount, runs, erasedHolds⟩ := holds.erase enough key
    obtain ⟨reached, restRuns, reachedHolds⟩ := ih erasedHolds
    refine ⟨reached, (runAlone_bind_ok runs).trans restRuns, ?_⟩
    convert reachedHolds using 2 with asked
    by_cases same : asked = key
    · simp [same]
    · simp [same]

theorem enumerates_matching {order : List (Bytes × Bytes)}
    (enumerates : FlatHashMap.Enumerates order contents) (leading : Bytes) : FlatHashMap.Enumerates
      (order.filter (fun entry => beginsWith entry.1 leading))
      (fun key => if leading <+: key then contents key else none) where
  distinct := enumerates.distinct.sublist (List.filter_sublist.map Prod.fst)
  graph := by
    intro key value
    rw [List.mem_filter, enumerates.graph, beginsWith, List.isPrefixOf_iff_prefix]
    by_cases leads : leading <+: key
    · simp [leads]
    · simp [leads]

theorem filterMap_visited (order : List (Bytes × Bytes)) (leading : Bytes)
    (seen : Bytes × Bytes → Visited) :
    ((order.map fun entry =>
        if beginsWith entry.1 leading then some (seen entry) else none)
      |>.filterMap id) =
      (order.filter (fun entry => beginsWith entry.1 leading)).map seen := by
  induction order with
  | nil => rfl
  | cons entry order ih =>
    by_cases leads : beginsWith entry.1 leading
    all_goals simpa [leads] using ih

theorem erased_matching {order : List (Bytes × Bytes)}
    (enumerates : FlatHashMap.Enumerates order contents) (leading : Bytes) :
    (fun key =>
        if key ∈
            (order.filter (fun entry => beginsWith entry.1 leading)).map Prod.fst then
          none
        else
          contents key) =
      fun key => if leading <+: key then none else contents key := by
  funext key
  cases mapped : contents key with
  | none => rw [ite_self, ite_self]
  | some value =>
    have matching := enumerates_matching enumerates leading
    have listed : key ∈ (order.filter (fun entry => beginsWith entry.1 leading)).map Prod.fst ↔
          leading <+: key := by
      constructor
      · intro member
        obtain ⟨entry, stored, sameKey⟩ := List.mem_map.mp member
        have found := (matching.graph entry.1 entry.2).mp stored
        rw [sameKey] at found
        by_contra differs
        rw [if_neg differs] at found
        cases found
      · intro leads
        refine List.mem_map.mpr ⟨(key, value), ?_, rfl⟩
        rw [matching.graph, if_pos leads, mapped]
    simp only [listed]

variable {cells : StoreCells} {state : StoreState}

theorem ends_alone (enough : traits.maxBucketCount ≤ patience) (operation : StoreOperation)
    (represents : Represents traits cells state) (fits : Fits traits operation state) :
    ∃ reached result next,
      (program traits patience operation).runAlone performStore cells = .ok (reached, result) ∧
        Represents traits reached next ∧ Allowed operation state next result := by
  obtain ⟨holds, sameSeqNo⟩ := represents
  cases operation with
  | set key value =>
    obtain ⟨assigned, runs, assignedHolds⟩ := holds.insertOrAssign enough fits.1 fits.2 value
    exact ⟨⟨assigned, cells.seqNo + 1⟩, .seqNo (cells.seqNo + 1),
      ⟨Function.update state.map key (some value), state.seqNo + 1⟩,
      runAlone_bind_ok (mapPart.runAlone_lift cells runs),
      ⟨assignedHolds, by rw [sameSeqNo]⟩, rfl, by rw [sameSeqNo]⟩
  | get key =>
    have runs := mapPart.runAlone_lift cells (holds.findValue enough key)
    exact ⟨cells, .value ((state.map key).getD []), state,
      runAlone_bind_ok runs, ⟨holds, sameSeqNo⟩, rfl, rfl⟩
  | isset key =>
    have runs := mapPart.runAlone_lift cells (holds.count enough key)
    refine ⟨cells, .found (state.map key).isSome, state,
      (runAlone_bind_ok runs).trans ?_, ⟨holds, sameSeqNo⟩, rfl, rfl⟩
    cases state.map key with
    | none | some => rfl
  | erase key =>
    obtain ⟨erased, erasedCount, runs, erasedHolds⟩ := holds.erase enough key
    exact ⟨⟨erased, cells.seqNo + 1⟩, .seqNo (cells.seqNo + 1),
      ⟨Function.update state.map key none, state.seqNo + 1⟩,
      runAlone_bind_ok (mapPart.runAlone_lift cells runs),
      ⟨erasedHolds, by rw [sameSeqNo]⟩, rfl, by rw [sameSeqNo]⟩
  | eraseByPrefix random leading =>
    obtain ⟨visited, order, loops, visitedHolds, enumerates⟩ :=
      holds.iterate enough random (fun _ _ _ found => runAlone_visitKey leading found)
    obtain ⟨erased, erases, erasedHolds⟩ := runAlone_eraseKeys enough visitedHolds
        ((order.filter (fun entry => beginsWith entry.1 leading)).map Prod.fst)
    rw [erased_matching enumerates] at erasedHolds
    refine ⟨⟨erased, cells.seqNo⟩, .done,
      ⟨fun key => if leading <+: key then none else state.map key,
        state.seqNo⟩, ?_, ⟨erasedHolds, sameSeqNo⟩, rfl, rfl⟩
    rw [program, runAlone_bind_ok (mapPart.runAlone_lift cells loops),
      filterMap_visited order leading Prod.fst]
    exact runAlone_bind_ok (mapPart.runAlone_lift ⟨visited, cells.seqNo⟩ erases)
  | prefixGet random leading =>
    obtain ⟨visited, order, loops, visitedHolds, enumerates⟩ :=
      holds.iterate enough random (fun _ _ _ found => runAlone_visitPair leading found)
    refine ⟨⟨visited, cells.seqNo⟩, .pairs (order.filter (fun entry => beginsWith entry.1 leading)),
      state, ?_, ⟨visitedHolds, sameSeqNo⟩, rfl, _, rfl,
      enumerates_matching enumerates leading⟩
    rw [program, runAlone_bind_ok (mapPart.runAlone_lift cells loops)]
    have collected := filterMap_visited order leading id
    rw [List.map_id] at collected
    exact congrArg (fun pairs => Except.ok (_, StoreResult.pairs pairs)) collected
  | serializeAll random =>
    obtain ⟨visited, order, loops, visitedHolds, enumerates⟩ :=
      holds.iterate enough random (fun _ _ _ found => runAlone_visitRecord found)
    refine ⟨⟨visited, cells.seqNo⟩, .text (encode order), state, ?_,
      ⟨visitedHolds, sameSeqNo⟩, rfl, order, rfl, enumerates⟩
    rw [program, runAlone_bind_ok (mapPart.runAlone_lift cells loops), encode, List.flatMap_def]
    rfl

theorem implements_store (enough : traits.maxBucketCount ≤ patience) :
    Implements performStore (program traits patience) Reads
      (Represents traits) (Fits traits) Allowed where
  ends := fun operation _ _ represents fits => ends_alone enough operation represents fits
  readOnly := by
    intro operation reads
    cases operation with
    | get key =>
      exact (mapPart.readOnly_lift (readOnly_findValue traits patience key)).bind fun _ => trivial
    | isset key =>
      exact (mapPart.readOnly_lift (readOnly_count traits patience key)).bind fun _ => trivial
    | _ => exact reads.elim
  unchanged := by
    intro operation state next result reads allowed
    cases operation with
    | get | isset => exact allowed.1
    | _ => exact reads.elim

theorem represents_fresh : Represents traits {} StoreState.fresh :=
  ⟨holdsMap_empty, rfl⟩

end Alone

end Autoproto.SharedStore
