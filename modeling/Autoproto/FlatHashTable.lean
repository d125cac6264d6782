import Autoproto.Fault
import Autoproto.LinearProbing
import Mathlib.Algebra.Order.Ring.Nat
import Mathlib.Data.Nat.Bitwise

namespace Autoproto

/-!
# The open-addressing hash table of the stores

`FlatHashTable` keeps its nodes in one array of a power of two and resolves
collisions by linear probing. A node with the default key is empty. Erasing
shifts later nodes back, and iteration starts at a random bucket.
-/

/--
What the template parameters give: the hash of a key and the size of a node,
eight of which fit the largest array.
-/
structure TableTraits (Key : Type) where
  hash : Key → UInt32
  sizeofNode : Nat
  sizeofNodePos : 0 < sizeofNode
  sizeofNodeLe : 8 * sizeofNode ≤ 0x7FFFFFFF

namespace TableTraits

/-- The largest count that `allocate_nodes` accepts. -/
def maxBucketCount (traits : TableTraits Key) : Nat :=
  min (2 ^ 29) (0x7FFFFFFF / traits.sizeofNode)

def calcBucket (traits : TableTraits Key) (mask : Nat) (key : Key) : Nat :=
  (traits.hash key).toNat &&& mask

end TableTraits

/--
The members of a table. `nodes` is empty while `nodes_` is a null pointer;
`bucket_count_` and `bucket_count_mask_` are read off its length.
-/
structure FlatHashTable (Key Value : Type) where
  nodes : List (Option (Key × Value)) := []
  usedNodeCount : Nat := 0
  beginBucket : Nat := 0

namespace FlatHashTable

open LinearProbing

/-- The mark for an iteration start that has to be chosen again. -/
def invalidBucket : Nat := 0xFFFFFFFF

/-- The next power of two above `size`, and at least eight. -/
def normalizeFlatHashTableSize (size : Nat) : Nat :=
  max (if size = 0 then 1 else 2 ^ (Nat.log2 size + 1)) 8

variable [DecidableEq Key] [Inhabited Key]

def bucketCount (table : FlatHashTable Key Value) : Nat :=
  table.nodes.length

/-- The number of buckets less one, or zero without an array. -/
def bucketCountMask (table : FlatHashTable Key Value) : Nat :=
  table.nodes.length - 1

/-- The cyclic successor of a bucket. -/
def nextBucket (mask bucket : Nat) : Nat :=
  (bucket + 1) &&& mask

/-- The stored entries in bucket order. -/
def entries (table : FlatHashTable Key Value) : List (Key × Value) :=
  elements table.nodes

/-- Whether one more node would exceed the load the table allows. -/
def isCrowded (table : FlatHashTable Key Value) : Bool :=
  decide ((table.bucketCountMask * 3) % 2 ^ 32 ≤ (table.usedNodeCount * 5) % 2 ^ 32)

/-- Forget the iteration start. -/
def invalidateIterators (table : FlatHashTable Key Value) : FlatHashTable Key Value :=
  { table with beginBucket := invalidBucket }

/-- Store the old nodes at the first free bucket of each. -/
def rehash (traits : TableTraits Key) (mask : Nat) :
    List (Option (Key × Value)) →
      List (Option (Key × Value)) →
      Except Fault (List (Option (Key × Value)))
  | [], slots => .ok slots
  | none :: rest, slots => rehash traits mask rest slots
  | some entry :: rest, slots =>
    match probeFrom (nextBucket mask) Option.isNone slots
        slots.length (traits.calcBucket mask entry.1) with
    | none => .error .spin
    | some bucket => rehash traits mask rest (slots.set bucket (some entry))

/-- Move all nodes to a new array. -/
def resize (traits : TableTraits Key) (newSize : Nat) (table : FlatHashTable Key Value) :
    Except Fault (FlatHashTable Key Value) := do
  check (newSize ≤ traits.maxBucketCount)
  let slots ← rehash traits (newSize - 1) table.nodes (List.replicate newSize none)
  return {
    nodes := slots
    usedNodeCount := if table.nodes = [] then 0 else table.usedNodeCount
    beginBucket := invalidBucket
  }

/-- Walk from the bucket of a key to the key or to an empty node. -/
def probeKey (traits : TableTraits Key) (key : Key) (table : FlatHashTable Key Value) :
    Except Fault Nat :=
  match probeFrom (nextBucket table.bucketCountMask)
      (fun node => node.isNone || node.any (fun entry => entry.1 = key))
      table.nodes table.bucketCount
      (traits.calcBucket table.bucketCountMask key) with
  | none => .error .spin
  | some bucket => .ok bucket

/--
Insert a node unless its key is present, and return the bucket of the key. The
second `CHECK` of the growing branch keeps the recursive call from growing
again, so there are two levels.
-/
def emplaceAtDepth (traits : TableTraits Key) (key : Key) (value : Value) :
    Nat → FlatHashTable Key Value → Except Fault (FlatHashTable Key Value × Nat × Bool)
  | 0, _ => .error .spin
  | depth + 1, table => do
      check (key ≠ default)
      let table ←
        if table.bucketCountMask = 0 then do
          check (table.usedNodeCount = 0)
          table.resize traits 8
        else
          pure table
      let bucket ← table.probeKey traits key
      match table.nodes[bucket]? with
      | some none =>
        if table.isCrowded then do
          let table ← table.resize traits (2 * table.bucketCount)
          check (table.isCrowded = false)
          emplaceAtDepth traits key value depth table
        else
          return ({
            nodes := table.nodes.set bucket (some (key, value))
            usedNodeCount := table.usedNodeCount + 1
            beginBucket := invalidBucket
          }, bucket, true)
      | _ => return (table, bucket, false)

/-- Insert a node unless its key is present, and return the bucket of the key. -/
def emplace (traits : TableTraits Key) (key : Key) (value : Value)
    (table : FlatHashTable Key Value) :
    Except Fault (FlatHashTable Key Value × Nat × Bool) :=
  emplaceAtDepth traits key value 2 table

def assign (bucket : Nat) (value : Value) (table : FlatHashTable Key Value) :
    FlatHashTable Key Value :=
  match table.nodes[bucket]? with
  | some (some entry) => { table with nodes := table.nodes.set bucket (some (entry.1, value)) }
  | _ => table

def insertOrAssign [Inhabited Value] (traits : TableTraits Key) (key : Key) (value : Value)
    (table : FlatHashTable Key Value) :
    Except Fault (FlatHashTable Key Value) := do
  let (table, bucket, _) ← table.emplace traits key default
  return table.assign bucket value

/-- The bucket of a key, if it is stored. -/
def findImpl (traits : TableTraits Key) (key : Key) (table : FlatHashTable Key Value) :
    Except Fault (Option Nat) :=
  if table.nodes = [] ∨ key = default then
    .ok none
  else do
    let bucket ← table.probeKey traits key
    match table.nodes[bucket]? with
    | some (some _) => return some bucket
    | _ => return none

/-- Clear a bucket for good, or move the node found at `test` into it. -/
def shiftNode (hole test : Nat) (nodes : List (Option (Key × Value))) :
    List (Option (Key × Value)) :=
  match nodes[test]? with
  | some node => (nodes.set hole node).set test none
  | none => nodes

/--
The first loop of `erase_node`, up to the end of the array. The result has the
last hole, or `none` when the scan met an empty node and the function returned.
-/
def eraseForward (traits : TableTraits Key) (mask : Nat) :
    Nat → Nat → Nat → List (Option (Key × Value)) → List (Option (Key × Value)) × Option Nat
  | 0, _, hole, nodes => (nodes, some hole)
  | remaining + 1, test, hole, nodes =>
    match nodes[test]? with
    | some (some entry) =>
      let want := traits.calcBucket mask entry.1
      if want ≤ hole ∨ want > test then
        eraseForward traits mask remaining (test + 1) test (shiftNode hole test nodes)
      else
        eraseForward traits mask remaining (test + 1) hole nodes
    | _ => (nodes, none)

/--
The second loop of `erase_node`, from the start of the array. `emptyI` and
`testI` count on past the end of the array, as in the source. Without an empty
node the loop would run past the end.
-/
def eraseWrapped (traits : TableTraits Key) (mask count : Nat) :
    Nat → Nat → Nat → List (Option (Key × Value)) → Except Fault (List (Option (Key × Value)))
  | 0, _, _, _ => .error .outOfBounds
  | remaining + 1, testI, emptyI, nodes =>
    let testBucket := testI - count
    match nodes[testBucket]? with
    | some (some entry) =>
      let home := traits.calcBucket mask entry.1
      let want := if home < emptyI then home + count else home
      if want ≤ emptyI ∨ want > testI then
        eraseWrapped traits mask count remaining (testI + 1) testI
          (shiftNode (if emptyI < count then emptyI else emptyI - count) testBucket nodes)
      else
        eraseWrapped traits mask count remaining (testI + 1) emptyI nodes
    | _ => .ok nodes

/-- Both loops of `erase_node`, from the bucket that has been cleared. -/
def closeGap (traits : TableTraits Key) (bucket : Nat) (nodes : List (Option (Key × Value))) :
    Except Fault (List (Option (Key × Value))) :=
  let count := nodes.length
  match eraseForward traits (count - 1)
      (count - (bucket + 1)) (bucket + 1) bucket nodes with
  | (nodes, none) => .ok nodes
  | (nodes, some hole) => eraseWrapped traits (count - 1) count count count hole nodes

/-- Clear the node in a bucket and shift later nodes back over the gap. -/
def eraseNode (traits : TableTraits Key) (bucket : Nat) (table : FlatHashTable Key Value) :
    Except Fault (FlatHashTable Key Value) := do
  let nodes ← closeGap traits bucket (table.nodes.set bucket none)
  return {
    table with
    nodes := nodes
    usedNodeCount := table.usedNodeCount - 1
  }

/-- Move to a smaller array when few nodes are left. -/
def tryShrink (traits : TableTraits Key) (table : FlatHashTable Key Value) :
    Except Fault (FlatHashTable Key Value) := do
  let table ←
    if (table.usedNodeCount * 10) % 2 ^ 32 < table.bucketCountMask ∧
        table.bucketCountMask > 7 then
      table.resize traits (normalizeFlatHashTableSize ((table.usedNodeCount + 1) * 5 / 3 + 1))
    else
      pure table
  return table.invalidateIterators

/-- Erase a key and return the number of erased nodes. -/
def erase (traits : TableTraits Key) (key : Key) (table : FlatHashTable Key Value) :
    Except Fault (FlatHashTable Key Value × Nat) := do
  match ← table.findImpl traits key with
  | none => return (table, 0)
  | some bucket =>
    let table ← table.eraseNode traits bucket
    let table ← table.tryShrink traits
    return (table, 1)

/-- Whether a key is stored. -/
def count (traits : TableTraits Key) (key : Key) (table : FlatHashTable Key Value) :
    Except Fault Nat := do
  match ← table.findImpl traits key with
  | none => return 0
  | some _ => return 1

/-- Drop the array. -/
def clear (_ : FlatHashTable Key Value) : FlatHashTable Key Value :=
  {}

/--
The bucket at which iteration starts: if none is chosen, the first node at or
after a random one.
-/
def beginImpl (random : UInt32) (table : FlatHashTable Key Value) :
    Except Fault (FlatHashTable Key Value × Option Nat) :=
  if table.usedNodeCount = 0 then
    .ok (table, none)
  else if table.beginBucket = invalidBucket then
    match probeFrom (nextBucket table.bucketCountMask) Option.isSome
        table.nodes table.bucketCount
        (random.toNat &&& table.bucketCountMask) with
    | none => .error .spin
    | some bucket =>
      .ok ({ table with beginBucket := bucket }, some bucket)
  else
    .ok (table, some table.beginBucket)

/--
The next node after `bucket`, or the end when the walk is back at the start of
the iteration.
-/
def iteratorNext (nodes : List (Option (Key × Value))) (start : Nat) :
    Nat → Nat → Option Nat
  | 0, _ => none
  | fuel + 1, bucket =>
    let following := next nodes.length bucket
    if following = start then
      none
    else
      match nodes[following]? with
      | some (some _) => some following
      | _ => iteratorNext nodes start fuel following

/-- The entries a range-based loop visits from a bucket on. -/
def iterateFrom (nodes : List (Option (Key × Value))) (start : Nat) :
    Nat → Nat → List (Key × Value)
  | 0, _ => []
  | fuel + 1, bucket =>
    match nodes[bucket]? with
    | some (some entry) =>
      entry ::
        match iteratorNext nodes start nodes.length bucket with
        | none => []
        | some following => iterateFrom nodes start fuel following
    | _ => []

/-- The entries a range-based loop visits, in its order. -/
def iterate (random : UInt32) (table : FlatHashTable Key Value) :
    Except Fault (FlatHashTable Key Value × List (Key × Value)) := do
  match ← table.beginImpl random with
  | (table, none) => return (table, [])
  | (table, some start) =>
    return (table, iterateFrom table.nodes start table.bucketCount start)

end FlatHashTable

end Autoproto
