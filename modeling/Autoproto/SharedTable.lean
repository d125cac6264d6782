import Autoproto.FlatHashTable
import Autoproto.SharedMemory

namespace Autoproto.SharedTable

open SharedMemory Program
open FlatHashTable (invalidBucket nextBucket normalizeFlatHashTableSize)

/-!
# The hash table as threads share it

`FlatHashTable` has no lock. Its functions are programs here that make their
accesses of the members and nodes in the order of the source, and other threads
can do the same in between. An access of a node that has been freed or of a
value that has not been constructed is a fault. A loop of more than `patience`
rounds is one that does not end; what is proved holds for every bound that is
large enough for a table that no one else changes.
-/

/-- A node, as an array and an index. -/
structure NodePointer where
  array : Nat
  bucket : Nat
  deriving Repr, DecidableEq

namespace NodePointer

/-- The increment of a pointer. -/
def next (node : NodePointer) : NodePointer :=
  ⟨node.array, node.bucket + 1⟩

/-- Addresses, with arrays in the order of allocation. -/
def le (first second : NodePointer) : Bool :=
  first.array < second.array ∨ (first.array = second.array ∧ first.bucket ≤ second.bucket)

end NodePointer

/-- The array that a null pointer points to.  It is never allocated. -/
def nullptr : Nat := 0

/-- A node; its value may not be constructed. -/
structure MapNode (Key Value : Type) where
  first : Key
  second : Option Value
  deriving Repr, DecidableEq

/-- The members of a table that are numbers. -/
inductive Member where
  | usedNodeCount
  | bucketCountMask
  | bucketCount
  | beginBucket
  deriving Repr, DecidableEq

/-- The members of a table, and allocated nodes. -/
structure TableCells (Key Value : Type) where
  nodes : Nat := nullptr
  member : Member → Nat := fun _ => 0
  heap : NodePointer → Option (MapNode Key Value) := fun _ => none
  nextArray : Nat := 1

/-- The accesses to the memory of a table. -/
inductive TableAccess (Key Value : Type) where
  | readNodes
  | writeNodes (array : Nat)
  | readMember (member : Member)
  | writeMember (member : Member) (number : Nat)
  | newNodes (size : Nat)
  | deleteNodes (array : Nat)
  | readKey (node : NodePointer)
  | writeKey (node : NodePointer) (key : Key)
  | readValue (node : NodePointer)
  | assignValue (node : NodePointer) (value : Value)
  | constructValue (node : NodePointer) (value : Value)
  | destroyValue (node : NodePointer)
  deriving Repr, DecidableEq

/-- What an access returns. -/
def TableAccess.Reply : TableAccess Key Value → Type
  | .readNodes => Nat
  | .readMember _ => Nat
  | .newNodes _ => Nat
  | .readKey _ => Key
  | .readValue _ => Value
  | _ => Unit

namespace TableCells

variable [Inhabited Key]

/-- A node that is allocated. -/
def node (pointer : NodePointer) (cells : TableCells Key Value) :
    Except Fault (MapNode Key Value) :=
  match cells.heap pointer with
  | some node => .ok node
  | none => .error .outOfBounds

/-- A value that is constructed. -/
def value (pointer : NodePointer) (cells : TableCells Key Value) : Except Fault Value := do
  let node ← cells.node pointer
  match node.second with
  | some value => return value
  | none => .error .outOfBounds

def setNode (pointer : NodePointer) (node : MapNode Key Value)
    (cells : TableCells Key Value) : TableCells Key Value :=
  { cells with heap := Function.update cells.heap pointer (some node) }

def setMember (member : Member) (number : Nat)
    (cells : TableCells Key Value) : TableCells Key Value :=
  { cells with member := Function.update cells.member member number }

/-- Add an array of empty nodes to the heap. -/
def allocate (size : Nat) (cells : TableCells Key Value) : TableCells Key Value :=
  { cells with
    heap := fun pointer =>
      if pointer.array = cells.nextArray then
        if pointer.bucket < size then some ⟨default, none⟩ else none
      else
        cells.heap pointer
    nextArray := cells.nextArray + 1 }

/-- Take an array off the heap. -/
def deallocate (array : Nat) (cells : TableCells Key Value) : TableCells Key Value :=
  { cells with
    heap := fun pointer =>
      if pointer.array = array then none else cells.heap pointer }

end TableCells

/--
Only an array that is allocated can be deleted, and then its first node is, with
the destructors of all nodes.
-/
def performTable [Inhabited Key] :
    (request : TableAccess Key Value) →
      TableCells Key Value →
      Except Fault (TableCells Key Value × request.Reply)
  | .readNodes, cells => .ok (cells, cells.nodes)
  | .writeNodes array, cells => .ok ({ cells with nodes := array }, ())
  | .readMember member, cells => .ok (cells, cells.member member)
  | .writeMember member number, cells =>
    .ok (cells.setMember member number, ())
  | .newNodes size, cells => .ok (cells.allocate size, cells.nextArray)
  | .deleteNodes array, cells => do
      let _ ← cells.node ⟨array, 0⟩
      return (cells.deallocate array, ())
  | .readKey pointer, cells => do
      let node ← cells.node pointer
      return (cells, node.first)
  | .writeKey pointer key, cells => do
      let node ← cells.node pointer
      return (cells.setNode pointer ⟨key, node.second⟩, ())
  | .readValue pointer, cells => do
      let value ← cells.value pointer
      return (cells, value)
  | .assignValue pointer value, cells => do
      let node ← cells.node pointer
      let _ ← cells.value pointer
      return (cells.setNode pointer ⟨node.first, some value⟩, ())
  | .constructValue pointer value, cells => do
      let node ← cells.node pointer
      return (cells.setNode pointer ⟨node.first, some value⟩, ())
  | .destroyValue pointer, cells => do
      let node ← cells.node pointer
      let _ ← cells.value pointer
      return (cells.setNode pointer ⟨node.first, none⟩, ())

/-- A program that accesses one table. -/
abbrev TableProgram (Key Value Result : Type) :=
  Program (TableAccess Key Value) TableAccess.Reply Result

section Accesses

def readNodes : TableProgram Key Value Nat :=
  request TableAccess.readNodes

def writeNodes (array : Nat) : TableProgram Key Value Unit :=
  request (TableAccess.writeNodes array)

def readMember (member : Member) : TableProgram Key Value Nat :=
  request (TableAccess.readMember member)

def writeMember (member : Member) (number : Nat) : TableProgram Key Value Unit :=
  request (TableAccess.writeMember member number)

/-- The expression `new NodeT[size]`. -/
def newNodes (size : Nat) : TableProgram Key Value Nat :=
  request (TableAccess.newNodes size)

/-- The function `clear_nodes` deletes an array. -/
def clearNodes (array : Nat) : TableProgram Key Value Unit :=
  request (TableAccess.deleteNodes array)

def readKey (node : NodePointer) : TableProgram Key Value Key :=
  request (TableAccess.readKey node)

def writeKey (node : NodePointer) (key : Key) : TableProgram Key Value Unit :=
  request (TableAccess.writeKey node key)

def readValue (node : NodePointer) : TableProgram Key Value Value :=
  request (TableAccess.readValue node)

def assignValue (node : NodePointer) (value : Value) : TableProgram Key Value Unit :=
  request (TableAccess.assignValue node value)

def constructValue (node : NodePointer) (value : Value) : TableProgram Key Value Unit :=
  request (TableAccess.constructValue node value)

def destroyValue (node : NodePointer) : TableProgram Key Value Unit :=
  request (TableAccess.destroyValue node)

end Accesses

section Programs

variable [DecidableEq Key] [Inhabited Key] (traits : TableTraits Key) (patience : Nat)

/-- Whether a node has the default key. -/
def isEmpty (node : NodePointer) : TableProgram Key Value Bool := do
  let key ← readKey node
  return decide (key = default)

/-- The assignment of a node that is moved from. -/
def moveNode (target source : NodePointer) : TableProgram Key Value Unit := do
  let first ← readKey source
  writeKey target first
  writeKey source default
  let second ← readValue source
  constructValue target second
  destroyValue source

/-- The destructor of a node, which becomes empty. -/
def clearNode (node : NodePointer) : TableProgram Key Value Unit := do
  writeKey node default
  destroyValue node

/-- The home of a key under the current mask. -/
def calcBucket (key : Key) : TableProgram Key Value Nat := do
  let mask ← readMember .bucketCountMask
  return traits.calcBucket mask key

/-- The next bucket, cyclically. -/
def followingBucket (bucket : Nat) : TableProgram Key Value Nat := do
  let mask ← readMember .bucketCountMask
  return nextBucket mask bucket

/-- Forget the iteration start. -/
def invalidateIterators : TableProgram Key Value Unit :=
  writeMember .beginBucket invalidBucket

/-- Allocate a new array and make it the array of the table. -/
def allocateNodes (size : Nat) : TableProgram Key Value Unit := do
  require (size ≤ traits.maxBucketCount)
  let array ← newNodes size
  writeNodes array
  writeMember .bucketCountMask (size - 1)
  writeMember .bucketCount size
  invalidateIterators

/-- Walk to the first empty node. -/
def probeEmpty : Nat → Nat → TableProgram Key Value Nat
  | 0, _ => .abort .spin
  | patience + 1, bucket => do
      let array ← readNodes
      if ← isEmpty ⟨array, bucket⟩ then
        return bucket
      else
        let bucket ← followingBucket bucket
        probeEmpty patience bucket

/-- The loop of `resize` over the old array. -/
def moveNodes (oldNodes : Nat) :
    Nat → Nat → TableProgram Key Value Unit
  | 0, _ => return ()
  | remaining + 1, index => do
      if ← isEmpty ⟨oldNodes, index⟩ then
        moveNodes oldNodes remaining (index + 1)
      else
        let key ← readKey ⟨oldNodes, index⟩
        let bucket ← calcBucket traits key
        let bucket ← probeEmpty patience bucket
        let array ← readNodes
        moveNode ⟨array, bucket⟩ ⟨oldNodes, index⟩
        moveNodes oldNodes remaining (index + 1)

/-- Move all nodes to a new array. -/
def resize (newSize : Nat) : TableProgram Key Value Unit := do
  let array ← readNodes
  if array = nullptr then
    allocateNodes traits newSize
    writeMember .usedNodeCount 0
  else
    let oldNodes ← readNodes
    let oldSize ← readMember .usedNodeCount
    let oldBucketCount ← readMember .bucketCount
    allocateNodes traits newSize
    writeMember .usedNodeCount oldSize
    moveNodes traits patience oldNodes oldBucketCount 0
    clearNodes oldNodes

/-- Walk to the node of a key or an empty one, and tell which. -/
def probeKey (key : Key) :
    Nat → Nat → TableProgram Key Value (NodePointer × Bool)
  | 0, _ => .abort .spin
  | patience + 1, bucket => do
      let array ← readNodes
      if ← isEmpty ⟨array, bucket⟩ then
        return (⟨array, bucket⟩, false)
      else
        let nodeKey ← readKey ⟨array, bucket⟩
        if nodeKey = key then
          return (⟨array, bucket⟩, true)
        else
          let bucket ← followingBucket bucket
          probeKey key patience bucket

/-- Whether one more node would exceed the load the table allows. -/
def isCrowded : TableProgram Key Value Bool := do
  let used ← readMember .usedNodeCount
  let mask ← readMember .bucketCountMask
  return decide ((mask * 3) % 2 ^ 32 ≤ (used * 5) % 2 ^ 32)

/-- The first array has eight buckets. -/
def allocateFirst : TableProgram Key Value Unit := do
  let mask ← readMember .bucketCountMask
  if mask = 0 then
    let used ← readMember .usedNodeCount
    require (used = 0)
    resize traits patience 8
  else
    return ()

/-- A new node is counted. -/
def constructNode (node : NodePointer) (key : Key) (value : Value) :
    TableProgram Key Value Unit := do
  invalidateIterators
  writeKey node key
  constructValue node value
  let used ← readMember .usedNodeCount
  writeMember .usedNodeCount ((used + 1) % 2 ^ 32)

/--
Insert a node unless its key is present. When others change the table, any
number of growths can follow.
-/
def emplace (key : Key) (value : Value) :
    Nat → TableProgram Key Value (NodePointer × Bool)
  | 0 => .abort .spin
  | depth + 1 => do
      require (key ≠ default)
      allocateFirst traits patience
      let bucket ← calcBucket traits key
      let (node, found) ← probeKey key patience bucket
      if found then
        return (node, false)
      else if ← isCrowded then
        let count ← readMember .bucketCount
        resize traits patience ((2 * count) % 2 ^ 32)
        let crowded ← isCrowded
        require (crowded = false)
        emplace key value depth
      else
        constructNode node key value
        return (node, true)

/-- The expression `map[key] = value`. -/
def insertOrAssign [Inhabited Value] (key : Key) (value : Value) : TableProgram Key Value Unit := do
  let (node, _) ← emplace traits patience key default patience
  assignValue node value

/-- The node of a key, if there is one. -/
def findImpl (key : Key) : TableProgram Key Value (Option NodePointer) := do
  let array ← readNodes
  if array = nullptr ∨ key = default then
    return none
  else
    let bucket ← calcBucket traits key
    let (node, found) ← probeKey key patience bucket
    return if found then some node else none

/-- The value of a key, if there is one. -/
def findValue (key : Key) : TableProgram Key Value (Option Value) := do
  match ← findImpl traits patience key with
  | none => return none
  | some node =>
    let value ← readValue node
    return some value

/-- The number of nodes with a key. -/
def count (key : Key) : TableProgram Key Value Nat := do
  let found ← findImpl traits patience key
  return if found.isSome then 1 else 0

/-- The first loop of `erase_node`, with the last hole, or `none` when it met an empty node. -/
def eraseForward (ending : NodePointer) :
    Nat → NodePointer → NodePointer → TableProgram Key Value (Option NodePointer)
  | 0, _, _ => .abort .spin
  | patience + 1, test, hole => do
      if test = ending then
        return some hole
      else if ← isEmpty test then
        return none
      else
        let array ← readNodes
        let key ← readKey test
        let want ← calcBucket traits key
        if NodePointer.le ⟨array, want⟩ hole ∨
            NodePointer.le ⟨array, want⟩ test = false then
          moveNode hole test
          eraseForward ending patience test.next test
        else
          eraseForward ending patience test.next hole

/-- The second loop of `erase_node`, from the start of the array. -/
def eraseWrapped (bucketCount : Nat) :
    Nat → Nat → Nat → Nat → TableProgram Key Value Unit
  | 0, _, _, _ => .abort .spin
  | patience + 1, testI, emptyI, emptyBucket => do
      let count ← readMember .bucketCount
      let testBucket := (testI + 2 ^ 32 - count) % 2 ^ 32
      let array ← readNodes
      if ← isEmpty ⟨array, testBucket⟩ then
        return ()
      else
        let array ← readNodes
        let key ← readKey ⟨array, testBucket⟩
        let home ← calcBucket traits key
        let want := if home < emptyI then home + bucketCount else home
        if want ≤ emptyI ∨ want > testI then
          let source ← readNodes
          let target ← readNodes
          moveNode ⟨target, emptyBucket⟩ ⟨source, testBucket⟩
          eraseWrapped bucketCount patience (testI + 1) testI testBucket
        else
          eraseWrapped bucketCount patience (testI + 1) emptyI emptyBucket

/-- A pointer minus the start of the array. -/
def bucketOf (node : NodePointer) : TableProgram Key Value Nat := do
  let array ← readNodes
  if node.array = array then
    return node.bucket
  else
    -- The difference of pointers to two arrays is not defined.
    .abort .outOfBounds

/-- Both loops of `erase_node`, from the node that has been cleared. -/
def closeGap (node : NodePointer) : TableProgram Key Value Unit := do
  let bucketCount ← readMember .bucketCount
  let array ← readNodes
  match ← eraseForward traits ⟨array, bucketCount⟩ patience node.next node with
  | none => return ()
  | some hole =>
    let empty ← bucketOf hole
    eraseWrapped traits bucketCount patience bucketCount empty empty

/-- Clear a node and shift later nodes back over the gap. -/
def eraseNode (node : NodePointer) : TableProgram Key Value Unit := do
  clearNode node
  let used ← readMember .usedNodeCount
  writeMember .usedNodeCount ((used + (2 ^ 32 - 1)) % 2 ^ 32)
  closeGap traits patience node

/-- Whether an array is so large for its nodes that a smaller one will do. -/
def isSparse : TableProgram Key Value Bool := do
  let used ← readMember .usedNodeCount
  let mask ← readMember .bucketCountMask
  if (used * 10) % 2 ^ 32 < mask then
    let mask ← readMember .bucketCountMask
    return decide (mask > 7)
  else
    return false

/-- Move to a smaller array when few nodes are left. -/
def tryShrink : TableProgram Key Value Unit := do
  if ← isSparse then
    let used ← readMember .usedNodeCount
    resize traits patience (normalizeFlatHashTableSize (((used + 1) * 5 % 2 ^ 32) / 3 + 1))
    invalidateIterators
  else
    invalidateIterators

/-- Erase a key and return the number of erased nodes. -/
def erase (key : Key) : TableProgram Key Value Nat := do
  match ← findImpl traits patience key with
  | none => return 0
  | some node =>
    eraseNode traits patience node
    tryShrink traits patience
    return 1

/-- The loop of `begin_impl`, whose counter is the member of the table. -/
def probeBegin : Nat → TableProgram Key Value Unit
  | 0 => .abort .spin
  | patience + 1 => do
      let array ← readNodes
      let begin ← readMember .beginBucket
      if ← isEmpty ⟨array, begin⟩ then
        let begin ← readMember .beginBucket
        let following ← followingBucket begin
        writeMember .beginBucket following
        probeBegin patience
      else
        return ()

/-- Choose the iteration start unless it is chosen. -/
def chooseBegin (random : UInt32) : TableProgram Key Value Unit := do
  let begin ← readMember .beginBucket
  if begin = invalidBucket then
    let mask ← readMember .bucketCountMask
    writeMember .beginBucket (random.toNat &&& mask)
    probeBegin patience
  else
    return ()

/-- The node at which an iteration starts, if there is one. -/
def beginImpl (random : UInt32) : TableProgram Key Value (Option NodePointer) := do
  let used ← readMember .usedNodeCount
  if used = 0 then
    return none
  else
    chooseBegin patience random
    let array ← readNodes
    let begin ← readMember .beginBucket
    return some ⟨array, begin⟩

/-- The ends of the array, and where the loop started. -/
structure Iterator where
  begin : NodePointer
  start : NodePointer
  ending : NodePointer

/-- The increment of an iterator. -/
def iteratorNext (iterator : Iterator) :
    Nat → NodePointer → TableProgram Key Value (Option NodePointer)
  | 0, _ => .abort .spin
  | patience + 1, node => do
      let following :=
        if node.next = iterator.ending then iterator.begin else node.next
      if following = iterator.start then
        return none
      else if ← isEmpty following then
        iteratorNext iterator patience following
      else
        return some following

/-- The rounds of a range-based loop from a node on. -/
def iterateFrom (visit : NodePointer → TableProgram Key Value Visited) (iterator : Iterator) :
    Nat → NodePointer → TableProgram Key Value (List Visited)
  | 0, _ => .abort .spin
  | rounds + 1, node => do
      let visited ← visit node
      match ← iteratorNext iterator patience node with
      | none => return [visited]
      | some following =>
        let others ← iterateFrom visit iterator rounds following
        return visited :: others

/-- A range-based loop, with what its body makes of each node. -/
def iterate (random : UInt32) (visit : NodePointer → TableProgram Key Value Visited) :
    TableProgram Key Value (List Visited) := do
  let start ← beginImpl patience random
  let begin ← readNodes
  let array ← readNodes
  let bucketCount ← readMember .bucketCount
  match start with
  | none => return []
  | some start =>
    iterateFrom patience visit ⟨⟨begin, 0⟩, start, ⟨array, bucketCount⟩⟩ patience start

end Programs

end Autoproto.SharedTable
