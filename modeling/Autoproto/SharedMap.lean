import Autoproto.SharedTableErase
import Autoproto.SharedTableIterate
import Mathlib.Data.Set.Card

namespace Autoproto.SharedTable

open FlatHashTable SharedMemory SharedMemory.Program
open FlatHashTable (maxNodeCount)

/-!
# The shared table as a finite map

What a program that runs alone does to the table, as a step of a finite map:
assignment and erasure update it at one key, a search evaluates it, and a loop
enumerates it.
-/

variable [Inhabited Key] [DecidableEq Key]

def HoldsMap (traits : TableTraits Key) (cells : TableCells Key Value)
    (contents : Key → Option Value) : Prop :=
  ∃ map : FlatHashMap traits Value, Holds cells map.table ∧ map.contents = contents

def Room (traits : TableTraits Key) (contents : Key → Option Value) (key : Key) : Prop :=
  contents key ≠ none ∨ {stored | contents stored ≠ none}.ncard < maxNodeCount traits

section Map

variable {traits : TableTraits Key} {cells : TableCells Key Value} {contents : Key → Option Value}
  {patience : Nat}

theorem holdsMap_empty : HoldsMap traits ({} : TableCells Key Value) (fun _ => none) :=
  ⟨FlatHashMap.empty, holds_empty, rfl⟩

theorem room_iff {map : FlatHashMap traits Value} {key : Key} :
    Room traits map.contents key ↔ key ∈ map.keys ∨ map.keys.card < maxNodeCount traits := by
  have sameKeys : {stored | map.contents stored ≠ none} = ↑map.keys := by
    ext stored
    exact FlatHashMap.mem_keys.symm
  rw [Room, sameKeys, Set.ncard_coe_finset, FlatHashMap.mem_keys]

theorem HoldsMap.room_of_empty (holds : HoldsMap traits ({} : TableCells Key Value) contents)
    (key : Key) : Room traits contents key := by
  obtain ⟨map, mapHolds, rfl⟩ := holds
  have unused : map.table.usedNodeCount = 0 := mapHolds.used.symm
  refine room_iff.mpr (Or.inr ?_)
  rw [FlatHashMap.keys, card_keys map.wellFormed, unused]
  exact maxNodeCount_pos traits

section

variable (holds : HoldsMap traits cells contents)
include holds

section

variable (enough : traits.maxBucketCount ≤ patience)
include enough

theorem HoldsMap.insertOrAssign [Inhabited Value]
    {key : Key} (keyNonempty : key ≠ default) (room : Room traits contents key) (value : Value) :
    ∃ reached, (SharedTable.insertOrAssign traits patience key value).runAlone
          performTable cells = .ok (reached, ()) ∧
        HoldsMap traits reached (Function.update contents key (some value)) := by
  obtain ⟨map, mapHolds, rfl⟩ := holds
  obtain ⟨assigned, done, wellFormed, updated⟩ :=
    insertOrAssign_spec map.wellFormed keyNonempty (room_iff.mp room) value
  obtain ⟨reached, runs, reachedHolds⟩ :=
    runAlone_insertOrAssign mapHolds map.wellFormed enough done
  exact ⟨reached, runs, ⟨assigned, wellFormed⟩, reachedHolds, updated⟩

/-- A search evaluates the map. -/
theorem HoldsMap.findValue (key : Key) :
    (SharedTable.findValue traits patience key).runAlone performTable cells =
      .ok (cells, contents key) := by
  obtain ⟨map, mapHolds, rfl⟩ := holds
  exact runAlone_findValue mapHolds map.wellFormed enough

theorem HoldsMap.count (key : Key) :
    (SharedTable.count traits patience key).runAlone performTable cells =
      .ok (cells, if (contents key).isSome then 1 else 0) := by
  obtain ⟨map, mapHolds, rfl⟩ := holds
  exact runAlone_count mapHolds map.wellFormed enough

theorem HoldsMap.erase (key : Key) : ∃ reached erasedCount,
      (SharedTable.erase traits patience key).runAlone performTable cells =
          .ok (reached, erasedCount) ∧
        HoldsMap traits reached (Function.update contents key none) := by
  obtain ⟨map, mapHolds, rfl⟩ := holds
  obtain ⟨erased, erasedCount, done, wellFormed, updated⟩ := erase_spec map.wellFormed key
  obtain ⟨reached, runs, reachedHolds⟩ := runAlone_erase mapHolds map.wellFormed enough done
  exact ⟨reached, erasedCount, runs, ⟨erased, wellFormed⟩, reachedHolds, updated⟩

theorem HoldsMap.iterate (random : UInt32)
    {visit : NodePointer → TableProgram Key Value Visited} {seen : Key × Value → Visited}
    (visits : ∀ cells pointer entry, cells.heap pointer = some (nodeOf (some entry)) →
        (visit pointer).runAlone performTable cells = .ok (cells, seen entry)) : ∃ reached order,
      (SharedTable.iterate patience random visit).runAlone performTable
          cells = .ok (reached, order.map seen) ∧ HoldsMap traits reached contents ∧
        FlatHashMap.Enumerates order contents := by
  obtain ⟨map, mapHolds, rfl⟩ := holds
  obtain ⟨begun, order, done, wellFormed, perm⟩ := iterate_spec map.wellFormed random
  obtain ⟨reached, runs, reachedHolds⟩ :=
    runAlone_iterate mapHolds map.wellFormed enough done visits
  exact ⟨reached, order, runs, ⟨⟨_, wellFormed⟩, reachedHolds, rfl⟩,
    (perm.map Prod.fst).nodup_iff.mpr map.wellFormed.distinct,
    fun key value => by
      rw [perm.mem_iff]
      exact (contents_eq_some_iff map.wellFormed).symm⟩

end

end

end Map

end Autoproto.SharedTable
