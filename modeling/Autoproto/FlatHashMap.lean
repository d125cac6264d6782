import Autoproto.FlatHashTableErase
import Autoproto.FlatHashTableIterate
import Mathlib.Data.Finset.Card
import Mathlib.Data.Finset.Dedup
import Mathlib.Logic.Function.Basic

namespace Autoproto

open List FlatHashTable Function

/-!
# The hash table as a finite map

What a well-formed table stores is a partial function from keys to values.
Assignment and erasure update that function at one key, a search evaluates it,
and a loop over the table enumerates its graph.
-/

namespace FlatHashTable

open LinearProbing

variable [DecidableEq Key] [Inhabited Key] {traits : TableTraits Key}
  {table : FlatHashTable Key Value}

def keys (table : FlatHashTable Key Value) : Finset Key :=
  (table.entries.map Prod.fst).toFinset

variable {key : Key} {value : Value}

section

variable (wellFormed : table.WellFormed traits)
include wellFormed

theorem contents_eq_some_iff : table.contents key = some value ↔ (key, value) ∈ table.entries := by
  constructor
  · intro found
    obtain ⟨entry, foundEntry, sameValue⟩ := Option.map_eq_some_iff.mp found
    have sameKey : entry.1 = key := by simpa using find?_some foundEntry
    have member := mem_of_find?_eq_some foundEntry
    rw [← sameKey, ← sameValue]
    exact member
  · intro stored
    cases found : table.entries.find? (fun entry => entry.1 = key) with
    | none =>
      have different := find?_eq_none.mp found _ stored
      simp at different
    | some entry =>
      have sameKey : entry.1 = key := by simpa using find?_some found
      have same : entry = (key, value) := inj_on_of_nodup_map wellFormed.distinct
          (mem_of_find?_eq_some found) stored sameKey
      rw [contents, found, same]
      rfl

theorem contents_eq_none_iff :
    table.contents key = none ↔ ∀ value, (key, value) ∉ table.entries := by
  rw [Option.eq_none_iff_forall_ne_some]
  constructor
  · intro unmapped value stored
    exact unmapped value ((contents_eq_some_iff wellFormed).mpr stored)
  · intro absent value found
    exact absent value ((contents_eq_some_iff wellFormed).mp found)

theorem mem_keys : key ∈ table.keys ↔ table.contents key ≠ none := by
  rw [keys, mem_toFinset, Ne, contents_eq_none_iff wellFormed, mem_map]
  constructor
  · rintro ⟨entry, stored, rfl⟩ absent
    exact absent entry.2 stored
  · intro mapped
    obtain ⟨value, stored⟩ := not_forall_not.mp mapped
    exact ⟨(key, value), stored, rfl⟩

theorem card_keys : table.keys.card = table.usedNodeCount := by
  rw [keys, toFinset_card_of_nodup wellFormed.distinct, length_map, wellFormed.used]

end

section

variable (wellFormed : table.WellFormed traits)
include wellFormed

variable {bucket : Nat} {old : Value}

omit [DecidableEq Key] in
theorem assign_spec (occupied : table.nodes[bucket]? = some (some (key, old))) (value : Value) :
    (table.assign bucket value).WellFormed traits ∧
      (table.assign bucket value).nodes[bucket]? = some (some (key, value)) ∧
      ((key, old) :: (table.assign bucket value).entries).Perm ((key, value) :: table.entries) := by
  have bound : bucket < table.nodes.length := (List.getElem?_eq_some_iff.mp occupied).1
  have allocated := List.ne_nil_of_mem (List.mem_of_getElem? occupied)
  have nodesWellFormed := wellFormed.nodesWellFormed allocated
  have assigned : table.assign bucket value = { table with
          nodes := table.nodes.set bucket (some (key, value)) } := by
    simp only [assign, occupied]
  have perm : ((key, old) :: elements (table.nodes.set bucket (some (key, value)))).Perm
        ((key, value) :: elements table.nodes) := by
    simpa using elements_set_perm occupied (some (key, value))
  have keysPerm : ((elements (table.nodes.set bucket (some (key, value)))).map Prod.fst).Perm
        ((elements table.nodes).map Prod.fst) := by
    simpa using perm.map Prod.fst
  rw [assigned]
  refine ⟨⟨fun _ => ⟨?_, ?_, ?_, ?_⟩, ?_, ?_, ?_, ?_⟩, getElem?_set_self bound, perm⟩
  · simpa using nodesWellFormed.sized
  · simp only [length_set]
    exact nodesWellFormed.chained.replace occupied rfl
  · exact keysPerm.nodup_iff.mpr nodesWellFormed.distinct
  · intro entry stored
    have keyStored := keysPerm.mem_iff.mp (mem_map_of_mem (f := Prod.fst) stored)
    obtain ⟨oldEntry, oldStored, sameKey⟩ := mem_map.mp keyStored
    rw [← sameKey]
    exact nodesWellFormed.keyed oldStored
  · have sameLength := keysPerm.length_eq
    simp only [length_map] at sameLength
    simpa only [entries, sameLength] using wellFormed.used
  · simpa [bucketCountMask] using wellFormed.load
  · simpa [bucketCount] using wellFormed.capacity
  · intro nonempty chosen
    obtain ⟨entry, begun⟩ := wellFormed.begun nonempty chosen
    by_cases same : bucket = table.beginBucket
    · refine ⟨(key, value), ?_⟩
      rw [← same, getElem?_set_self bound]
    · refine ⟨entry, ?_⟩
      rw [getElem?_set_ne same, begun]

theorem contents_of_stored {stored : FlatHashTable Key Value}
    (storedWellFormed : stored.WellFormed traits) (atKey : (key, value) ∈ stored.entries)
    (elsewhere :
      ∀ entry : Key × Value, entry.1 ≠ key → (entry ∈ stored.entries ↔ entry ∈ table.entries)) :
    stored.contents = update table.contents key (some value) := by
  funext asked
  by_cases same : asked = key
  · subst same
    rw [update_self]
    exact (contents_eq_some_iff storedWellFormed).mpr atKey
  · rw [update_of_ne same]
    apply Option.ext
    intro askedValue
    rw [contents_eq_some_iff wellFormed, contents_eq_some_iff storedWellFormed,
      elsewhere (asked, askedValue) same]

theorem contents_assign (occupied : table.nodes[bucket]? = some (some (key, old))) (value : Value) :
    (table.assign bucket value).contents = update table.contents key (some value) := by
  obtain ⟨assignedWellFormed, assigned, perm⟩ := assign_spec wellFormed occupied value
  refine contents_of_stored wellFormed assignedWellFormed (mem_elements.mpr ⟨bucket, assigned⟩) ?_
  intro entry different
  have notKey : ∀ any : Value, entry ≠ (key, any) := by
    intro any same
    exact different (congrArg Prod.fst same)
  have sameMembers := perm.mem_iff (a := entry)
  simpa [notKey old, notKey value] using sameMembers

theorem contents_of_placed {placed : FlatHashTable Key Value}
    (placedWellFormed : placed.WellFormed traits)
    (perm : placed.entries.Perm ((key, value) :: table.entries)) :
    placed.contents = update table.contents key (some value) := by
  refine contents_of_stored wellFormed placedWellFormed (perm.mem_iff.mpr (mem_cons_self ..)) ?_
  intro entry different
  have notPlaced : entry ≠ (key, value) := by
    intro same
    exact different (congrArg Prod.fst same)
  have sameMembers := perm.mem_iff (a := entry)
  simpa [notPlaced] using sameMembers

theorem insertOrAssign_spec [Inhabited Value] (keyNonempty : key ≠ default)
    (fits : key ∈ table.keys ∨ table.keys.card < maxNodeCount traits) (value : Value) : ∃ assigned,
      table.insertOrAssign traits key value = .ok assigned ∧ assigned.WellFormed traits ∧
        assigned.contents = update table.contents key (some value) := by
  rw [mem_keys wellFormed, card_keys wellFormed] at fits
  cases found : table.contents key with
  | some old =>
    have stored := (contents_eq_some_iff wellFormed).mp found
    obtain ⟨bucket, emplaced, occupied⟩ := emplace_present wellFormed stored default
    refine ⟨table.assign bucket value, ?_, (assign_spec wellFormed occupied value).1,
      contents_assign wellFormed occupied value⟩
    simp only [insertOrAssign, emplaced, ok_bind, pure_eq_ok]
  | none =>
    have absent := (contents_eq_none_iff wellFormed).mp found
    have room : table.usedNodeCount < maxNodeCount traits := by
      rcases fits with mapped | room
      · exact (mapped found).elim
      · exact room
    obtain ⟨placed, bucket, emplaced, placedWellFormed, occupied, perm⟩ :=
      emplace_absent wellFormed keyNonempty absent room default
    refine ⟨placed.assign bucket value, ?_, (assign_spec placedWellFormed occupied value).1, ?_⟩
    · simp only [insertOrAssign, emplaced, ok_bind, pure_eq_ok]
    · rw [contents_assign placedWellFormed occupied value,
        contents_of_placed wellFormed placedWellFormed perm,
        update_idem]

end

theorem insertOrAssign_default [Inhabited Value] :
    table.insertOrAssign traits default value = .error .check := by
  rw [insertOrAssign, emplace, emplaceAtDepth, check_eq_error (by simp)]
  rfl

section

variable (wellFormed : table.WellFormed traits)
include wellFormed

theorem insertOrAssign_full [Inhabited Value] (keyNonempty : key ≠ default)
    (absent : key ∉ table.keys) (full : maxNodeCount traits ≤ table.keys.card) (value : Value) :
    table.insertOrAssign traits key value = .error .check := by
  rw [mem_keys wellFormed, not_not, contents_eq_none_iff wellFormed] at absent
  rw [card_keys wellFormed] at full
  rw [insertOrAssign, emplace_full wellFormed keyNonempty absent full default, error_bind]

theorem contents_of_erased {erased : FlatHashTable Key Value}
    (erasedWellFormed : erased.WellFormed traits)
    (perm : ((key, value) :: erased.entries).Perm table.entries) :
    erased.contents = update table.contents key none := by
  have restored := contents_of_placed erasedWellFormed wellFormed perm.symm
  have absent : erased.contents key = none := by
    rw [contents_eq_none_iff erasedWellFormed]
    intro other otherStored
    have distinct := (perm.map Prod.fst).nodup_iff.mpr wellFormed.distinct
    rw [map_cons, nodup_cons] at distinct
    exact distinct.1 (mem_map.mpr ⟨_, otherStored, rfl⟩)
  rw [restored, update_idem, ← absent, update_eq_self]

theorem erase_spec (key : Key) : ∃ erased erasedCount,
      table.erase traits key = .ok (erased, erasedCount) ∧ erased.WellFormed traits ∧
        erased.contents = update table.contents key none := by
  cases found : table.contents key with
  | some value =>
    have stored := (contents_eq_some_iff wellFormed).mp found
    obtain ⟨erased, done, erasedWellFormed, perm⟩ := erase_present wellFormed stored
    exact ⟨erased, 1, done, erasedWellFormed, contents_of_erased wellFormed erasedWellFormed perm⟩
  | none =>
    have absent := (contents_eq_none_iff wellFormed).mp found
    refine ⟨table, 0, ?_, wellFormed, ?_⟩
    · simp only [erase, findImpl_absent wellFormed absent, ok_bind, pure_eq_ok]
    · rw [← found, update_eq_self]

theorem findImpl_spec (key : Key) : ∃ found, table.findImpl traits key = .ok found ∧
        found.map (fun bucket => table.nodes[bucket]?) =
          (table.contents key).map (fun value => some (some (key, value))) := by
  cases mapped : table.contents key with
  | some value =>
    obtain ⟨bucket, found, occupied⟩ :=
      findImpl_present wellFormed ((contents_eq_some_iff wellFormed).mp mapped)
    exact ⟨some bucket, found, congrArg some occupied⟩
  | none =>
    have absent := (contents_eq_none_iff wellFormed).mp mapped
    exact ⟨none, findImpl_absent wellFormed absent, rfl⟩

end

omit [DecidableEq Key] in
theorem wellFormed_empty : WellFormed traits ({} : FlatHashTable Key Value) where
  nodesWellFormed := fun allocated => (allocated rfl).elim
  used := rfl
  load := fun allocated => (allocated rfl).elim
  capacity := Nat.zero_le _
  begun := fun nonempty => (nonempty rfl).elim

theorem insertOrAssign_wellFormed [Inhabited Value] {assigned : FlatHashTable Key Value}
    (wellFormed : table.WellFormed traits)
    (done : table.insertOrAssign traits key value = .ok assigned) : assigned.WellFormed traits := by
  by_cases keyNonempty : key = default
  · rw [keyNonempty, insertOrAssign_default] at done
    cases done
  · by_cases fits : key ∈ table.keys ∨ table.keys.card < maxNodeCount traits
    · obtain ⟨expected, expectedDone, expectedWellFormed, _⟩ :=
        insertOrAssign_spec wellFormed keyNonempty fits value
      rw [expectedDone] at done
      cases done
      exact expectedWellFormed
    · obtain ⟨absent, full⟩ := not_or.mp fits
      rw [insertOrAssign_full wellFormed keyNonempty absent (Nat.le_of_not_lt full)] at done
      cases done

/-- An erasure keeps the invariant. -/
theorem erase_wellFormed {erased : FlatHashTable Key Value × Nat}
    (wellFormed : table.WellFormed traits) (done : table.erase traits key = .ok erased) :
    erased.1.WellFormed traits := by
  obtain ⟨expected, _, expectedDone, expectedWellFormed, _⟩ := erase_spec wellFormed key
  rw [expectedDone] at done
  cases done
  exact expectedWellFormed

omit [DecidableEq Key] in
theorem iterate_wellFormed {visited : FlatHashTable Key Value × List (Key × Value)}
    {random : UInt32} (wellFormed : table.WellFormed traits)
    (done : table.iterate random = .ok visited) : visited.1.WellFormed traits := by
  obtain ⟨_, _, expectedDone, expectedWellFormed, _⟩ := iterate_spec wellFormed random
  rw [expectedDone] at done
  cases done
  exact expectedWellFormed

end FlatHashTable

open FlatHashTable (maxNodeCount)

structure FlatHashMap [Inhabited Key] (traits : TableTraits Key)
    (Value : Type) where
  table : FlatHashTable Key Value
  wellFormed : table.WellFormed traits

namespace FlatHashMap

/-- Keep the invariant of a table next to the table. -/
def ofResult [Inhabited Key] {traits : TableTraits Key} (tableOf : α → FlatHashTable Key Value) :
    (result : Except Fault α) →
      (∀ returned, result = .ok returned → (tableOf returned).WellFormed traits) →
      Except Fault (FlatHashMap traits Value × α)
  | .ok returned, valid =>
    .ok (⟨tableOf returned, valid returned rfl⟩, returned)
  | .error fault, _ => .error fault

variable [DecidableEq Key] [Inhabited Key] {traits : TableTraits Key}

def empty : FlatHashMap traits Value :=
  ⟨{}, FlatHashTable.wellFormed_empty⟩

/-- The map as a partial function. -/
def contents (map : FlatHashMap traits Value) : Key → Option Value :=
  map.table.contents

def keys (map : FlatHashMap traits Value) : Finset Key :=
  map.table.keys

def set [Inhabited Value] (key : Key) (value : Value) (map : FlatHashMap traits Value) :
    Except Fault (FlatHashMap traits Value) := do
  let (assigned, _) ←
    ofResult id (map.table.insertOrAssign traits key value)
      (fun _ done => FlatHashTable.insertOrAssign_wellFormed map.wellFormed done)
  return assigned

def erase (key : Key) (map : FlatHashMap traits Value) :
    Except Fault (FlatHashMap traits Value) := do
  let (erased, _) ←
    ofResult Prod.fst (map.table.erase traits key)
      (fun _ done => FlatHashTable.erase_wellFormed map.wellFormed done)
  return erased

def find (key : Key) (map : FlatHashMap traits Value) : Except Fault (Option Value) := do
  let found ← map.table.findImpl traits key
  return (found.bind (fun bucket => map.table.nodes[bucket]?.join)).map Prod.snd

/-- The number of nodes with a key. -/
def count (key : Key) (map : FlatHashMap traits Value) : Except Fault Nat :=
  map.table.count traits key

/-- Drop all nodes. -/
def clear (map : FlatHashMap traits Value) : FlatHashMap traits Value :=
  ⟨map.table.clear, FlatHashTable.wellFormed_empty⟩

/-- The entries a range-based loop visits, in its order. -/
def iterate (random : UInt32) (map : FlatHashMap traits Value) :
    Except Fault (FlatHashMap traits Value × List (Key × Value)) := do
  let (begun, visited) ←
    ofResult Prod.fst (map.table.iterate random)
      (fun _ done => FlatHashTable.iterate_wellFormed map.wellFormed done)
  return (begun, visited.2)

variable {tableOf : α → FlatHashTable Key Value} {result : Except Fault α}

omit [DecidableEq Key] in
theorem ofResult_eq_ok {returned : α}
    (valid : ∀ returned, result = .ok returned → (tableOf returned).WellFormed traits)
    (done : result = .ok returned) :
    ofResult tableOf result valid = .ok (⟨tableOf returned, valid returned done⟩, returned) := by
  subst done
  rfl

omit [DecidableEq Key] in
/-- A computation that faulted still does. -/
theorem ofResult_eq_error {fault : Fault}
    (valid : ∀ returned, result = .ok returned → (tableOf returned).WellFormed traits)
    (failed : result = .error fault) : ofResult tableOf result valid = .error fault := by
  subst failed
  rfl

variable {key : Key}

theorem mem_keys {map : FlatHashMap traits Value} : key ∈ map.keys ↔ map.contents key ≠ none :=
  FlatHashTable.mem_keys map.wellFormed

theorem card_keys_le (map : FlatHashMap traits Value) : map.keys.card ≤ maxNodeCount traits := by
  rw [keys, card_keys map.wellFormed]
  exact map.wellFormed.used_le

/-- The default key is never stored. -/
theorem contents_default (map : FlatHashMap traits Value) : map.contents default = none := by
  refine (contents_eq_none_iff map.wellFormed).mpr ?_
  intro value stored
  exact map.wellFormed.keyed stored rfl

variable (map : FlatHashMap traits Value)

theorem set_spec [Inhabited Value] (keyNonempty : key ≠ default)
    (fits : key ∈ map.keys ∨ map.keys.card < maxNodeCount traits) (value : Value) : ∃ assigned,
      map.set key value = .ok assigned ∧
        assigned.contents = update map.contents key (some value) := by
  obtain ⟨assigned, done, assignedWellFormed, updated⟩ :=
    insertOrAssign_spec map.wellFormed keyNonempty fits value
  refine ⟨⟨assigned, assignedWellFormed⟩, ?_, updated⟩
  rw [set, ofResult_eq_ok _ done, ok_bind]
  rfl

theorem set_default [Inhabited Value] (value : Value) : map.set default value = .error .check := by
  rw [set, ofResult_eq_error _ (insertOrAssign_default), error_bind]

theorem set_full [Inhabited Value] (keyNonempty : key ≠ default) (absent : key ∉ map.keys)
    (full : maxNodeCount traits ≤ map.keys.card) (value : Value) :
    map.set key value = .error .check := by
  rw [set, ofResult_eq_error _ (insertOrAssign_full map.wellFormed keyNonempty absent full value),
    error_bind]

theorem erase_spec (key : Key) : ∃ erased,
      map.erase key = .ok erased ∧ erased.contents = update map.contents key none := by
  obtain ⟨erased, _, done, erasedWellFormed, updated⟩ := FlatHashTable.erase_spec map.wellFormed key
  refine ⟨⟨erased, erasedWellFormed⟩, ?_, updated⟩
  rw [erase, ofResult_eq_ok _ done, ok_bind]
  rfl

/-- A search evaluates the map. -/
theorem find_spec (key : Key) : map.find key = .ok (map.contents key) := by
  obtain ⟨found, done, same⟩ := findImpl_spec map.wellFormed key
  rw [find, done, ok_bind, contents]
  cases found <;> cases mapped : map.table.contents key <;> simp_all

/-- A list enumerates a partial function without repetitions. -/
structure Enumerates (order : List (Key × Value)) (map : Key → Option Value) : Prop where
  distinct : (order.map Prod.fst).Nodup
  graph : ∀ key value, (key, value) ∈ order ↔ map key = some value

omit [DecidableEq Key] [Inhabited Key] in
theorem Enumerates.perm {first second : List (Key × Value)} {map : Key → Option Value}
    (firstEnumerates : Enumerates first map) (secondEnumerates : Enumerates second map) :
    first.Perm second := by
  refine (perm_ext_iff_of_nodup (List.Nodup.of_map _ firstEnumerates.distinct)
    (List.Nodup.of_map _ secondEnumerates.distinct)).mpr ?_
  intro entry
  rw [firstEnumerates.graph entry.1 entry.2, secondEnumerates.graph entry.1 entry.2]

theorem enumerates_entries (map : FlatHashMap traits Value) :
    Enumerates map.table.entries map.contents where
  distinct := map.wellFormed.distinct
  graph := by
    intro key value
    exact (contents_eq_some_iff map.wellFormed).symm

theorem iterate_spec (random : UInt32) : ∃ begun order, map.iterate random = .ok (begun, order) ∧
        begun.contents = map.contents ∧ Enumerates order map.contents := by
  obtain ⟨begun, order, done, begunWellFormed, perm⟩ :=
    FlatHashTable.iterate_spec map.wellFormed random
  refine ⟨⟨_, begunWellFormed⟩, order, ?_, ?_, ?_, ?_⟩
  · rw [iterate, ofResult_eq_ok _ done, ok_bind]
    rfl
  · rfl
  · exact (perm.map Prod.fst).nodup_iff.mpr map.wellFormed.distinct
  · intro key value
    rw [perm.mem_iff]
    exact (contents_eq_some_iff map.wellFormed).symm

end FlatHashMap

end Autoproto
