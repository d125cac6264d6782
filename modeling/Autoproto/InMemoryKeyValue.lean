import Autoproto.FlatHashMap
import Autoproto.LengthPrefixed

namespace Autoproto

open List Function

open FlatHashTable (maxNodeCount)
open LengthPrefixed

/-!
# The in-memory key-value store

`InMemoryKeyValue` replaces the database of the full client: a hash map from strings to strings
with a counter of its writes.
-/

/-- A store: the map and the number of writes. -/
structure InMemoryKeyValue (traits : TableTraits Bytes) where
  map : FlatHashMap traits Bytes
  seqNo : UInt64

/-- A map for examples, in which all strings collide. -/
def collidingTraits : TableTraits Bytes where
  hash := fun _ => 0
  sizeofNode := 64
  sizeofNodePos := by decide
  sizeofNodeLe := by decide

namespace InMemoryKeyValue

variable {traits : TableTraits Bytes}

def fresh : InMemoryKeyValue traits :=
  ⟨FlatHashMap.empty, 0⟩

def contents (store : InMemoryKeyValue traits) : Bytes → Option Bytes :=
  store.map.contents

def set (key value : Bytes) (store : InMemoryKeyValue traits) :
    Except Fault (InMemoryKeyValue traits × UInt64) := do
  let map ← store.map.set key value
  return (⟨map, store.seqNo + 1⟩, store.seqNo + 1)

/-- Whether a key is stored. -/
def isset (key : Bytes) (store : InMemoryKeyValue traits) : Except Fault Bool := do
  let nodes ← store.map.count key
  return decide (nodes > 0)

def get (key : Bytes) (store : InMemoryKeyValue traits) : Except Fault Bytes := do
  let found ← store.map.find key
  return found.getD []

variable (random : UInt32)

/-- The pairs that `for_each` passes to its function. -/
def forEach (store : InMemoryKeyValue traits) :
    Except Fault (InMemoryKeyValue traits × List (Bytes × Bytes)) := do
  let (map, visited) ← store.map.iterate random
  return (⟨map, store.seqNo⟩, visited)

/-- Whether a string begins with another one. -/
def beginsWith (text leading : Bytes) : Bool :=
  leading.isPrefixOf text

/-- The pairs whose key begins with the given string. -/
def prefixGet (leading : Bytes) (store : InMemoryKeyValue traits) :
    Except Fault (InMemoryKeyValue traits × List (Bytes × Bytes)) := do
  let (store, visited) ← store.forEach random
  return (store, visited.filter (fun entry => beginsWith entry.1 leading))

def eraseKeys (keys : List Bytes) (map : FlatHashMap traits Bytes) :
    Except Fault (FlatHashMap traits Bytes) :=
  keys.foldlM (fun map key => map.erase key) map

def erase (key : Bytes) (store : InMemoryKeyValue traits) :
    Except Fault (InMemoryKeyValue traits × UInt64) := do
  let map ← store.map.erase key
  return (⟨map, store.seqNo + 1⟩, store.seqNo + 1)

/-- Erase several keys and count one write. -/
def eraseBatch (keys : List Bytes) (store : InMemoryKeyValue traits) :
    Except Fault (InMemoryKeyValue traits × UInt64) := do
  let map ← eraseKeys keys store.map
  return (⟨map, store.seqNo + 1⟩, store.seqNo + 1)

/-- Erase the keys that begin with the given string.  No write is counted. -/
def eraseByPrefix (leading : Bytes) (store : InMemoryKeyValue traits) :
    Except Fault (InMemoryKeyValue traits) := do
  let (store, matching) ← store.prefixGet random leading
  let map ← eraseKeys (matching.map Prod.fst) store.map
  return ⟨map, store.seqNo⟩

def storeRecords (records : List Record) (map : FlatHashMap traits Bytes) :
    Except Fault (FlatHashMap traits Bytes) :=
  records.foldlM (fun map record => map.set record.1 record.2) map

def getAll (store : InMemoryKeyValue traits) :
    Except Fault (InMemoryKeyValue traits × FlatHashMap traits Bytes) := do
  let (store, visited) ← store.forEach random
  let copy ← storeRecords visited FlatHashMap.empty
  return (store, copy)

/-- All pairs as records, in the order of the iteration. -/
def serializeAll (store : InMemoryKeyValue traits) :
    Except Fault (InMemoryKeyValue traits × Bytes) := do
  let (store, visited) ← store.forEach random
  return (store, encode visited)

/-- The number of bytes the pairs of the store take. -/
def serializedSize (store : InMemoryKeyValue traits) : Nat :=
  (encode store.map.table.entries).length

/-- A finite map after some assignments. -/
def assignRecords (map : Bytes → Option Bytes) (records : List Record) : Bytes → Option Bytes :=
  records.foldl (fun map record => update map record.1 (some record.2)) map

/-- The finite map that a sequence of records describes. -/
def mapOfRecords (records : List Record) : Bytes → Option Bytes :=
  assignRecords (fun _ => none) records

def recordKeys (records : List Record) : Finset Bytes :=
  (records.map Prod.fst).toFinset

/-- Records that fit an empty map: their keys are allowed and no more than it can hold. -/
structure Storable (traits : TableTraits Bytes) (records : List Record) : Prop where
  keyed : ∀ record ∈ records, record.1 ≠ []
  room : (recordKeys records).card ≤ maxNodeCount traits

theorem keys_of_update {map assigned : FlatHashMap traits Bytes} {key value : Bytes}
    (updated : assigned.contents = update map.contents key (some value)) :
    assigned.keys = insert key map.keys := by
  ext asked
  rw [FlatHashMap.mem_keys, updated, Finset.mem_insert, FlatHashMap.mem_keys]
  by_cases same : asked = key
  · simp [same]
  · simp [same]

variable {records : List Record}

theorem storeRecords_fits (keyed : ∀ record ∈ records, record.1 ≠ [])
    (map : FlatHashMap traits Bytes)
    (room : (map.keys ∪ recordKeys records).card ≤ maxNodeCount traits) : ∃ stored,
      storeRecords records map = .ok stored ∧
        stored.contents = assignRecords map.contents records := by
  induction records generalizing map with
  | nil => exact ⟨map, rfl, rfl⟩
  | cons record records ih =>
    have keyNonempty : record.1 ≠ default := keyed record (mem_cons_self ..)
    have unioned : map.keys ∪ recordKeys (record :: records) =
          insert record.1 map.keys ∪ recordKeys records := by
      simp [recordKeys, Finset.union_insert, Finset.insert_union]
    rw [unioned] at room
    have fits : record.1 ∈ map.keys ∨ map.keys.card < maxNodeCount traits := by
      by_cases member : record.1 ∈ map.keys
      · exact Or.inl member
      · right
        have larger := Finset.card_insert_of_notMem member
        have included : insert record.1 map.keys ⊆ insert record.1 map.keys ∪ recordKeys records :=
          Finset.subset_union_left
        have bounded := Finset.card_le_card included
        omega
    obtain ⟨assigned, done, updated⟩ := map.set_spec keyNonempty fits record.2
    obtain ⟨stored, storedDone, storedContents⟩ := ih
        (fun other member => keyed other (mem_cons_of_mem _ member))
        assigned (by rwa [keys_of_update updated])
    refine ⟨stored, ?_, ?_⟩
    · rw [storeRecords, foldlM_cons, done, ok_bind]
      exact storedDone
    · rw [storedContents, updated]
      rfl

theorem storeRecords_aborts (map : FlatHashMap traits Bytes)
    (refused : (∃ record ∈ records, record.1 = []) ∨
        maxNodeCount traits < (map.keys ∪ recordKeys records).card) :
    storeRecords records map = .error .check := by
  induction records generalizing map with
  | nil =>
    rcases refused with ⟨_, member, _⟩ | full
    · cases member
    · have bounded := map.card_keys_le
      simp [recordKeys] at full
      omega
  | cons record records ih =>
    rw [storeRecords, foldlM_cons]
    by_cases keyEmpty : record.1 = default
    · rw [keyEmpty, FlatHashMap.set_default, error_bind]
    · by_cases fits : record.1 ∈ map.keys ∨ map.keys.card < maxNodeCount traits
      · obtain ⟨assigned, done, updated⟩ := map.set_spec keyEmpty fits record.2
        rw [done, ok_bind]
        apply ih
        rcases refused with ⟨other, member, otherEmpty⟩ | full
        · rcases mem_cons.mp member with isHead | later
          · rw [isHead] at otherEmpty
            exact (keyEmpty otherEmpty).elim
          · exact Or.inl ⟨other, later, otherEmpty⟩
        · right
          rw [keys_of_update updated]
          simpa [recordKeys, Finset.union_insert, Finset.insert_union] using full
      · obtain ⟨absent, full⟩ := not_or.mp fits
        rw [map.set_full keyEmpty absent (Nat.le_of_not_lt full), error_bind]

theorem storeRecords_empty (storable : Storable traits records) :
    ∃ stored : FlatHashMap traits Bytes, storeRecords records FlatHashMap.empty = .ok stored ∧
        stored.contents = mapOfRecords records :=
  storeRecords_fits storable.keyed FlatHashMap.empty (by exact storable.room)

theorem storeRecords_empty_aborts (notStorable : ¬ Storable traits records) :
    storeRecords records (FlatHashMap.empty : FlatHashMap traits Bytes) = .error .check := by
  apply storeRecords_aborts
  by_cases keyed : ∀ record ∈ records, record.1 ≠ []
  · right
    by_contra bounded
    exact notStorable ⟨keyed, Nat.le_of_not_lt bounded⟩
  · left
    simpa using keyed

theorem contents_of_stored {map : FlatHashMap traits Bytes}
    (done : storeRecords records FlatHashMap.empty = .ok map) :
    map.contents = mapOfRecords records := by
  by_cases storable : Storable traits records
  · obtain ⟨stored, storedDone, contents⟩ := storeRecords_empty storable
    cases done.symm.trans storedDone
    exact contents
  · cases done.symm.trans (storeRecords_empty_aborts storable)

theorem eraseKeys_spec (keys : List Bytes) (map : FlatHashMap traits Bytes) : ∃ erased,
      eraseKeys keys map = .ok erased ∧
        erased.contents = fun key => if key ∈ keys then none else map.contents key := by
  induction keys generalizing map with
  | nil => exact ⟨map, rfl, by simp⟩
  | cons key keys ih =>
    obtain ⟨first, firstDone, firstContents⟩ := map.erase_spec key
    obtain ⟨erased, done, contents⟩ := ih first
    refine ⟨erased, ?_, ?_⟩
    · rw [eraseKeys, foldlM_cons, firstDone, ok_bind]
      exact done
    · rw [contents, firstContents]
      funext asked
      by_cases same : asked = key
      · simp [same]
      · simp [same]

variable (store : InMemoryKeyValue traits)

theorem forEach_spec : ∃ begun visited, store.forEach random = .ok (begun, visited) ∧
        begun.contents = store.contents ∧ FlatHashMap.Enumerates visited store.contents := by
  obtain ⟨begun, visited, done, contents, enumerates⟩ := store.map.iterate_spec random
  refine ⟨⟨begun, store.seqNo⟩, visited, ?_, contents, enumerates⟩
  rw [forEach, done, ok_bind]
  rfl

theorem prefixGet_spec (leading : Bytes) (store : InMemoryKeyValue traits) : ∃ begun matching,
      store.prefixGet random leading = .ok (begun, matching) ∧ begun.contents = store.contents ∧
        ∀ key value,
          (key, value) ∈ matching ↔ leading <+: key ∧ store.contents key = some value := by
  obtain ⟨begun, visited, done, contents, enumerates⟩ := store.forEach_spec random
  refine ⟨begun, visited.filter (fun entry => beginsWith entry.1 leading), ?_, contents, ?_⟩
  · rw [prefixGet, done, ok_bind]
    rfl
  · intro key value
    rw [mem_filter, enumerates.graph, beginsWith, isPrefixOf_iff_prefix, and_comm]

theorem eraseByPrefix_spec (leading : Bytes) (store : InMemoryKeyValue traits) : ∃ erased,
      store.eraseByPrefix random leading = .ok erased ∧
        erased.contents =
          fun key =>
            if leading <+: key then none else store.contents key := by
  obtain ⟨begun, matching, matched, contents, exact⟩ := store.prefixGet_spec random leading
  obtain ⟨erased, done, updated⟩ := eraseKeys_spec (matching.map Prod.fst) begun.map
  refine ⟨⟨erased, begun.seqNo⟩, ?_, ?_⟩
  · rw [eraseByPrefix, matched, ok_bind]
    change (eraseKeys _ _ >>= _) = _
    rw [done, ok_bind]
    rfl
  · funext key
    have erasedAt : erased.contents key =
          if key ∈ matching.map Prod.fst then none
          else store.contents key := by
      rw [updated, ← contents]
      rfl
    refine erasedAt.trans ?_
    cases mapped : store.contents key with
    | none => rw [ite_self, ite_self]
    | some value =>
      have listed : key ∈ matching.map Prod.fst ↔ leading <+: key := by
        constructor
        · intro member
          obtain ⟨entry, stored, sameKey⟩ := mem_map.mp member
          rw [← sameKey]
          exact ((exact entry.1 entry.2).mp stored).1
        · intro leads
          exact mem_map.mpr ⟨(key, value), (exact key value).mpr ⟨leads, mapped⟩, rfl⟩
      simp only [listed]

theorem get_spec (key : Bytes) (store : InMemoryKeyValue traits) :
    store.get key = .ok ((store.contents key).getD []) := by
  rw [get, store.map.find_spec, ok_bind]
  rfl

theorem assignRecords_of_notMem {key : Bytes} (absent : key ∉ records.map Prod.fst)
    (map : Bytes → Option Bytes) : assignRecords map records key = map key := by
  induction records generalizing map with
  | nil => rfl
  | cons record records ih =>
    rw [map_cons, mem_cons, not_or] at absent
    change assignRecords (update map _ _) records key = _
    rw [ih absent.2, update_of_ne absent.1]

theorem mapOfRecords_of_enumerates {contents : Bytes → Option Bytes}
    (enumerates : FlatHashMap.Enumerates records contents) : mapOfRecords records = contents := by
  have assigned : ∀ (key value : Bytes) (map : Bytes → Option Bytes), (key, value) ∈ records →
        assignRecords map records key = some value := by
    have distinct := enumerates.distinct
    clear enumerates
    intro key value
    induction records with
    | nil =>
      intro _ member
      cases member
    | cons record records ih =>
      intro map member
      rw [map_cons, nodup_cons] at distinct
      rcases mem_cons.mp member with isHead | later
      · subst isHead
        change assignRecords (update map _ _) records key = _
        rw [assignRecords_of_notMem distinct.1, update_self]
      · exact ih distinct.2 _ later
  funext key
  cases mapped : contents key with
  | some value => exact assigned key value _ ((enumerates.graph key value).mpr mapped)
  | none =>
    apply assignRecords_of_notMem
    intro member
    obtain ⟨record, stored, sameKey⟩ := mem_map.mp member
    have found := (enumerates.graph record.1 record.2).mp stored
    rw [sameKey, mapped] at found
    cases found

theorem storable_of_enumerates {store : InMemoryKeyValue traits}
    (enumerates : FlatHashMap.Enumerates records store.contents) : Storable traits records where
  keyed := by
    intro record member keyEmpty
    have found := (enumerates.graph record.1 record.2).mp member
    rw [keyEmpty] at found
    have unmapped : store.contents [] = none := store.map.contents_default
    rw [unmapped] at found
    cases found
  room := by
    have sameKeys : recordKeys records = store.map.keys := by
      ext key
      rw [recordKeys, mem_toFinset, FlatHashMap.mem_keys, Option.ne_none_iff_exists']
      constructor
      · intro member
        obtain ⟨record, stored, sameKey⟩ := mem_map.mp member
        refine ⟨record.2, ?_⟩
        rw [← sameKey]
        exact (enumerates.graph record.1 record.2).mp stored
      · intro mapped
        obtain ⟨value, found⟩ := mapped
        exact mem_map.mpr ⟨(key, value), (enumerates.graph key value).mpr found, rfl⟩
    rw [sameKeys]
    exact store.map.card_keys_le

/-- The copy of a map is the same map. -/
theorem getAll_spec : ∃ begun copy, store.getAll random = .ok (begun, copy) ∧
        begun.contents = store.contents ∧ copy.contents = store.contents := by
  obtain ⟨begun, visited, done, contents, enumerates⟩ := store.forEach_spec random
  obtain ⟨copy, copied, copyContents⟩ := storeRecords_empty (storable_of_enumerates enumerates)
  refine ⟨begun, copy, ?_, contents, ?_⟩
  · rw [getAll, done, ok_bind]
    change (storeRecords visited _ >>= _) = _
    rw [copied, ok_bind]
    rfl
  · rw [copyContents, mapOfRecords_of_enumerates enumerates]

theorem serializedSize_eq {store : InMemoryKeyValue traits}
    (enumerates : FlatHashMap.Enumerates records store.contents) :
    (encode records).length = store.serializedSize := by
  have perm := enumerates.perm store.map.enumerates_entries
  rw [serializedSize, length_encode, length_encode]
  exact (perm.map _).sum_eq

theorem serializeAll_spec : ∃ begun records,
      store.serializeAll random = .ok (begun, encode records) ∧ begun.contents = store.contents ∧
        FlatHashMap.Enumerates records store.contents ∧
        (encode records).length = store.serializedSize := by
  obtain ⟨begun, visited, done, contents, enumerates⟩ := store.forEach_spec random
  refine ⟨begun, visited, ?_, contents, enumerates, serializedSize_eq enumerates⟩
  rw [serializeAll, done, ok_bind]
  rfl

/-- The writes of a store. -/
inductive Operation where
  | set (key value : Bytes)
  | erase (key : Bytes)
  | eraseBatch (keys : List Bytes)
  | eraseByPrefix (random : UInt32) (leading : Bytes)
  deriving Repr, DecidableEq

namespace Operation

/-- Carry out a write. -/
def apply :
    Operation → InMemoryKeyValue traits → Except Fault (InMemoryKeyValue traits)
  | set key value, store => Prod.fst <$> store.set key value
  | erase key, store => Prod.fst <$> store.erase key
  | eraseBatch keys, store => Prod.fst <$> store.eraseBatch keys
  | eraseByPrefix random leading, store => store.eraseByPrefix random leading

/-- What a write does to a finite map. -/
def effect :
    Operation → (Bytes → Option Bytes) → Bytes → Option Bytes
  | set key value, map => update map key (some value)
  | erase key, map => update map key none
  | eraseBatch keys, map => fun key => if key ∈ keys then none else map key
  | eraseByPrefix _ leading, map => fun key => if leading <+: key then none else map key

def Fits : Operation → InMemoryKeyValue traits → Prop
  | set key _, store =>
    key ≠ [] ∧ (key ∈ store.map.keys ∨ store.map.keys.card < maxNodeCount traits)
  | _, _ => True

theorem apply_refines (operation : Operation) (store : InMemoryKeyValue traits)
    (fits : operation.Fits store) : ∃ written,
      operation.apply store = .ok written ∧ written.contents = operation.effect store.contents := by
  cases operation with
  | set key value =>
    obtain ⟨assigned, done, updated⟩ := store.map.set_spec fits.1 fits.2 value
    refine ⟨⟨assigned, store.seqNo + 1⟩, ?_, updated⟩
    rw [apply, InMemoryKeyValue.set, done, ok_bind]
    rfl
  | erase key =>
    obtain ⟨erased, done, updated⟩ := store.map.erase_spec key
    refine ⟨⟨erased, store.seqNo + 1⟩, ?_, updated⟩
    rw [apply, InMemoryKeyValue.erase, done, ok_bind]
    rfl
  | eraseBatch keys =>
    obtain ⟨erased, done, updated⟩ := eraseKeys_spec keys store.map
    refine ⟨⟨erased, store.seqNo + 1⟩, ?_, updated⟩
    rw [apply, InMemoryKeyValue.eraseBatch, done, ok_bind]
    rfl
  | eraseByPrefix random leading => exact eraseByPrefix_spec random leading store

theorem apply_aborts (operation : Operation) (store : InMemoryKeyValue traits)
    (unfit : ¬ operation.Fits store) : operation.apply store = .error .check := by
  cases operation with
  | set key value =>
    have mapAborts : store.map.set key value = .error .check := by
      by_cases empty : key = []
      · rw [empty]
        exact store.map.set_default value
      · have noRoom := not_or.mp (not_and.mp unfit empty)
        exact store.map.set_full empty noRoom.1 (Nat.le_of_not_lt noRoom.2) value
    rw [apply, InMemoryKeyValue.set, mapAborts, error_bind]
    rfl
  | erase | eraseBatch | eraseByPrefix => exact absurd trivial unfit

theorem contents_of_apply {operation : Operation} {store written : InMemoryKeyValue traits}
    (done : operation.apply store = .ok written) :
    written.contents = operation.effect store.contents := by
  by_cases fits : operation.Fits store
  · obtain ⟨refined, refinedDone, contents⟩ := operation.apply_refines store fits
    cases done.symm.trans refinedDone
    exact contents
  · rw [operation.apply_aborts store fits] at done
    cases done

def addedKeys : Operation → Finset Bytes
  | set key _ => {key}
  | _ => ∅

theorem keys_subset {operation : Operation} {store written : InMemoryKeyValue traits}
    (refined : written.contents = operation.effect store.contents) :
    written.map.keys ⊆ store.map.keys ∪ operation.addedKeys := by
  intro key member
  rw [FlatHashMap.mem_keys] at member
  rw [Finset.mem_union, FlatHashMap.mem_keys]
  have mapped : operation.effect store.contents key ≠ none := by rwa [← refined]
  cases operation with
  | set newKey value =>
    by_cases same : key = newKey
    · exact Or.inr (by simp [addedKeys, same])
    · left
      rwa [effect, update_of_ne same] at mapped
  | erase erasedKey =>
    left
    by_cases same : key = erasedKey
    · simp [effect, same] at mapped
    · rwa [effect, update_of_ne same] at mapped
  | eraseBatch | eraseByPrefix =>
    left
    intro absent
    apply mapped
    simp only [effect]
    rw [show store.contents key = none from absent, ite_self]

/-- Carry out writes one after the other. -/
def run (operations : List Operation) (store : InMemoryKeyValue traits) :
    Except Fault (InMemoryKeyValue traits) :=
  operations.foldlM (fun store operation => operation.apply store) store

/-- All keys that some writes can add. -/
def allAddedKeys (operations : List Operation) : Finset Bytes :=
  operations.foldr (fun operation keys => operation.addedKeys ∪ keys) ∅

/--
A run of writes with non-empty keys has the effect of the same writes on a
finite map, as long as the store can hold the keys.
-/
theorem run_refines
    (operations : List Operation)
    (store : InMemoryKeyValue traits)
    (keyed : [] ∉ allAddedKeys operations)
    (room : (store.map.keys ∪ allAddedKeys operations).card ≤ maxNodeCount traits) :
    ∃ written,
      run operations store = .ok written ∧
        written.contents =
          operations.foldl (fun map operation => operation.effect map) store.contents := by
  induction operations generalizing store with
  | nil => exact ⟨store, rfl, rfl⟩
  | cons operation operations ih =>
    have added :
        allAddedKeys (operation :: operations) = operation.addedKeys ∪ allAddedKeys operations :=
      rfl
    rw [added, Finset.mem_union, not_or] at keyed
    rw [added, ← Finset.union_assoc] at room
    have firstRoom : (store.map.keys ∪ operation.addedKeys).card ≤ maxNodeCount traits :=
      (Finset.card_le_card Finset.subset_union_left).trans room
    have fits : operation.Fits store := by
      cases operation with
      | set key value =>
        refine ⟨?_, ?_⟩
        · intro empty
          simp [addedKeys, empty] at keyed
        · by_cases stored : key ∈ store.map.keys
          · exact Or.inl stored
          · right
            have larger : (store.map.keys ∪ {key}).card = store.map.keys.card + 1 := by
              rw [Finset.union_comm, ← Finset.insert_eq, Finset.card_insert_of_notMem stored]
            rw [addedKeys, larger] at firstRoom
            exact firstRoom
      | erase | eraseBatch | eraseByPrefix => trivial
    obtain ⟨first, firstDone, firstRefined⟩ := operation.apply_refines store fits
    have smaller : first.map.keys ∪ allAddedKeys operations ⊆
          store.map.keys ∪ operation.addedKeys ∪ allAddedKeys operations :=
      Finset.union_subset_union_left (keys_subset firstRefined)
    obtain ⟨written, done, refined⟩ :=
      ih first keyed.2 ((Finset.card_le_card smaller).trans room)
    refine ⟨written, ?_, ?_⟩
    · rw [run, foldlM_cons, firstDone, ok_bind]
      exact done
    · rw [refined, firstRefined]
      rfl

theorem set_then_erased_by_prefix : ∃ written : InMemoryKeyValue collidingTraits,
    run [.set [1, 2] [3], .eraseByPrefix 0 [1]] fresh = .ok written ∧
      written.contents [1, 2] = none := by
  obtain ⟨written, returned, refined⟩ := run_refines
    [.set [1, 2] [3], .eraseByPrefix 0 [1]] (fresh : InMemoryKeyValue collidingTraits)
    (by decide) (by decide)
  exact ⟨written, returned, by rw [refined]; rfl⟩

end Operation

end InMemoryKeyValue

end Autoproto
