import Autoproto.FlatHashMap
import Autoproto.Transition

namespace Autoproto.FlatHashTable

open Function LinearProbing Transition

/-!
# Any sequence of operations on a hash table

Every operation does to the table what it does to the finite map that the table
stores, and returns the same.
-/

variable [DecidableEq Key] [Inhabited Key]

def reserve (traits : TableTraits Key) (size : Nat) (table : FlatHashTable Key Value) :
    Except Fault (FlatHashTable Key Value) :=
  if size = 0 then
    .ok table
  else do
    check (size ≤ 2 ^ 29)
    let wantSize := normalizeFlatHashTableSize (size * 5 % 2 ^ 32 / 3 + 1)
    if wantSize > table.bucketCount then table.resize traits wantSize else pure table

inductive Operation (Key Value : Type) where
  | emplace (key : Key) (value : Value)
  | find (key : Key)
  | count (key : Key)
  | eraseKey (key : Key)
  | eraseIterator (bucket : Nat)
  | reserve (size : Nat)
  | clear

def entryAt (table : FlatHashTable Key Value) (bucket : Nat) : Option (Key × Value) :=
  table.nodes[bucket]?.join

def perform (traits : TableTraits Key) (table : FlatHashTable Key Value) :
    Operation Key Value →
      Except Fault (FlatHashTable Key Value × Option (Key × Value) × Nat)
  | .emplace key value => do
    let (table, bucket, isNew) ← table.emplace traits key value
    return (table, table.entryAt bucket, isNew.toNat)
  | .find key => do
    let bucket ← table.findImpl traits key
    return (table, bucket.bind table.entryAt, 0)
  | .count key => do
    let count ← table.count traits key
    return (table, none, count)
  | .eraseKey key => do
    let (table, count) ← table.erase traits key
    return (table, none, count)
  | .eraseIterator bucket => do
    let cleared ← table.eraseNode traits bucket
    let shrunk ← cleared.tryShrink traits
    return (shrunk, table.entryAt bucket, 0)
  | .reserve size => do
    let table ← table.reserve traits size
    return (table, none, 0)
  | .clear => return (table.clear, none, 0)

def Allowed (map after : Key → Option Value) (result : Option (Key × Value) × Nat) :
    Operation Key Value → Prop
  | .emplace key value =>
    after = update map key (some ((map key).getD value)) ∧
      result = (some (key, (map key).getD value), (map key).isNone.toNat)
  | .find key => after = map ∧ result = ((map key).map fun value => (key, value), 0)
  | .count key => after = map ∧ result = (none, (map key).isSome.toNat)
  | .eraseKey key => after = update map key none ∧ result = (none, (map key).isSome.toNat)
  | .eraseIterator _ =>
    ∃ key value,
      map key = some value ∧ after = update map key none ∧ result = (some (key, value), 0)
  | .reserve _ => after = map ∧ result = (none, 0)
  | .clear => after = (fun _ => none) ∧ result = (none, 0)

/-- The largest array is large enough, no empty key is inserted, and iterators point to nodes. -/
def Fits (traits : TableTraits Key) (table : FlatHashTable Key Value) :
    Operation Key Value → Prop
  | .emplace key _ =>
    key ≠ default ∧ (table.contents key ≠ none ∨ table.keys.card < maxNodeCount traits)
  | .eraseIterator bucket => table.entryAt bucket ≠ none
  | .reserve size => normalizeFlatHashTableSize (size * 5 / 3 + 1) ≤ traits.maxBucketCount
  | _ => True

def Performs (traits : TableTraits Key) (table : FlatHashTable Key Value)
    (operation : Operation Key Value) (after : FlatHashTable Key Value) : Prop :=
  Fits traits table operation ∧ ∃ result, table.perform traits operation = .ok (after, result)

variable {traits : TableTraits Key} {table : FlatHashTable Key Value}

section

variable (wellFormed : table.WellFormed traits)
include wellFormed

omit [DecidableEq Key] in
theorem reserve_spec {size : Nat}
    (fits : normalizeFlatHashTableSize (size * 5 / 3 + 1) ≤ traits.maxBucketCount) : ∃ reserved,
      table.reserve traits size = .ok reserved ∧
        reserved.WellFormed traits ∧ reserved.entries.Perm table.entries := by
  rw [reserve]
  split
  · exact ⟨table, rfl, wellFormed, .refl _⟩
  · obtain ⟨⟨exponent, large, isPower⟩, above, _⟩ :=
      normalizeFlatHashTableSize_spec (show 0 < size * 5 / 3 + 1 by omega)
    have limit := maxBucketCount_le traits
    rw [check_eq_ok (by omega), ok_bind, Nat.mod_eq_of_lt (by omega)]
    dsimp only
    split
    case isFalse => exact ⟨table, rfl, wellFormed, .refl _⟩
    case isTrue more =>
      -- a larger power of two is at least twice as large
      have load : 5 * table.usedNodeCount <
            3 * (normalizeFlatHashTableSize (size * 5 / 3 + 1) - 1) := by
        by_cases allocated : table.nodes = []
        · have eight := eight_le_of_sized ⟨exponent, large, isPower⟩
          rw [wellFormed.used_of_unallocated allocated]
          omega
        · obtain ⟨smaller, _, length⟩ := (wellFormed.nodesWellFormed allocated).sized
          have load := wellFormed.load allocated
          rw [isPower, bucketCount, length, gt_iff_lt, Nat.pow_lt_pow_iff_right (by decide)] at more
          have twice := Nat.pow_le_pow_right (show 0 < 2 by decide) more
          rw [bucketCountMask, length] at load
          omega
      obtain ⟨resized, done, resizedWellFormed, _, perm, _⟩ :=
        resize_wellFormed wellFormed _ ⟨exponent, large, isPower⟩ fits load
      exact ⟨resized, done, resizedWellFormed, perm⟩

theorem findEntry_spec (key : Key) : ∃ found, table.findImpl traits key = .ok found ∧
        found.bind table.entryAt = (table.contents key).map (fun value => (key, value)) ∧
        found.isSome = (table.contents key).isSome := by
  obtain ⟨found, returned, same⟩ := findImpl_spec wellFormed key
  refine ⟨found, returned, ?_, by simpa using congrArg Option.isSome same⟩
  have entries := congrArg (fun nodes => nodes.bind Option.join) same
  rw [Option.bind_map, Option.bind_map] at entries
  exact entries.trans (Option.map_eq_bind).symm

theorem perform_spec {operation : Operation Key Value} (fits : Fits traits table operation) :
    ∃ after result, table.perform traits operation = .ok (after, result) ∧
        after.WellFormed traits ∧ Allowed table.contents after.contents result operation := by
  cases operation with
  | emplace key value =>
    obtain ⟨notEmpty, fits⟩ := fits
    cases found : table.contents key with
    | some old =>
      obtain ⟨bucket, emplaced, occupied⟩ :=
        emplace_present wellFormed ((contents_eq_some_iff wellFormed).mp found) value
      refine ⟨table, _, by rw [perform, emplaced]; rfl, wellFormed, ?_, ?_⟩
      · rw [found, Option.getD_some, ← found, update_eq_self]
      · rw [found, entryAt, occupied]
        rfl
    | none =>
      rw [card_keys wellFormed] at fits
      obtain ⟨placed, bucket, emplaced, placedWellFormed, occupied, perm⟩ :=
        emplace_absent wellFormed notEmpty ((contents_eq_none_iff wellFormed).mp found)
          (fits.resolve_left (not_not.mpr found)) value
      refine ⟨placed, _, by rw [perform, emplaced]; rfl, placedWellFormed, ?_, ?_⟩
      · rw [found, contents_of_placed wellFormed placedWellFormed perm, Option.getD_none]
      · rw [found, entryAt, occupied]
        rfl
  | find key =>
    obtain ⟨bucket, found, entry, _⟩ := findEntry_spec wellFormed key
    refine ⟨table, _, by rw [perform, found]; rfl, wellFormed, rfl, ?_⟩
    rw [entry]
  | count key =>
    obtain ⟨bucket, found, _, isThere⟩ := findEntry_spec wellFormed key
    refine ⟨table, (none, bucket.isSome.toNat), ?_, wellFormed, rfl, by rw [isThere]⟩
    rw [perform, count, found]
    cases bucket with
    | none | some => rfl
  | eraseKey key =>
    cases found : table.contents key with
    | some value =>
      obtain ⟨erased, done, erasedWellFormed, perm⟩ :=
        erase_present wellFormed ((contents_eq_some_iff wellFormed).mp found)
      refine ⟨erased, _, by rw [perform, done]; rfl, erasedWellFormed, ?_, by rw [found]; rfl⟩
      exact contents_of_erased wellFormed erasedWellFormed perm
    | none =>
      have absent := findImpl_absent wellFormed ((contents_eq_none_iff wellFormed).mp found)
      refine ⟨table, _, by rw [perform, erase, absent]; rfl, wellFormed, ?_, by rw [found]; rfl⟩
      rw [← found, update_eq_self]
  | eraseIterator bucket =>
    obtain ⟨⟨key, value⟩, atBucket⟩ := Option.ne_none_iff_exists'.mp fits
    have occupied := Option.join_eq_some_iff.mp atBucket
    obtain ⟨cleared, shrunk, clears, shrinks, shrunkWellFormed, perm⟩ :=
      erase_occupied wellFormed occupied
    refine ⟨shrunk, _, by rw [perform, clears, ok_bind, shrinks]; rfl, shrunkWellFormed, key, value,
      ?_, contents_of_erased wellFormed shrunkWellFormed perm, by rw [atBucket]⟩
    exact (contents_eq_some_iff wellFormed).mpr (mem_elements.mpr ⟨bucket, occupied⟩)
  | reserve size =>
    obtain ⟨reserved, done, reservedWellFormed, perm⟩ := reserve_spec wellFormed fits
    refine ⟨reserved, _, by rw [perform, done]; rfl, reservedWellFormed, ?_, rfl⟩
    funext key
    refine Option.ext fun value => ?_
    rw [contents_eq_some_iff reservedWellFormed, contents_eq_some_iff wellFormed, perm.mem_iff]
  | clear => exact ⟨_, _, rfl, wellFormed_empty, rfl, rfl⟩

end

/--
After any operations that fit, the table is well-formed and the next one does
and returns what it does and returns for the finite map.
-/
theorem behaves_like_map
    {operations : List (Operation Key Value)}
    (run : Run (Performs traits) {} operations table) :
    table.WellFormed traits ∧
      table.usedNodeCount = table.keys.card ∧
      (table.nodes ≠ [] → table.entries.length + 1 < table.bucketCount) ∧
      10 * (table.usedNodeCount + 1) < 2 ^ 32 ∧ 4 * table.bucketCount < 2 ^ 32 ∧
      ∀ operation, Fits traits table operation →
        ∃ after result, table.perform traits operation = .ok (after, result) ∧
            Allowed table.contents after.contents result operation := by
  have wellFormed : table.WellFormed traits := by
    refine run.invariant wellFormed_empty ?_
    rintro before operation after wellFormed ⟨fits, result, performed⟩
    obtain ⟨_, _, returned, afterWellFormed, _⟩ := perform_spec wellFormed fits
    cases performed.symm.trans returned
    exact afterWellFormed
  have capacity := wellFormed.capacity
  have limit := maxBucketCount_le traits
  have used : 10 * (table.usedNodeCount + 1) < 2 ^ 32 := by
    by_cases allocated : table.nodes = []
    · rw [wellFormed.used_of_unallocated allocated]
      decide
    · have load := wellFormed.load allocated
      rw [bucketCountMask] at load
      rw [bucketCount] at capacity
      omega
  refine ⟨wellFormed, (card_keys wellFormed).symm, wellFormed.room, used, by omega, ?_⟩
  intro operation fits
  obtain ⟨after, result, performed, _, allowed⟩ := perform_spec wellFormed fits
  exact ⟨after, result, performed, allowed⟩

def exampleTraits : TableTraits Nat where
  hash := UInt32.ofNat
  sizeofNode := 16
  sizeofNodePos := by decide
  sizeofNodeLe := by decide

/-- Two chains of keys in a table that has grown. -/
def exampleTable : FlatHashTable Nat String where
  nodes := [none, some (1, "a"), some (17, "c"), some (2, "d"), some (33, "f"), none, none, none,
    none, some (25, "e"), some (41, "g"), none, none, none, none, none]
  usedNodeCount := 6
  beginBucket := invalidBucket

theorem run_exampleTable : Run (Performs exampleTraits) {}
    [.emplace 1 "a", .emplace 9 "b", .emplace 17 "c", .emplace 2 "d", .emplace 25 "e",
      .eraseKey 9, .emplace 33 "f", .emplace 41 "g"] exampleTable := by
  have fits {table : FlatHashTable Nat String} {key : Nat} {value : String} (isKey : key ≠ 0)
      (few : table.keys.card < 10) : Fits exampleTraits table (.emplace key value) :=
    ⟨isKey, .inr (few.trans (by decide))⟩
  exact .cons ⟨fits (by decide) (by decide +kernel), _, rfl⟩
    (.cons ⟨fits (by decide) (by decide +kernel), _, rfl⟩
    (.cons ⟨fits (by decide) (by decide +kernel), _, rfl⟩
    (.cons ⟨fits (by decide) (by decide +kernel), _, rfl⟩
    (.cons ⟨fits (by decide) (by decide +kernel), _, rfl⟩
    (.cons ⟨trivial, _, rfl⟩
    (.cons ⟨fits (by decide) (by decide +kernel), _, rfl⟩
    (.cons ⟨fits (by decide) (by decide +kernel), _, rfl⟩ .start)))))))

theorem grown_table_behaves_like_map :
    exampleTable.usedNodeCount = exampleTable.keys.card ∧
      ∃ after result, exampleTable.perform exampleTraits (.eraseKey 17) = .ok (after, result) ∧
        after.contents = update exampleTable.contents 17 none ∧ result = (none, 1) := by
  obtain ⟨_, used, _, _, _, performs⟩ := behaves_like_map run_exampleTable
  obtain ⟨after, result, performed, erased, isResult⟩ := performs (.eraseKey 17) trivial
  exact ⟨used, after, result, performed, erased, isResult⟩

/-- Space for 2 ^ 29 keys passes the first check and needs too large an array. -/
theorem reserve_aborts :
    perform exampleTraits ({} : FlatHashTable Nat String) (.reserve (2 ^ 29)) = .error .check :=
  rfl

/-- An operation, or a loop from a random bucket. -/
def PerformsOrLoops (traits : TableTraits Key) (table : FlatHashTable Key Value) :
    Operation Key Value ⊕ UInt32 → FlatHashTable Key Value → Prop
  | .inl operation, after => Performs traits table operation after
  | .inr random, after => ∃ order, table.iterate random = .ok (after, order)

theorem loops_visit_map_once
    {events : List (Operation Key Value ⊕ UInt32)}
    (run : Run (PerformsOrLoops traits) {} events table)
    (random : UInt32) :
    ∃ after order,
      table.iterate random = .ok (after, order) ∧ (order.map Prod.fst).Nodup ∧
        ∀ key value, (key, value) ∈ order ↔ table.contents key = some value := by
  have wellFormed : table.WellFormed traits := by
    refine run.invariant wellFormed_empty ?_
    intro before event after wellFormed step
    cases event with
    | inl operation =>
      obtain ⟨fits, result, performed⟩ := step
      obtain ⟨_, _, returned, afterWellFormed, _⟩ := perform_spec wellFormed fits
      cases performed.symm.trans returned
      exact afterWellFormed
    | inr random =>
      obtain ⟨order, looped⟩ := step
      obtain ⟨_, _, returned, begunWellFormed, _⟩ := iterate_spec wellFormed random
      cases looped.symm.trans returned
      exact begunWellFormed
  obtain ⟨begun, order, returned, _, perm⟩ := iterate_spec wellFormed random
  refine ⟨_, order, returned, (perm.map Prod.fst).nodup_iff.mpr wellFormed.distinct, ?_⟩
  intro key value
  rw [perm.mem_iff, contents_eq_some_iff wellFormed]

theorem Performs.run_inl {operations : List (Operation Key Value)}
    (run : Run (Performs traits) {} operations table) :
    Run (PerformsOrLoops traits) {} (operations.map Sum.inl) table := by
  induction run with
  | start => exact .start
  | extend _ last ih =>
    rw [List.map_append]
    exact .extend ih last

theorem grown_table_visited : ∃ after order,
    exampleTable.iterate 10 = .ok (after, order) ∧ (order.map Prod.fst).Nodup ∧
      (41, "g") ∈ order ∧ (17, "c") ∈ order ∧ (9, "b") ∉ order := by
  obtain ⟨after, order, returned, distinct, visited⟩ :=
    loops_visit_map_once (Performs.run_inl run_exampleTable) 10
  exact ⟨after, order, returned, distinct, (visited ..).mpr rfl, (visited ..).mpr rfl,
    fun found => absurd ((visited ..).mp found) (by decide)⟩

end Autoproto.FlatHashTable
