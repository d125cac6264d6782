import Mathlib.Algebra.BigOperators.Group.List.Basic
import Mathlib.Data.Finset.Card
import Mathlib.Order.Defs.LinearOrder

namespace Autoproto

open List

/-!
# Maps whose entries are in the order of their keys

The entries of a map are a list that is sorted by key, so that going through a map goes through
its keys in ascending order.
-/

structure OrderedMap (Key Value : Type) [LinearOrder Key] where
  entries : List (Key × Value)
  sorted : entries.Pairwise (fun first second => first.1 < second.1)
  deriving DecidableEq

namespace OrderedMap

variable {Key Value Weight : Type} [LinearOrder Key]

def empty : OrderedMap Key Value :=
  ⟨[], .nil⟩

def keys (map : OrderedMap Key Value) : List Key :=
  map.entries.map Prod.fst

/-- The number of entries. -/
def size (map : OrderedMap Key Value) : Nat :=
  map.entries.length

def findEntry (key : Key) : List (Key × Value) → Option Value
  | [] => none
  | entry :: rest =>
    if entry.1 = key then some entry.2 else findEntry key rest

def find? (key : Key) (map : OrderedMap Key Value) : Option Value :=
  findEntry key map.entries

/-- An entry is put in front of the first one with a larger key. -/
def insertEntry (key : Key) (value : Value) :
    List (Key × Value) → List (Key × Value)
  | [] => [(key, value)]
  | entry :: rest =>
    if key < entry.1 then
      (key, value) :: entry :: rest
    else
      entry :: insertEntry key value rest

variable {key : Key} {value : Value} {entries : List (Key × Value)} {map : OrderedMap Key Value}

theorem perm_insertEntry : (insertEntry key value entries).Perm ((key, value) :: entries) := by
  induction entries with
  | nil => exact Perm.refl _
  | cons first rest ih =>
    rw [insertEntry]
    split
    · exact Perm.refl _
    · exact (ih.cons first).trans (Perm.swap ..)

theorem mem_of_findEntry (found : findEntry key entries = some value) : (key, value) ∈ entries := by
  induction entries with
  | nil => cases found
  | cons first rest ih =>
    rw [findEntry] at found
    split at found
    case isTrue same =>
      cases found
      rw [← same]
      exact mem_cons_self ..
    case isFalse => exact mem_cons_of_mem _ (ih found)

theorem ne_of_findEntry {entry : Key × Value} (absent : findEntry key entries = none)
    (isEntry : entry ∈ entries) : entry.1 ≠ key := by
  induction entries with
  | nil => cases isEntry
  | cons first rest ih =>
    rw [findEntry] at absent
    split at absent
    case isTrue => cases absent
    case isFalse differs =>
      rcases mem_cons.mp isEntry with rfl | isEntry
      · exact differs
      · exact ih absent isEntry

theorem sorted_insertEntry (sorted : entries.Pairwise (fun first second => first.1 < second.1))
    (absent : findEntry key entries = none) :
    (insertEntry key value entries).Pairwise (fun first second => first.1 < second.1) := by
  induction entries with
  | nil => simp [insertEntry]
  | cons first rest ih =>
    have firstDiffers := ne_of_findEntry absent (mem_cons_self ..)
    have restAbsent : findEntry key rest = none := by rwa [findEntry, if_neg firstDiffers] at absent
    obtain ⟨firstBelow, restSorted⟩ := pairwise_cons.mp sorted
    rw [insertEntry]
    split
    case isTrue below =>
      refine pairwise_cons.mpr ⟨?_, sorted⟩
      intro entry isEntry
      rcases mem_cons.mp isEntry with rfl | isEntry
      · exact below
      · exact below.trans (firstBelow entry isEntry)
    case isFalse notBelow =>
      refine pairwise_cons.mpr ⟨?_, ih restSorted restAbsent⟩
      intro entry isEntry
      rcases mem_cons.mp ((perm_insertEntry ..).mem_iff.mp isEntry) with rfl | isEntry
      · exact lt_of_le_of_ne (not_lt.mp notBelow) firstDiffers
      · exact firstBelow entry isEntry

/-- The function `emplace`, which leaves an entry that is there. -/
def emplace (key : Key) (value : Value) (map : OrderedMap Key Value) : OrderedMap Key Value :=
  if absent : map.find? key = none then
    ⟨insertEntry key value map.entries, sorted_insertEntry map.sorted absent⟩
  else
    map

/-- The entry of a key is removed. -/
def erase (key : Key) (map : OrderedMap Key Value) : OrderedMap Key Value :=
  ⟨map.entries.filter (fun entry => entry.1 ≠ key), map.sorted.filter _⟩

def modify (key : Key) (change : Value → Value)
    (map : OrderedMap Key Value) : OrderedMap Key Value where
  entries :=
    map.entries.map fun entry =>
      if entry.1 = key then (entry.1, change entry.2) else entry
  sorted := by
    refine List.pairwise_map.mpr (map.sorted.imp ?_)
    intro first second below
    split <;> split <;> exact below

/-- What the values of a map amount to. -/
def sumOver [AddCommMonoid Weight] (weight : Value → Weight)
    (map : OrderedMap Key Value) : Weight :=
  (map.entries.map fun entry => weight entry.2).sum

/-! ## Finding -/

@[simp] theorem find?_empty : (empty : OrderedMap Key Value).find? key = none :=
  rfl

theorem find?_of_mem (isEntry : (key, value) ∈ map.entries) : map.find? key = some value := by
  obtain ⟨entries, sorted⟩ := map
  change findEntry key entries = some value
  induction entries with
  | nil => cases isEntry
  | cons first rest ih =>
    obtain ⟨firstBelow, restSorted⟩ := pairwise_cons.mp sorted
    rw [findEntry]
    rcases mem_cons.mp isEntry with rfl | isEntry
    · exact if_pos rfl
    · rw [if_neg (firstBelow _ isEntry).ne]
      exact ih restSorted isEntry

theorem mem_entries_iff : (key, value) ∈ map.entries ↔ map.find? key = some value :=
  ⟨find?_of_mem, mem_of_findEntry⟩

theorem find?_emplace (absent : map.find? key = none) (other : Key) :
    (map.emplace key value).find? other =
      if other = key then some value else map.find? other := by
  refine Option.ext fun found => ?_
  rw [← mem_entries_iff, emplace, dif_pos absent, (perm_insertEntry ..).mem_iff, mem_cons,
    mem_entries_iff, Prod.mk.injEq]
  split
  case isTrue same => simp [same, absent, eq_comm]
  case isFalse differs => simp [differs]

/-- What is there stays there. -/
theorem find?_emplace_ne_none {other : Key} (present : map.find? other ≠ none) :
    (map.emplace key value).find? other ≠ none := by
  by_cases absent : map.find? key = none
  · rw [find?_emplace absent]
    split
    · exact Option.some_ne_none value
    · exact present
  · rw [emplace, dif_neg absent]
    exact present

theorem find?_erase (key other : Key) (map : OrderedMap Key Value) : (map.erase key).find? other =
      if other = key then none else map.find? other := by
  refine Option.ext fun found => ?_
  rw [← mem_entries_iff, erase, mem_filter, mem_entries_iff]
  split
  case isTrue same => simp [same]
  case isFalse differs => simp [differs]

theorem find?_modify (key other : Key) (change : Value → Value) (map : OrderedMap Key Value) :
    (map.modify key change).find? other =
      if other = key then (map.find? other).map change
      else map.find? other := by
  change
    findEntry other
        (map.entries.map fun entry =>
          if entry.1 = key then (entry.1, change entry.2) else entry) =
      if other = key then (findEntry other map.entries).map change
      else findEntry other map.entries
  induction map.entries with
  | nil => simp [findEntry]
  | cons first rest ih =>
    rw [map_cons, findEntry, ih, findEntry]
    by_cases changed : first.1 = key <;> by_cases found : first.1 = other <;>
      by_cases same : other = key <;> simp_all

theorem find?_modify_ne_none {other : Key} (present : map.find? other ≠ none)
    (change : Value → Value) : (map.modify key change).find? other ≠ none := by
  rw [find?_modify]
  split
  · exact fun isNone => present (Option.map_eq_none_iff.mp isNone)
  · exact present

theorem erase_eq_self (absent : map.find? key = none) : map.erase key = map := by
  obtain ⟨entries, sorted⟩ := map
  have others : entries.filter (fun entry => entry.1 ≠ key) = entries :=
    filter_eq_self.mpr fun entry isEntry => decide_eq_true (ne_of_findEntry absent isEntry)
  simp only [erase, others]

theorem erase_modify (key : Key) (change : Value → Value) (map : OrderedMap Key Value) :
    (map.modify key change).erase key = map.erase key := by
  obtain ⟨entries, sorted⟩ := map
  simp only [erase, modify, mk.injEq]
  induction entries with
  | nil => rfl
  | cons first rest ih =>
    have others := ih (pairwise_cons.mp sorted).2
    by_cases erased : first.1 = key
    · rw [map_cons, if_pos erased, filter_cons_of_neg (by simpa using erased), others,
        filter_cons_of_neg (by simpa using erased)]
    · rw [map_cons, if_neg erased, filter_cons_of_pos (by simpa using erased), others,
        filter_cons_of_pos (by simpa using erased)]

theorem mem_keys_iff : key ∈ map.keys ↔ ∃ value, map.find? key = some value := by
  rw [keys, mem_map]
  constructor
  · rintro ⟨⟨other, value⟩, isEntry, rfl⟩
    exact ⟨value, find?_of_mem isEntry⟩
  · rintro ⟨value, found⟩
    exact ⟨(key, value), mem_entries_iff.mpr found, rfl⟩

theorem nodup_keys (map : OrderedMap Key Value) : map.keys.Nodup := by
  rw [keys, List.Nodup, pairwise_map]
  exact map.sorted.imp (fun less => less.ne)

/-! ## What the values amount to -/

section Sums

variable [AddCommMonoid Weight] (weight : Value → Weight)

@[simp] theorem sumOver_empty : (empty : OrderedMap Key Value).sumOver weight = 0 :=
  rfl

variable {key : Key} {map : OrderedMap Key Value}

/-- A new entry adds its value. -/
theorem sumOver_emplace (absent : map.find? key = none) (value : Value) :
    (map.emplace key value).sumOver weight = weight value + map.sumOver weight := by
  rw [emplace, dif_pos absent]
  exact ((perm_insertEntry ..).map _).sum_eq

theorem perm_erase (found : map.find? key = some value) :
    map.entries.Perm ((key, value) :: (map.erase key).entries) := by
  have nodup (map : OrderedMap Key Value) : map.entries.Nodup :=
    map.sorted.imp fun less same => less.ne (congrArg Prod.fst same)
  have isErased : (key, value) ∉ (map.erase key).entries := by simp [erase]
  refine (perm_ext_iff_of_nodup (nodup _) (nodup_cons.mpr ⟨isErased, nodup _⟩)).mpr ?_
  rintro ⟨other, stored⟩
  by_cases same : other = key
  · subst same
    simp [erase, mem_entries_iff, found, eq_comm]
  · simp [erase, same]

theorem sumOver_erase (found : map.find? key = some value) :
    map.sumOver weight = weight value + (map.erase key).sumOver weight :=
  ((perm_erase found).map _).sum_eq

theorem sumOver_modify {change : Value → Value}
    (kept : ∀ value, weight (change value) = weight value) :
    (map.modify key change).sumOver weight = map.sumOver weight := by
  rw [sumOver, sumOver, modify, map_map]
  congr 2
  funext entry
  rw [Function.comp_apply]
  split
  · exact kept entry.2
  · rfl

end Sums

theorem size_eq_sumOver (map : OrderedMap Key Value) : map.size = map.sumOver (fun _ => 1) := by
  simp [size, sumOver]

theorem size_emplace (absent : map.find? key = none) (value : Value) :
    (map.emplace key value).size = map.size + 1 := by
  rw [size_eq_sumOver, sumOver_emplace _ absent, size_eq_sumOver, Nat.add_comm]

theorem size_emplace_le (key : Key) (value : Value) (map : OrderedMap Key Value) :
    (map.emplace key value).size ≤ map.size + 1 := by
  by_cases absent : map.find? key = none
  · exact (size_emplace absent value).le
  · rw [emplace, dif_neg absent]
    exact Nat.le_succ map.size

theorem size_erase (found : map.find? key = some value) : map.size = (map.erase key).size + 1 := by
  rw [size_eq_sumOver, sumOver_erase _ found, size_eq_sumOver, Nat.add_comm]

theorem size_le_of_find? {other : OrderedMap Key Value}
    (found : ∀ key value, other.find? key = some value → ∃ earlier, map.find? key = some earlier) :
    other.size ≤ map.size := by
  have included : other.keys ⊆ map.keys := by
    intro key isKey
    obtain ⟨value, isFound⟩ := mem_keys_iff.mp isKey
    exact mem_keys_iff.mpr (found key value isFound)
  simpa [keys, size] using other.nodup_keys.length_le_of_subset included

theorem size_modify (change : Value → Value) : (map.modify key change).size = map.size :=
  length_map _

theorem card_le_sumOver {weight : Value → Nat} {keys : Finset Key}
    (found : ∀ key ∈ keys, ∃ value, map.find? key = some value ∧ 1 ≤ weight value) :
    keys.card ≤ map.sumOver weight := by
  let counted := map.entries.filter fun entry => 1 ≤ weight entry.2
  have included : keys ⊆ (counted.map Prod.fst).toFinset := by
    intro key isKey
    obtain ⟨value, isValue, counts⟩ := found key isKey
    exact mem_toFinset.mpr (mem_map.mpr ⟨(key, value),
      mem_filter.mpr ⟨mem_entries_iff.mpr isValue, decide_eq_true counts⟩,
      rfl⟩)
  have amount (entries : List (Key × Value)) :
      (entries.filter fun entry => 1 ≤ weight entry.2).length ≤
        (entries.map fun entry => weight entry.2).sum := by
    induction entries with
    | nil => exact Nat.le_refl 0
    | cons first rest ih =>
      rw [filter_cons, map_cons, sum_cons]
      split
      case isTrue counts =>
        rw [length_cons, Nat.add_comm]
        exact Nat.add_le_add (of_decide_eq_true counts) ih
      case isFalse => exact Nat.le_trans ih (Nat.le_add_left ..)
  calc keys.card
      ≤ (counted.map Prod.fst).toFinset.card := Finset.card_le_card included
    _ ≤ (counted.map Prod.fst).length := toFinset_card_le _
    _ = counted.length := length_map _
    _ ≤ map.sumOver weight := amount map.entries

end OrderedMap

end Autoproto
