import Autoproto.StoredFormats

namespace Autoproto.Tl

open List ByteEncoding

/-!
# Serialized values

`serialize` stores a value twice with the same templates: `TlStorerCalcLength`
adds up the bytes, and `TlStorerUnsafe` writes them to a string of that size.
`unserialize` reads them back with `TlParser`.
-/

/-- The types of the values that are stored. -/
inductive TlType where
  | int32
  | int64
  | string
  | vector (element : TlType)
  | pair (first second : TlType)
  deriving Repr, DecidableEq

namespace TlType

/-- The values of a type; an integer is given by its bits. -/
def Value : TlType → Type
  | int32 => UInt32
  | int64 => UInt64
  | string => Bytes
  | vector element => List element.Value
  | pair first second => first.Value × second.Value

/-- The values of a vector, one after the other. -/
def storeAll {Value : Type} (store : Value → Except Fault Bytes) : List Value → Except Fault Bytes
  | [] => .ok []
  | value :: values => do
      let stored ← store value
      let others ← storeAll store values
      return stored ++ others

/-- The bytes that `TlStorerUnsafe` writes. -/
def store : (type : TlType) → type.Value → Except Fault Bytes
  | int32, (number : UInt32) => .ok (leOfNat 4 number.toNat)
  | int64, (number : UInt64) => .ok (leOfNat 8 number.toNat)
  | string, text => storeString text
  | vector element, (values : List element.Value) => do
      -- the `narrow_cast` of the size
      check (values.length < 2 ^ 31)
      let stored ← storeAll element.store values
      return leOfNat 4 values.length ++ stored
  | pair first second, (left, right) => do
      let stored ← first.store left
      let others ← second.store right
      return stored ++ others

/-- A text with its length and padding. -/
def stringLength (text : Bytes) : Nat :=
  let add :=
    if text.length < 254 then text.length + 1
    else if text.length < 2 ^ 24 then text.length + 4
    else text.length + 8
  (add + 3) / 4 * 4

/-- The lengths of the values of a vector are added up. -/
def lengthAll {Value : Type} (length : Value → Except Fault Nat) : List Value → Except Fault Nat
  | [] => .ok 0
  | value :: values => do
      let size ← length value
      let others ← lengthAll length values
      return size + others

/-- The length that `TlStorerCalcLength` adds up. -/
def calcLength : (type : TlType) → type.Value → Except Fault Nat
  | int32, _ => .ok 4
  | int64, _ => .ok 8
  | string, text => .ok (stringLength text)
  | vector element, (values : List element.Value) => do
      check (values.length < 2 ^ 31)
      let size ← lengthAll element.calcLength values
      return 4 + size
  | pair first second, (left, right) => do
      let size ← first.calcLength left
      let others ← second.calcLength right
      return size + others

/-- Measure the value, then write it to a string of that length. -/
def serialize (type : TlType) (value : type.Value) : Except Fault Bytes := do
  let length ← type.calcLength value
  let stored ← type.store value
  check (stored.length = length)
  return stored

/-- Read a value, and return what follows it. -/
def parse : (type : TlType) → Bytes → Option (type.Value × Bytes)
  | int32, bytes => do
      let (number, bytes) ← fetchBinary 4 bytes
      return (UInt32.ofNat number, bytes)
  | int64, bytes => do
      let (number, bytes) ← fetchBinary 8 bytes
      return (UInt64.ofNat number, bytes)
  | string, bytes => fetchString bytes
  | vector element, bytes => fetchVector element.parse bytes
  | pair first second, bytes => do
      let (left, bytes) ← first.parse bytes
      let (right, bytes) ← second.parse bytes
      return ((left, right), bytes)

/-- The strings and vectors are not too long for their lengths. -/
def Storable : (type : TlType) → type.Value → Prop
  | int32, _ => True
  | int64, _ => True
  | string, (text : Bytes) => text.length < 2 ^ 32
  | vector element, (values : List element.Value) =>
    values.length < 2 ^ 31 ∧ ∀ value ∈ values, element.Storable value
  | pair first second, (left, right) => first.Storable left ∧ second.Storable right

/-- How a value is stored, measured and read back, whatever follows it. -/
structure Stores (type : TlType) (value : type.Value) (stored : Bytes) : Prop where
  store : type.store value = .ok stored
  calcLength : type.calcLength value = .ok stored.length
  aligned : 4 ∣ stored.length
  nonempty : 0 < stored.length
  parse : ∀ rest, type.parse (stored ++ rest) = some (value, rest)

theorem exists_stores_string {text : Bytes} (short : text.length < 2 ^ 32) :
    ∃ stored, Stores string text stored := by
  obtain ⟨stored, done, length⟩ :
      ∃ stored, storeString text = .ok stored ∧ stored.length = stringLength text := by
    simp only [storeString, stringLength, short, ↓reduceIte]
    repeat' split
    all_goals
      refine ⟨_, rfl, ?_⟩
      simp only [padding, length_append, length_cons, length_replicate, length_leOfNat]
      omega
  refine ⟨stored, done, congrArg Except.ok length.symm, ?_, ?_, fetchString_append done⟩
  · rw [length]
    exact Nat.dvd_mul_left _ _
  · rw [length]
    simp only [stringLength]
    repeat' split
    all_goals omega

theorem exists_stores_all {element : TlType} (values : List element.Value)
    (each : ∀ value ∈ values, ∃ stored, Stores element value stored) : ∃ stored,
      storeAll element.store values = .ok stored ∧
        lengthAll element.calcLength values = .ok stored.length ∧ 4 ∣ stored.length ∧
        values.length ≤ stored.length ∧
        ∀ rest, fetchMany element.parse values.length (stored ++ rest) = some (values, rest) := by
  induction values with
  | nil => exact ⟨[], rfl, rfl, Nat.dvd_zero 4, Nat.le_refl 0, fun _ => rfl⟩
  | cons value values ih =>
    obtain ⟨first, stores⟩ := each value mem_cons_self
    obtain ⟨others, stored, length, aligned, enough, parsed⟩ :=
      ih fun other member => each other (mem_cons_of_mem value member)
    refine ⟨first ++ others, ?_, ?_, ?_, ?_, ?_⟩
    · simp [storeAll, stores.store, stored]
    · simp [lengthAll, stores.calcLength, length]
    · rw [length_append]
      exact Nat.dvd_add stores.aligned aligned
    · have nonempty := stores.nonempty
      simp only [length_cons, length_append]
      omega
    · intro rest
      simp [fetchMany, stores.parse, parsed]

theorem exists_stores (type : TlType) (value : type.Value) (storable : type.Storable value) :
    ∃ stored, Stores type value stored := by
  induction type with
  | int32 =>
    refine ⟨leOfNat 4 (UInt32.toNat value), rfl, by simp [calcLength], by simp, by simp, ?_⟩
    intro rest
    simp only [parse, fetchBinary_append (show UInt32.toNat value < 256 ^ 4 from value.toNat_lt)]
    exact congrArg (fun number => some (number, rest)) (UInt32.ofNat_toNat ..)
  | int64 =>
    refine ⟨leOfNat 8 (UInt64.toNat value), rfl, by simp [calcLength], by simp, by simp, ?_⟩
    intro rest
    simp only [parse, fetchBinary_append (show UInt64.toNat value < 256 ^ 8 from value.toNat_lt)]
    exact congrArg (fun number => some (number, rest)) (UInt64.ofNat_toNat ..)
  | string => exact exists_stores_string storable
  | vector element ih =>
    obtain ⟨few, each⟩ := storable
    obtain ⟨others, stored, length, aligned, enough, parsed⟩ :=
      exists_stores_all value fun other member => ih other (each other member)
    refine ⟨leOfNat 4 (List.length value) ++ others, ?_, ?_, ?_, ?_, ?_⟩
    · simp only [store]
      rw [check_eq_ok few, ok_bind, stored]
      rfl
    · simp only [calcLength]
      rw [check_eq_ok few, ok_bind, length, length_append, length_leOfNat]
      rfl
    · simpa using aligned
    · simp
    · intro rest
      have fits : List.length value < 256 ^ 4 := by omega
      have inside : ¬ (others ++ rest).length < List.length value := by
        rw [List.length_append]
        omega
      simp only [parse, fetchVector, List.append_assoc, fetchBinary_append fits]
      exact (if_neg inside).trans (parsed rest)
  | pair first second firstHypothesis secondHypothesis =>
    obtain ⟨leftValue, rightValue⟩ := value
    obtain ⟨left, leftStores⟩ := firstHypothesis leftValue storable.1
    obtain ⟨right, rightStores⟩ := secondHypothesis rightValue storable.2
    refine ⟨left ++ right, ?_, ?_, ?_, ?_, ?_⟩
    · simp [store, leftStores.store, rightStores.store]
    · simp [calcLength, leftStores.calcLength, rightStores.calcLength]
    · rw [length_append]
      exact Nat.dvd_add leftStores.aligned rightStores.aligned
    · rw [length_append]
      exact Nat.add_pos_left leftStores.nonempty _
    · intro rest
      simp [parse, leftStores.parse, rightStores.parse]

/--
A value of any type is read back from what `serialize` has written. The computed
length is the number of bytes and divisible by four, and parsing stops at the
end of the value.
-/
theorem unserialize_serialized
    (type : TlType)
    (value : type.Value)
    (storable : type.Storable value) :
    ∃ stored, type.serialize value = .ok stored ∧
        type.calcLength value = .ok stored.length ∧ 4 ∣ stored.length ∧
        unserialize type.parse stored = some value ∧
        ∀ rest, type.parse (stored ++ rest) = some (value, rest) := by
  obtain ⟨stored, stores⟩ := exists_stores type value storable
  refine ⟨stored, ?_, stores.calcLength, stores.aligned, ?_, stores.parse⟩
  · simp [serialize, stores.calcLength, stores.store, check_eq_ok]
  · have parsed := stores.parse []
    rw [append_nil] at parsed
    simp [unserialize, parsed]

def examplePairs : List (UInt32 × Bytes) :=
  [(7, [1, 2, 3]), (8, [])]

theorem unserialize_serialized_pairs : ∃ stored,
      serialize (vector (pair int32 string)) examplePairs = .ok stored ∧
        unserialize (parse (vector (pair int32 string))) stored = some examplePairs := by
  have storable : (vector (pair int32 string)).Storable examplePairs :=
    ⟨by decide, forall_mem_cons.mpr
        ⟨⟨trivial, (by decide : 3 < 2 ^ 32)⟩,
          forall_mem_singleton.mpr ⟨trivial, (by decide : 0 < 2 ^ 32)⟩⟩⟩
  obtain ⟨stored, serialized, _, _, parsed, _⟩ := unserialize_serialized _ _ storable
  exact ⟨stored, serialized, parsed⟩

theorem serialize_vector_aborts {element : TlType} {values : List element.Value}
    (long : ¬ values.length < 2 ^ 31) : (vector element).serialize values = .error .check := by
  simp only [serialize, calcLength]
  rw [check_eq_error long]
  rfl

theorem serialize_huge_vector :
    (vector int32).serialize (List.replicate (2 ^ 31) (0 : UInt32)) = .error .check := by
  apply serialize_vector_aborts
  exact Nat.not_lt.mpr length_replicate.ge

end TlType

end Autoproto.Tl
