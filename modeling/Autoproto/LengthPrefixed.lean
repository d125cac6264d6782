import Autoproto.ByteEncoding
import Mathlib.Algebra.Order.BigOperators.Group.List

namespace Autoproto.LengthPrefixed

open List ByteEncoding

/-!
# Sequences of length-prefixed records

A record is a pair of byte strings, each written as its length in four bytes,
low byte first, followed by the bytes themselves.  A sequence of records has no
outer length: it ends where no complete record starts.
-/

/-- A pair of byte strings. -/
abbrev Record := Bytes × Bytes

def encodeField (field : Bytes) : Bytes :=
  leOfNat 4 field.length ++ field

/-- Both fields of a record. -/
def encodeRecord (record : Record) : Bytes :=
  encodeField record.1 ++ encodeField record.2

def encode (records : List Record) : Bytes :=
  records.flatMap encodeRecord

/-- The lengths of both fields fit their four bytes. -/
def Representable (record : Record) : Prop :=
  record.1.length < 2 ^ 32 ∧ record.2.length < 2 ^ 32

instance (record : Record) : Decidable (Representable record) :=
  inferInstanceAs (Decidable (_ ∧ _))

def fieldLength (bytes : Bytes) : Nat :=
  natOfLe (bytes.take 4)

def firstField (bytes : Bytes) : Bytes :=
  (bytes.drop 4).take (fieldLength bytes)

def afterField (bytes : Bytes) : Bytes :=
  bytes.drop (4 + fieldLength bytes)

def HoldsField (bytes : Bytes) : Prop :=
  4 + fieldLength bytes ≤ bytes.length

def HoldsRecord (bytes : Bytes) : Prop :=
  HoldsField bytes ∧ HoldsField (afterField bytes)

instance (bytes : Bytes) : Decidable (HoldsRecord bytes) :=
  inferInstanceAs (Decidable (_ ≤ _ ∧ _ ≤ _))

/-- Complete records, and a rest that starts with none. -/
structure Splits (bytes : Bytes) (records : List Record) (rest : Bytes) : Prop where
  whole : bytes = encode records ++ rest
  representable : ∀ record ∈ records, Representable record
  incomplete : ¬ HoldsRecord rest

@[simp] theorem length_encodeField (field : Bytes) :
    (encodeField field).length = 4 + field.length := by
  simp [encodeField]

@[simp] theorem length_encodeRecord (record : Record) :
    (encodeRecord record).length = 8 + record.1.length + record.2.length := by
  simp only [encodeRecord, length_append, length_encodeField]
  omega

@[simp] theorem encode_cons (record : Record) (records : List Record) :
    encode (record :: records) = encodeRecord record ++ encode records :=
  rfl

/-- The size of a sequence of records. -/
theorem length_encode (records : List Record) : (encode records).length =
      (records.map fun record => 8 + record.1.length + record.2.length).sum := by
  induction records with
  | nil => rfl
  | cons record records ih =>
    rw [encode_cons, length_append, ih, length_encodeRecord, map_cons, sum_cons]

variable {field : Bytes}

theorem fieldLength_encodeField (short : field.length < 2 ^ 32) (rest : Bytes) :
    fieldLength (encodeField field ++ rest) = field.length := by
  have leading : (encodeField field ++ rest).take 4 = leOfNat 4 field.length := by
    exact take_left' (length_leOfNat ..)
  rw [fieldLength, leading]
  exact natOfLe_leOfNat_of_lt (by simpa using short)

theorem afterField_encodeField (short : field.length < 2 ^ 32) (rest : Bytes) :
    afterField (encodeField field ++ rest) = rest := by
  rw [afterField, fieldLength_encodeField short]
  exact drop_left' (length_encodeField field)

theorem firstField_encodeField (short : field.length < 2 ^ 32) (rest : Bytes) :
    firstField (encodeField field ++ rest) = field := by
  rw [firstField, fieldLength_encodeField short, encodeField,
    append_assoc, drop_left' (length_leOfNat ..)]
  exact take_left' rfl

theorem fieldLength_lt (bytes : Bytes) : fieldLength bytes < 2 ^ 32 := by
  have bound := natOfLe_lt (bytes.take 4)
  have short : (bytes.take 4).length ≤ 4 := by
    rw [length_take]
    exact Nat.min_le_left ..
  exact Nat.lt_of_lt_of_le bound (Nat.pow_le_pow_right (by decide) short)

theorem HoldsField.eq_encodeField {bytes : Bytes} (holds : HoldsField bytes) :
    (firstField bytes).length < 2 ^ 32 ∧
      bytes = encodeField (firstField bytes) ++ afterField bytes := by
  have enough : 4 + fieldLength bytes ≤ bytes.length := holds
  have length : (firstField bytes).length = fieldLength bytes := by
    rw [firstField, length_take, length_drop]
    omega
  have header : leOfNat 4 (fieldLength bytes) = bytes.take 4 := by
    have width : (bytes.take 4).length = 4 := by
      rw [length_take]
      omega
    have back := leOfNat_natOfLe (bytes.take 4)
    rwa [width] at back
  refine ⟨length ▸ fieldLength_lt bytes, ?_⟩
  rw [encodeField, length, header, firstField, afterField,
    append_assoc, ← drop_drop, take_append_drop,
    take_append_drop]

theorem HoldsRecord.eq_encodeRecord {bytes : Bytes} (holds : HoldsRecord bytes) :
    ∃ record rest, Representable record ∧ bytes = encodeRecord record ++ rest := by
  obtain ⟨keyShort, keyShape⟩ := holds.1.eq_encodeField
  obtain ⟨valueShort, valueShape⟩ := holds.2.eq_encodeField
  refine ⟨(firstField bytes, firstField (afterField bytes)),
    afterField (afterField bytes), ⟨keyShort, valueShort⟩, ?_⟩
  rw [encodeRecord, append_assoc, ← valueShape, ← keyShape]

theorem read_encodeRecord {record : Record} (representable : Representable record) (rest : Bytes) :
    HoldsRecord (encodeRecord record ++ rest) ∧ (firstField (encodeRecord record ++ rest),
        firstField (afterField (encodeRecord record ++ rest))) = record ∧
      fieldLength (encodeRecord record ++ rest) = record.1.length ∧
      fieldLength (afterField (encodeRecord record ++ rest)) = record.2.length := by
  have shape :
      encodeRecord record ++ rest = encodeField record.1 ++ (encodeField record.2 ++ rest) := by
    rw [encodeRecord, append_assoc]
  rw [shape, firstField_encodeField representable.1, afterField_encodeField representable.1,
    fieldLength_encodeField representable.1,
    firstField_encodeField representable.2,
    fieldLength_encodeField representable.2]
  refine ⟨⟨?_, ?_⟩, rfl, rfl, rfl⟩
  · rw [HoldsField, fieldLength_encodeField representable.1]
    simp
  · rw [afterField_encodeField representable.1, HoldsField, fieldLength_encodeField representable.2]
    simp

/-- Every byte string splits. -/
theorem exists_splits (bytes : Bytes) : ∃ records rest, Splits bytes records rest := by
  by_cases holds : HoldsRecord bytes
  · obtain ⟨record, rest, representable, shape⟩ := holds.eq_encodeRecord
    obtain ⟨records, last, splits⟩ := exists_splits rest
    refine ⟨record :: records, last, ?_, ?_, splits.incomplete⟩
    · rw [shape, splits.whole, encode_cons, append_assoc]
    · intro member memberOf
      rcases mem_cons.mp memberOf with isRecord | later
      · rw [isRecord]
        exact representable
      · exact splits.representable member later
  · exact ⟨[], bytes, rfl, by simp, holds⟩
termination_by bytes.length
decreasing_by
  rw [shape, List.length_append, length_encodeRecord]
  omega

theorem splits_encode {records : List Record}
    (representable : ∀ record ∈ records, Representable record) :
    Splits (encode records) records [] where
  whole := by simp
  representable := representable
  incomplete := fun holds => by simpa [HoldsField] using holds.1

theorem representable_of_length {records : List Record} (small : (encode records).length < 2 ^ 32) :
    ∀ record ∈ records, Representable record := by
  intro record member
  have bound : 8 + record.1.length + record.2.length ≤ (encode records).length := by
    rw [length_encode]
    exact le_sum_of_mem (mem_map.mpr ⟨record, member, rfl⟩)
  constructor <;> omega

end Autoproto.LengthPrefixed
