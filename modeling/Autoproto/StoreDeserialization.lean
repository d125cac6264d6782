import Autoproto.InMemoryKeyValue

namespace Autoproto

open List ByteEncoding LengthPrefixed

/-!
# Reading a store back from memory

`deserialize_all` trusts the size that a slice claims. The model keeps the
object the slice points into, so that a read outside of it is seen. Positions
are 64-bit and wrap around.
-/

/-- An object in memory.  None is larger than `PTRDIFF_MAX`. -/
structure Buffer where
  bytes : Bytes
  addressable : bytes.length < 2 ^ 63

/-- A slice of an object; its size is only claimed. -/
structure BufferSlice extends Slice where
  memory : Buffer

namespace BufferSlice

/-- Copy bytes out of the object. -/
def read (position count : Nat) (slice : BufferSlice) : Except Fault Bytes :=
  if slice.offset + position + count ≤ slice.memory.bytes.length then
    .ok ((slice.memory.bytes.drop (slice.offset + position)).take count)
  else
    .error .outOfBounds

/-- Copy four bytes to a `uint32`. -/
def readUint32 (position : Nat) (slice : BufferSlice) : Except Fault Nat := do
  let bytes ← slice.read position 4
  return natOfLe bytes

def remaining (position : Nat) (slice : BufferSlice) : Bytes :=
  (slice.memory.bytes.drop (slice.offset + position)).take (slice.size - position)

end BufferSlice

namespace InMemoryKeyValue

variable {traits : TableTraits Bytes}

/--
Read a length and the bytes it announces. A key leaves room for the next length.
Without a result the function returns false.
-/
def readField (slice : BufferSlice) (position reserved : Nat) :
    Except Fault (Option (Bytes × Nat)) := do
  let length ← slice.readUint32 position
  if word (word (position + 4) + length + reserved) > slice.size then
    return none
  else do
    let field ← slice.read (word (position + 4)) length
    return some (field, word (word (position + 4) + length))

/-- The body of the loop up to the assignment to the map. -/
def readRecord (slice : BufferSlice) (position : Nat) : Except Fault (Option (Record × Nat)) := do
  match ← readField slice position 4 with
  | none => return none
  | some (key, position) =>
    match ← readField slice position 0 with
    | none => return none
    | some (value, position) => return some ((key, value), position)

/-- The loop of `deserialize_all`, with the map and whether it ended at the end of the slice. -/
def deserializeLoop (slice : BufferSlice) :
    Nat → Nat → FlatHashMap traits Bytes → Except Fault (FlatHashMap traits Bytes × Bool)
  | 0, _, _ => .error .spin
  | fuel + 1, position, map =>
    if word (position + 4) ≤ slice.size then do
      match ← readRecord slice position with
      | none => return (map, false)
      | some (record, position) =>
        let map ← map.set record.1 record.2
        deserializeLoop slice fuel position map
    else
      return (map, decide (position = slice.size))

/-- Replace the contents of a store by the records of a slice. -/
def deserializeAll (slice : BufferSlice) (store : InMemoryKeyValue traits) :
    Except Fault (InMemoryKeyValue traits × Bool) := do
  let (map, accepted) ← deserializeLoop slice (slice.memory.bytes.length + 1) 0 store.map.clear
  return (⟨map, store.seqNo⟩, accepted)

end InMemoryKeyValue

namespace BufferSlice

theorem length_remaining_le (slice : BufferSlice) (position : Nat) :
    (slice.remaining position).length ≤ slice.size - position := by
  rw [remaining, length_take]
  exact Nat.min_le_left ..

theorem drop_remaining (slice : BufferSlice) (position count : Nat) :
    (slice.remaining position).drop count = slice.remaining (position + count) := by
  rw [remaining, remaining, drop_take, drop_drop, Nat.add_assoc, Nat.sub_sub]

variable {slice : BufferSlice} {position : Nat}

section

variable (inside : slice.offset + position ≤ slice.memory.bytes.length)
include inside

theorem inside_of_remaining {count : Nat} (enough : count ≤ (slice.remaining position).length) :
    slice.offset + (position + count) ≤ slice.memory.bytes.length := by
  rw [remaining, length_take, length_drop] at enough
  omega

theorem read_eq {count : Nat} (claimed : position + count ≤ slice.size) :
    slice.read position count =
      if count ≤ (slice.remaining position).length then
        .ok ((slice.remaining position).take count)
      else
        .error .outOfBounds := by
  have length : (slice.remaining position).length =
        min (slice.size - position) (slice.memory.bytes.length - (slice.offset + position)) := by
    rw [remaining, length_take, length_drop]
  have sameCondition : slice.offset + position + count ≤ slice.memory.bytes.length ↔
        count ≤ (slice.remaining position).length := by
    omega
  have sameBytes : (slice.remaining position).take count =
        (slice.memory.bytes.drop (slice.offset + position)).take count := by
    rw [remaining, take_take, Nat.min_eq_left (by omega)]
  rw [read, sameBytes]
  simp only [sameCondition]

theorem readUint32_eq (claimed : position + 4 ≤ slice.size) : slice.readUint32 position =
      if 4 ≤ (slice.remaining position).length then
        .ok (fieldLength (slice.remaining position))
      else
        .error .outOfBounds := by
  rw [readUint32, read_eq inside claimed]
  by_cases enough : 4 ≤ (slice.remaining position).length
  · rw [if_pos enough, if_pos enough, ok_bind]
    rfl
  · rw [if_neg enough, if_neg enough, error_bind]

end

end BufferSlice

namespace InMemoryKeyValue

variable {traits : TableTraits Bytes}

/--
The incomplete record after `consumed` bytes asks for more than the claimed
size: there is no room for the length of its key, or after the key for the
length of its value, or for the value.
-/
def Overruns (limit consumed : Nat) (rest : Bytes) : Prop :=
  limit < consumed + 4 ∨
    (4 ≤ rest.length ∧ limit < consumed + 4 + fieldLength rest + 4) ∨
    (4 + fieldLength rest + 4 ≤ rest.length ∧
      limit < consumed + 4 + fieldLength rest + 4 + fieldLength (afterField rest))

instance (limit consumed : Nat) (rest : Bytes) : Decidable (Overruns limit consumed rest) :=
  inferInstanceAs (Decidable (_ ∨ _ ∧ _ ∨ _ ∧ _))

variable {slice : BufferSlice} {position : Nat} {bytes : Bytes}

theorem readField_eq (small : slice.size < 2 ^ 63) {reserved : Nat}
    (inside : slice.offset + position ≤ slice.memory.bytes.length)
    (claimed : position + 4 ≤ slice.size) (few : reserved ≤ 4)
    (bytesEq : slice.remaining position = bytes) : readField slice position reserved =
      if bytes.length < 4 then
        .error .outOfBounds
      else if slice.size < position + 4 + fieldLength bytes + reserved then
        .ok none
      else if bytes.length < 4 + fieldLength bytes then
        .error .outOfBounds
      else
        .ok (some (firstField bytes, position + (4 + fieldLength bytes))) := by
  have short := fieldLength_lt bytes
  rw [readField, BufferSlice.readUint32_eq inside claimed, bytesEq,
    word_of_lt (show position + 4 < 2 ^ 64 by omega)]
  by_cases lengthHeld : 4 ≤ bytes.length
  · have fieldBytes : slice.remaining (position + 4) = bytes.drop 4 := by
      rw [← bytesEq, BufferSlice.drop_remaining]
    have fieldInside : slice.offset + (position + 4) ≤ slice.memory.bytes.length :=
      BufferSlice.inside_of_remaining inside (by rwa [bytesEq])
    rw [if_pos lengthHeld, ok_bind, if_neg (Nat.not_lt.mpr lengthHeld),
      word_of_lt (show position + 4 + fieldLength bytes + reserved < 2 ^ 64 by omega),
      word_of_lt (show position + 4 + fieldLength bytes < 2 ^ 64 by omega)]
    by_cases refused : slice.size < position + 4 + fieldLength bytes + reserved
    · rw [if_pos refused, if_pos refused]
      rfl
    · rw [if_neg refused, if_neg refused, BufferSlice.read_eq fieldInside (by omega), fieldBytes,
        length_drop]
      by_cases fieldHeld : fieldLength bytes ≤ bytes.length - 4
      · rw [if_pos fieldHeld, ok_bind, if_neg (by omega), Nat.add_assoc]
        rfl
      · rw [if_neg fieldHeld, error_bind, if_pos (by omega)]
  · rw [if_neg lengthHeld, error_bind, if_pos (Nat.lt_of_not_le lengthHeld)]

theorem holdsRecord_iff : HoldsRecord bytes ↔ 4 + fieldLength bytes ≤ bytes.length ∧
        4 + fieldLength (afterField bytes) ≤ bytes.length - (4 + fieldLength bytes) := by
  rw [← length_drop]
  rfl

theorem overruns_iff (limit consumed : Nat) (rest : Bytes) : Overruns limit consumed rest ↔
      limit < consumed + 4 ∨ (4 ≤ rest.length ∧ limit < consumed + 4 + fieldLength rest + 4) ∨
        (4 + fieldLength rest + 4 ≤ rest.length ∧
          limit < consumed + 4 + fieldLength rest + 4 + fieldLength (afterField rest)) :=
  Iff.rfl

theorem readRecord_eq (small : slice.size < 2 ^ 63)
    (inside : slice.offset + position ≤ slice.memory.bytes.length)
    (claimed : position + 4 ≤ slice.size) (bytesEq : slice.remaining position = bytes) :
    readRecord slice position =
      if HoldsRecord bytes then
        .ok (some ((firstField bytes, firstField (afterField bytes)),
            position + (4 + fieldLength bytes + (4 + fieldLength (afterField bytes)))))
      else if Overruns slice.size position bytes then
        .ok none
      else
        .error .outOfBounds := by
  have covered := slice.length_remaining_le position
  rw [bytesEq] at covered
  have afterLength : (afterField bytes).length = bytes.length - (4 + fieldLength bytes) := by
    rw [afterField, length_drop]
  simp only [holdsRecord_iff, overruns_iff]
  rw [readRecord, readField_eq small inside claimed (by omega) bytesEq]
  by_cases lengthHeld : bytes.length < 4
  · rw [if_pos lengthHeld, error_bind, if_neg (by omega), if_neg (by omega)]
  rw [if_neg lengthHeld]
  by_cases keyRefused : slice.size < position + 4 + fieldLength bytes + 4
  · rw [if_pos keyRefused, if_neg (by omega), if_pos (by omega)]
    rfl
  rw [if_neg keyRefused]
  by_cases keyLost : bytes.length < 4 + fieldLength bytes
  · rw [if_pos keyLost, error_bind, if_neg (by omega), if_neg (by omega)]
  rw [if_neg keyLost, ok_bind]
  -- the key is there, and the value starts in what is left
  have valueBytes : slice.remaining (position + (4 + fieldLength bytes)) = afterField bytes := by
    rw [← BufferSlice.drop_remaining, bytesEq, afterField]
  have valueInside :
      slice.offset + (position + (4 + fieldLength bytes)) ≤ slice.memory.bytes.length :=
    BufferSlice.inside_of_remaining inside (by rw [bytesEq]; omega)
  simp only
  rw [readField_eq small valueInside (by omega) (by omega) valueBytes, afterLength]
  by_cases valueLengthLost : bytes.length - (4 + fieldLength bytes) < 4
  · rw [if_pos valueLengthLost, error_bind, if_neg (by omega), if_neg (by omega)]
  rw [if_neg valueLengthLost]
  by_cases valueRefused :
      slice.size < position + (4 + fieldLength bytes) + 4 + fieldLength (afterField bytes) + 0
  · rw [if_pos valueRefused, if_neg (by omega), if_pos (by omega)]
    rfl
  rw [if_neg valueRefused]
  by_cases valueLost : bytes.length - (4 + fieldLength bytes) < 4 + fieldLength (afterField bytes)
  · rw [if_pos valueLost, error_bind, if_neg (by omega), if_neg (by omega)]
  · rw [if_neg valueLost, ok_bind, if_pos (by omega), Nat.add_assoc]
    rfl

theorem deserializeLoop_incomplete (small : slice.size < 2 ^ 63)
    (inside : slice.offset + position ≤ slice.memory.bytes.length) (within : position ≤ slice.size)
    (incomplete : ¬ HoldsRecord (slice.remaining position)) (fuel : Nat)
    (map : FlatHashMap traits Bytes) : deserializeLoop slice (fuel + 1) position map =
      if Overruns slice.size position (slice.remaining position) then
        .ok (map, decide (position = slice.size))
      else
        .error .outOfBounds := by
  rw [deserializeLoop, word_of_lt (by omega)]
  by_cases claimed : position + 4 ≤ slice.size
  · rw [if_pos claimed, readRecord_eq small inside claimed rfl, if_neg incomplete]
    by_cases overruns : Overruns slice.size position (slice.remaining position)
    · have notAtEnd : position ≠ slice.size := by omega
      rw [if_pos overruns, if_pos overruns, decide_eq_false notAtEnd]
      rfl
    · rw [if_neg overruns, if_neg overruns, error_bind]
  · have overruns : Overruns slice.size position (slice.remaining position) :=
      Or.inl (Nat.lt_of_not_le claimed)
    rw [if_neg claimed, if_pos overruns]
    rfl

variable {rest : Bytes}

theorem deserializeLoop_record (small : slice.size < 2 ^ 63)
    (inside : slice.offset + position ≤ slice.memory.bytes.length) {record : Record}
    (representable : Representable record)
    (bytesEq : slice.remaining position = encodeRecord record ++ rest) (fuel : Nat)
    (map : FlatHashMap traits Bytes) : deserializeLoop slice (fuel + 1) position map =
      map.set record.1 record.2 >>=
        deserializeLoop slice fuel (position + (encodeRecord record).length) := by
  obtain ⟨holds, same, keyLength, valueLength⟩ := read_encodeRecord representable rest
  have covered := slice.length_remaining_le position
  rw [bytesEq, length_append, length_encodeRecord] at covered
  have claimed : position + 4 ≤ slice.size := by omega
  rw [deserializeLoop, word_of_lt (by omega), if_pos claimed,
    readRecord_eq small inside claimed bytesEq, if_pos holds, ok_bind,
    same, keyLength, valueLength, length_encodeRecord]
  have samePosition :
      4 + record.1.length + (4 + record.2.length) = 8 + record.1.length + record.2.length := by
    omega
  rw [samePosition]

variable {records : List Record}

theorem deserializeLoop_eq (small : slice.size < 2 ^ 63)
    (representable : ∀ record ∈ records, Representable record) (incomplete : ¬ HoldsRecord rest)
    (position : Nat) (inside : slice.offset + position ≤ slice.memory.bytes.length)
    (within : position ≤ slice.size) (bytesEq : slice.remaining position = encode records ++ rest)
    {fuel : Nat} (enough : records.length < fuel) (map : FlatHashMap traits Bytes) :
    deserializeLoop slice fuel position map =
      storeRecords records map >>= fun stored =>
        if Overruns slice.size (position + (encode records).length) rest then
          .ok (stored, decide (position + (encode records).length = slice.size))
        else
          .error .outOfBounds := by
  induction records generalizing position fuel map with
  | nil =>
    cases fuel with
    | zero => cases enough
    | succ fuel =>
      rw [deserializeLoop_incomplete small inside within (bytesEq ▸ incomplete), bytesEq]
      rfl
  | cons record records ih =>
    cases fuel with
    | zero => cases enough
    | succ fuel =>
      rw [encode_cons, append_assoc] at bytesEq
      have covered := slice.length_remaining_le position
      rw [bytesEq, length_append] at covered
      have nextBytes :
          slice.remaining (position + (encodeRecord record).length) = encode records ++ rest := by
        rw [← BufferSlice.drop_remaining, bytesEq, drop_left]
      have nextInside :
          slice.offset + (position + (encodeRecord record).length) ≤ slice.memory.bytes.length :=
        BufferSlice.inside_of_remaining inside (by simp [bytesEq])
      rw [deserializeLoop_record small inside (representable record (mem_cons_self ..)) bytesEq]
      rw [storeRecords, foldlM_cons, encode_cons, length_append, ← Nat.add_assoc]
      cases map.set record.1 record.2 with
      | error fault => rfl
      | ok assigned =>
        exact ih
          (fun other member => representable other (mem_cons_of_mem _ member))
          _ nextInside (by omega) nextBytes
          (Nat.lt_of_succ_lt_succ enough) assigned

theorem length_le_length_encode (records : List Record) :
    records.length ≤ (encode records).length := by
  induction records with
  | nil => exact Nat.le_refl 0
  | cons record records ih =>
    rw [encode_cons, length_append, length_encodeRecord, length_cons]
    omega

theorem deserializeAll_eq (small : slice.size < 2 ^ 63)
    (inside : slice.offset ≤ slice.memory.bytes.length)
    (splits : Splits (slice.remaining 0) records rest) (store : InMemoryKeyValue traits) :
    store.deserializeAll slice =
      storeRecords records FlatHashMap.empty >>= fun stored =>
        if Overruns slice.size (encode records).length rest then
          .ok (⟨stored, store.seqNo⟩, decide ((encode records).length = slice.size))
        else
          .error .outOfBounds := by
  have few : records.length < slice.memory.bytes.length + 1 := by
    have bounded := length_le_length_encode records
    have covered := congrArg length splits.whole
    rw [BufferSlice.remaining, length_take, length_drop, length_append] at covered
    omega
  have looped := deserializeLoop_eq small splits.representable splits.incomplete
      0 inside (Nat.zero_le _) splits.whole few store.map.clear
  rw [Nat.zero_add] at looped
  rw [deserializeAll, looped]
  change (storeRecords records FlatHashMap.empty >>= _) >>= _ = _
  cases storeRecords records FlatHashMap.empty with
  | error fault => rfl
  | ok stored =>
    simp only [ok_bind]
    by_cases overruns : Overruns slice.size (encode records).length rest
    · simp only [if_pos overruns, ok_bind, pure_eq_ok]
    · simp only [if_neg overruns, error_bind]

theorem overruns_of_splits (splits : Splits bytes records rest) :
    Overruns bytes.length (encode records).length rest := by
  have length := congrArg length splits.whole
  rw [length_append] at length
  have incomplete := splits.incomplete
  rw [holdsRecord_iff] at incomplete
  rw [overruns_iff]
  omega

end InMemoryKeyValue

end Autoproto
