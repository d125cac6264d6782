import Autoproto.Fault
import Autoproto.Text
import Autoproto.Transition

namespace Autoproto

open List Transition
open Text (decimal decimal_eq length_decimal_le)

/-!
# The string builder

A builder may write past `end_ptr_`, into the `RESERVED_SIZE` bytes behind it.
-/

/-- A `StringBuilder`: the bytes before `current_ptr_`, and offsets from `begin_ptr_`. -/
structure StringBuilder where
  content : Bytes := []
  endOffset : Nat
  bufferSize : Nat
  errorFlag : Bool := false
  useBuffer : Bool

namespace StringBuilder

def reservedSize : Nat := 30

/-- The constructor, with the size of the slice. -/
def new (sliceSize : Nat) (useBuffer : Bool) : StringBuilder :=
  if sliceSize ≤ reservedSize then
    { endOffset := 100, bufferSize := reservedSize + 100, useBuffer }
  else
    { endOffset := sliceSize - reservedSize, bufferSize := sliceSize, useBuffer }

def write (text : Bytes) (builder : StringBuilder) : Except Fault StringBuilder :=
  if builder.content.length + text.length ≤ builder.bufferSize then
    .ok { builder with content := builder.content ++ text }
  else
    .error .outOfBounds

def onError (builder : StringBuilder) : StringBuilder :=
  { builder with errorFlag := true }

def reserveInner (size : Nat) (builder : StringBuilder) : Except Fault (Bool × StringBuilder) := do
  let oldDataSize := builder.content.length
  if builder.useBuffer = false ∨ 2 ^ 64 - 1 - reservedSize - oldDataSize - 1 ≤ size ∨
      (2 ^ 64 - 1 - reservedSize) / 2 - 2 ≤ builder.endOffset then
    return (false, builder)
  let newBufferSize := max (max ((builder.endOffset + 1) * 2) (oldDataSize + size)) 100
  check (oldDataSize < newBufferSize)
  check (size ≤ newBufferSize - oldDataSize)
  return (true,
    { builder with endOffset := newBufferSize, bufferSize := newBufferSize + reservedSize })

/-- Both functions `reserve`, without and with a number of bytes. -/
def reserve (size : Option Nat) (builder : StringBuilder) : Except Fault (Bool × StringBuilder) :=
  if builder.content.length < builder.endOffset ∧
      size.getD 0 ≤ builder.endOffset - builder.content.length then
    .ok (true, builder)
  else
    builder.reserveInner (size.getD reservedSize)

/-- The operator for slices and `append_char`: what does not fit is cut off. -/
def append (text : Bytes) (builder : StringBuilder) : Except Fault StringBuilder := do
  let (reserved, builder) ← builder.reserve text.length
  if reserved then
    builder.write text
  else if builder.endOffset < builder.content.length then
    return builder.onError
  else
    let availableSize := builder.endOffset + reservedSize - 1 - builder.content.length
    if availableSize < text.length then
      builder.onError.write (text.take availableSize)
    else
      builder.write text

/-- The operators for characters and numbers, and `push_back`. -/
def print (printed : Except Fault Bytes) (builder : StringBuilder) :
    Except Fault StringBuilder := do
  let (reserved, builder) ← builder.reserve none
  if reserved then
    builder.write (← printed)
  else
    return builder.onError

/-- The loop of `print_uint`, which finds the last digit first. -/
def digitsFromLast (x : Nat) : Bytes :=
  UInt8.ofNat (48 + x % 10) :: if 0 < x / 10 then digitsFromLast (x / 10) else []

def printUint (x : Nat) : Bytes :=
  if x < 100 then
    if x < 10 then [UInt8.ofNat (48 + x)]
    else [UInt8.ofNat (48 + x / 10), UInt8.ofNat (48 + x % 10)]
  else
    (digitsFromLast x).reverse

/-- The function `print_int` for a type with this least number. -/
def printInt (least x : Int) : Except Fault Bytes :=
  if x < 0 then
    if x = least then do
      -- The least number has no absolute value: its neighbour is printed and corrected.
      let text := 45 :: printUint (-(x + 1)).toNat
      check (text.getLast? ≠ some 57)
      return text.dropLast ++ (text.getLast?.map (· + 1)).toList
    else
      .ok (45 :: printUint (-x).toNat)
  else
    .ok (printUint x.toNat)

inductive Operation where
  | slice (text : Bytes)
  | char (c : UInt8)
  | int (least x : Int)
  | uint (x : Nat)
  | pushBack (c : UInt8)
  | popBack
  | appendChar (count : Nat) (c : UInt8)
  | clear
  | asCslice

def perform (builder : StringBuilder) : Operation → Except Fault StringBuilder
  | .slice text => builder.append text
  | .appendChar count c => builder.append (replicate count c)
  | .char c | .pushBack c => builder.print (.ok [c])
  | .int least x => builder.print (printInt least x)
  | .uint x => builder.print (.ok (printUint x))
  | .popBack => do
    check (builder.content ≠ [])
    return { builder with content := builder.content.dropLast }
  | .clear => .ok { builder with content := [], errorFlag := false }
  | .asCslice => do
    check (builder.content.length < builder.endOffset + reservedSize)
    -- A zero byte is written behind the content.
    if builder.content.length < builder.bufferSize then return builder else .error .outOfBounds

/-- A number of its type; a character to remove. -/
def Admissible (builder : StringBuilder) : Operation → Prop
  | .int least x => (least = -2 ^ 31 ∨ least = -2 ^ 63) ∧ least ≤ x ∧ x < -least
  | .uint x => x < 2 ^ 64
  | .popBack => builder.content ≠ []
  | _ => True

/-- What an operation makes of the text so far. -/
def expect (text : Bytes) : Operation → Bytes
  | .slice more => text ++ more
  | .appendChar count c => text ++ replicate count c
  | .char c | .pushBack c => text ++ [c]
  | .int _ x => text ++ decimal x
  | .uint x => text ++ decimal x
  | .popBack => text.dropLast
  | .clear => []
  | .asCslice => text

/-! ## Numbers -/

theorem reverse_digitsFromLast (x : Nat) : (digitsFromLast x).reverse = decimal x := by
  induction x using Nat.strong_induction_on with
  | h x ih =>
    rw [digitsFromLast, reverse_cons, decimal_eq]
    by_cases small : x < 10
    · rw [if_neg (by omega), if_pos small]
      rfl
    · rw [if_pos (by omega), if_neg small, ih _ (by omega)]

theorem printUint_eq (x : Nat) : printUint x = decimal x := by
  rw [printUint]
  split
  · rw [decimal_eq]
    split
    case isTrue small => rw [Nat.mod_eq_of_lt small, nil_append]
    case isFalse =>
      rw [decimal_eq, if_pos (by omega), Nat.mod_eq_of_lt (by omega : x / 10 < 10)]
      rfl
  · exact reverse_digitsFromLast x

theorem decimal_negSucc (x : Nat) : decimal (Int.negSucc x) = 45 :: decimal (x + 1 : Nat) := by
  change ("-" ++ Nat.repr (x + 1)).toList.map _ = _
  rw [String.toList_append]
  rfl

theorem printInt_spec {least x : Int} (isLeast : least = -2 ^ 31 ∨ least = -2 ^ 63)
    (above : least ≤ x) (below : x < -least) :
    printInt least x = .ok (decimal x) ∧ (decimal x).length ≤ 20 := by
  cases x with
  | ofNat x =>
    rw [Int.ofNat_eq_natCast] at below
    exact ⟨congrArg _ (printUint_eq x), length_decimal_le (by omega)⟩
  | negSucc x =>
    constructor
    · rw [printInt, if_pos (Int.negSucc_lt_zero x)]
      split
      case isTrue same =>
        rw [printUint_eq, same]
        rcases isLeast with rfl | rfl <;> rfl
      case isFalse =>
        rw [decimal_negSucc, printUint_eq]
        rfl
    · rw [decimal_negSucc]
      exact Nat.succ_le_succ (length_decimal_le (by omega))

/-! ## Operations -/

/-- There is room for the zero byte behind the content. -/
structure Fits (builder : StringBuilder) : Prop where
  bufferSize : builder.bufferSize = builder.endOffset + reservedSize
  content : builder.content.length < builder.endOffset + reservedSize

/-- A text has been added, or an error has been noted. -/
def Adds (text : Bytes) (builder after : StringBuilder) : Prop :=
  after.Fits ∧ (after.errorFlag = false →
    builder.errorFlag = false ∧ after.content = builder.content ++ text)

variable {builder after : StringBuilder} {text : Bytes}

theorem Fits.perform_asCslice (fits : builder.Fits) : builder.perform .asCslice = .ok builder := by
  rw [perform, check_eq_ok fits.content, ok_bind, if_pos (fits.bufferSize ▸ fits.content)]
  rfl

theorem reservedSize_eq : reservedSize = 30 :=
  rfl

theorem write_adds {endOffset : Nat}
    (room : builder.content.length + text.length < endOffset + reservedSize) :
    ∃ after, write text { builder with endOffset, bufferSize := endOffset + reservedSize } =
      .ok after ∧ Adds text builder after :=
  ⟨_, if_pos room.le, ⟨rfl, by rwa [length_append]⟩, fun correct => ⟨correct, rfl⟩⟩

theorem adds_onError (fits : builder.Fits) : Adds text builder builder.onError :=
  ⟨⟨fits.bufferSize, fits.content⟩, nofun⟩

theorem reserve_spec (fits : builder.Fits) (size : Option Nat) :
    (∃ endOffset, builder.reserve size =
        .ok (true, { builder with endOffset, bufferSize := endOffset + reservedSize }) ∧
      builder.content.length < endOffset ∧
      size.getD 0 ≤ endOffset - builder.content.length) ∨
      builder.reserve size = .ok (false, builder) := by
  obtain ⟨same, room⟩ := fits
  rw [reserve]
  split
  case isTrue enough =>
    refine Or.inl ⟨builder.endOffset, ?_, enough⟩
    rw [← same]
  case isFalse =>
    rw [reserveInner]
    split
    · exact Or.inr rfl
    · have thirty := reservedSize_eq
      have least : size.getD 0 ≤ size.getD reservedSize := by cases size <;> simp
      dsimp only
      rw [check_eq_ok (by omega), ok_bind, check_eq_ok (by omega)]
      exact Or.inl ⟨_, rfl, by omega, by omega⟩

theorem append_spec (fits : builder.Fits) (text : Bytes) :
    ∃ after, builder.append text = .ok after ∧ Adds text builder after := by
  rw [append]
  rcases reserve_spec fits (some text.length) with ⟨endOffset, reserved, below, room⟩ | full
  · rw [reserved]
    rw [Option.getD_some] at room
    have thirty := reservedSize_eq
    exact write_adds (by omega)
  · rw [full, ok_bind]
    obtain ⟨content, endOffset, _, errorFlag, useBuffer⟩ := builder
    obtain rfl : _ = endOffset + reservedSize := fits.bufferSize
    dsimp only
    rw [if_neg Bool.false_ne_true]
    split
    · exact ⟨_, rfl, adds_onError fits⟩
    · have room : content.length < endOffset + reservedSize := fits.content
      split
      · obtain ⟨after, written, fits, correct⟩ := @write_adds
          ⟨content, endOffset, 0, true, useBuffer⟩
          (text.take (endOffset + reservedSize - 1 - content.length)) endOffset
          (by rw [length_take]; dsimp only; omega)
        exact ⟨after, written, fits, fun noError => Bool.noConfusion (correct noError).1⟩
      · exact @write_adds ⟨content, endOffset, _, errorFlag, useBuffer⟩ text endOffset
          (by dsimp only; omega)

theorem append_fixed
    (fits : builder.Fits)
    (fixed : builder.useBuffer = false)
    (appended : builder.append text = .ok after) :
    after.endOffset = builder.endOffset ∧ after.useBuffer = false ∧
      (after.errorFlag = false ↔ builder.errorFlag = false ∧
        builder.content.length ≤ builder.endOffset ∧
        builder.content.length + text.length < builder.endOffset + reservedSize) := by
  have thirty := reservedSize_eq
  have refused (size : Nat) : builder.reserveInner size = .ok (false, builder) :=
    if_pos (Or.inl fixed)
  rw [append, reserve, Option.getD_some, refused] at appended
  by_cases enough : builder.content.length < builder.endOffset ∧
      text.length ≤ builder.endOffset - builder.content.length
  · rw [if_pos enough, ok_bind] at appended
    dsimp only at appended
    rw [if_pos rfl, write] at appended
    split at appended <;> cases appended
    exact ⟨rfl, fixed, fun noError => ⟨noError, by omega⟩, And.left⟩
  · rw [if_neg enough, ok_bind] at appended
    -- The error flag is set by each of the two branches in which something is cut off.
    simp only [Bool.false_eq_true, if_false, write, onError, pure_eq_ok, fits.bufferSize]
      at appended
    split_ifs at appended <;> cases appended <;>
      simp only [Bool.true_eq_false, false_iff, iff_self_and, fixed, true_and] <;> intro _ <;> omega

theorem print_spec (fits : builder.Fits) (short : text.length ≤ 20) :
    ∃ after, builder.print (.ok text) = .ok after ∧ Adds text builder after := by
  rw [print]
  rcases reserve_spec fits none with ⟨endOffset, reserved, below, -⟩ | full
  · rw [reserved]
    exact write_adds (by rw [reservedSize]; omega)
  · rw [full]
    exact ⟨_, rfl, adds_onError fits⟩

theorem perform_spec (fits : builder.Fits) {operation : Operation}
    (admissible : builder.Admissible operation)
    (exactly : builder.errorFlag = false → builder.content = text) :
    ∃ after, builder.perform operation = .ok after ∧ after.Fits ∧
      (after.errorFlag = false → after.content = expect text operation) := by
  have added {more : Bytes} {performed : Except Fault StringBuilder}
      (adds : ∃ after, performed = .ok after ∧ Adds more builder after) :
      ∃ after, performed = .ok after ∧ after.Fits ∧
        (after.errorFlag = false → after.content = text ++ more) := by
    obtain ⟨after, returned, fits, adds⟩ := adds
    refine ⟨after, returned, fits, fun correct => ?_⟩
    rw [(adds correct).2, exactly (adds correct).1]
  cases operation with
  | slice more => exact added (append_spec fits more)
  | appendChar count c => exact added (append_spec fits (replicate count c))
  | char c | pushBack c => exact added (print_spec fits (by decide : 1 ≤ 20))
  | int least x =>
    obtain ⟨isLeast, above, below⟩ := admissible
    obtain ⟨printed, short⟩ := printInt_spec isLeast above below
    rw [perform, printed]
    exact added (print_spec fits short)
  | uint x =>
    rw [perform, printUint_eq]
    exact added (print_spec fits (length_decimal_le (Nat.lt_trans admissible (by decide))))
  | popBack =>
    rw [perform, check_eq_ok (show builder.content ≠ [] from admissible)]
    refine ⟨_, rfl, ⟨fits.bufferSize, ?_⟩, fun correct => congrArg dropLast (exactly correct)⟩
    exact (length_dropLast ▸ Nat.sub_le ..).trans_lt fits.content
  | clear => exact ⟨_, rfl, ⟨fits.bufferSize, Nat.add_pos_right _ (Nat.succ_pos 29)⟩, fun _ => rfl⟩
  | asCslice => exact ⟨builder, fits.perform_asCslice, fits, exactly⟩

/--
Every operation of a builder stays inside the buffer and passes its checks.
Without an error, the content is all that has been written since the last
`clear`.
-/
theorem builds_what_is_written
    {sliceSize : Nat}
    {useBuffer : Bool}
    {operations : List Operation}
    (reached : Run (Guarded Admissible fun before operation after =>
      before.perform operation = .ok after) (new sliceSize useBuffer) operations builder) :
    (builder.errorFlag = false → builder.content = operations.foldl expect []) ∧
      ∀ operation, builder.Admissible operation → Returns (builder.perform operation) := by
  have kept : builder.Fits ∧
      (builder.errorFlag = false → builder.content = operations.foldl expect []) := by
    induction reached with
    | start =>
      rw [new]
      split
      · exact ⟨⟨rfl, Nat.add_pos_right _ (Nat.succ_pos 29)⟩, fun _ => rfl⟩
      · exact ⟨⟨by dsimp only; omega, Nat.add_pos_right _ (Nat.succ_pos 29)⟩, fun _ => rfl⟩
    | extend _ last ih =>
      obtain ⟨admissible, performed⟩ := last
      obtain ⟨after, returned, fits, exactly⟩ :=
        perform_spec ih.1 admissible ih.2
      cases returned.symm.trans performed
      rw [foldl_append]
      exact ⟨fits, exactly⟩
  refine ⟨kept.2, fun operation admissible => ?_⟩
  obtain ⟨after, returned, -⟩ := perform_spec kept.1 admissible kept.2
  exact ⟨after, returned⟩

/-- A number is written into the reserve, and the text behind it into a new buffer. -/
theorem number_and_text_built :
    ∃ builder : StringBuilder,
      Run (Guarded Admissible fun before operation after => before.perform operation = .ok after)
          (new 33 true)
          [.int (-2 ^ 31) (-2 ^ 31), .slice [97, 98], .uint 1024, .popBack, .asCslice] builder ∧
        builder.endOffset = 100 ∧ builder.content = Text.ascii "-2147483648ab102" ∧
        Returns (builder.perform .asCslice) := by
  have least : (new 33 true).perform (.int (-2 ^ 31) (-2 ^ 31)) =
      .ok ⟨Text.ascii "-2147483648", 3, 33, false, true⟩ := by with_unfolding_all rfl
  have moved : perform ⟨Text.ascii "-2147483648", 3, 33, false, true⟩ (.slice [97, 98]) =
      .ok ⟨Text.ascii "-2147483648ab", 100, 130, false, true⟩ := by with_unfolding_all rfl
  have printed : perform ⟨Text.ascii "-2147483648ab", 100, 130, false, true⟩ (.uint 1024) =
      .ok ⟨Text.ascii "-2147483648ab1024", 100, 130, false, true⟩ := by with_unfolding_all rfl
  have popped : perform ⟨Text.ascii "-2147483648ab1024", 100, 130, false, true⟩ .popBack =
      .ok ⟨Text.ascii "-2147483648ab102", 100, 130, false, true⟩ := by with_unfolding_all rfl
  suffices run : Run (Guarded Admissible fun before operation after =>
      before.perform operation = .ok after) (new 33 true) _
      ⟨Text.ascii "-2147483648ab102", 100, 130, false, true⟩ from
    ⟨_, run, rfl, ((builds_what_is_written run).1 rfl).trans (by decide +kernel),
      (builds_what_is_written run).2 .asCslice trivial⟩
  exact .cons ⟨⟨Or.inl rfl, by decide, by decide⟩, least⟩ (.cons ⟨trivial, moved⟩
    (.cons ⟨(by decide : 1024 < 2 ^ 64), printed⟩ (.cons ⟨List.cons_ne_nil _ _, popped⟩
      (.cons ⟨trivial, rfl⟩ .start))))

end StringBuilder

end Autoproto
