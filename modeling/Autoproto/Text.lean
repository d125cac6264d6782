import Mathlib.Data.List.TakeWhile
import Mathlib.Tactic.IntervalCases
import Autoproto.ByteEncoding

namespace Autoproto.Text

open List

/-!
# Texts as byte strings

The strings of the client are byte strings.  These are the few operations that
it uses on the texts of errors and on stored numbers.
-/

def ascii (text : String) : Bytes :=
  text.toList.map (fun character => UInt8.ofNat character.toNat)

def decimal (number : Int) : Bytes :=
  ascii (toString number)

/-- The first position at which a text occurs in another one. -/
def find (needle : Bytes) : Bytes → Option Nat
  | [] => if needle = [] then some 0 else none
  | byte :: rest =>
    if needle.isPrefixOf (byte :: rest) then
      some 0
    else
      (find needle rest).map (· + 1)

def isDigit (byte : UInt8) : Bool :=
  decide (48 ≤ byte) && decide (byte ≤ 57)

/-- The leading digits, as a 32-bit number that wraps. -/
def accumulateDigits (text : Bytes) : Nat :=
  (text.takeWhile isDigit).foldl (fun value byte => (value * 10 + (byte.toNat - 48)) % 2 ^ 32) 0

/--
The function `to_integer<int32>`: an optional minus sign and digits. A value
above the range is read as the negative number with the same bits.
-/
def toInteger (text : Bytes) : Int :=
  let isNegative := text.head? = some 45
  let value :=
    accumulateDigits (if isNegative then text.tail else text)
  if value ≤ 2 ^ 31 - 1 then
    if isNegative then -value else value
  else if value = 2 ^ 31 then
    -2 ^ 31
  else if isNegative then
    2 ^ 32 - value
  else
    value - 2 ^ 32

theorem digit_byte {digit : Nat} (small : digit < 10) :
    UInt8.ofNat (Nat.digitChar digit).toNat = UInt8.ofNat (48 + digit) := by
  interval_cases digit <;> rfl

variable (number : Nat)

theorem decimal_eq : decimal number =
      (if number < 10 then [] else decimal (number / 10 : Nat)) ++
        [UInt8.ofNat (48 + number % 10)] := by
  have digits (value : Nat) : decimal value =
        (Nat.toDigits 10 value).map (fun character => UInt8.ofNat character.toNat) := by
    change (Nat.repr value).toList.map _ = _
    rw [Nat.toList_repr]
  rw [digits, digits, Nat.toDigits_eq_if (by decide)]
  split
  · rename_i small
    simp [digit_byte small, Nat.mod_eq_of_lt small]
  · simp [digit_byte (Nat.mod_lt number (by decide : 0 < 10))]

/-- The notation of a number is not empty. -/
theorem decimal_ne_nil : decimal number ≠ [] := by
  rw [decimal_eq]
  exact append_ne_nil_of_right_ne_nil _ (by simp)

theorem length_decimal_le {x digits : Nat} (small : x < 10 ^ (digits + 1)) :
    (decimal x).length ≤ digits + 1 := by
  induction digits generalizing x with
  | zero =>
    rw [decimal_eq, if_pos (by simpa using small)]
    exact Nat.le_refl 1
  | succ digits ih =>
    rw [decimal_eq, length_append]
    split
    · exact Nat.le_add_left ..
    · exact Nat.succ_le_succ (ih (Nat.div_lt_of_lt_mul (by omega)))

theorem isDigit_of_mem_decimal : ∀ byte ∈ decimal number, isDigit byte = true := by
  induction number using Nat.strong_induction_on with
  | h number ih =>
    intro byte member
    rw [decimal_eq, mem_append, mem_singleton] at member
    rcases member with earlier | last
    · split at earlier
      · cases earlier
      · exact ih _ (by omega) byte earlier
    · have small : number % 10 < 10 := Nat.mod_lt _ (by decide)
      rw [last]
      interval_cases number % 10 <;> decide

/-- Reading the digits of a number back. -/
theorem foldl_decimal (fits : number < 2 ^ 32) : (decimal number).foldl
      (fun value byte => (value * 10 + (byte.toNat - 48)) % 2 ^ 32) 0 = number := by
  induction number using Nat.strong_induction_on with
  | h number ih =>
    have lastDigit : (UInt8.ofNat (48 + number % 10)).toNat - 48 = number % 10 := by
      rw [UInt8.toNat_ofNat']
      omega
    rw [decimal_eq, foldl_append]
    split
    · simp only [foldl_nil, foldl_cons, lastDigit]
      omega
    · rw [ih _ (by omega) (by omega)]
      simp only [foldl_nil, foldl_cons, lastDigit]
      omega

theorem toInteger_decimal {number : Nat} (fits : number < 2 ^ 31) :
    toInteger (decimal number) = number := by
  have digits := isDigit_of_mem_decimal number
  have unsigned : (decimal number).head? ≠ some 45 := by
    intro signed
    have minus := digits 45 (mem_of_mem_head? signed)
    exact absurd minus (by decide)
  have value : accumulateDigits (decimal number) = number := by
    rw [accumulateDigits, takeWhile_eq_self_iff.mpr digits]
    exact foldl_decimal number (by omega)
  simp only [toInteger, unsigned, if_false, value]
  rw [if_pos (by omega)]

/-- The number that a text of digits denotes, however large. -/
def numeral (text : Bytes) : Option Nat :=
  if text ≠ [] ∧ text.all isDigit then
    some (text.foldl (fun value byte => value * 10 + (byte.toNat - 48)) 0)
  else
    none

theorem le_foldl_digits (text : Bytes) (value : Nat) :
    value ≤ text.foldl (fun value byte => value * 10 + (byte.toNat - 48)) value := by
  induction text generalizing value with
  | nil => exact Nat.le_refl value
  | cons byte text ih =>
    have grows : value ≤ value * 10 + (byte.toNat - 48) := by omega
    exact Nat.le_trans grows (ih _)

theorem foldl_digits_of_lt (text : Bytes) (value : Nat)
    (fits : text.foldl (fun value byte => value * 10 + (byte.toNat - 48)) value < 2 ^ 32) :
    text.foldl (fun value byte => (value * 10 + (byte.toNat - 48)) % 2 ^ 32) value =
      text.foldl (fun value byte => value * 10 + (byte.toNat - 48)) value := by
  induction text generalizing value with
  | nil => rfl
  | cons byte text ih =>
    have small : value * 10 + (byte.toNat - 48) < 2 ^ 32 :=
      Nat.lt_of_le_of_lt (le_foldl_digits text _) fits
    rw [foldl_cons, foldl_cons, Nat.mod_eq_of_lt small]
    exact ih _ fits

theorem toInteger_of_numeral {text : Bytes} {number : Nat} (denotes : numeral text = some number)
    (fits : number < 2 ^ 31) : toInteger text = number := by
  rw [numeral] at denotes
  split at denotes
  · rename_i digits
    have value := Option.some.inj denotes
    have allDigits := all_eq_true.mp digits.2
    have unsigned : text.head? ≠ some 45 := by
      intro signed
      have minus := allDigits 45 (mem_of_mem_head? signed)
      exact absurd minus (by decide)
    have read : accumulateDigits text = number := by
      rw [accumulateDigits, takeWhile_eq_self_iff.mpr allDigits,
        foldl_digits_of_lt text 0 (by omega), value]
    simp only [toInteger, unsigned, if_false, read]
    rw [if_pos (by omega)]
  · cases denotes

end Autoproto.Text
