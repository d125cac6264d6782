import Mathlib.Data.List.Basic
import Mathlib.Tactic.Ring

namespace Autoproto

/-!
# Fixed-width byte encodings of natural numbers

Integers are copied to and from memory byte by byte. The two byte orders are
fixed here: an encoding of a chosen width, the number a byte list denotes, and
their round trips.
-/

/-- A finite byte string. -/
abbrev Bytes := List UInt8

/-- A byte string of a size that its type fixes. -/
abbrev FixedBytes (size : Nat) := { bytes : Bytes // bytes.length = size }

/-- A part of an object in memory, given by its place. -/
structure Slice where
  offset : Nat
  size : Nat
  deriving Repr, DecidableEq

namespace ByteEncoding

/-- The number denoted by a little-endian byte string. -/
def natOfLe : Bytes → Nat
  | [] => 0
  | byte :: rest => byte.toNat + 256 * natOfLe rest

/-- The `width` low-order bytes of a number, least significant first. -/
def leOfNat : Nat → Nat → Bytes
  | 0, _ => []
  | width + 1, number => UInt8.ofNat number :: leOfNat width (number / 256)

/-- The number denoted by a big-endian byte string. -/
def natOfBe (bytes : Bytes) : Nat :=
  natOfLe bytes.reverse

/-- The `width` low-order bytes of a number, most significant first. -/
def beOfNat (width number : Nat) : Bytes :=
  (leOfNat width number).reverse

/-- What is left of a number in a word of 64 bits. -/
def word (number : Nat) : Nat :=
  number % 2 ^ 64

theorem word_of_lt {number : Nat} (small : number < 2 ^ 64) : word number = number :=
  Nat.mod_eq_of_lt small

variable (width number : Nat)

@[simp] theorem length_leOfNat : (leOfNat width number).length = width := by
  induction width generalizing number with
  | zero => rfl
  | succ width ih => simp [leOfNat, ih]

@[simp] theorem length_beOfNat : (beOfNat width number).length = width := by
  simp [beOfNat]

theorem natOfLe_lt (bytes : Bytes) : natOfLe bytes < 256 ^ bytes.length := by
  induction bytes with
  | nil => simp [natOfLe]
  | cons byte rest ih =>
    have byteBound : byte.toNat < 256 := byte.toNat_lt
    simp only [natOfLe, List.length_cons, pow_succ]
    omega

theorem natOfLe_leOfNat : natOfLe (leOfNat width number) = number % 256 ^ width := by
  induction width generalizing number with
  | zero => simp [leOfNat, natOfLe, Nat.mod_one]
  | succ width ih =>
    have lowByte : (UInt8.ofNat number).toNat = number % 256 := by simp
    rw [leOfNat, natOfLe, ih, lowByte,
      pow_succ, Nat.mul_comm (256 ^ width), Nat.mod_mul]

theorem leOfNat_natOfLe (bytes : Bytes) : leOfNat bytes.length (natOfLe bytes) = bytes := by
  induction bytes with
  | nil => rfl
  | cons byte rest ih =>
    have byteBound : byte.toNat < 256 := byte.toNat_lt
    have lowByte : UInt8.ofNat (byte.toNat + 256 * natOfLe rest) = byte := by
      apply UInt8.toNat_inj.mp
      rw [UInt8.toNat_ofNat']
      omega
    have highBytes : (byte.toNat + 256 * natOfLe rest) / 256 = natOfLe rest := by omega
    simp only [List.length_cons, leOfNat, natOfLe]
    rw [lowByte, highBytes, ih]

theorem natOfLe_leOfNat_of_lt {width number : Nat} (fits : number < 256 ^ width) :
    natOfLe (leOfNat width number) = number := by
  rw [natOfLe_leOfNat, Nat.mod_eq_of_lt fits]

theorem natOfBe_beOfNat_of_lt {width number : Nat} (fits : number < 256 ^ width) :
    natOfBe (beOfNat width number) = number := by
  rw [natOfBe, beOfNat, List.reverse_reverse, natOfLe_leOfNat_of_lt fits]

theorem pow_256 (width : Nat) : 256 ^ width = 2 ^ (8 * width) := by
  rw [Nat.pow_mul]

end ByteEncoding

end Autoproto
