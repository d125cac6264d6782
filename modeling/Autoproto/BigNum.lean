import Autoproto.ByteEncoding
import Autoproto.Fault
import Autoproto.Srp
import Mathlib.Data.Nat.Size

namespace Autoproto

open ByteEncoding

def intMax : Nat := 2 ^ 31 - 1

namespace BigNum

/-!
# Big numbers

`BigNum` wraps the numbers of OpenSSL, of which the client only meets
non-negative ones. It aborts for a zero modulus, for sizes that do not fit an
`int` and for numbers that do not fit a fixed width.
-/

/-- The number of a big-endian byte string. -/
def fromBinary (str : Bytes) : Except Fault Nat := do
  check (str.length ≤ intMax)
  return natOfBe str

/-- The number of a machine word. -/
def setValue (newValue : UInt32) : Nat :=
  newValue.toNat

def getNumBytes (number : Nat) : Nat :=
  (number.size + 7) / 8

/-- The big-endian encoding in a fixed width. -/
def toBinary (exactSize : Nat) (number : Nat) : Except Fault Bytes := do
  check (getNumBytes number ≤ exactSize)
  return beOfNat exactSize number

/-- A product. -/
def mul (first second : Nat) : Nat :=
  first * second

/-- A sum. -/
def add (first second : Nat) : Nat :=
  first + second

/-- A power modulo a number. -/
def modExp (base exponent modulus : Nat) : Except Fault Nat := do
  check (modulus ≠ 0)
  return base ^ exponent % modulus

/-- A product modulo a number. -/
def modMul (first second modulus : Nat) : Except Fault Nat := do
  check (modulus ≠ 0)
  return first * second % modulus

/-- A difference modulo a number, never negative. -/
def modSub (first second modulus : Nat) : Except Fault Nat := do
  check (modulus ≠ 0)
  return Srp.subMod first second modulus

theorem getNumBytes_le_iff (number width : Nat) :
    getNumBytes number ≤ width ↔ number < 256 ^ width := by
  rw [pow_256, ← Nat.size_le, getNumBytes]
  omega

theorem fromBinary_eq_ok {str : Bytes} (short : str.length ≤ intMax) :
    fromBinary str = .ok (natOfBe str) := by
  rw [fromBinary, check_eq_ok short]
  rfl

theorem fromBinary_eq_error {str : Bytes} (long : ¬ str.length ≤ intMax) :
    fromBinary str = .error .check := by
  rw [fromBinary, check_eq_error long]
  rfl

theorem fromBinary_fixed {size : Nat} (small : size ≤ intMax) (str : FixedBytes size) :
    fromBinary str.val = .ok (natOfBe str.val) :=
  fromBinary_eq_ok (str.property.trans_le small)

theorem toBinary_eq_ok {exactSize number : Nat} (fits : number < 256 ^ exactSize) :
    toBinary exactSize number = .ok (beOfNat exactSize number) := by
  rw [toBinary, check_eq_ok ((getNumBytes_le_iff ..).mpr fits)]
  rfl

variable {modulus : Nat}

theorem modExp_eq_ok (nonzero : modulus ≠ 0) (base exponent : Nat) :
    modExp base exponent modulus = .ok (base ^ exponent % modulus) := by
  rw [modExp, check_eq_ok nonzero]
  rfl

theorem modMul_eq_ok (nonzero : modulus ≠ 0) (first second : Nat) :
    modMul first second modulus = .ok (first * second % modulus) := by
  rw [modMul, check_eq_ok nonzero]
  rfl

theorem modSub_eq_ok (nonzero : modulus ≠ 0) (first second : Nat) :
    modSub first second modulus = .ok (Srp.subMod first second modulus) := by
  rw [modSub, check_eq_ok nonzero]
  rfl

end BigNum

end Autoproto
