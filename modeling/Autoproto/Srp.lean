import Mathlib.Algebra.Ring.Basic
import Mathlib.Data.ZMod.Basic

namespace Autoproto.Srp

/-!
# The agreement of the secure remote password protocol

The server keeps the verifier `v = g ^ x` of a password whose hash is `x`, and
the public values are `A = g ^ a` and `B = k * v + g ^ b`. The client removes `k
* v` from `B` and raises the rest to a power formed from `a` and `x`; the server
raises `A * v ^ u` to the power `b`. Both get the same value, in any commutative
ring and so modulo any number.
-/

/-- Both parties compute the same value. -/
theorem agreement [CommRing R] (g k : R) (a b u x : Nat) :
    (k * g ^ x + g ^ b - k * g ^ x) ^ (a + u * x) = (g ^ a * (g ^ x) ^ u) ^ b :=
  calc
    (k * g ^ x + g ^ b - k * g ^ x) ^ (a + u * x) = (g ^ b) ^ (a + u * x) := by
          rw [add_sub_cancel_left]
    _ = (g ^ (a + u * x)) ^ b := by rw [← pow_mul, ← pow_mul, Nat.mul_comm]
    _ = (g ^ a * (g ^ x) ^ u) ^ b := by rw [pow_add, ← pow_mul g x u, Nat.mul_comm x u]

/-- A difference of residues, reduced to a natural number. -/
def subMod (first second modulus : Nat) : Nat :=
  (((first : Int) - (second : Int)) % (modulus : Int)).toNat

theorem cast_subMod {modulus : Nat} (positive : modulus ≠ 0) (first second : Nat) :
    (subMod first second modulus : ZMod modulus) =
      (first : ZMod modulus) - (second : ZMod modulus) := by
  have nonnegative : 0 ≤ ((first : Int) - (second : Int)) % (modulus : Int) :=
    Int.emod_nonneg _ (by exact_mod_cast positive)
  have asInt : ((subMod first second modulus : Nat) : Int) =
        ((first : Int) - (second : Int)) % (modulus : Int) := by
    rw [subMod, Int.toNat_of_nonneg nonnegative]
  have lifted : ((subMod first second modulus : Int) : ZMod modulus) =
        (((first : Int) - (second : Int) : Int) : ZMod modulus) := by
    rw [asInt]
    exact ZMod.intCast_mod _ _
  simpa using lifted

theorem agreement_mod {modulus : Nat} (positive : modulus ≠ 0) (g k a b u x : Nat) :
    subMod ((k * (g ^ x % modulus) + g ^ b) % modulus)
        (k * (g ^ x % modulus) % modulus) modulus ^ (a + u * x) % modulus =
      (g ^ a % modulus * (g ^ x % modulus) ^ u) ^ b % modulus := by
  rw [← Nat.ModEq, ← ZMod.natCast_eq_natCast_iff]
  simp only [Nat.cast_pow, cast_subMod positive, Nat.cast_mul, Nat.cast_add, ZMod.natCast_mod]
  exact agreement (g : ZMod modulus) (k : ZMod modulus) a b u x

end Autoproto.Srp
