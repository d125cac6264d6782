import Mathlib.NumberTheory.LegendreSymbol.QuadraticReciprocity

namespace Autoproto

/-!
# Safe primes and the quadratic residues 2 to 7

The squares modulo a safe prime `p = 2 * q + 1` form a group of prime order `q`, so that every
square but one generates it.  Whether a small number is a square follows from remainders of `p` by
quadratic reciprocity.
-/

def SafePrime (p : Nat) : Prop :=
  p.Prime ∧ ((p - 1) / 2).Prime

namespace SafePrime

variable {p : Nat}

theorem mod_four (safe : SafePrime p) (large : 7 < p) : p % 4 = 3 := by
  have pOdd : p % 2 = 1 := (safe.1.eq_two_or_odd).resolve_left (by omega)
  have halfOdd : (p - 1) / 2 % 2 = 1 := (safe.2.eq_two_or_odd).resolve_left (by omega)
  omega

theorem cast_ne (large : 7 < p) {g : Nat} (lower : 2 ≤ g) (upper : g ≤ 7) :
    (g : ZMod p) ≠ 0 ∧ (g : ZMod p) ≠ 1 := by
  constructor
  · intro isZero
    have divides := (ZMod.natCast_eq_zero_iff g p).mp isZero
    exact absurd (Nat.le_of_dvd (by omega) divides) (by omega)
  · intro isOne
    rw [← Nat.cast_one, ZMod.natCast_eq_natCast_iff', Nat.mod_eq_of_lt (by omega),
      Nat.mod_eq_of_lt (by omega)] at isOne
    omega

theorem orderOf_eq_iff (safe : SafePrime p) (large : 7 < p) {g : Nat} (lower : 2 ≤ g)
    (upper : g ≤ 7) : orderOf (g : ZMod p) = (p - 1) / 2 ↔ IsSquare (g : ZMod p) := by
  have half : p / 2 = (p - 1) / 2 := by
    have remainder := safe.mod_four large
    omega
  obtain ⟨notZero, notOne⟩ := cast_ne large lower upper
  have : Fact p.Prime := ⟨safe.1⟩
  have : Fact ((p - 1) / 2).Prime := ⟨safe.2⟩
  rw [ZMod.euler_criterion p notZero, half]
  constructor
  · intro order
    rw [← order]
    exact pow_orderOf_eq_one _
  · intro power
    exact orderOf_eq_prime power notOne

end SafePrime

section Residues

variable {p : Nat} [Fact p.Prime]

theorem mod_ne_zero {divisor : Nat} (divisorPrime : divisor.Prime) (different : p ≠ divisor) :
    p % divisor ≠ 0 := by
  intro divides
  have equal := (Nat.prime_dvd_prime_iff_eq divisorPrime (Fact.out : p.Prime)).mp
      (Nat.dvd_of_mod_eq_zero divides)
  exact different equal.symm

theorem isSquare_two_iff (modFour : p % 4 = 3) : IsSquare ((2 : Nat) : ZMod p) ↔ p % 8 = 7 := by
  rw [Nat.cast_ofNat, ZMod.exists_sq_eq_two_iff (by omega)]
  omega

theorem isSquare_three_iff (modFour : p % 4 = 3) (large : 7 < p) :
    IsSquare ((3 : Nat) : ZMod p) ↔ p % 3 = 2 := by
  have notZero := mod_ne_zero Nat.prime_three (show p ≠ 3 by omega)
  have table :
      ∀ remainder : Fin 3, IsSquare ((remainder.val : Nat) : ZMod 3) ↔ remainder.val ≠ 2 := by
    decide
  rw [ZMod.exists_sq_eq_prime_iff_of_mod_four_eq_three modFour rfl (by omega),
    ← ZMod.natCast_mod p 3, table ⟨p % 3, Nat.mod_lt _ (by decide)⟩,
    not_not]

theorem isSquare_four : IsSquare ((4 : Nat) : ZMod p) :=
  ⟨2, by norm_num⟩

theorem isSquare_five_iff (large : 7 < p) :
    IsSquare ((5 : Nat) : ZMod p) ↔ p % 5 = 1 ∨ p % 5 = 4 := by
  have notZero := mod_ne_zero Nat.prime_five (show p ≠ 5 by omega)
  have table : ∀ remainder : Fin 5, IsSquare ((remainder.val : Nat) : ZMod 5) ↔
          remainder.val = 0 ∨ remainder.val = 1 ∨ remainder.val = 4 := by
    decide
  have : Fact (Nat.Prime 5) := ⟨Nat.prime_five⟩
  rw [← ZMod.exists_sq_eq_prime_iff_of_mod_four_eq_one rfl (by omega),
    ← ZMod.natCast_mod p 5, table ⟨p % 5, Nat.mod_lt _ (by decide)⟩]
  exact or_iff_right notZero

theorem isSquare_mul_iff {first second : Nat} (firstNonzero : (first : ZMod p) ≠ 0)
    (secondNonzero : (second : ZMod p) ≠ 0) : IsSquare ((first * second : Nat) : ZMod p) ↔
      (IsSquare (first : ZMod p) ↔ IsSquare (second : ZMod p)) := by
  have productNonzero : ((first * second : Nat) : ZMod p) ≠ 0 := by
    rw [Nat.cast_mul]
    exact mul_ne_zero firstNonzero secondNonzero
  rw [← quadraticChar_one_iff_isSquare productNonzero,
    ← quadraticChar_one_iff_isSquare firstNonzero,
    ← quadraticChar_one_iff_isSquare secondNonzero, Nat.cast_mul, map_mul]
  rcases quadraticChar_dichotomy firstNonzero with one | minusOne <;>
    rcases quadraticChar_dichotomy secondNonzero with one' | minusOne' <;>
    simp_all

theorem isSquare_six_iff (modFour : p % 4 = 3) (large : 7 < p) :
    IsSquare ((6 : Nat) : ZMod p) ↔ p % 24 = 19 ∨ p % 24 = 23 := by
  have notZero := mod_ne_zero Nat.prime_three (show p ≠ 3 by omega)
  rw [show 6 = 2 * 3 from rfl, isSquare_mul_iff (SafePrime.cast_ne large (by decide) (by decide)).1
      (SafePrime.cast_ne large (by decide) (by decide)).1,
    isSquare_two_iff modFour, isSquare_three_iff modFour large]
  omega

theorem isSquare_seven_iff (modFour : p % 4 = 3) (large : 7 < p) :
    IsSquare ((7 : Nat) : ZMod p) ↔ p % 7 = 3 ∨ p % 7 = 5 ∨ p % 7 = 6 := by
  have notZero := mod_ne_zero Nat.prime_seven (show p ≠ 7 by omega)
  have table : ∀ remainder : Fin 7, ¬ IsSquare ((remainder.val : Nat) : ZMod 7) ↔
          remainder.val = 3 ∨ remainder.val = 5 ∨ remainder.val = 6 := by
    decide
  have : Fact (Nat.Prime 7) := ⟨Nat.prime_seven⟩
  rw [ZMod.exists_sq_eq_prime_iff_of_mod_four_eq_three modFour rfl (by omega),
    ← ZMod.natCast_mod p 7, table ⟨p % 7, Nat.mod_lt _ (by decide)⟩]

end Residues

end Autoproto
