import Autoproto.Handshake
import Mathlib.Algebra.Order.Group.Nat
import Mathlib.Data.Nat.ModEq

namespace Autoproto.Mtproto.PqFactorize

/-!
# Factorizing a number of 63 bits

The number of the first answer of a handshake is factorized with 64-bit words. A
walk along `x * x + q` from a random number finds a factor where the difference
of two of its numbers has one in common with `pq`.
-/

open ByteEncoding

/-- The loop that shifts an even number, which does not end for zero. -/
def shiftEven (a : Nat) : Nat :=
  if a ≠ 0 ∧ a % 2 = 0 then shiftEven (a / 2) else a
termination_by a

theorem shiftEven_le (a : Nat) : shiftEven a ≤ a := by
  fun_induction shiftEven a with
  | case1 a _ ih => omega
  | case2 => exact Nat.le_refl _

/-- The loop of `pq_gcd`. -/
def pqGcdLoop (a b : Nat) : Except Fault Nat :=
  if b < a then
    if (a - b) / 2 = 0 then .error .spin else pqGcdLoop (shiftEven ((a - b) / 2)) b
  else if a < b then
    if (b - a) / 2 = 0 then .error .spin else pqGcdLoop a (shiftEven ((b - a) / 2))
  else
    .ok a
termination_by a + b
decreasing_by
  · have := shiftEven_le ((a - b) / 2)
    omega
  · have := shiftEven_le ((b - a) / 2)
    omega

def pqGcd (a b : Nat) : Except Fault Nat :=
  if a = 0 then .ok b else pqGcdLoop (shiftEven a) b

/-- Words are added, and `pq` is subtracted once if it can be. -/
def addMod (c a pq : Nat) : Nat :=
  if pq ≤ word (c + a) then word (c + a) - pq else word (c + a)

def pqAddMul (c a b pq : Nat) : Nat :=
  if b = 0 then
    c
  else
    pqAddMul (if b % 2 = 1 then addMod c a pq else c) (addMod a a pq) (b / 2) pq
termination_by b

/-- The numbers that the rounds draw. -/
structure PqDraws where
  increment : Nat → Nat
  start : Nat → Nat

/-- The difference of two words, modulo `pq`. -/
def subMod (x y pq : Nat) : Nat :=
  if x < y then word (pq + x + (2 ^ 64 - y)) else x - y

/-- The turns that are left of a round: the divisor that is found, and the turns taken. -/
def pqTurns (pq q : Nat) : (left j x y g iter : Nat) → Except Fault (Nat × Nat)
  | 0, _, _, _, g, iter => .ok (g, iter)
  | left + 1, j, x, y, _, iter => do
    let x := pqAddMul q x x pq
    let g ← pqGcd (subMod x y pq) pq
    if g ≠ 1 then
      return (g, iter + 1)
    pqTurns pq q left (j + 1) x (if j &&& (j - 1) = 0 then x else y) g (iter + 1)

def pqRound (draws : PqDraws) (pq i iter g : Nat) : Except Fault (Nat × Nat) :=
  let q := draws.increment i % (pq - 1)
  let x := draws.start i % (pq - 1) + 1
  pqTurns pq q (2 ^ (min 5 i + 18) - 1) 1 x x g iter

/-- The rounds, which are allowed to be this many. -/
def pqRounds (draws : PqDraws) (pq : Nat) : (most i iter g : Nat) → Except Fault Nat
  | most, i, iter, g =>
    if i < 3 ∨ iter < 1000 then
      match most with
      | 0 => .error .spin
      | most + 1 => do
        let (g, iter) ← pqRound draws pq i iter g
        if 1 < g ∧ g < pq then
          return g
        pqRounds draws pq most (i + 1) iter g
    else
      .ok g

/-- The function `pq_factorize` of words.  As every round takes a turn, a thousand are enough. -/
def pqFactorizeWord (draws : PqDraws) (pq : Nat) : Except Fault Nat := do
  if pq ≤ 2 ∨ 2 ^ 63 < pq then
    return 1
  if pq % 2 = 0 then
    return 2
  let g ← pqRounds draws pq 1000 0 0 0
  return if g ≠ 0 ∧ pq / g < g then pq / g else g

variable {a b c d pq : Nat}

theorem gcd_half (odd : b % 2 = 1) (even : d % 2 = 0) : (d / 2).gcd b = d.gcd b := by
  rw [← Nat.Coprime.gcd_mul_left_cancel (d / 2) (Nat.coprime_two_left.mpr (Nat.odd_iff.mpr odd)),
    Nat.mul_div_cancel' (Nat.dvd_of_mod_eq_zero even)]

theorem gcd_shiftEven (odd : b % 2 = 1) : (shiftEven a).gcd b = a.gcd b := by
  fun_induction shiftEven a with
  | case1 a more ih => rw [ih, gcd_half odd more.2]
  | case2 => rfl

theorem shiftEven_mod_two (nonzero : a ≠ 0) : shiftEven a % 2 = 1 := by
  fun_induction shiftEven a with
  | case1 a more ih => exact ih (by omega)
  | case2 => omega

theorem pqGcdLoop_eq_ok (oddA : a % 2 = 1) (oddB : b % 2 = 1) : pqGcdLoop a b = .ok (a.gcd b) := by
  fun_induction pqGcdLoop a b with
  | case1 | case3 => omega
  | case2 a b less nonzero ih =>
    rw [ih (shiftEven_mod_two nonzero) oddB, gcd_shiftEven oddB,
      gcd_half oddB (by omega), Nat.gcd_sub_self_left (Nat.le_of_lt less)]
  | case4 a b _ less nonzero ih =>
    rw [ih oddA (shiftEven_mod_two nonzero), Nat.gcd_comm, gcd_shiftEven oddA,
      gcd_half oddA (by omega), Nat.gcd_sub_self_left (Nat.le_of_lt less), Nat.gcd_comm]
  | case5 a b _ _ =>
    obtain rfl : a = b := by omega
    rw [Nat.gcd_self]

theorem pqGcd_eq_ok (odd : b % 2 = 1) : pqGcd a b = .ok (a.gcd b) := by
  rw [pqGcd]
  split
  · subst a
    rw [Nat.gcd_zero_left]
  · rename_i nonzero
    rw [pqGcdLoop_eq_ok (shiftEven_mod_two nonzero) odd, gcd_shiftEven odd]

theorem addMod_eq (fits : pq ≤ 2 ^ 63) (first : c < pq) (second : a < pq) :
    addMod c a pq = (c + a) % pq := by
  have noWrap : word (c + a) = c + a := word_of_lt (by omega)
  rw [addMod, noWrap]
  split
  · rename_i large
    rw [Nat.mod_eq_sub_mod large, Nat.mod_eq_of_lt (by omega)]
  · exact (Nat.mod_eq_of_lt (by omega)).symm

/-- The sums of `pq_add_mul` do not wrap, and it returns `(c + a * b) % pq`. -/
theorem pqAddMul_exact
    (c a b pq : Nat)
    (fits : pq ≤ 2 ^ 63)
    (first : c < pq)
    (second : a < pq) :
    pqAddMul c a b pq = (c + a * b) % pq := by
  fun_induction pqAddMul c a b pq with
  | case1 c a => rw [Nat.mul_zero, Nat.add_zero, Nat.mod_eq_of_lt first]
  | case2 c a b nonzero ih =>
    have added : (if b % 2 = 1 then addMod c a pq else c) = (c + a * (b % 2)) % pq := by
      split
      · rename_i odd
        rw [odd, Nat.mul_one, addMod_eq fits first second]
      · rename_i even
        rw [Nat.mod_two_ne_one.mp even, Nat.mul_zero, Nat.add_zero, Nat.mod_eq_of_lt first]
    have positive : 0 < pq := Nat.zero_lt_of_lt first
    simp only [dite_eq_ite, added, addMod_eq fits second second] at ih ⊢
    rw [ih (Nat.mod_lt _ positive) (Nat.mod_lt _ positive)]
    refine ((Nat.mod_modEq _ _).add ((Nat.mod_modEq _ _).mul_right _)).trans ?_
    have halves : c + a * (b % 2) + (a + a) * (b / 2) = c + a * b := by
      nth_rewrite 3 [← Nat.mod_add_div b 2]
      ring
    rw [halves]

theorem five_times_seven_added : pqAddMul 3 5 7 11 = 5 :=
  pqAddMul_exact 3 5 7 11 (by decide) (by decide) (by decide)

variable {draws : PqDraws} {i q left j x y g iter : Nat}

theorem pqTurns_spec (odd : pq % 2 = 1) (some : 0 < left ∨ g ∣ pq) : ∃ done,
    pqTurns pq q left j x y g iter = .ok done ∧ done.1 ∣ pq ∧ iter + min left 1 ≤ done.2 := by
  induction left generalizing j x y g iter with
  | zero => exact ⟨_, rfl, some.resolve_left (Nat.lt_irrefl 0), Nat.le_refl _⟩
  | succ left ih =>
    have divides := Nat.gcd_dvd_right (subMod (pqAddMul q x x pq) y pq) pq
    rw [pqTurns, pqGcd_eq_ok odd, ok_bind]
    split
    · exact ⟨_, rfl, divides, by dsimp only; omega⟩
    · obtain ⟨done, returned, isDivisor, counted⟩ := ih (Or.inr divides)
      exact ⟨done, returned, isDivisor, by omega⟩

theorem pqRound_spec (odd : pq % 2 = 1) : ∃ done,
    pqRound draws pq i iter g = .ok done ∧ done.1 ∣ pq ∧ iter < done.2 := by
  have many : 2 ^ 1 ≤ 2 ^ (min 5 i + 18) := Nat.pow_le_pow_right (by decide) (by omega)
  obtain ⟨done, returned, divides, counted⟩ : ∃ done,
      pqRound draws pq i iter g = .ok done ∧ _ ∧ _ := pqTurns_spec odd (Or.inl (by omega))
  exact ⟨done, returned, divides, by omega⟩

theorem pqRounds_spec {most : Nat} (odd : pq % 2 = 1) (enough : 3 ≤ most + i ∧ 1000 ≤ most + iter)
    (some : i = 0 ∨ g ∣ pq) : ∃ found,
      pqRounds draws pq most i iter g = .ok found ∧ found ∣ pq := by
  induction most generalizing i iter g with
  | zero =>
    refine ⟨g, ?_, some.resolve_left (by omega)⟩
    rw [pqRounds, if_neg (by omega)]
  | succ most ih =>
    rw [pqRounds]
    split
    · obtain ⟨done, returned, divides, counted⟩ := pqRound_spec odd
      rw [returned, ok_bind]
      dsimp only
      split
      · exact ⟨_, rfl, divides⟩
      · exact ih (by omega) (Or.inr divides)
    · exact ⟨g, rfl, some.resolve_left (by omega)⟩

theorem pqFactorizeWord_spec (positive : 0 < pq) : ∃ p q,
    pqFactorizeWord draws pq = .ok p ∧ p * q = pq ∧ p ≤ q := by
  rw [pqFactorizeWord]
  split
  · exact ⟨1, pq, rfl, Nat.one_mul pq, positive⟩
  rename_i large
  split
  · exact ⟨2, pq / 2, rfl, by omega, by omega⟩
  rename_i odd
  obtain ⟨g, returned, k, rfl⟩ : ∃ g, pqRounds draws pq 1000 0 0 0 = .ok g ∧ _ :=
    pqRounds_spec (by omega) (by omega) (Or.inl rfl)
  rw [returned, ok_bind, Nat.mul_div_cancel_left k (Nat.pos_of_mul_pos_right positive)]
  split
  · exact ⟨k, g, rfl, Nat.mul_comm k g, by omega⟩
  · exact ⟨g, k, rfl, rfl, by omega⟩

/--
Whatever is drawn, factorizing a positive number of 63 bits ends with two
ordered factors of it.
-/
theorem factors_returned
    (pqStr : Bytes)
    (small : isBigPq pqStr = false)
    (nonzero : natOfBe pqStr ≠ 0)
    (draws : PqDraws) :
    ∃ p q,
      pqFactorizeWord draws (natOfBe pqStr) = .ok p ∧ p * q = natOfBe pqStr ∧ p ≤ q ∧
      ∀ others : HandshakeDraws, (others.factor (natOfBe pqStr)).toNat = p →
        pqFactorize others pqStr = .ok (some (toBinary p, toBinary q)) := by
  obtain ⟨p, q, returned, isProduct, ordered⟩ :=
    pqFactorizeWord_spec (Nat.pos_of_ne_zero nonzero)
  refine ⟨p, q, returned, isProduct, ordered, ?_⟩
  intro others drawn
  rw [← isProduct] at nonzero drawn
  have positive := Nat.pos_of_mul_pos_right (Nat.pos_of_ne_zero nonzero)
  rw [pqFactorize, if_neg (Bool.eq_false_iff.mp small), ← isProduct]
  dsimp only
  rw [drawn, Nat.mul_mod_right, Nat.mul_div_cancel_left q positive, if_neg (by omega)]

theorem factors_of_fifteen_returned : ∃ p q,
    pqFactorizeWord ⟨id, id⟩ 15 = .ok p ∧ p * q = 15 ∧ p ≤ q := by
  obtain ⟨p, q, returned, isProduct, ordered, _⟩ :=
    factors_returned [15] (by decide) (by decide) ⟨id, id⟩
  exact ⟨p, q, returned, isProduct, ordered⟩

end Autoproto.Mtproto.PqFactorize
