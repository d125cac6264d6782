import Autoproto.DhHandshake
import Autoproto.Text
import Autoproto.Transition
import Mathlib.NumberTheory.LucasPrimality
import Mathlib.Tactic.NormNum.Prime

namespace Autoproto.Mtproto

open ByteEncoding DhHandshake Function

/-!
# The cache of primes

`DhCache`, which all handshakes of the process share, remembers for a string
whether its number is a safe prime. Each of its functions locks a mutex, so that
checks of several threads interleave between a question and the answer that is
recorded for it.
-/

/-- The values of the map. -/
inductive Verdict where
  | good
  | bad
  deriving Repr, DecidableEq

/-- The value that is recorded. -/
def Verdict.ofBool : Bool → Verdict
  | true => .good
  | false => .bad

/-- The contents of the map, by key. -/
abbrev DhCacheMap := Bytes → Option Verdict

def goodPrimeKey (primeStr : Bytes) : Bytes :=
  Text.ascii "good_prime:" ++ primeStr

theorem goodPrimeKey_inj {first second : Bytes} :
    goodPrimeKey first = goodPrimeKey second ↔ first = second :=
  List.append_right_inj _

def builtInGoodPrime : Bytes :=
  beOfNat 40 0xc71caeb9c6b1c9048e6c522f70f13f73980d40238e3e21c14934d037563d930f48198a0aa7c14058 ++
    beOfNat 40 0x229493d22530f4dbfa336f6e0ac925139543aed44cce7c3720fd51f69458705ac68cd4fe6b6b13ab ++
    beOfNat 40 0xdc9746512969328454f18faf8c595f642477fe96bb2a941d5bcd1d4ac8cc49880708fa9b378e3c4f ++
    beOfNat 40 0x3a9060bee67cf9a4a4a695811051907e162753b56b0f6b410dba74d8a84b2a14b3144e0ef1284754 ++
    beOfNat 40 0xfd17ed950d5965b4b9dd46582db1178d169c6bc465b0d6ff9ca3928fef5b9ae4e418fc15e83ebea0 ++
    beOfNat 40 0xf87fa9ff5eed70050ded2849f47bf959d956850ce929851f0d8115f635b105ee2e4e15d04b2454bf ++
    beOfNat 16 0x6f4fadf034b10403119cd8e3b92fcc5b

def isGoodPrime (builtIn : Bytes) (map : DhCacheMap) : DhCallback :=
  fun primeStr =>
    if primeStr = builtIn then
      some true
    else
      (map (goodPrimeKey primeStr)).map (· = .good)

/-- For the generator three the built-in prime is accepted without a test of primality. -/
example :
    (checkConfig (fun _ => false) builtInGoodPrime (natOfBe builtInGoodPrime) 3
      (some (isGoodPrime builtInGoodPrime fun _ => none))).status = .ok () := by
  decide +kernel

/-- The map, and what each thread that is testing a prime will record. -/
structure DhCache (Thread : Type) where
  map : DhCacheMap := fun _ => none
  pending : Thread → Option (Bytes × Bool) := fun _ => none

inductive DhCacheEvent (Thread : Type) where
  /-- A thread checks a configuration, up to what it records. -/
  | checkConfig (thread : Thread) (gInt : Int32) (primeStr : Bytes)
  /-- A thread calls `add_good_prime` or `add_bad_prime`. -/
  | addPrime (thread : Thread)

variable {Thread : Type} [DecidableEq Thread]

inductive DhCacheStep (isPrime : Nat → Bool) (builtIn : Bytes) :
    DhCache Thread → DhCacheEvent Thread → DhCache Thread → Prop where
  | checkConfig (cache : DhCache Thread) (thread : Thread) (gInt : Int32) (primeStr : Bytes)
      (idle : cache.pending thread = none) :
      DhCacheStep isPrime builtIn cache (.checkConfig thread gInt primeStr)
        { cache with
          pending :=
            update cache.pending thread
              ((checkConfig isPrime primeStr (natOfBe primeStr)
                gInt (some (isGoodPrime builtIn cache.map))).record.map
                fun good => (primeStr, good)) }
  | addPrime (cache : DhCache Thread) (thread : Thread) (primeStr : Bytes) (good : Bool)
      (testing : cache.pending thread = some (primeStr, good)) :
      DhCacheStep isPrime builtIn cache (.addPrime thread)
        { map := update cache.map (goodPrimeKey primeStr) (some (.ofBool good))
          pending := update cache.pending thread none }

/-- The tests of primality are exact. -/
def Exact (isPrime : Nat → Bool) : Prop :=
  ∀ number, isPrime number = true ↔ number.Prime

/-- What is remembered, and what will be, is right. -/
structure DhCache.Right (cache : DhCache Thread) : Prop where
  map : ∀ primeStr verdict, cache.map (goodPrimeKey primeStr) = some verdict →
        (verdict = .good ↔ SafePrime (natOfBe primeStr))
  pending : ∀ thread primeStr good,
      cache.pending thread = some (primeStr, good) → (good = true ↔ SafePrime (natOfBe primeStr))

variable {isPrime : Nat → Bool}

/-- The slow test finds the safe primes. -/
theorem checkSafePrime_eq_ok_iff (exact : Exact isPrime) (prime : Nat) :
    checkSafePrime isPrime prime = .ok () ↔ SafePrime prime := by
  rw [checkSafePrime, SafePrime, ← exact prime, ← exact ((prime - 1) / 2)]
  cases isPrime prime <;> cases isPrime ((prime - 1) / 2) <;> simp

theorem record_right (exact : Exact isPrime) {primeStr : Bytes} {prime : Nat} {gInt : Int32}
    {callback : Option DhCallback} {good : Bool}
    (records : (checkConfig isPrime primeStr prime gInt callback).record = some good) :
    good = true ↔ SafePrime prime := by
  rw [← checkSafePrime_eq_ok_iff exact]
  unfold checkConfig at records
  split at records
  · cases records
  split at records
  · cases records
  split at records
  · cases records
  · cases records
  · obtain ⟨_, _, recorded⟩ := Option.map_eq_some_iff.mp records
    rw [← recorded]
    cases checkSafePrime isPrime prime <;> simp

variable {builtIn : Bytes}

theorem DhCacheStep.right (exact : Exact isPrime) {before after : DhCache Thread}
    {event : DhCacheEvent Thread} (right : before.Right)
    (step : DhCacheStep isPrime builtIn before event after) : after.Right := by
  cases step with
  | checkConfig thread gInt primeStr idle =>
    refine ⟨right.map, ?_⟩
    intro other otherStr good testing
    dsimp only at testing
    by_cases same : other = thread
    · rw [same, update_self] at testing
      obtain ⟨_, records, isPair⟩ := Option.map_eq_some_iff.mp testing
      cases isPair
      exact record_right exact records
    · rw [update_of_ne same] at testing
      exact right.pending other otherStr good testing
  | addPrime thread primeStr good testing =>
    constructor
    · intro otherStr verdict found
      dsimp only at found
      by_cases same : otherStr = primeStr
      · rw [same, update_self] at found
        cases found
        rw [same, ← right.pending thread primeStr good testing]
        cases good <;> simp [Verdict.ofBool]
      · rw [update_of_ne (fun sameKey => same (goodPrimeKey_inj.mp sameKey))] at found
        exact right.map otherStr verdict found
    · intro other otherStr otherGood stillTesting
      dsimp only at stillTesting
      by_cases same : other = thread
      · rw [same, update_self] at stillTesting
        cases stillTesting
      · rw [update_of_ne same] at stillTesting
        exact right.pending other otherStr otherGood stillTesting

theorem DhCache.right_of_run (exact : Exact isPrime) {events : List (DhCacheEvent Thread)}
    {reached : DhCache Thread}
    (run : Transition.Run (DhCacheStep isPrime builtIn) {} events reached) : reached.Right := by
  induction run with
  | start => exact ⟨fun _ _ found => (nomatch found), fun _ _ _ testing => (nomatch testing)⟩
  | extend _ last ih => exact last.right exact ih

/-! ## What the checks accept -/

/-- A callback that is never wrong. -/
def DhCallback.Right (callback : DhCallback) : Prop :=
  ∀ primeStr good, callback primeStr = some good → (good = true ↔ SafePrime (natOfBe primeStr))

omit [DecidableEq Thread] in
theorem DhCache.Right.isGoodPrime {cache : DhCache Thread} (right : cache.Right)
    (builtInSafe : SafePrime (natOfBe builtIn)) :
    DhCallback.Right (isGoodPrime builtIn cache.map) := by
  intro primeStr good answer
  rw [Mtproto.isGoodPrime] at answer
  split at answer
  · rename_i isBuiltIn
    cases answer
    exact iff_of_true rfl (isBuiltIn ▸ builtInSafe)
  · obtain ⟨verdict, found, isGood⟩ := Option.map_eq_some_iff.mp answer
    rw [← isGood, decide_eq_true_iff]
    exact right.map primeStr verdict found

variable {p : Nat}

theorem modOk_iff_isSquare (safe : SafePrime p) (large : 7 < p) {gInt : Int32} {g : Nat}
    (lower : 2 ≤ g) (upper : g ≤ 7) (isG : gInt.toInt = g) :
    modOk gInt p = true ↔ IsSquare (g : ZMod p) := by
  have : Fact p.Prime := ⟨safe.1⟩
  have modFour := safe.mod_four large
  rw [modOk, isG]
  interval_cases g
  · rw [isSquare_two_iff modFour]
    simp
  · rw [isSquare_three_iff modFour large]
    simp
  · exact iff_of_true rfl isSquare_four
  · rw [isSquare_five_iff large]
    simp
  · rw [isSquare_six_iff modFour large]
    simp
  · rw [isSquare_seven_iff modFour large]
    simp [or_assoc]

theorem generator_of_modOk {gInt : Int32} (ok : modOk gInt p = true) :
    ∃ g : Nat, 2 ≤ g ∧ g ≤ 7 ∧ gInt.toInt = g := by
  unfold modOk at ok
  split at ok
  case h_7 => cases ok
  all_goals
    rename_i isG
    rw [isG]
  · exact ⟨2, by decide⟩
  · exact ⟨3, by decide⟩
  · exact ⟨4, by decide⟩
  · exact ⟨5, by decide⟩
  · exact ⟨6, by decide⟩
  · exact ⟨7, by decide⟩

/-- Parameters that give a strong key: what the checks are for. -/
structure StrongParameters (p : Nat) (gInt : Int32) (gA gB : Nat) : Prop where
  bits : 2 ^ 2047 ≤ p ∧ p < 2 ^ 2048
  safe : SafePrime p
  generator : ∃ g : Nat, 2 ≤ g ∧ g ≤ 7 ∧ gInt.toInt = g ∧ orderOf (g : ZMod p) = (p - 1) / 2
  gA : 2 ^ 1984 ≤ gA ∧ gA ≤ p - 2 ^ 1984
  gB : 2 ^ 1984 ≤ gB ∧ gB ≤ p - 2 ^ 1984

theorem size_eq_2048_iff : p.size = 2048 ↔ 2 ^ 2047 ≤ p ∧ p < 2 ^ 2048 := by
  rw [← Nat.size_le, ← Nat.lt_size]
  omega

theorem checkConfig_ok_iff (exact : Exact isPrime) {primeStr : Bytes} {gInt : Int32}
    {callback : Option DhCallback} (right : ∀ known, callback = some known → known.Right) :
    (checkConfig isPrime primeStr (natOfBe primeStr) gInt callback).status = .ok () ↔
      (natOfBe primeStr).size = 2048 ∧ modOk gInt (natOfBe primeStr) = true ∧
        SafePrime (natOfBe primeStr) := by
  have known : ∀ good, callback.bind (fun isGoodPrime => isGoodPrime primeStr) = some good →
          (good = true ↔ SafePrime (natOfBe primeStr)) := by
    intro good answer
    obtain ⟨isGoodPrime, isCallback, answer⟩ := Option.bind_eq_some_iff.mp answer
    exact right isGoodPrime isCallback primeStr good answer
  unfold checkConfig
  by_cases bits : (natOfBe primeStr).size = 2048
  · rw [if_neg (not_not_intro bits)]
    cases mod : modOk gInt (natOfBe primeStr) with
    | false => simp
    | true =>
      simp only [bits, Bool.not_true, Bool.false_eq_true, if_false, true_and]
      split
      · rename_i answer
        exact iff_of_true rfl ((known true answer).mp rfl)
      · rename_i answer
        have notSafe := (known false answer).not.mp (by decide)
        exact iff_of_false (by simp) notSafe
      · exact checkSafePrime_eq_ok_iff exact _
  · rw [if_pos bits]
    exact iff_of_false (by simp) (fun strong => bits strong.1)

theorem dhCheck_eq {prime gA gB : Nat} (bits : prime.size = 2048) : ∃ status,
      dhCheck prime gA gB = .ok status ∧ (status = .ok () ↔
          (2 ^ 1984 ≤ gA ∧ gA ≤ prime - 2 ^ 1984) ∧ (2 ^ 1984 ≤ gB ∧ gB ≤ prime - 2 ^ 1984)) := by
  rw [dhCheck, check_eq_ok bits, ok_bind]
  generalize 2 ^ (2048 - 64) = left
  dsimp only
  split
  · exact ⟨_, rfl, iff_of_false (by simp) (by omega)⟩
  · exact ⟨_, rfl, iff_of_true rfl (by omega)⟩

theorem large_of_bits (bits : 2 ^ 2047 ≤ p) : 7 < p :=
  calc
    7 < 2 ^ 3 := by decide
    _ ≤ 2 ^ 2047 := Nat.pow_le_pow_right (by decide) (by decide)
    _ ≤ p := bits

theorem generator_iff (bits : 2 ^ 2047 ≤ p) (safe : SafePrime p) (gInt : Int32) :
    modOk gInt p = true ↔
      ∃ g : Nat, 2 ≤ g ∧ g ≤ 7 ∧ gInt.toInt = g ∧ orderOf (g : ZMod p) = (p - 1) / 2 := by
  have large := large_of_bits bits
  constructor
  · intro ok
    obtain ⟨g, lower, upper, isG⟩ := generator_of_modOk ok
    have isSquare := (modOk_iff_isSquare safe large lower upper isG).mp ok
    exact ⟨g, lower, upper, isG, (safe.orderOf_eq_iff large lower upper).mpr isSquare⟩
  · rintro ⟨g, lower, upper, isG, order⟩
    have isSquare := (safe.orderOf_eq_iff large lower upper).mp order
    exact (modOk_iff_isSquare safe large lower upper isG).mpr isSquare

/--
After every history of the cache, the checks accept exactly the parameters that
give a strong key; the test of the generator is one for squares.
-/
theorem runChecks_ok_iff_strongParameters
    (isPrime : Nat → Bool)
    (exact : Exact isPrime)
    (builtIn : Bytes)
    (builtInSafe : SafePrime (natOfBe builtIn))
    (Thread : Type)
    [DecidableEq Thread]
    (events : List (DhCacheEvent Thread))
    (reached : DhCache Thread)
    (run : Transition.Run (DhCacheStep isPrime builtIn) {} events reached)
    (handshake : DhHandshake)
    (hasConfig : handshake.hasConfig = true)
    (hasGA : handshake.hasGA = true)
    (callback : Option DhCallback)
    (isCache : callback = none ∨ callback = some (isGoodPrime builtIn reached.map)) :
    (∃ checked, handshake.runChecks isPrime false callback = .ok checked ∧
        (checked.status = .ok () ↔ (handshake.hasGAHash = true → handshake.okGAHash = true) ∧
            StrongParameters (natOfBe handshake.primeStr) handshake.gInt
              handshake.gA handshake.gB)) ∧ ∀ (p g : Nat) (gInt : Int32), SafePrime p →
          2 ^ 2047 ≤ p → 2 ≤ g → g ≤ 7 →
                gInt.toInt = g → (modOk gInt p = true ↔ IsSquare (g : ZMod p)) := by
  have right : ∀ known, callback = some known → known.Right := by
    intro known isKnown
    rcases isCache with noCallback | isCache
    · cases noCallback.symm.trans isKnown
    · cases isCache.symm.trans isKnown
      exact (DhCache.right_of_run exact run).isGoodPrime builtInSafe
  have config := @checkConfig_ok_iff isPrime exact handshake.primeStr handshake.gInt callback right
  constructor
  · rw [runChecks, check_eq_ok ⟨hasGA, hasConfig⟩, ok_bind, handshake.prime_eq]
    by_cases mismatch : handshake.hasGAHash ∧ !handshake.okGAHash
    · rw [if_pos mismatch]
      refine ⟨_, rfl, iff_of_false (by simp) ?_⟩
      rintro ⟨hashOk, _⟩
      simp [hashOk mismatch.1] at mismatch
    · have hashOk : handshake.hasGAHash = true → handshake.okGAHash = true := by
        intro hasHash
        by_contra notOk
        exact mismatch ⟨hasHash, by simp [notOk]⟩
      rw [if_neg mismatch]
      simp only [Bool.false_eq_true, if_false]
      cases status :
          (checkConfig isPrime handshake.primeStr
            (natOfBe handshake.primeStr) handshake.gInt callback).status with
      | error failure =>
        refine ⟨_, rfl, iff_of_false ?_ ?_⟩
        · rw [status]
          simp
        · rintro ⟨_, strong⟩
          have passes := config.mpr ⟨(size_eq_2048_iff).mpr strong.bits,
              (generator_iff strong.bits.1 strong.safe _).mpr strong.generator,
              strong.safe⟩
          rw [status] at passes
          cases passes
      | ok =>
        obtain ⟨bits, generator, safe⟩ := config.mp status
        obtain ⟨checked, isChecked, range⟩ := @dhCheck_eq _ handshake.gA handshake.gB bits
        have bitsBetween := (size_eq_2048_iff).mp bits
        rw [isChecked, ok_bind]
        refine ⟨_, rfl, range.trans ⟨?_, ?_⟩⟩
        · rintro ⟨gARange, gBRange⟩
          exact ⟨hashOk, bitsBetween, safe,
            (generator_iff bitsBetween.1 safe _).mp generator, gARange,
            gBRange⟩
        · rintro ⟨_, strong⟩
          exact ⟨strong.gA, strong.gB⟩
  · intro p g gInt safe bits lower upper isG
    exact modOk_iff_isSquare safe (large_of_bits bits) lower upper isG

/-! ## A strong choice of parameters -/

/-- A power modulo a number, by squaring, for an exponent of so many bits. -/
def powMod (modulus : Nat) : Nat → Nat → Nat → Nat
  | 0, _, _ => 1 % modulus
  | bits + 1, base, exponent =>
    powMod modulus bits (base * base % modulus) (exponent / 2) *
      (if exponent % 2 = 1 then base else 1) % modulus

theorem powMod_eq (modulus bits base exponent : Nat) (fits : exponent < 2 ^ bits) :
    powMod modulus bits base exponent = base ^ exponent % modulus := by
  induction bits generalizing base exponent with
  | zero =>
    have isZero : exponent = 0 := by omega
    rw [isZero]
    rfl
  | succ bits ih =>
    have halfFits : exponent / 2 < 2 ^ bits := by
      omega
    have lastBit : (if exponent % 2 = 1 then base else 1) = base ^ (exponent % 2) := by
      rcases Nat.mod_two_eq_zero_or_one exponent with even | odd
      · simp [even]
      · simp [odd]
    rw [powMod, ih _ _ halfFits, lastBit, Nat.mod_mul_mod,
      Nat.mul_mod, ← Nat.pow_mod, ← Nat.mul_mod, ← pow_two, ← pow_mul,
      ← pow_add, Nat.div_add_mod]

theorem prime_of_powMod {base bits exponent factor : Nat}
    (isProduct : p - 1 = 2 ^ exponent * factor) (factorPrime : factor.Prime)
    (fits : p - 1 < 2 ^ bits) (notOne : 1 < p) (full : powMod p bits base (p - 1) = 1)
    (half : powMod p bits base ((p - 1) / 2) ≠ 1)
    (part : powMod p bits base ((p - 1) / factor) ≠ 1) : p.Prime := by
  have isOne :
      ∀ power, power ≤ p - 1 → ((base : ZMod p) ^ power = 1 ↔ powMod p bits base power = 1) := by
    intro power le
    rw [powMod_eq _ _ _ _ (by omega), ← Nat.cast_pow, ← Nat.cast_one,
      ZMod.natCast_eq_natCast_iff', Nat.mod_eq_of_lt notOne]
  refine lucas_primality p (base : ZMod p) ?_ ?_
  · exact (isOne _ (Nat.le_refl _)).mpr full
  · intro divisor divisorPrime divides
    rw [Ne, isOne _ (Nat.div_le_self _ _)]
    rw [isProduct] at divides
    rcases divisorPrime.dvd_mul.mp divides with inPower | inFactor
    · have isTwo := (Nat.prime_dvd_prime_iff_eq divisorPrime Nat.prime_two).mp
          (divisorPrime.dvd_of_dvd_pow inPower)
      rw [isTwo]
      exact half
    · have isFactor := (Nat.prime_dvd_prime_iff_eq divisorPrime factorPrime).mp inFactor
      rw [isFactor]
      exact part

def strongHalf : Nat :=
  67699153 * 2 ^ 2020 + 1

def strongPrime : Nat :=
  2 * strongHalf + 1

theorem strongHalf_prime : strongHalf.Prime :=
  @prime_of_powMod strongHalf 3 2048 2020 67699153 (by decide +kernel)
    (by norm_num) (by decide +kernel) (by decide +kernel)
    (by decide +kernel) (by decide +kernel) (by decide +kernel)

theorem strongPrime_safe : SafePrime strongPrime := by
  constructor
  · exact @prime_of_powMod strongPrime 2 2048 1 strongHalf (by decide +kernel)
        strongHalf_prime (by decide +kernel) (by decide +kernel)
        (by decide +kernel) (by decide +kernel) (by decide +kernel)
  · rw [strongPrime, Nat.add_sub_cancel, Nat.mul_div_cancel_left _ (by decide)]
    exact strongHalf_prime

/-- This prime, the generator 4, numbers in the middle. -/
def strongHandshake : DhHandshake where
  hasConfig := true
  primeStr := beOfNat 256 strongPrime
  prime := strongPrime
  b := 1000
  gInt := 4
  g := 4
  gB := 2 ^ 2000
  hasGA := true
  gA := 2 ^ 2000
  prime_eq := (natOfBe_beOfNat_of_lt (by decide +kernel)).symm

/-- The checks accept it. -/
theorem strongHandshake_accepted : ∃ checked,
      strongHandshake.runChecks (fun number => decide number.Prime) false
          (some (isGoodPrime [7] fun _ => none)) = .ok checked ∧
        checked.status = .ok () := by
  have exact : Exact (fun number => decide number.Prime) := by
    intro number
    exact decide_eq_true_iff
  have sevenSafe : SafePrime (natOfBe [7]) := by constructor <;> decide +kernel
  have sameNumber : natOfBe strongHandshake.primeStr = strongPrime := strongHandshake.prime_eq.symm
  have bits : 2 ^ 2047 ≤ strongPrime ∧ strongPrime < 2 ^ 2048 := by decide +kernel
  have strong : StrongParameters strongPrime 4 (2 ^ 2000) (2 ^ 2000) := by
    have : Fact strongPrime.Prime := ⟨strongPrime_safe.1⟩
    refine ⟨bits, strongPrime_safe, ⟨4, by decide, by decide, rfl, ?_⟩,
      by decide +kernel, by decide +kernel⟩
    exact (strongPrime_safe.orderOf_eq_iff (large_of_bits bits.1) (by decide)
        (by decide)).mpr isSquare_four
  obtain ⟨checked, runs, ok⟩ := (runChecks_ok_iff_strongParameters _ exact [7] sevenSafe Unit [] {}
      .start strongHandshake rfl rfl _ (Or.inr rfl)).1
  rw [sameNumber] at ok
  exact ⟨checked, runs, ok.mpr ⟨fun hasHash => (nomatch hasHash), strong⟩⟩

end Autoproto.Mtproto
