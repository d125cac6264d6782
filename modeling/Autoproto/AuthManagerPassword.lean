import Autoproto.AuthManagerRuns

namespace Autoproto

open ByteEncoding

namespace AuthManager

/-!
# The parameters of the password check

The server chooses the modulus and its public value. The protocol asks for 2048
bits and for a value between zero and the modulus. The manager computes with
whatever arrives; only the width of 256 bytes and the big numbers stand in its
way.
-/

/-- The parameters that the protocol asks for. -/
structure ProperParameters (algo : ModPowAlgo) (srpB : Bytes) : Prop where
  pLarge : 2 ^ 2047 ≤ natOfBe algo.p
  pFits : natOfBe algo.p < 2 ^ 2048
  bPositive : 0 < natOfBe srpB
  bBelow : natOfBe srpB < natOfBe algo.p

def passwordAnswer (algo : ModPowAlgo) (srpB : Bytes) (srpId : Int) : QueryResult :=
  .ok (.accountPassword ⟨true, some (.modPow algo), srpB, srpId⟩)

def waitingForPassword (manager : AuthManager) : AuthManager :=
  { manager with netQueryType := .getPassword }

/-- No operation aborts, the check is sent with proper parameters, and others are an error. -/
structure HandlesSafely (environment : Environment) (algo : ModPowAlgo) (srpB : Bytes) (srpId : Int)
    (secret : FixedBytes 256) (manager : AuthManager) : Prop where
  computes : ∀ x, environment.crypto.passwordHash manager.pendingPassword algo = .ok x →
        ∃ values, srpValues environment.crypto algo srpB x secret = .ok values
  sendsProper : ∀ reached query,
      manager.waitingForPassword.onResult environment (passwordAnswer algo srpB srpId) secret =
        .ok reached →
      query ∈ reached.inFlight →
      query ∉ manager.inFlight →
      query.function.netQueryType = .checkPassword →
      ProperParameters algo srpB
  reportsOthers : ¬ ProperParameters algo srpB →
      ∃ reached info,
        manager.waitingForPassword.onResult environment (passwordAnswer algo srpB srpId) secret =
          .ok reached ∧
        reached.notified = manager.notified ++ [(.error, info)]

variable {algo : ModPowAlgo} {srpB : Bytes}

theorem computable_of_proper (proper : ProperParameters algo srpB) (pShort : algo.p.length ≤ intMax)
    (bShort : srpB.length ≤ intMax) : Computable algo srpB where
  pShort := pShort
  bShort := bShort
  pNonzero := by
    have below := proper.bBelow
    omega
  pFits := by
    rw [pow_256, show 8 * 256 = 2048 from rfl]
    exact proper.pFits
  bFits := by
    rw [pow_256, show 8 * 256 = 2048 from rfl]
    exact proper.bBelow.trans proper.pFits

theorem short_of_srpValues {crypto : Crypto} {xBytes : FixedBytes 32} {secret : FixedBytes 256}
    {values : SrpValues} (returned : srpValues crypto algo srpB xBytes secret = .ok values) :
    algo.p.length ≤ intMax ∧ srpB.length ≤ intMax := by
  by_cases pShort : algo.p.length ≤ intMax
  · rw [srpValues, BigNum.fromBinary_eq_ok pShort, ok_bind] at returned
    by_cases bShort : srpB.length ≤ intMax
    · exact ⟨pShort, bShort⟩
    · simp only [BigNum.fromBinary_eq_error bShort, error_bind] at returned
      cases returned
  · rw [srpValues, BigNum.fromBinary_eq_error pShort, error_bind] at returned
    cases returned

theorem onResult_password (environment : Environment) (saltShort : algo.salt1.length ≤ intMax)
    (srpId : Int) (secret : FixedBytes 256) (manager : AuthManager) :
    manager.waitingForPassword.onResult environment (passwordAnswer algo srpB srpId) secret =
      (srpValues environment.crypto algo srpB
          (environment.crypto.ph2 manager.pendingPassword algo.salt1
            algo.salt2) secret >>= fun values =>
        .ok (dispatch .checkPassword (.authCheckPassword srpId values.aStr values.m1)
          { manager.waitingForPassword with pendingPassword := [] })) := by
  change answerPassword _ _ _ _ _ _ = _
  rw [answerPassword, Crypto.passwordHash, check_eq_ok saltShort, ok_bind, pure_eq_ok, ok_bind]
  rfl

/--
The parameters are handled as they should be exactly when they are proper and,
unless the salt is too long, of a representable size.
-/
theorem handlesSafely_iff
    (environment : Environment)
    (algo : ModPowAlgo)
    (srpB : Bytes)
    (srpId : Int)
    (secret : FixedBytes 256)
    (manager : AuthManager) :
    HandlesSafely environment algo srpB srpId secret manager ↔ ProperParameters algo srpB ∧
        (algo.salt1.length ≤ intMax → algo.p.length ≤ intMax ∧ srpB.length ≤ intMax) := by
  constructor
  · intro safely
    have proper : ProperParameters algo srpB := by
      by_contra improper
      obtain ⟨reached, info, handled, reported⟩ := safely.reportsOthers improper
      obtain ⟨x, _, rest⟩ := bind_eq_ok handled
      obtain ⟨values, _, sent⟩ := bind_eq_ok rest
      cases sent
      have same : manager.notified = manager.notified ++ [(.error, info)] := reported
      simp at same
    refine ⟨proper, ?_⟩
    intro saltShort
    obtain ⟨values, returned⟩ := safely.computes
        (environment.crypto.ph2 manager.pendingPassword algo.salt1 algo.salt2)
        (by
          rw [Crypto.passwordHash, check_eq_ok saltShort]
          rfl)
    exact short_of_srpValues returned
  · intro condition
    obtain ⟨proper, short⟩ := condition
    refine ⟨?_, fun _ _ _ _ _ _ => proper, fun improper => (improper proper).elim⟩
    intro x hashed
    have saltShort : algo.salt1.length ≤ intMax := by
      by_contra saltLong
      rw [Crypto.passwordHash, check_eq_error saltLong] at hashed
      cases hashed
    obtain ⟨pShort, bShort⟩ := short saltShort
    exact ⟨_, srpValues_eq environment.crypto (computable_of_proper proper pShort bShort) x secret⟩

def emptyModulus : ModPowAlgo := ⟨[], [], 3, []⟩

def tinyModulus : ModPowAlgo := ⟨[], [], 3, [7]⟩

theorem srpValues_zeroModulus (crypto : Crypto) (pShort : algo.p.length ≤ intMax)
    (bShort : srpB.length ≤ intMax) (zero : natOfBe algo.p = 0) (xBytes : FixedBytes 32)
    (secret : FixedBytes 256) : srpValues crypto algo srpB xBytes secret = .error .check := by
  have aborts : ∀ base exponent, BigNum.modExp base exponent 0 = .error .check := fun _ _ => rfl
  rw [srpValues, BigNum.fromBinary_eq_ok pShort, ok_bind, BigNum.fromBinary_eq_ok bShort, ok_bind,
    BigNum.fromBinary_fixed (by decide), ok_bind,
    BigNum.fromBinary_fixed (by decide), ok_bind, zero, aborts,
    error_bind]

/-- With an empty modulus the process aborts. With the modulus seven the check is sent. -/
theorem password_parameters_unchecked : (waitingForPassword {}).onResult exampleEnvironment
        (passwordAnswer emptyModulus [3] 0) zeroSecret = .error .check ∧
    ∃ reached query, (waitingForPassword {}).onResult exampleEnvironment
          (passwordAnswer tinyModulus [3] 0) zeroSecret = .ok reached ∧ reached.inFlight = [query] ∧
      query.function.netQueryType = .checkPassword ∧ reached.notified = [] ∧
      ¬ ProperParameters tinyModulus [3] := by
  have computable : Computable tinyModulus [3] :=
    ⟨by decide, by decide, by decide, by decide, by decide⟩
  have improper : ¬ ProperParameters tinyModulus [3] := by
    intro proper
    have small : natOfBe tinyModulus.p < 2 ^ 3 := by decide
    have grows : ∀ bits, 3 ≤ bits → 2 ^ 3 ≤ 2 ^ bits :=
      fun _ more => Nat.pow_le_pow_right (by decide) more
    exact Nat.not_lt.mpr proper.pLarge (small.trans_le (grows 2047 (by decide)))
  constructor
  · rw [onResult_password _ (by decide),
      srpValues_zeroModulus _ (by decide) (by decide) rfl, error_bind]
  · rw [onResult_password _ (by decide), srpValues_eq exampleEnvironment.crypto computable, ok_bind]
    exact ⟨_, _, rfl, rfl, rfl, rfl, improper⟩

end AuthManager

end Autoproto
