import Autoproto.BigNum
import Autoproto.Kdf
import Autoproto.SafePrimes

namespace Autoproto.Mtproto

open ByteEncoding BigNum

/-!
# The exchange of a key

`DhHandshake` holds the numbers of one Diffie-Hellman exchange. The other side
chooses the prime, the generator and its own number; `run_checks` has to reject
what would weaken the key. A callback remembers which primes are safe.
-/

/-- The errors with which the checks end. -/
inductive DhError where
  /-- The text `p is not 2048-bit number`. -/
  | notA2048BitNumber
  /-- The text `Bad prime mod 4g`. -/
  | badPrimeMod4g
  /-- The text `p or (p - 1) / 2 is not a prime number`. -/
  | knownNotPrime
  /-- The text `p is not a prime number`. -/
  | notPrime
  /-- The text `(p - 1) / 2 is not a prime number`. -/
  | halfNotPrime
  /-- The text `g_a_hash mismatch`. -/
  | gAHashMismatch
  /-- The text `g^a or g^b is not between 2^{2048-64} and dh_prime - 2^{2048-64}`. -/
  | outOfRange
  deriving Repr, DecidableEq

theorem zero_eq_natOfBe : 0 = natOfBe [] := rfl

/-- The members; the prime is the number of its string. -/
structure DhHandshake where
  hasConfig : Bool := false
  primeStr : Bytes := []
  prime : Nat := 0
  b : Nat := 0
  gInt : Int32 := 0
  g : Nat := 0
  gB : Nat := 0
  hasGAHash : Bool := false
  okGAHash : Bool := false
  hasGA : Bool := false
  gAHash : Bytes := []
  gA : Nat := 0
  prime_eq : prime = natOfBe primeStr := by exact zero_eq_natOfBe

/-- What a callback remembers of a prime: that it is good, that it is bad, or nothing. -/
abbrev DhCallback := Bytes → Option Bool

/-- The status of a check, and what is remembered. -/
structure ConfigCheck where
  status : Except DhError Unit
  record : Option Bool := none
  deriving DecidableEq

namespace DhHandshake

/-- The test of the prime that depends on the generator. -/
def modOk (gInt : Int32) (prime : Nat) : Bool :=
  match gInt.toInt with
  | 2 => prime % 8 == 7
  | 3 => prime % 3 == 2
  | 4 => true
  | 5 => prime % 5 == 1 || prime % 5 == 4
  | 6 => prime % 24 == 19 || prime % 24 == 23
  | 7 => prime % 7 == 3 || prime % 7 == 5 || prime % 7 == 6
  | _ => false

/-- The test of the prime that is slow. -/
def checkSafePrime (isPrime : Nat → Bool) (prime : Nat) : Except DhError Unit :=
  if !isPrime prime then
    .error .notPrime
  else if !isPrime ((prime - 1) / 2) then
    .error .halfNotPrime
  else
    .ok ()

def checkConfig (isPrime : Nat → Bool) (primeStr : Bytes) (prime : Nat) (gInt : Int32)
    (callback : Option DhCallback) : ConfigCheck :=
  if prime.size ≠ 2048 then
    { status := .error .notA2048BitNumber }
  else if !modOk gInt prime then
    { status := .error .badPrimeMod4g }
  else
    match callback.bind (fun isGoodPrime => isGoodPrime primeStr) with
    | some true => { status := .ok () }
    | some false => { status := .error .knownNotPrime }
    | none =>
      let status := checkSafePrime isPrime prime
      { status := status, record := callback.map fun _ => status matches .ok _ }

def dhCheck (prime gA gB : Nat) : Except Fault (Except DhError Unit) := do
  check (prime.size = 2048)
  let left := 2 ^ (2048 - 64)
  let right := prime - left
  if left > gA ∨ gA > right ∨ left > gB ∨ gB > right then
    return .error .outOfRange
  else
    return .ok ()

/-- The function `set_config`, with its random number. -/
def setConfig (handshake : DhHandshake) (b : Nat) (gInt : Int32)
    (primeStr : Bytes) : Except Fault DhHandshake := do
  check (primeStr.length ≤ intMax)
  let g := setValue gInt.toUInt32
  let gB ← modExp g b (natOfBe primeStr)
  return {
    handshake with
    hasConfig := true
    prime := natOfBe primeStr
    primeStr := primeStr
    b := b
    gInt := gInt
    g := g
    gB := gB
    prime_eq := rfl }

def setGAHash (handshake : DhHandshake) (gAHash : Bytes) : Except Fault DhHandshake := do
  check (handshake.hasGA = false)
  return {
    handshake with
    hasGAHash := true
    okGAHash := false
    gAHash := gAHash }

def setGA (primitives : Primitives) (handshake : DhHandshake)
    (gAStr : Bytes) : Except Fault DhHandshake := do
  let gA ← fromBinary gAStr
  return {
    handshake with
    hasGA := true
    okGAHash :=
      if handshake.hasGAHash then
        decide ((primitives.sha256 gAStr).val = handshake.gAHash)
      else
        handshake.okGAHash
    gA := gA }

def runChecks (isPrime : Nat → Bool) (handshake : DhHandshake) (skipConfigCheck : Bool)
    (callback : Option DhCallback) : Except Fault ConfigCheck := do
  check (handshake.hasGA ∧ handshake.hasConfig)
  if handshake.hasGAHash ∧ !handshake.okGAHash then
    return { status := .error .gAHashMismatch }
  else
    let config :=
      if skipConfigCheck then
        { status := .ok () }
      else
        checkConfig isPrime handshake.primeStr handshake.prime handshake.gInt callback
    match config.status with
    | .error _ => return config
    | .ok _ =>
      let status ← dhCheck handshake.prime handshake.gA handshake.gB
      return { config with status := status }

def getGB (handshake : DhHandshake) : Except Fault Bytes := do
  check (handshake.hasConfig = true)
  return beOfNat (getNumBytes handshake.gB) handshake.gB

def getGAb (handshake : DhHandshake) : Except Fault Nat := do
  check (handshake.hasGA ∧ handshake.hasConfig)
  modExp handshake.gA handshake.b handshake.prime

def calcKeyId (primitives : Primitives) (authKey : Bytes) : UInt64 :=
  UInt64.ofNat (natOfLe (part (primitives.sha1 authKey).val 12 8))

def genKey (primitives : Primitives) (handshake : DhHandshake) : Except Fault (UInt64 × Bytes) := do
  let key ← toBinary (2048 / 8) (← handshake.getGAb)
  return (calcKeyId primitives key, key)

def getGBHash (primitives : Primitives) (handshake : DhHandshake) : Except Fault Bytes := do
  return (primitives.sha256 (← handshake.getGB)).val

/-- One side commits to its number by a hash, gets the other number and only then sends its own. -/
def exchange (primitives : Primitives) (a b : Nat) (gInt : Int32) (primeStr : Bytes) :
    Except Fault (DhHandshake × DhHandshake) := do
  let caller ← setConfig {} a gInt primeStr
  let called ← setConfig {} b gInt primeStr
  let called ← called.setGAHash (← caller.getGBHash primitives)
  let caller ← caller.setGA primitives (← called.getGB)
  let called ← called.setGA primitives (← caller.getGB)
  return (caller, called)

theorem dhCheck_comm (prime gA gB : Nat) : dhCheck prime gA gB = dhCheck prime gB gA := by
  have swapped (left right : Nat) : (left > gA ∨ gA > right ∨ left > gB ∨ gB > right) =
      (left > gB ∨ gB > right ∨ left > gA ∨ gA > right) := by
    rw [eq_iff_iff]
    omega
  simp only [dhCheck, swapped]

/--
Both sides of an exchange modulo a number of at most 2048 bits have the same key
and hash, and their checks end in the same way.
-/
theorem keys_agree
    (primitives : Primitives)
    (a b : Nat)
    (gInt : Int32)
    (primeStr : Bytes)
    (short : primeStr.length ≤ intMax)
    (nonzero : natOfBe primeStr ≠ 0)
    (bits : natOfBe primeStr ≤ 256 ^ 256) :
    ∃ caller called,
      exchange primitives a b gInt primeStr = .ok (caller, called) ∧ called.okGAHash = true ∧
      (∃ id, caller.genKey primitives = .ok
          (id, beOfNat 256 (gInt.toUInt32.toNat ^ (a * b) % natOfBe primeStr)) ∧
        called.genKey primitives = caller.genKey primitives) ∧
      ∀ isPrime skipConfigCheck callback, caller.runChecks isPrime skipConfigCheck callback =
        called.runChecks isPrime skipConfigCheck callback := by
  have small (number : Nat) : number % natOfBe primeStr < 256 ^ 256 :=
    Nat.lt_of_lt_of_le (Nat.mod_lt _ (Nat.pos_of_ne_zero nonzero)) bits
  have reads (number : Nat) :
      fromBinary (beOfNat (getNumBytes (number % natOfBe primeStr))
        (number % natOfBe primeStr)) = .ok (number % natOfBe primeStr) := by
    have brief := (getNumBytes_le_iff ..).mpr (small number)
    rw [fromBinary_eq_ok, natOfBe_beOfNat_of_lt]
    · exact (getNumBytes_le_iff ..).mp (Nat.le_refl _)
    · rw [length_beOfNat]
      exact Nat.le_trans brief (by decide)
  refine ⟨?caller, ?called, ?exchanged, ?hash, ⟨?id, ?key, ?same⟩, ?checks⟩
  case exchanged =>
    simp only [exchange, setConfig, setGAHash, getGBHash, setGA, getGB, check, short, reads,
      modExp_eq_ok nonzero, ok_bind, pure_eq_ok, if_true]
    rfl
  case hash => simp
  case key =>
    simp only [genKey, getGAb, check, if_true, modExp_eq_ok nonzero, ok_bind, and_self,
      ← Nat.pow_mod, ← Nat.pow_mul, Nat.mul_comm b a, toBinary_eq_ok (small _), pure_eq_ok]
    rfl
  case same =>
    simp only [genKey, getGAb, ← Nat.pow_mod, ← Nat.pow_mul, Nat.mul_comm b a,
      modExp_eq_ok nonzero]
  case checks =>
    intro isPrime skipConfigCheck callback
    delta runChecks
    rw [dhCheck_comm, if_neg (by simp), if_neg (by simp)]
    rfl

theorem keys_agree_modulo_23 : ∃ caller called id,
    exchange default 3 4 2 [23] = .ok (caller, called) ∧
      caller.genKey default = .ok (id, beOfNat 256 2) ∧
      called.genKey default = caller.genKey default := by
  obtain ⟨caller, called, exchanged, _, ⟨id, keys⟩, _⟩ :=
    keys_agree default 3 4 2 [23] (by decide) (by decide) (by decide)
  exact ⟨caller, called, id, exchanged, keys⟩

end DhHandshake

end Autoproto.Mtproto
