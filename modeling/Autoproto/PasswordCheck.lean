import Autoproto.BigNum

namespace Autoproto

open BigNum ByteEncoding Srp

/-!
# The password check

An account with a second factor is unlocked with the secure remote password
protocol. The server sends its parameters and its public value, and the client
answers with its own and a proof that it knows the password. The hash functions
are parameters of the model.
-/

/-- The hash functions. -/
structure Crypto where
  sha256 : Bytes → FixedBytes 32
  pbkdf2Sha512 : Bytes → Bytes → Nat → FixedBytes 64

/-- The fields of `passwordKdfAlgoSHA256SHA256PBKDF2HMACSHA512iter100000SHA256ModPow`. -/
structure ModPowAlgo where
  salt1 : Bytes
  salt2 : Bytes
  g : Int32
  p : Bytes
  deriving DecidableEq

namespace Crypto

variable (crypto : Crypto)

def ph1 (password salt1 salt2 : Bytes) : Bytes :=
  crypto.sha256 (salt2 ++ crypto.sha256 (salt1 ++ password ++ salt1) ++ salt2)

/-- The derived key, salted and hashed. -/
def ph2 (password salt1 salt2 : Bytes) : FixedBytes 32 :=
  crypto.sha256
    (salt2 ++ crypto.pbkdf2Sha512 (crypto.ph1 password salt1 salt2) salt1 100000 ++ salt2)

/-- The hash of the password; the size of the salt has to fit an `int`. -/
def passwordHash (password : Bytes) (algo : ModPowAlgo) : Except Fault (FixedBytes 32) := do
  check (algo.salt1.length ≤ intMax)
  return crypto.ph2 password algo.salt1 algo.salt2

/-- The hash of `p` combined with the hash of `g`. -/
def pgXor (p gPadded : Bytes) : Bytes :=
  List.zipWith (· ^^^ ·) (crypto.sha256 p).val (crypto.sha256 gPadded).val

/-- The proof of both parties. -/
def m1 (p gPadded salt1 salt2 aStr bStr sStr : Bytes) : Bytes :=
  crypto.sha256
    (crypto.pgXor p gPadded ++ crypto.sha256 salt1 ++
      crypto.sha256 salt2 ++ aStr ++ bStr ++ crypto.sha256 sStr)

end Crypto

/-- The public value, the session value and the proof of the client. -/
structure SrpValues where
  aStr : Bytes
  sStr : Bytes
  m1 : Bytes
  deriving DecidableEq

/-- What the client computes, with a random exponent. -/
def srpValues (crypto : Crypto) (algo : ModPowAlgo) (srpB : Bytes) (xBytes : FixedBytes 32)
    (aBytes : FixedBytes 256) :
    Except Fault SrpValues := do
  let p ← fromBinary algo.p
  let g := setValue algo.g.toUInt32
  let b ← fromBinary srpB
  let x ← fromBinary xBytes
  let a ← fromBinary aBytes
  let publicValue ← modExp g a p
  let aStr ← toBinary 256 publicValue
  let bStr ← toBinary 256 b
  let u ← fromBinary (crypto.sha256 (aStr ++ bStr)).val
  let gPadded ← toBinary 256 g
  let k ← fromBinary (crypto.sha256 (algo.p ++ gPadded)).val
  let v ← modExp g x p
  let kv ← modMul k v p
  let t ← modSub b kv p
  let sa := add a (mul u x)
  let s ← modExp t sa p
  let sStr ← toBinary 256 s
  return {
    aStr := aStr
    sStr := sStr
    m1 := crypto.m1 algo.p gPadded algo.salt1 algo.salt2 aStr bStr sStr
  }

/-- The parameters with which the client gets through its computation. -/
structure Computable (algo : ModPowAlgo) (srpB : Bytes) : Prop where
  pShort : algo.p.length ≤ intMax
  bShort : srpB.length ≤ intMax
  pNonzero : natOfBe algo.p ≠ 0
  pFits : natOfBe algo.p < 256 ^ 256
  bFits : natOfBe srpB < 256 ^ 256

namespace Srp

def padded (number : Nat) : Bytes :=
  beOfNat 256 number

/-- The multiplier of both parties. -/
def multiplier (crypto : Crypto) (p gPadded : Bytes) : Nat :=
  natOfBe (crypto.sha256 (p ++ gPadded)).val

/-- The exponent that both parties derive from their public values. -/
def scrambler (crypto : Crypto) (aStr bStr : Bytes) : Nat :=
  natOfBe (crypto.sha256 (aStr ++ bStr)).val

end Srp

/-- What the client computes, in numbers. -/
theorem srpValues_eq (crypto : Crypto) {algo : ModPowAlgo} {srpB : Bytes}
    (computable : Computable algo srpB) (xBytes : FixedBytes 32) (aBytes : FixedBytes 256) :
    let p := natOfBe algo.p
    let g := algo.g.toUInt32.toNat
    let gPadded := padded g
    let aStr := padded (g ^ natOfBe aBytes.val % p)
    let bStr := padded (natOfBe srpB)
    let k := multiplier crypto algo.p gPadded
    let u := scrambler crypto aStr bStr
    let x := natOfBe xBytes.val
    let s :=
      subMod (natOfBe srpB) (k * (g ^ x % p) % p) p ^ (natOfBe aBytes.val + u * x) % p
    let sStr := padded s
    srpValues crypto algo srpB xBytes aBytes = .ok {
        aStr := aStr
        sStr := sStr
        m1 := crypto.m1 algo.p gPadded algo.salt1 algo.salt2 aStr bStr sStr
      } := by
  intro p g gPadded aStr bStr k u x s sStr
  have nonzero : p ≠ 0 := computable.pNonzero
  have reducedFits : ∀ number, number % p < 256 ^ 256 := fun number =>
    (Nat.mod_lt number (Nat.pos_of_ne_zero nonzero)).trans computable.pFits
  have gFits : g < 256 ^ 256 := algo.g.toUInt32.toNat_lt.trans (by decide)
  have digest : 32 ≤ intMax := by decide
  have secret : 256 ≤ intMax := by decide
  rw [srpValues, fromBinary_eq_ok computable.pShort, ok_bind,
    fromBinary_eq_ok computable.bShort, ok_bind,
    fromBinary_fixed digest, ok_bind,
    fromBinary_fixed secret, ok_bind,
    modExp_eq_ok nonzero, ok_bind,
    toBinary_eq_ok (reducedFits _), ok_bind,
    toBinary_eq_ok computable.bFits, ok_bind,
    fromBinary_fixed digest, ok_bind]
  change (toBinary 256 g >>= _) = _
  rw [toBinary_eq_ok gFits, ok_bind, fromBinary_fixed digest, ok_bind,
    modExp_eq_ok nonzero, ok_bind,
    modMul_eq_ok nonzero, ok_bind,
    modSub_eq_ok nonzero, ok_bind]
  change (modExp _ _ p >>= _) = _
  rw [modExp_eq_ok nonzero, ok_bind, toBinary_eq_ok (reducedFits _), ok_bind]
  rfl

/-!
## The server

The server knows the verifier of the password and draws an exponent of its own.
It follows the documented formulas, with every number padded to 256 bytes.
-/

/-- What the server knows, with the exponent that it draws. -/
structure SrpServer where
  p : Nat
  g : Nat
  salt1 : Bytes
  salt2 : Bytes
  v : Nat
  b : Nat

namespace SrpServer

variable (crypto : Crypto) (server : SrpServer)

/-- The public value of the server. -/
def publicB : Nat :=
  (multiplier crypto (padded server.p) (padded server.g) *
      server.v + server.g ^ server.b) % server.p

/-- The session value of the server, from the public value of the client. -/
def session (publicA : Nat) : Nat :=
  (publicA * server.v ^ scrambler crypto (padded publicA)
        (padded (server.publicB crypto))) ^ server.b % server.p

/-- The proof that the server expects. -/
def expectedM1 (publicA : Nat) : Bytes :=
  crypto.sha256
    (List.zipWith (· ^^^ ·) (crypto.sha256 (padded server.p)).val
        (crypto.sha256 (padded server.g)).val ++
      crypto.sha256 server.salt1 ++ crypto.sha256 server.salt2 ++
      padded publicA ++ padded (server.publicB crypto) ++
      crypto.sha256 (padded (server.session crypto publicA)))

/-- The server keeps the verifier of a password. -/
def Registered (password : Bytes) : Prop :=
  server.v = server.g ^ natOfBe (crypto.ph2 password server.salt1 server.salt2).val % server.p

instance (password : Bytes) : Decidable (server.Registered crypto password) :=
  inferInstanceAs (Decidable (_ = _))

end SrpServer

theorem toNat_toUInt32_of_pos {number : Int32} (positive : 0 < number.toInt) :
    number.toUInt32.toNat = number.toInt.toNat := by
  have bits : number.toInt = number.toUInt32.toBitVec.toInt := rfl
  have word : number.toUInt32.toNat = number.toUInt32.toBitVec.toNat := rfl
  have cases := BitVec.toInt_eq_toNat_cond number.toUInt32.toBitVec
  have small := number.toUInt32.toBitVec.isLt
  split at cases <;> omega

/--
The client gets the session value of the server and sends what the server
expects, for whatever byte string the public value of the server comes as.
-/
theorem srpValues_agree
    (crypto : Crypto)
    (server : SrpServer)
    (password srpB : Bytes)
    (g : Int32)
    (aBytes : FixedBytes 256)
    (registered : server.Registered crypto password)
    (pNonzero : server.p ≠ 0)
    (pFits : server.p < 256 ^ 256)
    (gPositive : 0 < g.toInt)
    (gSent : g.toInt = server.g)
    (bSent : natOfBe srpB = server.publicB crypto)
    (bShort : srpB.length ≤ intMax) :
    ∃ values, srpValues crypto
          ⟨server.salt1, server.salt2, g, padded server.p⟩ srpB
          (crypto.ph2 password server.salt1 server.salt2) aBytes = .ok values ∧
      natOfBe values.sStr = server.session crypto (server.g ^ natOfBe aBytes.val % server.p) ∧
      values.aStr = padded (server.g ^ natOfBe aBytes.val % server.p) ∧
      values.m1 = server.expectedM1 crypto (server.g ^ natOfBe aBytes.val % server.p) := by
  have back : natOfBe (padded server.p) = server.p := natOfBe_beOfNat_of_lt pFits
  have reducedFits : ∀ number, number % server.p < 256 ^ 256 :=
    fun number => (Nat.mod_lt number (Nat.pos_of_ne_zero pNonzero)).trans pFits
  have computable : Computable ⟨server.salt1, server.salt2, g, padded server.p⟩ srpB := {
    pShort := by
      rw [padded, length_beOfNat]
      decide
    bShort := bShort
    pNonzero := by rwa [back]
    pFits := by rwa [back]
    bFits := by
      rw [bSent]
      exact reducedFits _
  }
  have word : g.toUInt32.toNat = server.g := by
    rw [toNat_toUInt32_of_pos gPositive, gSent, Int.toNat_natCast]
  have computed :=
    srpValues_eq crypto computable (crypto.ph2 password server.salt1 server.salt2) aBytes
  simp only [back, word, bSent] at computed
  -- the session values are equal by the agreement modulo `p`
  have sessions := agreement_mod pNonzero server.g
      (multiplier crypto (padded server.p) (padded server.g))
      (natOfBe aBytes.val) server.b
      (scrambler crypto (padded (server.g ^ natOfBe aBytes.val % server.p))
        (padded (server.publicB crypto)))
      (natOfBe (crypto.ph2 password server.salt1 server.salt2).val)
  rw [← registered, ← SrpServer.publicB, ← SrpServer.session] at sessions
  rw [← registered, sessions] at computed
  refine ⟨_, computed, ?_, ?_, ?_⟩
  · simp only [padded]
    exact natOfBe_beOfNat_of_lt (reducedFits _)
  · simp only
  · simp only [Crypto.m1, Crypto.pgXor, SrpServer.expectedM1]

/-- Hash functions that always give the number one. -/
def constantCrypto : Crypto where
  sha256 := fun _ => ⟨List.replicate 31 0 ++ [1], by decide⟩
  pbkdf2Sha512 := fun _ _ _ => ⟨List.replicate 64 0, by decide⟩

def smallServer : SrpServer where
  p := 256 ^ 255
  g := 3
  salt1 := [1]
  salt2 := [2]
  v := 3
  b := 5

def zeroSecret : FixedBytes 256 :=
  ⟨List.replicate 256 0, List.length_replicate⟩

/-- The agreement with the small server. -/
theorem srpValues_agree_smallServer : ∃ values, srpValues constantCrypto
          ⟨smallServer.salt1, smallServer.salt2, 3, padded smallServer.p⟩
          (padded (smallServer.publicB constantCrypto))
          (constantCrypto.ph2 [7] smallServer.salt1 smallServer.salt2)
          zeroSecret = .ok values ∧ natOfBe values.sStr = smallServer.session constantCrypto
          (smallServer.g ^ natOfBe zeroSecret.val % smallServer.p) ∧
      values.aStr = padded (smallServer.g ^ natOfBe zeroSecret.val % smallServer.p) ∧
      values.m1 = smallServer.expectedM1 constantCrypto
          (smallServer.g ^ natOfBe zeroSecret.val % smallServer.p) := by
  have fits : smallServer.p < 256 ^ 256 := by decide
  have publicFits : smallServer.publicB constantCrypto < 256 ^ 256 :=
    (Nat.mod_lt _ (by decide)).trans fits
  have sent : natOfBe (padded (smallServer.publicB constantCrypto)) =
        smallServer.publicB constantCrypto := by
    rw [padded, natOfBe_beOfNat_of_lt publicFits]
  have short : (padded (smallServer.publicB constantCrypto)).length ≤ intMax := by
    rw [padded, length_beOfNat]
    decide
  have registered : smallServer.Registered constantCrypto [7] := by decide
  exact srpValues_agree constantCrypto smallServer [7] _ 3 zeroSecret
    registered (by decide) fits (by decide) (by decide) sent short

end Autoproto
