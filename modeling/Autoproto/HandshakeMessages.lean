import Autoproto.AuthKey

namespace Autoproto

open ByteEncoding

/-!
# The messages of a handshake

The objects of the scheme that are exchanged while a key is created, as the
generated code reads and writes them. A parser that has met an error goes on
with zeros and reports it at its end, so it has no result here.
-/

namespace Tl

/-- A field of a fixed size, and what is left. -/
def fetchFixed (width : Nat) (bytes : Bytes) : Option (FixedBytes width × Bytes) :=
  if enough : width ≤ bytes.length then
    some (⟨bytes.take width, List.length_take_of_le enough⟩, bytes.drop width)
  else
    none

/-- So many numbers of eight bytes, and what is left. -/
def fetchLongs : Nat → Bytes → Option (List UInt64 × Bytes)
  | 0, bytes => some ([], bytes)
  | count + 1, bytes => do
      let (number, bytes) ← fetchBinary 8 bytes
      let (numbers, bytes) ← fetchLongs count bytes
      return (UInt64.ofNat number :: numbers, bytes)

/-- The constructor of a type, and what is left. -/
def fetchConstructor (id : Nat) (bytes : Bytes) : Option Bytes := do
  let (found, bytes) ← fetchBinary 4 bytes
  if found = id then some bytes else none

/-- A boxed vector of numbers of eight bytes, and what is left. -/
def fetchLongVector (bytes : Bytes) : Option (List UInt64 × Bytes) := do
  let bytes ← fetchConstructor 0x1cb5c415 bytes
  let (multiplicity, bytes) ← fetchBinary 4 bytes
  if bytes.length < multiplicity then
    none
  else
    fetchLongs multiplicity bytes

end Tl

namespace Mtproto

open Tl

/-! ## Answers -/

structure ResPq where
  nonce : FixedBytes 16
  serverNonce : FixedBytes 16
  pq : Bytes
  serverPublicKeyFingerprints : List UInt64

/-- The result of `req_pq_multi`. -/
def fetchResPq (message : Bytes) : Option ResPq := do
  let message ← fetchConstructor 0x05162463 message
  let (nonce, message) ← fetchFixed 16 message
  let (serverNonce, message) ← fetchFixed 16 message
  let (pq, message) ← fetchString message
  let (fingerprints, _) ← fetchLongVector message
  return ⟨nonce, serverNonce, pq, fingerprints⟩

structure ServerDhParams where
  nonce : FixedBytes 16
  serverNonce : FixedBytes 16
  encryptedAnswer : Bytes

def fetchServerDhParams (message : Bytes) : Option ServerDhParams := do
  let message ← fetchConstructor 0xd0e8075c message
  let (nonce, message) ← fetchFixed 16 message
  let (serverNonce, message) ← fetchFixed 16 message
  let (encryptedAnswer, _) ← fetchString message
  return ⟨nonce, serverNonce, encryptedAnswer⟩

structure ServerDhInnerData where
  nonce : FixedBytes 16
  serverNonce : FixedBytes 16
  g : Int32
  dhPrime : Bytes
  gA : Bytes
  serverTime : Int32

def fetchServerDhInnerData (answer : Bytes) : Option (ServerDhInnerData × Bytes) := do
  let answer ← fetchConstructor 0xb5890dba answer
  let (nonce, answer) ← fetchFixed 16 answer
  let (serverNonce, answer) ← fetchFixed 16 answer
  let (g, answer) ← fetchBinary 4 answer
  let (dhPrime, answer) ← fetchString answer
  let (gA, answer) ← fetchString answer
  let (serverTime, answer) ← fetchBinary 4 answer
  return (⟨nonce, serverNonce, Int32.ofNat g, dhPrime, gA, Int32.ofNat serverTime⟩, answer)

def fetchAnswerWithHash (answer : Bytes) : Option (FixedBytes 20 × ServerDhInnerData × Bytes) := do
  let (answerSha1, answer) ← fetchFixed 20 answer
  let (innerData, rest) ← fetchServerDhInnerData answer
  return (answerSha1, innerData, rest)

/-- The answers to `set_client_DH_params`, with the hash of each. -/
inductive DhGenAnswer where
  | ok (nonce serverNonce newNonceHash1 : FixedBytes 16)
  | retry (nonce serverNonce newNonceHash2 : FixedBytes 16)
  | fail (nonce serverNonce newNonceHash3 : FixedBytes 16)

/-- The result of `set_client_DH_params`. -/
def fetchDhGenAnswer (message : Bytes) : Option DhGenAnswer := do
  let (id, message) ← fetchBinary 4 message
  let (nonce, message) ← fetchFixed 16 message
  let (serverNonce, message) ← fetchFixed 16 message
  let (newNonceHash, _) ← fetchFixed 16 message
  if id = 0x3bcbf734 then
    some (.ok nonce serverNonce newNonceHash)
  else if id = 0x46dc1fb9 then
    some (.retry nonce serverNonce newNonceHash)
  else if id = 0xa69dae02 then
    some (.fail nonce serverNonce newNonceHash)
  else
    none

/-! ## Requests and inner data -/

def storeInt (number : Int32) : Bytes :=
  leOfNat 4 number.toUInt32.toNat

def reqPqMulti (nonce : FixedBytes 16) : Bytes :=
  leOfNat 4 0xbe7e8ef1 ++ nonce.val

def reqDhParams (nonce serverNonce : FixedBytes 16) (p q : Bytes) (publicKeyFingerprint : UInt64)
    (encryptedData : Bytes) : Except Fault Bytes := do
  return leOfNat 4 0xd712e4be ++ nonce.val ++ serverNonce.val ++
    (← storeString p) ++ (← storeString q) ++
    leOfNat 8 publicKeyFingerprint.toNat ++ (← storeString encryptedData)

def setClientDhParams (nonce serverNonce : FixedBytes 16)
    (encryptedData : Bytes) : Except Fault Bytes := do
  return leOfNat 4 0xf5045f1f ++ nonce.val ++ serverNonce.val ++ (← storeString encryptedData)

def pQInnerDataDc (pq p q : Bytes) (nonce serverNonce : FixedBytes 16) (newNonce : FixedBytes 32)
    (dc : Int32) : Except Fault Bytes := do
  return leOfNat 4 0xa9f55f95 ++ (← storeString pq) ++ (← storeString p) ++
    (← storeString q) ++ nonce.val ++ serverNonce.val ++ newNonce.val ++
    storeInt dc

def pQInnerDataTempDc (pq p q : Bytes) (nonce serverNonce : FixedBytes 16)
    (newNonce : FixedBytes 32) (dc expiresIn : Int32) : Except Fault Bytes := do
  return leOfNat 4 0x56fddf88 ++ (← storeString pq) ++ (← storeString p) ++
    (← storeString q) ++ nonce.val ++ serverNonce.val ++ newNonce.val ++
    storeInt dc ++ storeInt expiresIn

def clientDhInnerData (nonce serverNonce : FixedBytes 16) (retryId : UInt64)
    (gB : Bytes) : Except Fault Bytes := do
  return leOfNat 4 0x6643b654 ++ nonce.val ++ serverNonce.val ++
    leOfNat 8 retryId.toNat ++ (← storeString gB)

end Mtproto

end Autoproto
