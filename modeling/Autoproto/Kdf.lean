import Autoproto.ByteEncoding
import Autoproto.Fault
import Mathlib.Data.List.TakeDrop

namespace Autoproto

open List

/-!
# Key derivation

An encrypted message carries a message key. `KDF` (in the first version of the
protocol) and `KDF2` (in the second) derive the key and the vector of AES-IGE
from it and the authorization key. The hash functions and AES-IGE are
parameters.
-/

/-- The bytes of a string from a position on, at most so many. -/
def part (bytes : Bytes) (offset size : Nat) : Bytes :=
  (bytes.drop offset).take size

/-- The bytes of a slice of a string. -/
def Slice.bytes (slice : Slice) (bytes : Bytes) : Bytes :=
  part bytes slice.offset slice.size

variable {offset size : Nat}

theorem length_part {bytes : Bytes} (inside : offset + size ≤ bytes.length) :
    (part bytes offset size).length = size := by
  rw [part, length_take, length_drop]
  omega

variable {first second : Bytes}

theorem part_append_right (firstLength : first.length = offset) :
    part (first ++ second) offset size = second.take size := by
  rw [part, drop_left' firstLength]

theorem part_append_add {length : Nat} (firstLength : first.length = length) (offset size : Nat) :
    part (first ++ second) (length + offset) size = part second offset size := by
  rw [part, part, ← drop_drop, drop_left' firstLength]

theorem part_append_left (inside : offset + size ≤ first.length) :
    part (first ++ second) offset size = part first offset size := by
  rw [part, part, drop_append_of_le_length (by omega),
    take_append_of_le_length (by rw [length_drop]; omega)]

theorem part_take (bytes : Bytes) {bound : Nat} (inside : offset + size ≤ bound) :
    part (bytes.take bound) offset size = part bytes offset size := by
  rw [part, part, drop_take, take_take, Nat.min_eq_left (by omega)]

namespace Mtproto

def substr (bytes : Bytes) (offset size : Nat) : Except Fault Bytes := do
  check (offset ≤ bytes.length)
  return part bytes offset size

/-- The hash functions and AES-IGE, which keeps the size of a text. -/
structure Primitives where
  sha1 : Bytes → FixedBytes 20
  sha256 : Bytes → FixedBytes 32
  igeEncrypt : (key iv : Bytes) → Bytes → Bytes
  igeDecrypt : (key iv : Bytes) → Bytes → Bytes
  length_igeEncrypt : ∀ key iv text, (igeEncrypt key iv text).length = text.length
  length_igeDecrypt : ∀ key iv text, (igeDecrypt key iv text).length = text.length

/-- Hashes of zeros, and a cipher that leaves every text as it is. -/
instance : Inhabited Primitives where
  default := {
    sha1 := fun _ => ⟨List.replicate 20 0, rfl⟩
    sha256 := fun _ => ⟨List.replicate 32 0, by decide⟩
    igeEncrypt := fun _ _ text => text
    igeDecrypt := fun _ _ text => text
    length_igeEncrypt := fun _ _ _ => rfl
    length_igeDecrypt := fun _ _ _ => rfl }

/-- Decryption undoes encryption with the same key and vector. -/
def Primitives.Inverts (primitives : Primitives) : Prop :=
  ∀ key iv text,
    16 ∣ text.length → primitives.igeDecrypt key iv (primitives.igeEncrypt key iv text) = text

structure AesKey where
  key : Bytes
  iv : Bytes
  deriving Repr, DecidableEq

variable (primitives : Primitives)

/-- The function `aes_ige_encrypt`, for whole blocks. -/
def aesIgeEncrypt (aesKey : AesKey) (text : Bytes) : Except Fault Bytes := do
  check (text.length % 16 = 0)
  return primitives.igeEncrypt aesKey.key aesKey.iv text

/-- The function `aes_ige_decrypt`, for whole blocks. -/
def aesIgeDecrypt (aesKey : AesKey) (text : Bytes) : Except Fault Bytes := do
  check (text.length % 16 = 0)
  return primitives.igeDecrypt aesKey.key aesKey.iv text

def kdf (authKey msgKey : Bytes) (x : Nat) : Except Fault AesKey := do
  check (authKey.length = 2048 / 8)
  let sha1A := (primitives.sha1 (msgKey ++ part authKey x 32)).val
  let sha1B :=
    (primitives.sha1 (part authKey (x + 32) 16 ++ msgKey ++ part authKey (x + 48) 16)).val
  let sha1C := (primitives.sha1 (part authKey (64 + x) 32 ++ msgKey)).val
  let sha1D := (primitives.sha1 (msgKey ++ part authKey (96 + x) 32)).val
  return {
    key := part sha1A 0 8 ++ part sha1B 8 12 ++ part sha1C 4 12
    iv := part sha1A 8 12 ++ part sha1B 0 8 ++ part sha1C 16 4 ++ part sha1D 0 8 }

def tmpKdf (serverNonce newNonce : Bytes) : AesKey :=
  let newServer := (primitives.sha1 (newNonce ++ serverNonce)).val
  let serverNew := (primitives.sha1 (serverNonce ++ newNonce)).val
  let newNew := (primitives.sha1 (newNonce ++ newNonce)).val
  { key := newServer ++ part serverNew 0 12
    iv := part serverNew 12 8 ++ newNew ++ part newNonce 0 4 }

/--
The function `KDF2`. Its uninitialized buffer shows only for an authorization
key too short to fill it, with which no message key can be computed.
-/
def kdf2 (authKey msgKey : Bytes) (x : Nat) : Except Fault AesKey := do
  let sha256A := (primitives.sha256 (msgKey ++ (← substr authKey x 36))).val
  let sha256B :=
    (primitives.sha256 ((← substr authKey (40 + x) 36) ++ msgKey)).val
  return {
    key := part sha256A 0 8 ++ part sha256B 8 16 ++ part sha256A 24 8
    iv := part sha256B 0 8 ++ part sha256A 8 16 ++ part sha256B 24 8 }

end Mtproto

end Autoproto
