import Autoproto.ByteEncoding
import Autoproto.Fault

namespace Autoproto

open List ByteEncoding

/-!
# Stored authorization keys

A client keeps one main key for each data center, as a byte string in its store.
The byte string is written by `TlStorerUnsafe` and read back by `TlParser`.
-/

namespace Tl

/-- The zeros that fill up the last group of four bytes. -/
def padding (size : Nat) : Bytes :=
  List.replicate ((4 - size % 4) % 4) 0

/-- A string, with its size in one, three or seven bytes. -/
def storeString (text : Bytes) : Except Fault Bytes :=
  if text.length < 254 then
    .ok (UInt8.ofNat text.length :: text ++ padding (text.length + 1))
  else if text.length < 2 ^ 24 then
    .ok (254 :: leOfNat 3 text.length ++ text ++ padding text.length)
  else if text.length < 2 ^ 32 then
    .ok (255 :: leOfNat 7 text.length ++ text ++ padding text.length)
  else
    .error .check

/-- A number of a fixed size, and what is left. -/
def fetchBinary (width : Nat) (bytes : Bytes) : Option (Nat × Bytes) :=
  if width ≤ bytes.length then
    some (natOfLe (bytes.take width), bytes.drop width)
  else
    none

def fetchText (header textBegin size alignedSize : Nat) (bytes : Bytes) : Option (Bytes × Bytes) :=
  if header + alignedSize ≤ bytes.length then
    some ((bytes.drop textBegin).take size, bytes.drop (header + alignedSize))
  else
    none

def fetchString (bytes : Bytes) : Option (Bytes × Bytes) :=
  match bytes with
  | [] => none
  | first :: sized =>
    if bytes.length < 4 then
      none
    else if first.toNat < 254 then
      fetchText 4 1 first.toNat (first.toNat / 4 * 4) bytes
    else if first.toNat = 254 then
      let size := natOfLe (sized.take 3)
      fetchText 4 4 size ((size + 3) / 4 * 4) bytes
    else if bytes.length < 8 then
      none
    else
      let size := natOfLe (sized.take 7)
      fetchText 8 8 size ((size + 3) / 4 * 4) bytes

/-- A stored number is read back. -/
theorem fetchBinary_append {width number : Nat} (fits : number < 256 ^ width) (rest : Bytes) :
    fetchBinary width (leOfNat width number ++ rest) = some (number, rest) := by
  have enough : width ≤ (leOfNat width number ++ rest).length := by simp
  rw [fetchBinary, if_pos enough, take_left' (length_leOfNat ..),
    drop_left' (length_leOfNat ..), natOfLe_leOfNat_of_lt fits]

theorem fetchText_append (leading text fill rest : Bytes) {header alignedSize : Nat}
    (aligned : header + alignedSize = leading.length + text.length + fill.length) :
    fetchText header leading.length text.length alignedSize (leading ++ text ++ fill ++ rest) =
      some (text, rest) := by
  have enough : header + alignedSize ≤ (leading ++ text ++ fill ++ rest).length := by
    simp only [length_append]
    omega
  have stored : (leading ++ text ++ fill).length = header + alignedSize := by
    simp only [length_append]
    omega
  rw [fetchText, if_pos enough, drop_left' stored]
  simp

theorem fetchString_short {text : Bytes} (small : text.length < 254) (rest : Bytes) :
    fetchString (UInt8.ofNat text.length :: text ++ padding (text.length + 1) ++ rest) =
      some (text, rest) := by
  have firstByte : (UInt8.ofNat text.length).toNat = text.length := by
    rw [UInt8.toNat_ofNat']
    omega
  have enough :
      ¬ (UInt8.ofNat text.length :: (text ++ (padding (text.length + 1) ++ rest))).length < 4 := by
    simp only [padding, length_append, length_cons, length_replicate]
    omega
  have body := fetchText_append [UInt8.ofNat text.length] text (padding (text.length + 1)) rest
      (show 4 + text.length / 4 * 4 = _ by
        simp only [padding, length_singleton, length_replicate]
        omega)
  simp only [cons_append, nil_append, append_assoc, length_singleton] at body ⊢
  simp only [fetchString, if_neg enough, firstByte, if_pos small]
  exact body

theorem fetchText_sized (mark : UInt8) {width : Nat} {text : Bytes}
    (fits : text.length < 256 ^ width) (rest : Bytes) :
    natOfLe ((leOfNat width text.length ++ (text ++ (padding text.length ++ rest))).take width) =
        text.length ∧ fetchText (width + 1) (width + 1) text.length ((text.length + 3) / 4 * 4)
          (mark :: (leOfNat width text.length ++ (text ++ (padding text.length ++ rest)))) =
        some (text, rest) := by
  constructor
  · rw [take_left' (length_leOfNat ..), natOfLe_leOfNat_of_lt fits]
  · have body :=
      fetchText_append (mark :: leOfNat width text.length) text (padding text.length) rest
        (show width + 1 + (text.length + 3) / 4 * 4 = _ by
          simp only [padding, length_cons, length_leOfNat, length_replicate]
          omega)
    simpa only [length_cons, length_leOfNat, cons_append, append_assoc] using body

theorem fetchString_append {text stored : Bytes} (done : storeString text = .ok stored)
    (rest : Bytes) : fetchString (stored ++ rest) = some (text, rest) := by
  unfold storeString at done
  split at done
  · rename_i small
    cases done
    exact fetchString_short small rest
  · split at done
    · rename_i fits
      cases done
      obtain ⟨size, body⟩ := fetchText_sized 254 (show text.length < 256 ^ 3 by omega) rest
      simp only [cons_append, append_assoc, fetchString, length_cons,
        length_append, length_leOfNat, size]
      rw [if_neg (by omega), if_neg (by decide), if_pos (by decide)]
      exact body
    · split at done
      · rename_i fits
        cases done
        obtain ⟨size, body⟩ := fetchText_sized 255 (show text.length < 256 ^ 7 by omega) rest
        simp only [cons_append, append_assoc, fetchString, length_cons,
          length_append, length_leOfNat, size]
        rw [if_neg (by omega), if_neg (by decide), if_neg (by decide), if_neg (by omega)]
        exact body
      · cases done

end Tl

/-- The clocks for the expiration date of a stored key. -/
structure Clock where
  /-- The function `max(expires_at - Time::now(), 0.0)`. -/
  timeLeft : UInt64 → UInt64
  /-- The value of `Clocks::system()`. -/
  system : UInt64
  /-- The date that a stored time left and a stored system time give. -/
  expiresAt : UInt64 → UInt64 → UInt64

/-- A key; the dates are the bits of doubles. -/
structure AuthKey where
  id : UInt64 := 0
  key : Bytes := []
  authFlag : Bool := false
  expiresAt : UInt64 := 0
  createdAt : UInt64 := 0
  deriving Repr, DecidableEq

inductive AuthKeyState where
  | empty
  | noAuth
  | ok
  deriving Repr, DecidableEq

namespace AuthKey

def getAuthKeyState (authKey : AuthKey) : AuthKeyState :=
  if authKey.key = [] then
    .empty
  else if authKey.authFlag then
    .ok
  else
    .noAuth

/-- A double that equals zero, with either sign. -/
def isZero (double : UInt64) : Bool :=
  double = 0 || double = 0x8000000000000000

def flags (authKey : AuthKey) : Nat :=
  (if authKey.authFlag then 1 else 0) |||
    (if isZero authKey.createdAt then 0 else 4) |||
    (if isZero authKey.expiresAt then 0 else 8)

/-- The date of creation, if there is one. -/
def storeCreatedAt (authKey : AuthKey) : Bytes :=
  if isZero authKey.createdAt then
    []
  else
    leOfNat 8 authKey.createdAt.toNat

/-- The time left and the time at which it is, if the key expires. -/
def storeExpiresAt (clock : Clock) (authKey : AuthKey) : Bytes :=
  if isZero authKey.expiresAt then
    []
  else
    leOfNat 8 (clock.timeLeft authKey.expiresAt).toNat ++ leOfNat 8 clock.system.toNat

/-- The byte string of a key. -/
def serialize (clock : Clock) (authKey : AuthKey) : Except Fault Bytes := do
  let text ← Tl.storeString authKey.key
  return leOfNat 8 authKey.id.toNat ++ (leOfNat 4 authKey.flags ++
    (text ++ (authKey.storeCreatedAt ++ authKey.storeExpiresAt clock)))

/-- The date of creation, if there is one, and what is left. -/
def fetchCreatedAt (flags : Nat) (bytes : Bytes) : Option (Nat × Bytes) :=
  if flags &&& 4 ≠ 0 then Tl.fetchBinary 8 bytes else some (0, bytes)

/-- The new date of expiration, if there is one, and what is left. -/
def fetchExpiresAt (clock : Clock) (flags : Nat) (bytes : Bytes) : Option (UInt64 × Bytes) :=
  if flags &&& 8 ≠ 0 then do
    let (timeLeft, bytes) ← Tl.fetchBinary 8 bytes
    let (oldServerTime, bytes) ← Tl.fetchBinary 8 bytes
    return (clock.expiresAt (UInt64.ofNat timeLeft) (UInt64.ofNat oldServerTime), bytes)
  else
    some (0, bytes)

/-- The key of a byte string that is one. -/
def unserialize (clock : Clock) (bytes : Bytes) : Option AuthKey := do
  let (id, bytes) ← Tl.fetchBinary 8 bytes
  let (flags, bytes) ← Tl.fetchBinary 4 bytes
  let (key, bytes) ← Tl.fetchString bytes
  let (createdAt, bytes) ← fetchCreatedAt flags bytes
  let (expiresAt, bytes) ← fetchExpiresAt clock flags bytes
  if bytes = [] then
    some
      { id := UInt64.ofNat id
        key := key
        authFlag := flags &&& 1 ≠ 0
        expiresAt := expiresAt
        createdAt := UInt64.ofNat createdAt }
  else
    none

/-- Two keys that differ at most in their dates. -/
def SameKey (authKey other : AuthKey) : Prop :=
  authKey.id = other.id ∧ authKey.key = other.key ∧ authKey.authFlag = other.authFlag

theorem word_fits (number : UInt64) : number.toNat < 256 ^ 8 :=
  number.toNat_lt

theorem flags_spec (authKey : AuthKey) : authKey.flags < 256 ^ 4 ∧
      (authKey.flags &&& 1 ≠ 0 ↔ authKey.authFlag = true) ∧
      (authKey.flags &&& 4 ≠ 0 ↔ isZero authKey.createdAt = false) ∧
      (authKey.flags &&& 8 ≠ 0 ↔ isZero authKey.expiresAt = false) := by
  unfold flags
  cases authKey.authFlag <;> cases isZero authKey.createdAt <;>
    cases isZero authKey.expiresAt <;> decide

theorem fetchCreatedAt_append (authKey : AuthKey) (rest : Bytes) : ∃ createdAt,
      fetchCreatedAt authKey.flags (authKey.storeCreatedAt ++ rest) = some (createdAt, rest) := by
  obtain ⟨_, _, dated, _⟩ := authKey.flags_spec
  unfold fetchCreatedAt storeCreatedAt
  cases zero : isZero authKey.createdAt with
  | false =>
    rw [if_pos (dated.mpr zero), if_neg Bool.false_ne_true]
    exact ⟨_, Tl.fetchBinary_append (word_fits _) rest⟩
  | true =>
    rw [if_neg (by rw [dated, zero]; decide), if_pos rfl]
    exact ⟨0, rfl⟩

theorem fetchExpiresAt_append (storeClock readClock : Clock) (authKey : AuthKey) (rest : Bytes) :
    ∃ expiresAt,
      fetchExpiresAt readClock authKey.flags (authKey.storeExpiresAt storeClock ++ rest) =
        some (expiresAt, rest) := by
  obtain ⟨_, _, _, dated⟩ := authKey.flags_spec
  unfold fetchExpiresAt storeExpiresAt
  cases zero : isZero authKey.expiresAt with
  | false =>
    rw [if_pos (dated.mpr zero), if_neg Bool.false_ne_true, append_assoc]
    exact ⟨_, rfl⟩
  | true =>
    rw [if_neg (by rw [dated, zero]; decide), if_pos rfl]
    exact ⟨0, rfl⟩

theorem unserialize_serialize (readClock : Clock) {storeClock : Clock} {authKey : AuthKey}
    {stored : Bytes} (done : authKey.serialize storeClock = .ok stored) :
    ∃ read, unserialize readClock stored = some read ∧ read.SameKey authKey := by
  obtain ⟨text, textDone, shape⟩ := bind_eq_ok done
  cases shape
  obtain ⟨flagsFit, authorized, _, _⟩ := authKey.flags_spec
  obtain ⟨createdAt, created⟩ := authKey.fetchCreatedAt_append (authKey.storeExpiresAt storeClock)
  obtain ⟨expiresAt, expires⟩ := fetchExpiresAt_append storeClock readClock authKey []
  rw [append_nil] at expires
  refine ⟨⟨authKey.id, authKey.key, authKey.authFlag, expiresAt,
    UInt64.ofNat createdAt⟩, ?_, rfl, rfl, rfl⟩
  have sameFlag : decide (authKey.flags &&& 1 ≠ 0) = authKey.authFlag := by
    cases flag : authKey.authFlag with
    | false => exact decide_eq_false (by rw [authorized, flag]; decide)
    | true => exact decide_eq_true (authorized.mpr flag)
  simp only [unserialize, Tl.fetchBinary_append (word_fits _),
    Tl.fetchBinary_append flagsFit, Tl.fetchString_append textDone, created,
    expires, Option.bind_eq_bind, Option.bind_some, sameFlag,
    UInt64.ofNat_toNat, if_true]

end AuthKey

end Autoproto
