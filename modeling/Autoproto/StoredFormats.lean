import Autoproto.DataCenters

namespace Autoproto

open ByteEncoding Text

/-!
# Stored values other than keys

The store holds salts, addresses of data centers and proxies, each with a format
of its own. A parser refuses a value that has not its format; what follows is up
to the caller.
-/

namespace Tl

/-- The signed number with the same bits. -/
def int32OfNat (number : Nat) : Int :=
  if number < 2 ^ 31 then number else number - 2 ^ 32

/-- A signed number of four bytes, and what is left. -/
def fetchInt (bytes : Bytes) : Option (Int × Bytes) := do
  let (number, bytes) ← fetchBinary 4 bytes
  return (int32OfNat number, bytes)

def fetchMany {Value : Type} (fetch : Bytes → Option (Value × Bytes)) :
    Nat → Bytes → Option (List Value × Bytes)
  | 0, bytes => some ([], bytes)
  | count + 1, bytes => do
      let (value, bytes) ← fetch bytes
      let (values, bytes) ← fetchMany fetch count bytes
      return (value :: values, bytes)

/-- A vector, with a check of its size. -/
def fetchVector {Value : Type} (fetch : Bytes → Option (Value × Bytes))
    (bytes : Bytes) : Option (List Value × Bytes) := do
  let (size, bytes) ← fetchBinary 4 bytes
  if bytes.length < size then
    none
  else
    fetchMany fetch size bytes

/-- The function `unserialize`: nothing may be left. -/
def unserialize {Value : Type} (fetch : Bytes → Option (Value × Bytes))
    (bytes : Bytes) : Option Value := do
  let (value, bytes) ← fetch bytes
  if bytes = [] then
    return value
  else
    none

end Tl

/-- A salt of a server; its dates are kept as the bits of their encodings. -/
structure ServerSalt where
  salt : UInt64
  validSince : UInt64
  validUntil : UInt64
  deriving Repr, DecidableEq

def ServerSalt.parse (bytes : Bytes) : Option (ServerSalt × Bytes) := do
  let (salt, bytes) ← Tl.fetchBinary 8 bytes
  let (validSince, bytes) ← Tl.fetchBinary 8 bytes
  let (validUntil, bytes) ← Tl.fetchBinary 8 bytes
  return (⟨.ofNat salt, .ofNat validSince, .ofNat validUntil⟩, bytes)

/--
An address of a data center. A text that is no address makes the option invalid,
and nothing else.
-/
structure DcOption where
  flags : Nat
  dcId : DcId
  ipAddress : Bytes
  port : Int
  secret : Bytes
  deriving Repr, DecidableEq

namespace DcOption

/-- The data center of an option, with the flag for one outside. -/
def parseDcId (flags : Nat) (rawDcId : Int) : DcId :=
  if DcId.isValid rawDcId then
    ⟨rawDcId, decide (flags &&& 8 ≠ 0)⟩
  else
    DcId.invalid

def parseSecret (flags : Nat) (bytes : Bytes) : Option (Bytes × Bytes) :=
  if flags &&& 32 ≠ 0 then
    Tl.fetchString bytes
  else
    some ([], bytes)

def parse (bytes : Bytes) : Option (DcOption × Bytes) := do
  let (flags, bytes) ← Tl.fetchBinary 4 bytes
  let (rawDcId, bytes) ← Tl.fetchInt bytes
  let (ipAddress, bytes) ← Tl.fetchString bytes
  let (port, bytes) ← Tl.fetchInt bytes
  let (secret, bytes) ← parseSecret flags bytes
  return (⟨flags, parseDcId flags rawDcId, ipAddress, port, secret⟩, bytes)

end DcOption

/-- The addresses of the data centers. -/
abbrev DcOptions := List DcOption

def DcOptions.parse : Bytes → Option (DcOptions × Bytes) :=
  Tl.fetchVector DcOption.parse

/-- The first number of the enumeration `Version` that is not in use. -/
def Version.next : Int :=
  59

/-- A version from the future aborts; a value that has not the format is refused. -/
def logEventParse {Value : Type} (fetch : Bytes → Except Fault (Option (Value × Bytes)))
    (bytes : Bytes) : Except Fault (Option Value) :=
  match Tl.fetchInt bytes with
  | none => .ok none
  | some (version, bytes) => do
      check (version < Version.next)
      match ← fetch bytes with
      | none => return none
      | some (value, rest) => return if rest = [] then some value else none

def ensure {Value : Type} (result : Option Value) : Except Fault Value :=
  match result with
  | some value => .ok value
  | none => .error .check

/-- The value of a hexadecimal digit. -/
def hexToInt (character : UInt8) : Option Nat :=
  if isDigit character then
    some (character.toNat - 48)
  else
    let lower := character ||| 32
    if 97 ≤ lower ∧ lower ≤ 102 then
      some (lower.toNat - 87)
    else
      none

def hexDecode : Bytes → Option Bytes
  | [] => some []
  | [_] => none
  | high :: low :: rest => do
      let high ← hexToInt high
      let low ← hexToInt low
      let decoded ← hexDecode rest
      return UInt8.ofNat (high * 16 + low) :: decoded

namespace Base64

/-- The characters of the two alphabets. -/
def characters (isUrl : Bool) : Bytes :=
  ascii "ABCDEFGHIJKLMNOPQRSTUVWXYZabcdefghijklmnopqrstuvwxyz0123456789" ++
    ascii (if isUrl then "-_" else "+/")

def valueOf (isUrl : Bool) (character : UInt8) : Option Nat :=
  (characters isUrl).idxOf? character

def dropPadding (isUrl : Bool) (text : Bytes) : Option Bytes :=
  let padding := (text.reverse.takeWhile (· = 61)).length
  let base64 := text.take (text.length - padding)
  if 3 ≤ padding then
    none
  else if (¬ isUrl ∨ 0 < padding) ∧ (base64.length + padding) % 4 ≠ 0 then
    none
  else if isUrl ∧ base64.length % 4 = 1 then
    none
  else
    some base64

/--
The bytes of the characters, four at a time.  The padding leaves no single
character at the end.
-/
def decodeGroups (isUrl : Bool) : Bytes → Option Bytes
  | [] => some []
  | [_] => none
  | [first, second] => do
      let first ← valueOf isUrl first
      let second ← valueOf isUrl second
      let group := first * 2 ^ 18 + second * 2 ^ 12
      if group % 2 ^ 16 ≠ 0 then
        none
      else
        return [UInt8.ofNat (group / 2 ^ 16)]
  | [first, second, third] => do
      let first ← valueOf isUrl first
      let second ← valueOf isUrl second
      let third ← valueOf isUrl third
      let group := first * 2 ^ 18 + second * 2 ^ 12 + third * 2 ^ 6
      if group % 2 ^ 8 ≠ 0 then
        none
      else
        return [UInt8.ofNat (group / 2 ^ 16), UInt8.ofNat (group / 2 ^ 8)]
  | first :: second :: third :: fourth :: rest => do
      let first ← valueOf isUrl first
      let second ← valueOf isUrl second
      let third ← valueOf isUrl third
      let fourth ← valueOf isUrl fourth
      let group :=
        first * 2 ^ 18 + second * 2 ^ 12 + third * 2 ^ 6 + fourth
      let decoded ← decodeGroups isUrl rest
      return UInt8.ofNat (group / 2 ^ 16) :: UInt8.ofNat (group / 2 ^ 8) ::
        UInt8.ofNat group :: decoded

def decode (isUrl : Bool) (text : Bytes) : Option Bytes := do
  let base64 ← dropPadding isUrl text
  decodeGroups isUrl base64

end Base64

namespace ProxySecret

/-- The function `from_binary` of a text that may be cut off. -/
def fromBinary (secret : Bytes) : Option Bytes :=
  let secret := secret.take (17 + 182)
  if secret.length = 16 ∨
      (secret.length = 17 ∧ secret.head? = some 0xdd) ∨
      (18 ≤ secret.length ∧ secret.head? = some 0xee) then
    some secret
  else
    none

/-- The function `from_link` of a text that may be cut off. -/
def fromLink (text : Bytes) : Option Bytes := do
  let decoded ← hexDecode text <|> Base64.decode true text <|> Base64.decode false text
  fromBinary decoded

end ProxySecret

/-- The kinds of proxies. -/
inductive ProxyType where
  | none
  | socks5
  | mtproto
  | httpTcp
  | httpCaching
  deriving Repr, DecidableEq

/-- The kind with a number. -/
def ProxyType.ofInt? : Int → Option ProxyType
  | 0 => some .none
  | 1 => some .socks5
  | 2 => some .mtproto
  | 3 => some .httpTcp
  | 4 => some .httpCaching
  | _ => Option.none

structure Proxy where
  type : ProxyType := .none
  server : Bytes := []
  port : Int := 0
  user : Bytes := []
  password : Bytes := []
  secret : Bytes := []
  deriving Repr, DecidableEq

namespace Proxy

/-- The proxies with a name and a password. -/
def parseWithUser (type : ProxyType) (bytes : Bytes) : Option (Proxy × Bytes) := do
  let (server, bytes) ← Tl.fetchString bytes
  let (port, bytes) ← Tl.fetchInt bytes
  let (user, bytes) ← Tl.fetchString bytes
  let (password, bytes) ← Tl.fetchString bytes
  return ({ type, server, port, user, password }, bytes)

def parseWithSecret (bytes : Bytes) : Option (Proxy × Bytes) := do
  let (server, bytes) ← Tl.fetchString bytes
  let (port, bytes) ← Tl.fetchInt bytes
  let (link, bytes) ← Tl.fetchString bytes
  let secret ← ProxySecret.fromLink link
  return ({ type := .mtproto, server, port, secret }, bytes)

/--
A number that is no kind aborts, and so does a bad secret; a parser past the end
goes on with zeros.
-/
def parse (bytes : Bytes) : Except Fault (Option (Proxy × Bytes)) :=
  match Tl.fetchInt bytes with
  | none => .ok none
  | some (number, bytes) =>
    match ProxyType.ofInt? number with
    | none => .error .check
    | some .none => .ok (some ({}, bytes))
    | some .mtproto => do
        let parsed ← ensure (parseWithSecret bytes)
        return some parsed
    | some type => .ok (parseWithUser type bytes)

end Proxy

end Autoproto
