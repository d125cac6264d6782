import Autoproto.AuthKey
import Autoproto.AuthManager
import Autoproto.TdDb
import Autoproto.Transition

namespace Autoproto

open ByteEncoding Text InMemoryKeyValue

/-!
# Data centers, sessions and the start of a client

A client talks to several data centers. Which one is the main one is known to
`NetQueryDispatcher` and kept in the store, with the authorization key of each.
A session talks to one data center and has a copy of its key.
-/

def DcId.isValid (dcId : Int) : Prop :=
  1 ≤ dcId ∧ dcId ≤ 1000

instance (dcId : Int) : Decidable (DcId.isValid dcId) :=
  inferInstanceAs (Decidable (1 ≤ dcId ∧ dcId ≤ 1000))

def DcId.internal (dcId : Int) : Except Fault Int := do
  check (DcId.isValid dcId)
  return dcId

/-- A data center as it is named: by a positive number, as the main one, or as none. -/
structure DcId where
  value : Int := 0
  isExternal : Bool := false
  deriving Repr, DecidableEq

namespace DcId

def main : DcId :=
  ⟨-1, false⟩

def invalid : DcId :=
  ⟨-2, false⟩

def isMain (dcId : DcId) : Prop :=
  dcId.value = -1

instance (dcId : DcId) : Decidable dcId.isMain :=
  inferInstanceAs (Decidable (dcId.value = -1))

def isExact (dcId : DcId) : Prop :=
  0 < dcId.value

instance (dcId : DcId) : Decidable dcId.isExact :=
  inferInstanceAs (Decidable (0 < dcId.value))

end DcId

/-- The number of a data center that a session can be opened for. -/
abbrev RawDcId := { dcId : Int // DcId.isValid dcId }

/-- The key under which the main data center is stored. -/
def mainDcIdKey : Bytes :=
  ascii "main_dc_id"

namespace AuthDataShared

variable {traits : TableTraits Bytes}

def getAuthKeyBinlogKey (dcId : Int) : Bytes :=
  ascii "auth" ++ decimal dcId

/-- The stored key of a data center, or an empty one. -/
def getAuthKeyForDc (clock : Clock) (dcId : Int)
    (store : InMemoryKeyValue traits) : Except Fault AuthKey := do
  let dcKey ← store.get (getAuthKeyBinlogKey dcId)
  if dcKey = [] then
    return {}
  else
    match AuthKey.unserialize clock dcKey with
    | some authKey => return authKey
    | none => .error .check

/-- Stores the key of a data center. -/
def setAuthKey (clock : Clock) (dcId : Int) (authKey : AuthKey) (store : InMemoryKeyValue traits) :
    Except Fault (InMemoryKeyValue traits) := do
  let bytes ← authKey.serialize clock
  (Operation.set (getAuthKeyBinlogKey dcId) bytes).apply store

end AuthDataShared

/-- The builds, with different main data centers. -/
inductive Build where
  | emscripten
  | native
  deriving Repr, DecidableEq

/-- The main data center of a dispatcher that finds none in the store. -/
def Build.mainDcId : Build → Int
  | emscripten => 2
  | native => 1

structure Session where
  rawDcId : RawDcId
  isMain : Bool
  isCdn : Bool
  usePfs : Bool
  mainAuthKey : AuthKey

/-- What the sessions and the dispatcher share. -/
structure Client (traits : TableTraits Bytes) where
  db : TdDb traits
  mainDcId : Int
  sessions : Nat → Option Session

/-- What an answer begins with. -/
inductive ResponseTl where
  | authAuthorization
  | authLoginTokenSuccess
  | authSentCodeSuccess
  | other
  deriving Repr, DecidableEq

namespace Client

variable {traits : TableTraits Bytes}

/-- A write to the store of the main data center and the keys. -/
def withBinlog (write : InMemoryKeyValue traits → Except Fault (InMemoryKeyValue traits))
    (client : Client traits) : Except Fault (Client traits) := do
  let binlogPmc ← write client.db.binlogPmc
  return { client with db := { client.db with binlogPmc := binlogPmc } }

def withSession (sessionId : Nat) (session : Option Session)
    (client : Client traits) : Client traits :=
  { client with
    sessions := Function.update client.sessions sessionId session }

/-- The dispatcher stores a new main data center, and only a new one. -/
def setMainDcId (newMainDcId : Int) (client : Client traits) : Except Fault (Client traits) :=
  if ¬ DcId.isValid newMainDcId then
    .ok client
  else if newMainDcId = client.mainDcId then
    .ok client
  else
    { client with mainDcId := newMainDcId }.withBinlog
      (Operation.set mainDcIdKey (decimal newMainDcId)).apply

/-- The texts that announce another main data center. -/
def migratePrefixes : List Bytes :=
  [ascii "PHONE_MIGRATE_", ascii "NETWORK_MIGRATE_", ascii "USER_MIGRATE_"]

/-- The dispatcher looks at the text of an error with the code 303. -/
def tryFixMigrate (message : Bytes) (client : Client traits) : Except Fault (Client traits) :=
  match migratePrefixes.find? (fun leading => leading.isPrefixOf message) with
  | some leading => client.setMainDcId (toInteger (message.drop leading.length))
  | none => .ok client

def storeMainAuthKey (clock : Clock) (sessionId : Nat) (session : Session) (authKey : AuthKey)
    (client : Client traits) : Except Fault (Client traits) :=
  (client.withSession sessionId (some { session with mainAuthKey := authKey })).withBinlog
      (AuthDataShared.setAuthKey clock session.rawDcId.val authKey)

/-- A new session has the stored key. -/
def openSession (clock : Clock) (sessionId : Nat) (rawDcId : RawDcId) (isMain isCdn usePfs : Bool)
    (client : Client traits) : Except Fault (Client traits) := do
  let authKey ← AuthDataShared.getAuthKeyForDc clock rawDcId.val client.db.binlogPmc
  return client.withSession sessionId (some ⟨rawDcId, isMain, isCdn, usePfs, authKey⟩)

/-- A login makes its data center the main one, an import not. -/
def noteLogin (rawDcId : RawDcId) (isImportAuthorization : Bool)
    (client : Client traits) : Except Fault (Client traits) :=
  if isImportAuthorization then
    .ok client
  else
    client.setMainDcId rawDcId.val

/-- The session takes the authorization out of an answer. -/
def onMessageResultOk (clock : Clock) (sessionId : Nat) (session : Session) (response : ResponseTl)
    (isImportAuthorization : Bool) (client : Client traits) : Except Fault (Client traits) :=
  if response = .other then
    .ok client
  else do
    let client ← client.noteLogin session.rawDcId isImportAuthorization
    client.storeMainAuthKey clock sessionId session { session.mainAuthKey with authFlag := true }

/--
The error 401 ends the authorization of the session. The text is only compared
with ASCII texts, so the check for UTF-8 before has no effect.
-/
def onMessageResultError (clock : Clock) (sessionId : Nat) (session : Session) (errorCode : Int)
    (message : Bytes) (client : Client traits) : Except Fault (Client traits) :=
  if errorCode = 401 ∧ message ≠ ascii "SESSION_PASSWORD_NEEDED" then
    if session.usePfs ∧ message = ascii "AUTH_KEY_PERM_EMPTY" then
      .ok client
    else if session.isCdn ∨
        (¬ session.isMain ∧ client.mainDcId ≠ session.rawDcId.val) then
      client.storeMainAuthKey clock sessionId session {}
    else
      client.storeMainAuthKey clock sessionId session { session.mainAuthKey with authFlag := false }
  else
    .ok client

end Client

/-- The options of a client that matter when it starts. -/
structure Options where
  dcId : Int := 2
  botToken : Bytes := []
  phoneNumber : Bytes := []
  sessionData : Buffer

structure Started (traits : TableTraits Bytes) where
  client : Client traits
  effectiveDcId : Int
  keyState : AuthKeyState
  authManager : AuthManager

namespace MtprotoClient

variable {traits : TableTraits Bytes}

/-- The stores of a client that starts; those of a refused session are kept. -/
def importedDb (options : Options) : Except Fault (TdDb traits) :=
  if options.sessionData.bytes = [] then
    .ok TdDb.fresh
  else
    Prod.fst <$> TdDb.fresh.importSession options.sessionData

/-- A number in the store, if there is one. -/
def storedOr (preset : Int) (stored : Bytes) : Int :=
  if stored = [] then preset else toInteger stored

/-- The decision of `init` between a restored session and a login. -/
def authenticate (environment : AuthManager.Environment) (options : Options)
    (keyState : AuthKeyState) (authManager : AuthManager) : AuthManager :=
  if keyState = .ok then
    authManager.setAuthorized
  else if options.botToken ≠ [] then
    authManager.checkBotToken environment 0 options.botToken
  else if options.phoneNumber ≠ [] then
    authManager.sendCode environment options.phoneNumber
  else
    authManager

def startUp (build : Build) (environment : AuthManager.Environment) (clock : Clock)
    (options : Options) : Except Fault (Started traits) := do
  let db ← importedDb options
  let stored ← db.binlogPmc.get mainDcIdKey
  let dcId ← DcId.internal (storedOr options.dcId stored)
  let authKey ← AuthDataShared.getAuthKeyForDc clock dcId db.binlogPmc
  let keyState := authKey.getAuthKeyState
  return {
    client :=
      { db := db
        mainDcId := storedOr build.mainDcId stored
        sessions := fun _ => none }
    effectiveDcId := dcId
    keyState := keyState
    authManager := authenticate environment options keyState {} }

end MtprotoClient

end Autoproto
