import Autoproto.DataCenters

namespace Autoproto

open Function ByteEncoding Text InMemoryKeyValue Transition

/-!
# Runs of sessions and the dispatcher

Sessions come and go, the server answers, refuses and moves the user, in any
order. The dispatcher and the store agree on the main data center, and a login
stays in the store until something takes it away.
-/

namespace Client

variable {traits : TableTraits Bytes}

/-- The keys of the store that a session or the dispatcher writes. -/
def Reserved (key : Bytes) : Prop :=
  key = mainDcIdKey ∨ ∃ rawDcId : RawDcId, key = AuthDataShared.getAuthKeyBinlogKey rawDcId.val

/-- What can happen to the sessions, the dispatcher and the stores. -/
inductive Event where
  | openSession (sessionId : Nat) (rawDcId : RawDcId) (isMain isCdn usePfs : Bool)
  | closeSession (sessionId : Nat)
  | setUsePfs (sessionId : Nat) (usePfs : Bool)
  | onHandshakeReady (sessionId : Nat) (authKey : AuthKey)
  | onMessageResultOk (sessionId : Nat) (response : ResponseTl) (isImportAuthorization : Bool)
  | onMessageResultError (sessionId : Nat) (errorCode : Int) (message : Bytes)
  | dropMainAuthKey (sessionId : Nat)
  | tryFixMigrate (message : Bytes)
  | writeBinlog (operation : Operation)
  | writeConfig (operation : Operation)

/-- An event that happens in an open session. -/
def inSession (sessionId : Nat) (handle : Session → Client traits → Except Fault (Client traits))
    (client : Client traits) : Except Fault (Client traits) :=
  match client.sessions sessionId with
  | some session => handle session client
  | none => .ok client

def after (clock : Clock) (client : Client traits) :
    Event → Except Fault (Client traits)
  | .openSession sessionId rawDcId isMain isCdn usePfs =>
    client.openSession clock sessionId rawDcId isMain isCdn usePfs
  | .closeSession sessionId => .ok (client.withSession sessionId none)
  | .setUsePfs sessionId usePfs =>
    client.inSession sessionId (fun session client =>
      .ok (client.withSession sessionId (some { session with usePfs := usePfs })))
  | .onHandshakeReady sessionId authKey =>
    client.inSession sessionId (fun session client =>
      client.storeMainAuthKey clock sessionId session authKey)
  | .onMessageResultOk sessionId response isImportAuthorization =>
    client.inSession sessionId (fun session client =>
      client.onMessageResultOk clock sessionId session response isImportAuthorization)
  | .onMessageResultError sessionId errorCode message =>
    client.inSession sessionId (fun session client =>
      client.onMessageResultError clock sessionId session errorCode message)
  | .dropMainAuthKey sessionId =>
    client.inSession sessionId (fun session client =>
      client.storeMainAuthKey clock sessionId session {})
  | .tryFixMigrate message => client.tryFixMigrate message
  | .writeBinlog operation => client.withBinlog operation.apply
  | .writeConfig operation => do
      let configPmc ← operation.apply client.db.configPmc
      return { client with db := { client.db with configPmc := configPmc } }

/--
A handshake for a main key is made by a session without one, and its key is not
authorized. The other users of the store have keys of their own.
-/
def Possible (client : Client traits) :
    Event → Prop
  | .onHandshakeReady sessionId authKey =>
    (∀ session, client.sessions sessionId = some session → session.mainAuthKey.key = []) ∧
      authKey.key.length = 256 ∧ authKey.authFlag = false
  | .writeBinlog operation => ∀ key map, Reserved key → operation.effect map key = map key
  | _ => True

def Step (before : Client traits) (event : Event) (reached : Client traits) : Prop :=
  before.Possible event ∧ ∃ clock, before.after clock event = .ok reached

/-- What the store of the main data center and the keys holds. -/
def binlog (client : Client traits) : Bytes → Option Bytes :=
  client.db.binlogPmc.contents

variable {dcId : Int}

theorem toInteger_decimal_of_valid (valid : DcId.isValid dcId) :
    toInteger (decimal dcId) = dcId := by
  obtain ⟨number, same⟩ := Int.eq_ofNat_of_zero_le (le_trans (by decide) valid.1)
  have small := valid.2
  rw [same] at small ⊢
  exact toInteger_decimal (by omega)

theorem decimal_ne_nil_of_valid (valid : DcId.isValid dcId) : decimal dcId ≠ [] := by
  obtain ⟨number, same⟩ := Int.eq_ofNat_of_zero_le (le_trans (by decide) valid.1)
  rw [same]
  exact decimal_ne_nil number

theorem getAuthKeyBinlogKey_injective {rawDcId other : RawDcId}
    (same : AuthDataShared.getAuthKeyBinlogKey rawDcId.val =
        AuthDataShared.getAuthKeyBinlogKey other.val) : rawDcId = other := by
  have numbers := List.append_cancel_left same
  apply Subtype.ext
  rw [← toInteger_decimal_of_valid rawDcId.property, numbers,
    toInteger_decimal_of_valid other.property]

theorem mainDcIdKey_ne : mainDcIdKey ≠ AuthDataShared.getAuthKeyBinlogKey dcId := by
  intro same
  have firstBytes : some (109 : UInt8) = some 97 := congrArg List.head? same
  exact absurd firstBytes (by decide)

variable {client reached : Client traits} {clock : Clock} {sessionId : Nat} {session : Session}
  {authKey : AuthKey} {rawDcId : RawDcId} {build : Build} {stored : Option Bytes}

/-- What a write to the store changes. -/
theorem withBinlog_spec {operation : Operation}
    (done : client.withBinlog operation.apply = .ok reached) : reached.mainDcId = client.mainDcId ∧
      reached.sessions = client.sessions ∧ reached.binlog = operation.effect client.binlog := by
  obtain ⟨written, writeDone, shape⟩ := bind_eq_ok done
  cases shape
  exact ⟨rfl, rfl, Operation.contents_of_apply writeDone⟩

theorem setMainDcId_cases {newMainDcId : Int}
    (done : client.setMainDcId newMainDcId = .ok reached) :
    (reached = client ∧ (¬ DcId.isValid newMainDcId ∨ newMainDcId = client.mainDcId)) ∨
      (DcId.isValid newMainDcId ∧ newMainDcId ≠ client.mainDcId ∧ reached.mainDcId = newMainDcId ∧
        reached.sessions = client.sessions ∧ reached.binlog =
          Function.update client.binlog mainDcIdKey (some (decimal newMainDcId))) := by
  unfold setMainDcId at done
  split at done
  · rename_i invalid
    cases done
    exact Or.inl ⟨rfl, Or.inl invalid⟩
  · rename_i valid
    split at done
    · rename_i same
      cases done
      exact Or.inl ⟨rfl, Or.inr same⟩
    · rename_i changed
      obtain ⟨main, sessions, binlog⟩ := withBinlog_spec done
      exact Or.inr ⟨not_not.mp valid, changed, main, sessions, binlog⟩

theorem storeMainAuthKey_spec
    (done : client.storeMainAuthKey clock sessionId session authKey = .ok reached) : ∃ bytes,
      authKey.serialize clock = .ok bytes ∧
        reached.mainDcId = client.mainDcId ∧
        reached.sessions =
          Function.update client.sessions sessionId (some { session with mainAuthKey := authKey }) ∧
        reached.binlog = Function.update client.binlog
            (AuthDataShared.getAuthKeyBinlogKey session.rawDcId.val)
            (some bytes) := by
  obtain ⟨written, writeDone, shape⟩ := bind_eq_ok done
  obtain ⟨bytes, serialized, stored⟩ := bind_eq_ok writeDone
  cases shape
  exact ⟨bytes, serialized, rfl, rfl, Operation.contents_of_apply stored⟩

/-- What a new session changes. -/
theorem openSession_spec {isMain isCdn usePfs : Bool}
    (done : client.openSession clock sessionId rawDcId isMain isCdn usePfs = .ok reached) :
    ∃ authKey, AuthDataShared.getAuthKeyForDc clock rawDcId.val client.db.binlogPmc = .ok authKey ∧
        reached =
          client.withSession sessionId (some ⟨rawDcId, isMain, isCdn, usePfs, authKey⟩) := by
  obtain ⟨authKey, found, shape⟩ := bind_eq_ok done
  cases shape
  exact ⟨authKey, found, rfl⟩

/-- The dispatcher has the main data center that the store tells. -/
def StoresMain (build : Build) (client : Client traits) : Prop :=
  MtprotoClient.storedOr build.mainDcId ((client.binlog mainDcIdKey).getD []) = client.mainDcId

section

variable (stores : StoresMain build client)
include stores

theorem StoresMain.of_same (sameMain : reached.mainDcId = client.mainDcId)
    (sameStored : reached.binlog mainDcIdKey = client.binlog mainDcIdKey) :
    StoresMain build reached := by
  rw [StoresMain, sameMain, sameStored]
  exact stores

theorem StoresMain.setMainDcId {newMainDcId : Int}
    (done : client.setMainDcId newMainDcId = .ok reached) : StoresMain build reached := by
  rcases setMainDcId_cases done with ⟨same, _⟩ | ⟨valid, _, main, _, binlog⟩
  · rw [same]
    exact stores
  · rw [StoresMain, main, binlog, update_self, Option.getD_some,
      MtprotoClient.storedOr, if_neg (decimal_ne_nil_of_valid valid),
      toInteger_decimal_of_valid valid]

theorem StoresMain.storeMainAuthKey
    (done : client.storeMainAuthKey clock sessionId session authKey = .ok reached) :
    StoresMain build reached := by
  obtain ⟨_, _, main, _, binlog⟩ := storeMainAuthKey_spec done
  refine stores.of_same main ?_
  rw [binlog, update_of_ne (mainDcIdKey_ne)]

end

theorem inSession_cases {handle : Session → Client traits → Except Fault (Client traits)}
    (done : client.inSession sessionId handle = .ok reached) : reached = client ∨ ∃ session,
        client.sessions sessionId = some session ∧ handle session client = .ok reached := by
  unfold inSession at done
  split at done
  · rename_i session isOpen
    exact Or.inr ⟨session, isOpen, done⟩
  · cases done
    exact Or.inl rfl

variable {response : ResponseTl}

theorem onMessageResultOk_cases {isImportAuthorization : Bool}
    (done : client.onMessageResultOk clock sessionId session response
        isImportAuthorization = .ok reached) : (response = .other ∧ reached = client) ∨
      (response ≠ .other ∧ ∃ middle, ((isImportAuthorization = true ∧ middle = client) ∨
            (isImportAuthorization = false ∧ client.setMainDcId session.rawDcId.val = .ok middle)) ∧
          middle.storeMainAuthKey clock sessionId session
            { session.mainAuthKey with authFlag := true } = .ok reached) := by
  unfold onMessageResultOk at done
  split at done
  · rename_i other
    cases done
    exact Or.inl ⟨other, rfl⟩
  · rename_i login
    obtain ⟨middle, told, stored⟩ := bind_eq_ok done
    refine Or.inr ⟨login, middle, ?_, stored⟩
    cases isImportAuthorization with
    | true =>
      cases told
      exact Or.inl ⟨rfl, rfl⟩
    | false => exact Or.inr ⟨rfl, told⟩

theorem onMessageResultError_cases {errorCode : Int} {message : Bytes}
    (done : client.onMessageResultError clock sessionId session errorCode message = .ok reached) :
    reached = client ∨ (errorCode = 401 ∧ message ≠ ascii "SESSION_PASSWORD_NEEDED" ∧
        ∃ authKey, client.storeMainAuthKey clock sessionId session authKey = .ok reached) := by
  unfold onMessageResultError at done
  split at done
  · rename_i unauthorized
    split at done
    · cases done
      exact Or.inl rfl
    · split at done
      all_goals exact Or.inr ⟨unauthorized.1, unauthorized.2, _, done⟩
  · cases done
    exact Or.inl rfl

variable {before : Client traits} {event : Event}

theorem storesMain_step (stores : StoresMain build before) (taken : Step before event reached) :
    StoresMain build reached := by
  obtain ⟨possible, clock, done⟩ := taken
  cases event with
  | openSession =>
    obtain ⟨authKey, _, shape⟩ := openSession_spec done
    rw [shape]
    exact stores
  | closeSession =>
    cases done
    exact stores
  | setUsePfs =>
    simp only [after] at done
    rcases inSession_cases done with same | ⟨session, _, changed⟩
    · rw [same]
      exact stores
    · cases changed
      exact stores
  | onHandshakeReady | dropMainAuthKey =>
    rcases inSession_cases done with same | ⟨session, _, stored⟩
    · rw [same]
      exact stores
    · exact stores.storeMainAuthKey stored
  | onMessageResultOk =>
    rcases inSession_cases done with same | ⟨session, _, handled⟩
    · rw [same]
      exact stores
    · rcases onMessageResultOk_cases handled with
        ⟨_, same⟩ | ⟨_, middle, ⟨_, same⟩ | ⟨_, told⟩, stored⟩
      · rw [same]
        exact stores
      · rw [same] at stored
        exact stores.storeMainAuthKey stored
      · exact (stores.setMainDcId told).storeMainAuthKey stored
  | onMessageResultError =>
    rcases inSession_cases done with same | ⟨session, _, handled⟩
    · rw [same]
      exact stores
    · rcases onMessageResultError_cases handled with
        same | ⟨_, _, authKey, stored⟩
      · rw [same]
        exact stores
      · exact stores.storeMainAuthKey stored
  | tryFixMigrate message =>
    simp only [after, Client.tryFixMigrate] at done
    split at done
    · exact stores.setMainDcId done
    · cases done
      exact stores
  | writeBinlog operation =>
    obtain ⟨main, _, binlog⟩ := withBinlog_spec done
    refine stores.of_same main ?_
    rw [binlog]
    exact possible _ _ (Or.inl rfl)
  | writeConfig operation =>
    obtain ⟨configPmc, _, shape⟩ := bind_eq_ok done
    cases shape
    exact stores

theorem storesMain_run {first : Client traits} {events : List Event}
    (stores : StoresMain build first) (run : Run Step first events reached) :
    StoresMain build reached :=
  run.invariant stores (fun _ _ _ held taken => storesMain_step held taken)

/-- The store has an authorized key for a data center. -/
def HoldsAuthorizedKey (rawDcId : RawDcId) (client : Client traits) : Prop :=
  ∃ clock authKey bytes, AuthKey.serialize clock authKey = .ok bytes ∧
      authKey.key ≠ [] ∧ authKey.authFlag = true ∧
      client.binlog (AuthDataShared.getAuthKeyBinlogKey rawDcId.val) = some bytes

def SessionsKeyed (rawDcId : RawDcId) (client : Client traits) : Prop :=
  ∀ sessionId session, client.sessions sessionId = some session →
    session.rawDcId = rawDcId →
    session.mainAuthKey.key ≠ []

/--
The data center of a login is the main one and has an authorized key, which its
sessions have copied.
-/
structure LoggedIn (rawDcId : RawDcId) (stored : Option Bytes) (client : Client traits) : Prop where
  main : client.mainDcId = rawDcId.val
  storedMain : client.binlog mainDcIdKey = stored
  authorized : client.HoldsAuthorizedKey rawDcId
  keyed : client.SessionsKeyed rawDcId

/--
The server neither revokes the login nor moves the user, the key is not lost,
and nobody logs in elsewhere.
-/
def Keeps (rawDcId : RawDcId) (client : Client traits) : Event → Prop
  | .onMessageResultOk sessionId response isImportAuthorization =>
    ∀ session, client.sessions sessionId = some session →
      session.rawDcId = rawDcId ∨ response = .other ∨ isImportAuthorization = true
  | .onMessageResultError sessionId errorCode message =>
    ∀ session, client.sessions sessionId = some session →
      session.rawDcId = rawDcId →
      errorCode ≠ 401 ∨ message = ascii "SESSION_PASSWORD_NEEDED"
  | .dropMainAuthKey sessionId =>
    ∀ session, client.sessions sessionId = some session → session.rawDcId ≠ rawDcId
  | .tryFixMigrate _ => False
  | _ => True

theorem HoldsAuthorizedKey.getAuthKeyForDc (holds : client.HoldsAuthorizedKey rawDcId)
    {store : InMemoryKeyValue traits} (sameStore : store.contents = client.binlog) (clock : Clock) :
    ∃ authKey, AuthDataShared.getAuthKeyForDc clock rawDcId.val store = .ok authKey ∧
        authKey.key ≠ [] ∧ authKey.authFlag = true := by
  obtain ⟨storeClock, original, bytes, serialized, hasKey, hasFlag, found⟩ := holds
  obtain ⟨read, isRead, _, sameKey, sameFlag⟩ := AuthKey.unserialize_serialize clock serialized
  have nonempty : bytes ≠ [] := by
    intro empty
    rw [empty] at isRead
    cases isRead
  refine ⟨read, ?_, sameKey ▸ hasKey, sameFlag.trans hasFlag⟩
  rw [AuthDataShared.getAuthKeyForDc, get_spec, ok_bind, sameStore, found,
    Option.getD_some, if_neg nonempty, isRead]
  rfl

theorem SessionsKeyed.update {replacement : Option Session} (keyed : client.SessionsKeyed rawDcId)
    (sessions : reached.sessions = Function.update client.sessions sessionId replacement)
    (replacementKeyed : ∀ session, replacement = some session → session.rawDcId = rawDcId →
        session.mainAuthKey.key ≠ []) : reached.SessionsKeyed rawDcId := by
  intro otherId other isOpen here
  rw [sessions] at isOpen
  by_cases same : otherId = sessionId
  · rw [same, update_self] at isOpen
    exact replacementKeyed other isOpen here
  · rw [update_of_ne same] at isOpen
    exact keyed otherId other isOpen here

section

variable (loggedIn : client.LoggedIn rawDcId stored)
include loggedIn

theorem LoggedIn.storeMainAuthKey
    (done : client.storeMainAuthKey clock sessionId session authKey = .ok reached)
    (authorized : session.rawDcId = rawDcId → authKey.key ≠ [] ∧ authKey.authFlag = true) :
    reached.LoggedIn rawDcId stored := by
  obtain ⟨bytes, serialized, main, sessions, binlog⟩ := storeMainAuthKey_spec done
  refine ⟨main.trans loggedIn.main, ?_, ?_, ?_⟩
  · rw [binlog, update_of_ne (mainDcIdKey_ne)]
    exact loggedIn.storedMain
  · by_cases here : session.rawDcId = rawDcId
    · obtain ⟨hasKey, hasFlag⟩ := authorized here
      refine ⟨clock, authKey, bytes, serialized, hasKey, hasFlag, ?_⟩
      rw [binlog, here, update_self]
    · obtain ⟨oldClock, oldKey, oldBytes, oldSerialized, hasKey, hasFlag,
        found⟩ := loggedIn.authorized
      refine ⟨oldClock, oldKey, oldBytes, oldSerialized, hasKey, hasFlag, ?_⟩
      rw [binlog, update_of_ne]
      · exact found
      · intro same
        exact here (getAuthKeyBinlogKey_injective same).symm
  · refine loggedIn.keyed.update sessions ?_
    intro other replaced here
    cases replaced
    exact (authorized here).1

/-- Sessions come and go. -/
theorem LoggedIn.withSession (sessionId : Nat) {replacement : Option Session}
    (replacementKeyed : ∀ session, replacement = some session → session.rawDcId = rawDcId →
        session.mainAuthKey.key ≠ []) :
    (client.withSession sessionId replacement).LoggedIn rawDcId stored :=
  ⟨loggedIn.main, loggedIn.storedMain, loggedIn.authorized,
    loggedIn.keyed.update rfl replacementKeyed⟩

theorem LoggedIn.setMainDcId (done : client.setMainDcId rawDcId.val = .ok reached) :
    reached.LoggedIn rawDcId stored := by
  rcases setMainDcId_cases done with ⟨same, _⟩ | ⟨_, changed, _⟩
  · rw [same]
    exact loggedIn
  · exact absurd loggedIn.main.symm changed

end

theorem loggedIn_step (loggedIn : before.LoggedIn rawDcId stored)
    (taken : Guarded (Keeps rawDcId) Step before event reached) :
    reached.LoggedIn rawDcId stored := by
  obtain ⟨keeps, possible, clock, done⟩ := taken
  cases event with
  | openSession =>
    obtain ⟨authKey, found, shape⟩ := openSession_spec done
    rw [shape]
    refine loggedIn.withSession _ ?_
    intro session opened here
    cases opened
    -- A session of this data center copies the authorized key.
    obtain ⟨read, isRead, hasKey, _⟩ := loggedIn.authorized.getAuthKeyForDc rfl clock
    rw [← here] at isRead
    cases isRead.symm.trans found
    exact hasKey
  | closeSession =>
    cases done
    exact loggedIn.withSession _ (by simp)
  | setUsePfs sessionId usePfs =>
    simp only [after] at done
    rcases inSession_cases done with same | ⟨session, isOpen, changed⟩
    · rw [same]
      exact loggedIn
    · cases changed
      refine loggedIn.withSession _ ?_
      intro other replaced here
      cases replaced
      exact loggedIn.keyed sessionId session isOpen here
  | onHandshakeReady sessionId authKey =>
    rcases inSession_cases done with same | ⟨session, isOpen, stored⟩
    · rw [same]
      exact loggedIn
    · refine loggedIn.storeMainAuthKey stored ?_
      intro here
      exact absurd (possible.1 session isOpen) (loggedIn.keyed sessionId session isOpen here)
  | onMessageResultOk sessionId response isImportAuthorization =>
    rcases inSession_cases done with same | ⟨session, isOpen, handled⟩
    · rw [same]
      exact loggedIn
    · have hasKey := loggedIn.keyed sessionId session isOpen
      rcases onMessageResultOk_cases handled with
        ⟨_, same⟩ | ⟨login, middle, ⟨_, same⟩ | ⟨notImport, told⟩, stored⟩
      · rw [same]
        exact loggedIn
      · rw [same] at stored
        exact loggedIn.storeMainAuthKey stored (fun here => ⟨hasKey here, rfl⟩)
      · rcases keeps session isOpen with here | other | isImport
        · rw [here] at told
          exact (loggedIn.setMainDcId told).storeMainAuthKey stored (fun here => ⟨hasKey here, rfl⟩)
        · exact absurd other login
        · rw [notImport] at isImport
          cases isImport
  | onMessageResultError sessionId errorCode message =>
    rcases inSession_cases done with same | ⟨session, isOpen, handled⟩
    · rw [same]
      exact loggedIn
    · rcases onMessageResultError_cases handled with
        same | ⟨code, notPassword, authKey, stored⟩
      · rw [same]
        exact loggedIn
      · refine loggedIn.storeMainAuthKey stored ?_
        intro here
        rcases keeps session isOpen here with otherCode | password
        · exact absurd code otherCode
        · exact absurd password notPassword
  | dropMainAuthKey sessionId =>
    rcases inSession_cases done with same | ⟨session, isOpen, stored⟩
    · rw [same]
      exact loggedIn
    · exact loggedIn.storeMainAuthKey stored (fun here => absurd here (keeps session isOpen))
  | tryFixMigrate => exact keeps.elim
  | writeBinlog operation =>
    obtain ⟨main, sessions, binlog⟩ := withBinlog_spec done
    refine ⟨main.trans loggedIn.main, ?_, ?_, ?_⟩
    · rw [binlog, possible _ _ (Or.inl rfl)]
      exact loggedIn.storedMain
    · obtain ⟨keyClock, authKey, bytes, serialized, hasKey, hasFlag, found⟩ := loggedIn.authorized
      refine ⟨keyClock, authKey, bytes, serialized, hasKey, hasFlag, ?_⟩
      rw [binlog, possible _ _ (Or.inr ⟨rawDcId, rfl⟩)]
      exact found
    · intro sessionId session isOpen
      rw [sessions] at isOpen
      exact loggedIn.keyed sessionId session isOpen
  | writeConfig =>
    obtain ⟨configPmc, _, shape⟩ := bind_eq_ok done
    cases shape
    exact ⟨loggedIn.main, loggedIn.storedMain, loggedIn.authorized, loggedIn.keyed⟩

theorem loggedIn_login (stores : StoresMain build before)
    (isOpen : before.sessions sessionId = some session)
    (keyed : before.SessionsKeyed session.rawDcId) (login : response ≠ .other)
    (taken : Step before (.onMessageResultOk sessionId response false) reached) :
    reached.LoggedIn session.rawDcId (reached.binlog mainDcIdKey) ∧
      ((reached.binlog mainDcIdKey).getD [] = [] ↔
        (before.binlog mainDcIdKey).getD [] = [] ∧ session.rawDcId.val = build.mainDcId) := by
  obtain ⟨_, clock, done⟩ := taken
  have handled : before.onMessageResultOk clock sessionId session response false = .ok reached := by
    simpa only [after, inSession, isOpen] using done
  obtain ⟨_, middle, told, stored⟩ :=
    (onMessageResultOk_cases handled).resolve_left (fun same => login same.1)
  have told : before.setMainDcId session.rawDcId.val = .ok middle := by
    rcases told with ⟨isImport, _⟩ | ⟨_, told⟩
    · cases isImport
    · exact told
  obtain ⟨bytes, serialized, main, sessions, binlog⟩ := storeMainAuthKey_spec stored
  have sameStored : reached.binlog mainDcIdKey = middle.binlog mainDcIdKey := by
    rw [binlog, update_of_ne (mainDcIdKey_ne)]
  have middleSessions : middle.sessions = before.sessions := by
    rcases setMainDcId_cases told with ⟨same, _⟩ | ⟨_, _, _, same, _⟩
    · rw [same]
    · exact same
  have middleMain : middle.mainDcId = session.rawDcId.val := by
    rcases setMainDcId_cases told with
      ⟨same, invalid | isMain⟩ | ⟨_, _, same, _⟩
    · exact absurd session.rawDcId.property invalid
    · rw [same, isMain]
    · exact same
  have hasKey : session.mainAuthKey.key ≠ [] := keyed sessionId session isOpen rfl
  refine ⟨⟨main.trans middleMain, rfl, ?_, ?_⟩, ?_⟩
  · refine ⟨clock, _, bytes, serialized, hasKey, rfl, ?_⟩
    rw [binlog, update_self]
  · rw [middleSessions] at sessions
    refine keyed.update sessions ?_
    intro other replaced _
    cases replaced
    exact hasKey
  · rw [sameStored]
    rcases setMainDcId_cases told with
      ⟨same, invalid | isMain⟩ | ⟨_, changed, _, _, middleBinlog⟩
    · exact absurd session.rawDcId.property invalid
    · rw [same, isMain]
      constructor
      · intro empty
        refine ⟨empty, ?_⟩
        rw [← stores, empty]
        rfl
      · exact And.left
    · rw [middleBinlog, update_self, Option.getD_some]
      constructor
      · intro empty
        exact absurd empty (decimal_ne_nil_of_valid session.rawDcId.property)
      · rintro ⟨empty, isPreset⟩
        rw [StoresMain, empty] at stores
        exact absurd (isPreset.trans stores) changed

end Client

end Autoproto
