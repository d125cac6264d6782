import Autoproto.AuthManagerRuns
import Autoproto.DataCenterRuns

namespace Autoproto

open ByteEncoding Text InMemoryKeyValue Transition

/-!
# Resuming a session

A client that has logged in exports its stores, and a later client starts from
them. It looks for a key at the stored main data center or else at the one of
its options; the dispatcher takes a constant instead. Both agree if the constant
is the one of the options, or if a main data center is stored, which happens
only when it has changed.
-/

namespace MtprotoClient

open Client

variable {traits : TableTraits Bytes} {options : Options} {db : TdDb traits}

theorem startUp_eq (imported : importedDb options = .ok db) (build : Build)
    (environment : AuthManager.Environment) (clock : Clock) :
    startUp build environment clock options = (do
      let stored := (db.binlogPmc.contents mainDcIdKey).getD []
      let dcId ← DcId.internal (storedOr options.dcId stored)
      let authKey ← AuthDataShared.getAuthKeyForDc clock dcId db.binlogPmc
      return {
        client :=
          { db := db
            mainDcId := storedOr build.mainDcId stored
            sessions := fun _ => none }
        effectiveDcId := dcId
        keyState := authKey.getAuthKeyState
        authManager := authenticate environment options authKey.getAuthKeyState {} }) := by
  rw [startUp, imported, ok_bind, get_spec, ok_bind]

variable {build : Build} {environment : AuthManager.Environment} {clock : Clock}
  {started : Started traits}

theorem startUp_spec (imported : importedDb options = .ok db)
    (done : startUp build environment clock options = .ok started) : started.client.db = db ∧
      started.client.mainDcId =
        storedOr build.mainDcId ((db.binlogPmc.contents mainDcIdKey).getD []) ∧
      started.effectiveDcId =
        storedOr options.dcId ((db.binlogPmc.contents mainDcIdKey).getD []) := by
  rw [startUp_eq imported] at done
  obtain ⟨dcId, isDc, rest⟩ := bind_eq_ok done
  obtain ⟨authKey, _, shape⟩ := bind_eq_ok rest
  obtain ⟨_, _, same⟩ := bind_eq_ok isDc
  cases shape
  cases same
  exact ⟨rfl, rfl, rfl⟩

theorem storesMain_startUp (done : startUp build environment clock options = .ok started) :
    StoresMain build started.client := by
  obtain ⟨db, imported, _⟩ := bind_eq_ok done
  obtain ⟨sameDb, main, _⟩ := startUp_spec imported done
  rw [StoresMain, main, Client.binlog, sameDb]

/--
A client that starts takes this data center for the main one, looks for its key,
finds an authorized one and sends nothing.
-/
def Resumes (traits : TableTraits Bytes) (build : Build) (environment : AuthManager.Environment)
    (clock : Clock) (options : Options) (rawDcId : RawDcId) : Prop :=
  ∃ started : Started traits,
    startUp build environment clock options = .ok started ∧
      started.effectiveDcId = started.client.mainDcId ∧
      started.client.mainDcId = rawDcId.val ∧
      started.keyState = .ok ∧
      started.authManager = ({} : AuthManager).setAuthorized ∧
      started.authManager.inFlight = []

theorem resumes_iff_of_imported {rawDcId : RawDcId} {stored : Option Bytes} {last : Client traits}
    (imported : importedDb options = .ok db) (sameStore : db.binlogPmc.contents = last.binlog)
    (stores : StoresMain build last) (loggedIn : last.LoggedIn rawDcId stored) :
    Resumes traits build environment clock options rawDcId ↔
      options.dcId = build.mainDcId ∨ stored.getD [] ≠ [] := by
  have text : (db.binlogPmc.contents mainDcIdKey).getD [] = stored.getD [] := by
    rw [sameStore, loggedIn.storedMain]
  have main : storedOr build.mainDcId (stored.getD []) = rawDcId.val := by
    rw [← loggedIn.main, ← stores, loggedIn.storedMain]
  constructor
  · rintro ⟨started, done, sameDc, _⟩
    obtain ⟨_, isMain, effective⟩ := startUp_spec imported done
    rw [isMain, effective, text] at sameDc
    by_cases empty : stored.getD [] = []
    · rw [empty] at sameDc
      exact Or.inl sameDc
    · exact Or.inr empty
  · intro condition
    have effective : storedOr options.dcId (stored.getD []) = rawDcId.val := by
      rcases condition with preset | nonempty
      · rw [preset, main]
      · rw [← main, storedOr, storedOr, if_neg nonempty, if_neg nonempty]
    obtain ⟨authKey, found, hasKey, hasFlag⟩ := loggedIn.authorized.getAuthKeyForDc sameStore clock
    have keyState : authKey.getAuthKeyState = .ok := by
      rw [AuthKey.getAuthKeyState, if_neg hasKey, if_pos hasFlag]
    have isDc : DcId.internal rawDcId.val = .ok rawDcId.val := by
      rw [DcId.internal, check_eq_ok rawDcId.property, ok_bind]
      rfl
    have done := startUp_eq imported build environment clock
    simp only [text, effective, main, isDc, found, ok_bind, pure_eq_ok, keyState] at done
    exact ⟨_, done, rfl, rfl, rfl, rfl, rfl⟩

theorem importedDb_of_exported {source exported : TdDb traits} {binlogRandom configRandom : UInt32}
    (exportDone :
      source.exportSession binlogRandom configRandom = .ok (exported, options.sessionData.bytes))
    (binlogSmall : source.binlogPmc.serializedSize < 2 ^ 32)
    (configSmall : source.configPmc.serializedSize < 2 ^ 32) : ∃ db : TdDb traits,
      importedDb options = .ok db ∧ db.binlogPmc.contents = source.binlogPmc.contents := by
  obtain ⟨db, accepted, contents, _⟩ :=
    TdDb.importSession_of_exported exportDone binlogSmall configSmall TdDb.fresh
  refine ⟨db, ?_, contents⟩
  have nonempty : options.sessionData.bytes ≠ [] := by
    intro empty
    rw [TdDb.importSession, empty, if_pos (by decide)] at accepted
    cases accepted
  rw [importedDb, if_neg nonempty, accepted]
  rfl

/--
A user logs in at a data center whose sessions all have keys, and the login is
left alone. A client that starts from what is exported resumes it if and only if
its options name the data center of the build, or the login was at another one,
or a main data center had been stored before.
-/
theorem resumes_login_iff
    (build : Build)
    (environment : AuthManager.Environment)
    (startClock restartClock : Clock)
    (options : Options)
    (started : Started traits)
    (startDone : startUp build environment startClock options = .ok started)
    (earlier later : List Event)
    (before reached last : Client traits)
    (earlierRun : Run Step started.client earlier before)
    (sessionId : Nat)
    (session : Session)
    (isOpen : before.sessions sessionId = some session)
    (keyed : before.SessionsKeyed session.rawDcId)
    (login : Step before (.onMessageResultOk sessionId .authAuthorization false) reached)
    (laterRun : Run (Guarded (Keeps session.rawDcId) Step) reached later last)
    (binlogRandom configRandom : UInt32)
    (exported : TdDb traits)
    (blob : Buffer)
    (exportDone : last.db.exportSession binlogRandom configRandom = .ok (exported, blob.bytes))
    (binlogSmall : last.db.binlogPmc.serializedSize < 2 ^ 32)
    (configSmall : last.db.configPmc.serializedSize < 2 ^ 32) :
    Resumes traits build environment restartClock
        { options with sessionData := blob } session.rawDcId ↔ options.dcId = build.mainDcId ∨
        session.rawDcId.val ≠ build.mainDcId ∨
        (before.binlog mainDcIdKey).getD [] ≠ [] := by
  have storesBefore : StoresMain build before :=
    storesMain_run (storesMain_startUp startDone) earlierRun
  have storesLast : StoresMain build last :=
    storesMain_run (storesMain_step storesBefore login) (laterRun.mono (fun _ _ _ taken => taken.2))
  obtain ⟨loggedIn, unstored⟩ := loggedIn_login storesBefore isOpen keyed (by decide) login
  obtain ⟨db, imported, sameStore⟩ := importedDb_of_exported
      (show last.db.exportSession binlogRandom configRandom =
        .ok (exported, { options with sessionData := blob }.sessionData.bytes) from
        exportDone)
      binlogSmall configSmall
  rw [resumes_iff_of_imported imported sameStore storesLast
    (laterRun.invariant loggedIn fun _ _ _ held taken => loggedIn_step held taken), ne_eq, unstored,
    not_and_or, or_comm (a := ¬ (before.binlog mainDcIdKey).getD [] = [])]

section Example

def exampleClock : Clock :=
  ⟨id, 0, fun _ _ => 0⟩

def dataCenterOne : RawDcId :=
  ⟨1, by decide⟩

def exampleKey : Bytes :=
  List.replicate 256 7

def exampleAuthKey (authFlag : Bool) : AuthKey where
  id := 9
  key := exampleKey
  authFlag := authFlag

def exampleSession (authKey : AuthKey) : Session :=
  ⟨dataCenterOne, true, false, false, authKey⟩

def exampleOptions (dcId : Int) : Options where
  dcId := dcId
  phoneNumber := [49]
  sessionData := ⟨[], by decide⟩

/-- A user who logs in, with the client before and after each event. -/
structure Login where
  started : Started collidingTraits
  opened : Client collidingTraits
  before : Client collidingTraits
  reached : Client collidingTraits
  exported : TdDb collidingTraits
  blob : Buffer

/--
A new client gets a key for the main data center of the build, a user logs in,
and the stores are exported.
-/
def logIn (dcId : Int) : Except Fault Login := do
  let started ← startUp .native AuthManager.exampleEnvironment exampleClock (exampleOptions dcId)
  let opened ← started.client.after exampleClock (.openSession 0 dataCenterOne true false false)
  let before ← opened.after exampleClock (.onHandshakeReady 0 (exampleAuthKey false))
  let reached ← before.after exampleClock (.onMessageResultOk 0 .authAuthorization false)
  let (exported, bytes) ← reached.db.exportSession 3 7
  if addressable : bytes.length < 2 ^ 63 then
    return ⟨started, opened, before, reached, exported, ⟨bytes, addressable⟩⟩
  else
    .error .check

/-- No session has a key before the handshake, and the stores are small. -/
def Login.IsUsual (login : Login) : Prop :=
  (login.opened.sessions 0).all (fun session => session.mainAuthKey.key = []) = true ∧
    login.reached.db.binlogPmc.serializedSize < 2 ^ 32 ∧
    login.reached.db.configPmc.serializedSize < 2 ^ 32

instance (login : Login) : Decidable login.IsUsual :=
  inferInstanceAs (Decidable (_ ∧ _ ∧ _))

theorem logIn_spec {dcId : Int} {login : Login} (returned : logIn dcId = .ok login)
    (isUsual : login.IsUsual) :
    startUp .native AuthManager.exampleEnvironment exampleClock (exampleOptions dcId) =
        .ok login.started ∧ Run Step login.started.client
        [.openSession 0 dataCenterOne true false false,
          .onHandshakeReady 0 (exampleAuthKey false)] login.before ∧
      (∃ session, login.before.sessions 0 = some session ∧ session.rawDcId = dataCenterOne) ∧
      login.before.SessionsKeyed dataCenterOne ∧
      Step login.before (.onMessageResultOk 0 .authAuthorization false) login.reached ∧
      login.reached.db.exportSession 3 7 = .ok (login.exported, login.blob.bytes) := by
  obtain ⟨started, starts, returned⟩ := bind_eq_ok returned
  obtain ⟨opened, opens, returned⟩ := bind_eq_ok returned
  obtain ⟨before, shakes, returned⟩ := bind_eq_ok returned
  obtain ⟨reached, logsIn, returned⟩ := bind_eq_ok returned
  obtain ⟨⟨exported, bytes⟩, exports, returned⟩ := bind_eq_ok returned
  dsimp only at returned
  split at returned
  case isFalse => cases returned
  cases returned
  have possible : opened.Possible (.onHandshakeReady 0 (exampleAuthKey false)) := by
    refine ⟨fun session isOpen => ?_, List.length_replicate, rfl⟩
    simpa [isOpen] using isUsual.1
  have run : Run Step started.client [.openSession 0 dataCenterOne true false false,
          .onHandshakeReady 0 (exampleAuthKey false)] before :=
    .extend (.extend .start ⟨trivial, exampleClock, opens⟩) ⟨possible, exampleClock, shakes⟩
  have noSessions : started.client.SessionsKeyed dataCenterOne := by
    obtain ⟨_, _, rest⟩ := bind_eq_ok starts
    obtain ⟨_, _, rest⟩ := bind_eq_ok rest
    obtain ⟨_, _, rest⟩ := bind_eq_ok rest
    obtain ⟨_, _, rest⟩ := bind_eq_ok rest
    cases rest
    nofun
  obtain ⟨authKey, _, isOpened⟩ := bind_eq_ok opens
  cases isOpened
  obtain ⟨written, _, isBefore⟩ := bind_eq_ok shakes
  cases isBefore
  refine ⟨starts, run, ⟨exampleSession (exampleAuthKey false), rfl, rfl⟩, ?_,
    ⟨trivial, exampleClock, logsIn⟩, exports⟩
  refine noSessions.update (Function.update_idem ..) fun session replaced _ => ?_
  cases replaced
  exact List.cons_ne_nil _ _

/-- A client with the options of the build resumes the login. -/
theorem resumes_login_iff_dataCenterOne : ∃ (started : Started collidingTraits)
      (before reached : Client collidingTraits)
      (exported : TdDb collidingTraits) (blob : Buffer),
      startUp .native AuthManager.exampleEnvironment exampleClock (exampleOptions 1) = .ok started ∧
        Run Step started.client
          [.openSession 0 dataCenterOne true false false,
            .onHandshakeReady 0 (exampleAuthKey false)] before ∧
        Step before (.onMessageResultOk 0 .authAuthorization false) reached ∧
        reached.db.exportSession 3 7 = .ok (exported, blob.bytes) ∧
        Resumes collidingTraits .native AuthManager.exampleEnvironment
          exampleClock { exampleOptions 1 with sessionData := blob }
          dataCenterOne := by
  have facts : (logIn 1).toOption.any (fun login => decide login.IsUsual) = true := by
    decide +kernel
  obtain ⟨login, returned, isUsual⟩ := exists_of_any facts
  have isUsual := of_decide_eq_true isUsual
  obtain ⟨starts, run, ⟨session, isOpen, atOne⟩, keyed, logsIn, exports⟩ :=
    logIn_spec returned isUsual
  rw [← atOne] at keyed
  have resumes := resumes_login_iff .native AuthManager.exampleEnvironment exampleClock
      exampleClock (exampleOptions 1) login.started starts _ [] login.before login.reached
      login.reached run 0 session isOpen keyed logsIn Run.start 3 7 login.exported login.blob
      exports isUsual.2.1 isUsual.2.2
  rw [atOne] at resumes
  exact ⟨login.started, login.before, login.reached, login.exported, login.blob, starts, run,
    logsIn, exports, resumes.mpr (Or.inl rfl)⟩

/--
A user of the first data center logs in with the default options, which name the
second. The next client does not find the key and asks for a code.
-/
theorem login_not_resumed : ∃ (started restarted : Started collidingTraits)
      (before reached : Client collidingTraits)
      (exported : TdDb collidingTraits) (blob : Buffer),
      startUp .native AuthManager.exampleEnvironment exampleClock (exampleOptions 2) = .ok started ∧
        Run Step started.client
          [.openSession 0 dataCenterOne true false false,
            .onHandshakeReady 0 (exampleAuthKey false)] before ∧
        Step before (.onMessageResultOk 0 .authAuthorization false) reached ∧
        reached.db.exportSession 3 7 = .ok (exported, blob.bytes) ∧
        startUp .native AuthManager.exampleEnvironment exampleClock
            { exampleOptions 2 with sessionData := blob } = .ok restarted ∧
        restarted.client.mainDcId = 1 ∧
        restarted.effectiveDcId = 2 ∧
        restarted.keyState = .empty ∧
        restarted.authManager.inFlight ≠ [] := by
  have facts :
      (do
        let login ← logIn 2
        let restarted ←
          startUp .native AuthManager.exampleEnvironment exampleClock
            { exampleOptions 2 with sessionData := login.blob }
        return (login, restarted) :
          Except Fault (Login × Started collidingTraits)).toOption.any
        (fun (login, restarted) =>
          decide (login.IsUsual ∧ restarted.client.mainDcId = 1 ∧ restarted.effectiveDcId = 2 ∧
            restarted.keyState = .empty ∧ restarted.authManager.inFlight ≠ [])) = true := by
    decide +kernel
  obtain ⟨⟨login, restarted⟩, returned, holds⟩ := exists_of_any facts
  obtain ⟨isUsual, others⟩ := of_decide_eq_true holds
  obtain ⟨_, isLogin, returned⟩ := bind_eq_ok returned
  obtain ⟨_, restarts, returned⟩ := bind_eq_ok returned
  cases returned
  obtain ⟨starts, run, _, _, logsIn, exports⟩ := logIn_spec isLogin isUsual
  exact ⟨login.started, restarted, login.before, login.reached, login.exported, login.blob, starts,
    run, logsIn, exports, restarts, others⟩

end Example

end MtprotoClient

end Autoproto
