import Autoproto.AuthManager
import Autoproto.Transition

namespace Autoproto.AuthManager

open Text Transition

/-!
# Runs of the authentication

The calls of the user, the answers and the timeout come in any order. An answer
is taken for one to the query that was sent last, and most answers are not
looked at. The first is safe for a user who waits, the second with a server that
answers with authorizations.
-/

/-- What can happen to the manager. -/
inductive Event where
  | startUp
  | checkBotToken (queryId : Nat) (botToken : Bytes)
  | sendCode (phoneNumber : Bytes)
  | checkCode (code : Bytes)
  | checkPassword (password : Bytes)
  | setAuthorized
  | onAuthorizationLost
  | onClosing (destroyFlag : Bool)
  | timeoutExpired
  | tearDown
  | onResult (queryId : Nat) (result : QueryResult) (secret : FixedBytes 256)

def withoutQuery (queryId : Nat) (manager : AuthManager) : AuthManager :=
  { manager with
    inFlight := manager.inFlight.filter (fun query => query.id ≠ queryId) }

def after (environment : Environment) (manager : AuthManager) :
    Event → Except Fault AuthManager
  | .startUp => .ok manager.startUp
  | .checkBotToken queryId botToken =>
    .ok (manager.checkBotToken environment queryId botToken)
  | .sendCode phoneNumber =>
    .ok (manager.sendCode environment phoneNumber)
  | .checkCode code => .ok (manager.checkCode code)
  | .checkPassword password => .ok (manager.checkPassword password)
  | .setAuthorized => .ok manager.setAuthorized
  | .onAuthorizationLost => .ok manager.onAuthorizationLost
  | .onClosing destroyFlag => .ok (manager.onClosing destroyFlag)
  | .timeoutExpired => .ok (manager.timeoutExpired environment)
  | .tearDown => .ok manager.tearDown
  | .onResult queryId result secret =>
    (manager.withoutQuery queryId).onResult environment result secret

/-- Only a set timeout expires; a sent query is answered once. -/
def Possible (manager : AuthManager) :
    Event → Prop
  | .timeoutExpired => manager.timeout ≠ none
  | .onResult queryId _ _ => ∃ query ∈ manager.inFlight, query.id = queryId
  | _ => True

def Step (environment : Environment) (before : AuthManager) (event : Event)
    (reached : AuthManager) : Prop :=
  Possible before event ∧ before.after environment event = .ok reached

/-- A query is sent only while none is unanswered. -/
def Waits (manager : AuthManager) :
    Event → Prop
  | .checkBotToken .. | .sendCode .. | .checkCode .. | .checkPassword .. => manager.inFlight = []
  | .timeoutExpired => manager.botToken = [] ∨ manager.inFlight = []
  | _ => True

/-- One query is unanswered at most, and is taken for what it is. -/
def Tidy (manager : AuthManager) : Prop :=
  manager.inFlight = [] ∨
    ∃ query, manager.inFlight = [query] ∧ manager.netQueryType = query.function.netQueryType

variable {function : ApiFunction} {environment : Environment} {result : QueryResult}
  {secret : FixedBytes 256} {manager reached : AuthManager}

theorem tidy_dispatch (quiet : manager.inFlight = []) {queryType : NetQueryType}
    (sameType : queryType = function.netQueryType) :
    (manager.dispatch queryType function).Tidy := by
  refine Or.inr ⟨⟨manager.nextQueryId, function⟩, ?_, sameType⟩
  simp [dispatch, quiet]

theorem onGetPassword_cases
    (handled : manager.onGetPassword environment result secret = .ok reached) :
    (∃ info, reached = manager.giveUp info) ∨
      ∃ srpId a m1, reached = { manager with pendingPassword := [] }.dispatch .checkPassword
            (.authCheckPassword srpId a m1) := by
  cases result with
  | error status =>
    cases handled
    exact Or.inl ⟨_, rfl⟩
  | ok answer =>
    simp only [onGetPassword] at handled
    cases parsed : fetchPassword environment answer with
    | error status =>
      rw [parsed] at handled
      cases handled
      exact Or.inl ⟨_, rfl⟩
    | ok password =>
      rw [parsed] at handled
      simp only at handled
      split at handled
      · obtain ⟨x, _, rest⟩ := bind_eq_ok handled
        obtain ⟨values, _, sent⟩ := bind_eq_ok rest
        cases sent
        exact Or.inr ⟨_, _, _, rfl⟩
      all_goals
        cases handled
        exact Or.inl ⟨_, rfl⟩

theorem inFlight_onBotAuthentication :
    (manager.onBotAuthentication result).inFlight = manager.inFlight := by
  cases result with
  | error status =>
    simp only [onBotAuthentication]
    split <;> rfl
  | ok answer => rfl

theorem inFlight_onSendCode :
    (manager.onSendCode environment result).inFlight = manager.inFlight := by
  cases result with
  | error status => rfl
  | ok answer => cases answer <;> rfl

theorem inFlight_onSignIn : (manager.onSignIn result).inFlight = manager.inFlight := by
  cases result with
  | error status =>
    simp only [onSignIn]
    split <;> rfl
  | ok answer => rfl

theorem tidy_onResult (quiet : manager.inFlight = [])
    (handled : manager.onResult environment result secret = .ok reached) : reached.Tidy := by
  unfold onResult at handled
  cases queryType : manager.netQueryType with
  | none =>
    rw [queryType] at handled
    cases handled
    exact Or.inl quiet
  | botAuthentication =>
    rw [queryType] at handled
    cases handled
    exact Or.inl ((inFlight_onBotAuthentication ..).trans quiet)
  | sendCode =>
    rw [queryType] at handled
    cases handled
    exact Or.inl ((inFlight_onSendCode ..).trans quiet)
  | signIn =>
    rw [queryType] at handled
    cases handled
    exact Or.inl ((inFlight_onSignIn ..).trans quiet)
  | getPassword =>
    rw [queryType] at handled
    rcases onGetPassword_cases handled with
      ⟨info, shape⟩ | ⟨srpId, a, m1, shape⟩
    · rw [shape]
      exact Or.inl quiet
    · rw [shape]
      exact tidy_dispatch quiet rfl
  | checkPassword =>
    rw [queryType] at handled
    cases handled
    cases result <;> exact Or.inl quiet

theorem inFlight_withoutQuery (tidy : manager.Tidy) {queryId : Nat}
    (sent : ∃ query ∈ manager.inFlight, query.id = queryId) :
    (manager.withoutQuery queryId).inFlight = [] := by
  obtain ⟨query, member, sameId⟩ := sent
  rcases tidy with quiet | ⟨only, single, _⟩
  · rw [quiet] at member
    cases member
  · rw [single, List.mem_singleton] at member
    simp [withoutQuery, single, ← member, sameId]

variable {before : AuthManager}

theorem tidy_step {event : Event} (tidy : before.Tidy)
    (taken : Guarded Waits (Step environment) before event reached) : reached.Tidy := by
  obtain ⟨waits, possible, done⟩ := taken
  cases event with
  | startUp =>
    cases done
    unfold startUp
    split
    · exact tidy
    · exact tidy
  | checkBotToken | sendCode | checkCode | checkPassword =>
    cases done
    exact tidy_dispatch waits rfl
  | setAuthorized | onAuthorizationLost | onClosing | tearDown =>
    cases done
    exact tidy
  | timeoutExpired =>
    cases done
    simp only [timeoutExpired]
    split
    · exact tidy
    · rename_i hasToken
      exact tidy_dispatch (waits.resolve_left hasToken) rfl
  | onResult queryId result secret => exact tidy_onResult (inFlight_withoutQuery tidy possible) done

theorem tidy_run {events : List Event}
    (run : Run (Guarded Waits (Step environment)) {} events reached) : reached.Tidy :=
  run.invariant (Or.inl rfl) (fun _ _ _ tidy taken => tidy_step tidy taken)

/--
As long as the user waits for each answer, every answer is taken for one to the
query that it belongs to.
-/
theorem handled_under_own_type
    (environment : Environment)
    (events : List Event)
    (reached : AuthManager)
    (run : Run (Guarded Waits (Step environment)) {} events reached)
    (query : NetQuery)
    (unanswered : query ∈ reached.inFlight) :
    (reached.withoutQuery query.id).netQueryType = query.function.netQueryType := by
  rcases tidy_run run with quiet | ⟨only, single, sameType⟩
  · rw [quiet] at unanswered
    cases unanswered
  · rw [single, List.mem_singleton] at unanswered
    rw [unanswered]
    exact sameType

def exampleEnvironment : Environment where
  crypto := constantCrypto
  apiId := 1
  apiHash := []
  parseError := fun _ => []

/-- The answer to the first query of a user who waits. -/
theorem handled_under_own_type_sendCode : ∃ reached,
      Run (Guarded Waits (Step exampleEnvironment)) {} [.sendCode [49]] reached ∧
        ∃ query ∈ reached.inFlight,
          (reached.withoutQuery query.id).netQueryType = query.function.netQueryType := by
  have run : Run (Guarded Waits (Step exampleEnvironment)) {} [.sendCode [49]]
        (sendCode exampleEnvironment [49] {}) :=
    Run.extend Run.start ⟨rfl, trivial, rfl⟩
  refine ⟨_, run, ⟨1, .authSendCode [49] 1 []⟩, by decide, ?_⟩
  exact handled_under_own_type exampleEnvironment _ _ run _ (by decide)

/--
A code is asked for, then a bot logs in. The answer to `auth.sendCode` is taken
for one to the bot, and the client counts as authorized.
-/
theorem handled_under_other_type : ∃ before reached query secret,
      Run (Step exampleEnvironment) {} [.sendCode [49], .checkBotToken 7 [50]] before ∧
        query ∈ before.inFlight ∧ query.function.netQueryType = .sendCode ∧
        (before.withoutQuery query.id).netQueryType = .botAuthentication ∧
        Step exampleEnvironment before
          (.onResult query.id (.ok (.authSentCode [51])) secret) reached ∧ reached.state = .ok := by
  refine ⟨checkBotToken exampleEnvironment 7 [50] (sendCode exampleEnvironment [49] {}), _,
    ⟨1, .authSendCode [49] 1 []⟩, zeroSecret, ?_, by decide, rfl, rfl,
    ⟨?_, rfl⟩, rfl⟩
  · exact Run.extend (Run.extend Run.start ⟨trivial, rfl⟩) ⟨trivial, rfl⟩
  · exact ⟨⟨1, .authSendCode [49] 1 []⟩, by decide, rfl⟩

def Authorizes : ApiFunction → Answer → Prop
  | .authImportBotAuthorization .., .authAuthorization => True
  | .authSignIn .., .authAuthorization => True
  | .authCheckPassword .., .authAuthorization => True
  | .authSendCode .., .authSentCodeSuccess => True
  | _, _ => False

/-- The client becomes authorized, or the callback is told so. -/
def BecomesOk (before reached : AuthManager) : Prop :=
  (before.state ≠ .ok ∧ reached.state = .ok) ∨
    ∃ info, (AuthState.ok, info) ∈ reached.notified.drop before.notified.length

/-- An event after which the client may count as authorized. -/
def Legitimate (manager : AuthManager) (event : Event) : Prop :=
  event = .setAuthorized ∨
    ∃ query ∈ manager.inFlight, ∃ answer secret,
        event = .onResult query.id (.ok answer) secret ∧ Authorizes query.function answer

def AnswersProperly (manager : AuthManager) : Event → Prop
  | .onResult queryId (.ok answer) _ =>
    ∀ query ∈ manager.inFlight, query.id = queryId →
      (query.function.netQueryType ∈ [.botAuthentication, .signIn, .checkPassword] →
        answer = .authAuthorization) ∧
      (query.function.netQueryType = .sendCode → answer ≠ .authSentCodePaymentRequired)
  | _ => True

/-- The user waits for each answer and the server answers properly. -/
def Orderly (manager : AuthManager) (event : Event) : Prop :=
  Waits manager event ∧ AnswersProperly manager event

theorem BecomesOk.absurd_silent (becomes : BecomesOk before reached)
    (sameNotified : reached.notified = before.notified)
    (noNewOk : reached.state = .ok → before.state = .ok) : False := by
  rcases becomes with ⟨wasNot, isOk⟩ | ⟨info, told⟩
  · exact wasNot (noNewOk isOk)
  · rw [sameNotified, List.drop_length] at told
    cases told

theorem BecomesOk.absurd_notified {authState : AuthState} {info : Bytes}
    (becomes : BecomesOk before reached)
    (notified : reached.notified = before.notified ++ [(authState, info)])
    (otherState : authState ≠ .ok) (noNewOk : reached.state = .ok → before.state = .ok) :
    False := by
  rcases becomes with ⟨wasNot, isOk⟩ | ⟨told, member⟩
  · exact wasNot (noNewOk isOk)
  · rw [notified, List.drop_left, List.mem_singleton] at member
    exact otherState (congrArg Prod.fst member).symm

theorem not_becomesOk_onBotAuthentication (status : Status) :
    ¬ BecomesOk manager (manager.onBotAuthentication (.error status)) := by
  intro becomes
  simp only [onBotAuthentication] at becomes
  split at becomes
  · exact becomes.absurd_notified rfl (by decide) id
  · exact becomes.absurd_notified rfl (by decide) (by simp [notifyState])

theorem not_becomesOk_onSignIn (status : Status) :
    ¬ BecomesOk manager (manager.onSignIn (.error status)) := by
  intro becomes
  simp only [onSignIn] at becomes
  split at becomes
  all_goals exact becomes.absurd_notified rfl (by decide) (by simp [notifyState])

theorem becomesOk_onSendCode (becomes : BecomesOk manager (manager.onSendCode environment result)) :
    result = .ok .authSentCodeSuccess ∨ result = .ok .authSentCodePaymentRequired := by
  cases result with
  | error status => exact (becomes.absurd_notified rfl (by decide) id).elim
  | ok answer =>
    cases answer with
    | authSentCodeSuccess => exact Or.inl rfl
    | authSentCodePaymentRequired => exact Or.inr rfl
    | authSentCode phoneCodeHash =>
      exact (becomes.absurd_notified rfl (by decide)
        (by simp [onSendCode, fetchSentCode, notifyState])).elim
    | authAuthorization | authAuthorizationSignUpRequired | accountPassword | other =>
      exact (becomes.absurd_notified rfl (by decide) id).elim

theorem becomesOk_onResult (handled : manager.onResult environment result secret = .ok reached)
    (becomes : BecomesOk manager reached) : ∃ answer, result = .ok answer ∧
        (manager.netQueryType ∈ [.botAuthentication, .signIn, .checkPassword] ∨
          (manager.netQueryType = .sendCode ∧
            (answer = .authSentCodeSuccess ∨ answer = .authSentCodePaymentRequired))) := by
  unfold onResult at handled
  cases queryType : manager.netQueryType with
  | none =>
    rw [queryType] at handled
    cases handled
    exact (becomes.absurd_silent rfl id).elim
  | botAuthentication =>
    rw [queryType] at handled
    cases handled
    cases result with
    | error status => exact (not_becomesOk_onBotAuthentication _ becomes).elim
    | ok answer => exact ⟨answer, rfl, Or.inl (by simp)⟩
  | sendCode =>
    rw [queryType] at handled
    cases handled
    rcases becomesOk_onSendCode becomes with success | payment
    · exact ⟨_, success, Or.inr ⟨rfl, Or.inl rfl⟩⟩
    · exact ⟨_, payment, Or.inr ⟨rfl, Or.inr rfl⟩⟩
  | signIn =>
    rw [queryType] at handled
    cases handled
    cases result with
    | error status => exact (not_becomesOk_onSignIn _ becomes).elim
    | ok answer => exact ⟨answer, rfl, Or.inl (by simp)⟩
  | getPassword =>
    rw [queryType] at handled
    rcases onGetPassword_cases handled with
      ⟨info, shape⟩ | ⟨srpId, a, m1, shape⟩
    · rw [shape] at becomes
      exact (becomes.absurd_notified rfl (by decide) id).elim
    · rw [shape] at becomes
      exact (becomes.absurd_silent rfl id).elim
  | checkPassword =>
    rw [queryType] at handled
    cases handled
    cases result with
    | error status =>
      exact (becomes.absurd_notified rfl (by decide) (by simp [onCheckPassword, notifyState])).elim
    | ok answer => exact ⟨answer, rfl, Or.inl (by simp)⟩

theorem authorizes_of_login
    (login : function.netQueryType ∈ [.botAuthentication, .signIn, .checkPassword]) :
    Authorizes function .authAuthorization := by
  cases function with
  | authImportBotAuthorization | authSignIn | authCheckPassword => trivial
  | authSendCode | accountGetPassword => simp [ApiFunction.netQueryType] at login

theorem authorizes_of_sendCode (asksForCode : function.netQueryType = .sendCode) :
    Authorizes function .authSentCodeSuccess := by
  cases function with
  | authSendCode => trivial
  | authImportBotAuthorization | authSignIn | authCheckPassword | accountGetPassword =>
    cases asksForCode

/--
In every orderly run, the client becomes authorized only when the session is
restored or when an answer authorizes the function that was called.
-/
theorem becomesOk_legitimate
    (environment : Environment)
    (events : List Event)
    (before reached : AuthManager)
    (event : Event)
    (run : Run (Guarded Orderly (Step environment)) {} events before)
    (taken : Guarded Orderly (Step environment) before event reached)
    (becomes : BecomesOk before reached) :
    Legitimate before event := by
  have tidy : before.Tidy := tidy_run (run.mono (fun _ _ _ step => ⟨step.1.1, step.2⟩))
  obtain ⟨⟨_, proper⟩, possible, done⟩ := taken
  cases event with
  | startUp =>
    cases done
    unfold startUp at becomes
    split at becomes
    · exact (becomes.absurd_silent rfl (by simp)).elim
    · exact (becomes.absurd_silent rfl id).elim
  | checkBotToken | sendCode | checkCode | checkPassword =>
    cases done
    exact (becomes.absurd_silent rfl id).elim
  | setAuthorized => exact Or.inl rfl
  | onAuthorizationLost =>
    cases done
    exact (becomes.absurd_silent rfl (by simp [onAuthorizationLost])).elim
  | onClosing destroyFlag =>
    cases done
    exact (becomes.absurd_silent rfl (by cases destroyFlag <;> simp [onClosing])).elim
  | timeoutExpired =>
    cases done
    simp only [timeoutExpired] at becomes
    split at becomes
    all_goals exact (becomes.absurd_silent rfl id).elim
  | tearDown =>
    cases done
    exact (becomes.absurd_silent rfl (by simp [tearDown])).elim
  | onResult queryId result secret =>
    obtain ⟨query, member, sameId⟩ := possible
    have sameType : before.netQueryType = query.function.netQueryType := by
      rcases tidy with quiet | ⟨only, single, sameType⟩
      · rw [quiet] at member
        cases member
      · rw [single, List.mem_singleton] at member
        rw [member, sameType]
    obtain ⟨answer, isOk, cases⟩ :=
      becomesOk_onResult done (show BecomesOk (before.withoutQuery queryId) reached from becomes)
    rw [isOk] at proper
    obtain ⟨loginProper, codeProper⟩ := proper query member sameId
    refine Or.inr ⟨query, member, answer, secret, ?_, ?_⟩
    · rw [sameId, isOk]
    · rcases cases with login | ⟨asksForCode, success | payment⟩
      · have queryLogin :
            query.function.netQueryType ∈ [.botAuthentication, .signIn, .checkPassword] := by
          rw [← sameType]
          exact login
        rw [loginProper queryLogin]
        exact authorizes_of_login queryLogin
      · rw [success]
        exact authorizes_of_sendCode (sameType.symm.trans asksForCode)
      · exact (codeProper (sameType.symm.trans asksForCode) payment).elim

/-- A login with a code, answered with an authorization. -/
theorem becomesOk_legitimate_signIn : ∃ before reached,
      Run (Guarded Orderly (Step exampleEnvironment)) {} [.checkCode [49]] before ∧
        Guarded Orderly (Step exampleEnvironment) before
          (.onResult 1 (.ok .authAuthorization) zeroSecret) reached ∧ BecomesOk before reached ∧
        Legitimate before (.onResult 1 (.ok .authAuthorization) zeroSecret) := by
  have run :
      Run (Guarded Orderly (Step exampleEnvironment)) {} [.checkCode [49]] (checkCode [49] {}) :=
    Run.extend Run.start ⟨⟨rfl, trivial⟩, trivial, rfl⟩
  have proper :
      AnswersProperly (checkCode [49] {}) (.onResult 1 (.ok .authAuthorization) zeroSecret) := by
    intro query member _
    exact ⟨fun _ => rfl, fun _ => by decide⟩
  have taken : Guarded Orderly (Step exampleEnvironment) (checkCode [49] {})
        (.onResult 1 (.ok .authAuthorization) zeroSecret)
        (((checkCode [49] {}).withoutQuery 1).onSignIn (.ok .authAuthorization)) :=
    ⟨⟨trivial, proper⟩, ⟨⟨1, .authSignIn [] [] [49]⟩, by decide, rfl⟩, rfl⟩
  have becomes : BecomesOk (checkCode [49] {})
        (((checkCode [49] {}).withoutQuery 1).onSignIn (.ok .authAuthorization)) :=
    Or.inl ⟨by decide, by decide⟩
  exact ⟨_, _, run, taken, becomes,
    becomesOk_legitimate exampleEnvironment _ _ _ _ run taken becomes⟩

/--
An unknown number logs in with a code. The server asks the user to sign up, and
the client counts as authorized.
-/
theorem becomesOk_illegitimate : ∃ before reached,
      Run (Step exampleEnvironment) {} [.checkCode [49]] before ∧ Step exampleEnvironment before
          (.onResult 1 (.ok .authAuthorizationSignUpRequired) zeroSecret)
          reached ∧ BecomesOk before reached ∧
        ¬ Legitimate before (.onResult 1 (.ok .authAuthorizationSignUpRequired) zeroSecret) := by
  refine ⟨checkCode [49] {},
    ((checkCode [49] {}).withoutQuery 1).onSignIn (.ok .authAuthorizationSignUpRequired),
    Run.extend Run.start ⟨trivial, rfl⟩,
    ⟨⟨⟨1, .authSignIn [] [] [49]⟩, by decide, rfl⟩, rfl⟩,
    Or.inl ⟨by decide, by decide⟩, ?_⟩
  intro legitimate
  rcases legitimate with restored | ⟨query, _, answer, _, same, authorizes⟩
  · cases restored
  · injection same with _ sameResult
    injection sameResult with sameAnswer
    rw [← sameAnswer] at authorizes
    revert authorizes
    cases query.function <;> exact id

end Autoproto.AuthManager
