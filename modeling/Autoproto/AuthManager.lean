import Autoproto.PasswordCheck
import Autoproto.Status

namespace Autoproto

open ByteEncoding Text

/-!
# Authentication

`AuthManager` logs a client in, as a bot or with a phone number, a code and
possibly a password. Every call sends a query; its answer arrives later in
`on_result`, and means what the member `net_query_type_` says.
-/

namespace AuthManager

inductive State where
  | none
  | waitPhoneNumber
  | waitCode
  | waitPassword
  | ok
  | loggingOut
  | destroyingKeys
  | closing
  deriving Repr, DecidableEq

/-- The state that the callback is told. -/
inductive AuthState where
  | waitPhoneNumber
  | waitCode
  | ok
  | error
  | waitPassword
  deriving Repr, DecidableEq

/-- What the next answer is taken for. -/
inductive NetQueryType where
  | none
  | botAuthentication
  | sendCode
  | signIn
  | getPassword
  | checkPassword
  deriving Repr, DecidableEq

inductive ApiFunction where
  | authImportBotAuthorization (flags apiId : Int) (apiHash botAuthToken : Bytes)
  | authSendCode (phoneNumber : Bytes) (apiId : Int) (apiHash : Bytes)
  | authSignIn (phoneNumber phoneCodeHash phoneCode : Bytes)
  | accountGetPassword
  | authCheckPassword (srpId : Int) (a m1 : Bytes)
  deriving Repr, DecidableEq

def ApiFunction.netQueryType : ApiFunction → NetQueryType
  | authImportBotAuthorization .. => .botAuthentication
  | authSendCode .. => .sendCode
  | authSignIn .. => .signIn
  | accountGetPassword => .getPassword
  | authCheckPassword .. => .checkPassword

/-- A key derivation. -/
inductive PasswordKdfAlgo where
  | unknown
  | modPow (algo : ModPowAlgo)
  deriving DecidableEq

/-- The fields of `account.password` that are read. -/
structure Password where
  hasPassword : Bool
  currentAlgo : Option PasswordKdfAlgo
  srpB : Bytes
  srpId : Int
  deriving DecidableEq

/-- The objects that a server can answer with. -/
inductive Answer where
  | authAuthorization
  | authAuthorizationSignUpRequired
  | authSentCode (phoneCodeHash : Bytes)
  | authSentCodeSuccess
  | authSentCodePaymentRequired
  | accountPassword (password : Password)
  | other (bytes : Bytes)
  deriving DecidableEq

/-- What a query comes back with. -/
inductive QueryResult where
  | error (status : Status)
  | ok (answer : Answer)
  deriving DecidableEq

structure NetQuery where
  id : Nat
  function : ApiFunction
  deriving Repr, DecidableEq

/--
The hash functions, the application, and the text with which an answer of
another type is refused.
-/
structure Environment where
  crypto : Crypto
  apiId : Int
  apiHash : Bytes
  parseError : Answer → Bytes

end AuthManager

open AuthManager

/--
The members of an `AuthManager`, and what is kept for it outside: its timeout,
the unanswered queries, the next query identifier and the calls of the callback.
-/
structure AuthManager where
  state : State := .none
  botToken : Bytes := []
  phoneNumber : Bytes := []
  phoneCodeHash : Bytes := []
  pendingPassword : Bytes := []
  isBot : Bool := false
  queryId : Nat := 0
  netQueryId : Nat := 0
  netQueryType : NetQueryType := .none
  timeout : Option Int := none
  inFlight : List NetQuery := []
  nextQueryId : Nat := 1
  notified : List (AuthState × Bytes) := []
  deriving DecidableEq

namespace AuthManager

/-- Tell the callback. -/
def notifyState (authState : AuthState) (info : Bytes) (manager : AuthManager) : AuthManager :=
  { manager with notified := manager.notified ++ [(authState, info)] }

/-- Create a query, remember its type and identifier, and send it. -/
def dispatch (queryType : NetQueryType) (function : ApiFunction)
    (manager : AuthManager) : AuthManager :=
  { manager with
    netQueryType := queryType
    netQueryId := manager.nextQueryId
    inFlight := manager.inFlight ++ [⟨manager.nextQueryId, function⟩]
    nextQueryId := manager.nextQueryId + 1 }

variable (environment : Environment)

def checkBotToken (queryId : Nat) (botToken : Bytes) (manager : AuthManager) : AuthManager :=
  { manager with botToken := botToken, isBot := true, queryId := queryId }
    |>.dispatch .botAuthentication
      (.authImportBotAuthorization 0 environment.apiId environment.apiHash botToken)

def sendCode (phoneNumber : Bytes) (manager : AuthManager) : AuthManager :=
  { manager with phoneNumber := phoneNumber }
    |>.dispatch .sendCode (.authSendCode phoneNumber environment.apiId environment.apiHash)

def checkCode (code : Bytes) (manager : AuthManager) : AuthManager :=
  manager.dispatch .signIn (.authSignIn manager.phoneNumber manager.phoneCodeHash code)

def checkPassword (password : Bytes) (manager : AuthManager) : AuthManager :=
  { manager with pendingPassword := password }
    |>.dispatch .getPassword .accountGetPassword

/-- A restored session needs no login. -/
def setAuthorized (manager : AuthManager) : AuthManager :=
  { manager with state := .ok }.notifyState .ok []

/-- The server has ended the session. -/
def onAuthorizationLost (manager : AuthManager) : AuthManager :=
  { manager with state := .loggingOut }

def onClosing (destroyFlag : Bool) (manager : AuthManager) : AuthManager :=
  { manager with
    state := if destroyFlag then .destroyingKeys else .closing }

def startUp (manager : AuthManager) : AuthManager :=
  if manager.state = .none then
    { manager with state := .waitPhoneNumber }
  else
    manager

/-- The actor stops. -/
def tearDown (manager : AuthManager) : AuthManager :=
  { manager with state := .closing }

/-- The flood wait is over.  The timeout has been used up. -/
def timeoutExpired (manager : AuthManager) : AuthManager :=
  let manager := { manager with timeout := none }
  if manager.botToken = [] then
    manager
  else
    manager.checkBotToken environment 0 manager.botToken

/-- Whether an error asks to wait. -/
def isFloodWait (status : Status) : Bool :=
  (find (ascii "retry after") status.message).isSome || decide (status.code = 429)

/-- The seconds to wait, five unless the error names them. -/
def retryAfter (status : Status) : Int :=
  match find (ascii "retry after ") status.message with
  | none => 5
  | some position => max (toInteger (status.message.drop (position + 12))) 1

variable (result : QueryResult)

/-- An answer that is taken for one to `auth.importBotAuthorization`. -/
def onBotAuthentication (manager : AuthManager) : AuthManager :=
  match result with
  | .error status =>
    if isFloodWait status then
      { manager.notifyState .error
          (ascii "FLOOD_WAIT: retry in " ++ decimal (retryAfter status) ++ ascii "s") with
        netQueryType := .none
        timeout := some (retryAfter status) }
    else
      { { manager with state := .waitPhoneNumber }.notifyState .error status.print with
        netQueryType := .none }
  | .ok _ =>
    { { manager with state := .ok }.notifyState .ok [] with
      netQueryType := .none }

/-- The objects of type `auth.SentCode`. -/
inductive SentCode where
  | sentCode (phoneCodeHash : Bytes)
  | sentCodeSuccess
  | sentCodePaymentRequired
  deriving Repr, DecidableEq

def fetchSentCode (environment : Environment) :
    Answer → Except Status SentCode
  | .authSentCode phoneCodeHash => .ok (.sentCode phoneCodeHash)
  | .authSentCodeSuccess => .ok .sentCodeSuccess
  | .authSentCodePaymentRequired => .ok .sentCodePaymentRequired
  | answer => .error ⟨500, environment.parseError answer⟩

/-- An answer taken for one to `auth.sendCode`: what is not `auth.sentCode` counts as a success. -/
def onSendCode (manager : AuthManager) : AuthManager :=
  let handled :=
    match result with
    | .error status => manager.notifyState .error status.print
    | .ok answer =>
      match fetchSentCode environment answer with
      | .error status => manager.notifyState .error status.print
      | .ok (.sentCode phoneCodeHash) =>
        { manager with
          phoneCodeHash := phoneCodeHash
          state := .waitCode }.notifyState .waitCode []
      | .ok _ => { manager with state := .ok }.notifyState .ok []
  { handled with netQueryType := .none }

def onSignIn (manager : AuthManager) : AuthManager :=
  let handled :=
    match result with
    | .error status =>
      if (find (ascii "SESSION_PASSWORD_NEEDED")
          status.message).isSome then
        { manager with state := .waitPassword }.notifyState .waitPassword []
      else
        { manager with state := .waitCode }.notifyState .error status.print
    | .ok _ => { manager with state := .ok }.notifyState .ok []
  { handled with netQueryType := .none }

def onCheckPassword (manager : AuthManager) : AuthManager :=
  let handled :=
    match result with
    | .error status => { manager with state := .waitPassword }.notifyState .error status.print
    | .ok _ => { manager with state := .ok }.notifyState .ok []
  { handled with netQueryType := .none }

/-- Report an error and expect no further answer. -/
def giveUp (info : Bytes) (manager : AuthManager) : AuthManager :=
  { manager.notifyState .error info with netQueryType := .none }

def fetchPassword (environment : Environment) :
    Answer → Except Status Password
  | .accountPassword password => .ok password
  | answer => .error ⟨500, environment.parseError answer⟩

/-- Prove the knowledge of the password, with a random exponent. -/
def answerPassword (algo : ModPowAlgo) (srpB : Bytes) (srpId : Int) (secret : FixedBytes 256)
    (manager : AuthManager) :
    Except Fault AuthManager := do
  let x ← environment.crypto.passwordHash manager.pendingPassword algo
  let values ← srpValues environment.crypto algo srpB x secret
  return { manager with pendingPassword := [] }.dispatch .checkPassword
    (.authCheckPassword srpId values.aStr values.m1)

/-- An answer that is taken for one to `account.getPassword`. -/
def onGetPassword (secret : FixedBytes 256) (manager : AuthManager) : Except Fault AuthManager :=
  match result with
  | .error status => .ok (manager.giveUp status.print)
  | .ok answer =>
    match fetchPassword environment answer with
    | .error status => .ok (manager.giveUp status.print)
    | .ok password =>
      match password.hasPassword, password.currentAlgo with
      | true, some (.modPow algo) =>
        manager.answerPassword environment algo password.srpB password.srpId secret
      | true, some .unknown =>
        .ok (manager.giveUp (ascii "Unsupported password KDF algorithm"))
      | _, _ =>
        .ok (manager.giveUp (ascii "Unexpected: no password algo from server"))

/-- The answer of some query has arrived. -/
def onResult (environment : Environment) (result : QueryResult) (secret : FixedBytes 256)
    (manager : AuthManager) :
    Except Fault AuthManager :=
  match manager.netQueryType with
  | .none => .ok manager
  | .botAuthentication => .ok (manager.onBotAuthentication result)
  | .sendCode => .ok (manager.onSendCode environment result)
  | .signIn => .ok (manager.onSignIn result)
  | .getPassword => manager.onGetPassword environment result secret
  | .checkPassword => .ok (manager.onCheckPassword result)

end AuthManager

end Autoproto
