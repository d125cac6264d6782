import Autoproto.NetQueryDispatcher
import Autoproto.OrderedMap

namespace Autoproto.PublicClient

open ByteEncoding Text
open AuthManager (AuthState)

/-!
# The public client

One thread calls `Client::run`, which makes a scheduler with an `MtprotoClient`,
handles the events of its actors in a loop and takes everything down when the
loop has been stopped. The functions of the user are called on this thread, and
they as well as other threads call the client at any moment. The system takes a
step for every access to something shared. What the network layer does is left
open: a query is answered or dropped at any time, and other messages come for
the `MtprotoClient` and its `AuthManager`. Not modelled are the options, and
changes of the functions of the user while the loop runs.
-/

abbrev ThreadId :=
  Nat

def runThread : ThreadId :=
  0

/-- What a user submits in order to log in. -/
inductive Credential where
  | code
  | password
  deriving Repr, DecidableEq

structure Submission where
  number : Nat
  text : Bytes
  deriving DecidableEq

/-! ## The actors -/

/-- The messages for the `MtprotoClient`. -/
inductive ClientMessage where
  | start
  /-- Something that ends with a call of the update handler. -/
  | onUpdate
  | check (credential : Credential) (submission : Submission)
  | other
  deriving DecidableEq

/-- The `MtprotoClient`, which has no `AuthManager` before it is started. -/
structure Actor where
  authManager : Option AuthManager := none
  /-- Whether `td_db_raw_` has been set. -/
  tdDbRaw : Bool := false
  updateHandler : Bool := false
  authStateCallback : Bool := false
  mailbox : List ClientMessage := [.start]

/-- The messages for the actor that waits for the answer to a request. -/
inductive QueryMessage where
  | start
  | onResult (result : Except Status Bytes)
  | hangup

/-- A promise, which lets go of its function. -/
inductive PromiseState where
  | ready
  | complete
  deriving Repr, DecidableEq

/-- A `QueryResultHandler`. -/
structure Handler where
  promise : PromiseState := .ready
  mailbox : List QueryMessage := [.start]
  /-- Whether the query with this callback is on its way. -/
  hasQuery : Bool := false

/-- What the callback of a request is called with. -/
inductive Outcome where
  /-- The parsed answer, or the error of the query or of the parser. -/
  | result (result : Except Status Bytes)
  | lostPromise
  | clientNotRunning

/-- How the `MtprotoClient` logs in when it is started. -/
inductive Login where
  | restored
  | botToken (botToken : Bytes)
  | phoneNumber (phoneNumber : Bytes)
  | none

/-- The `AuthManager` at the end of `MtprotoClient::init`. -/
def startUp (environment : AuthManager.Environment) :
    Login → AuthManager
  | .restored => ({} : AuthManager).setAuthorized
  | .botToken botToken => ({} : AuthManager).checkBotToken environment 0 botToken
  | .phoneNumber phoneNumber => ({} : AuthManager).sendCode environment phoneNumber
  | .none => {}

/-- The functions `check_code` and `check_password`. -/
def checkCredential (credential : Credential) (text : Bytes)
    (manager : AuthManager) : AuthManager :=
  match credential with
  | .code => manager.checkCode text
  | .password => manager.checkPassword text

def isActorEvent : AuthManager.Event → Bool
  | .startUp | .timeoutExpired | .onResult _ _ _ | .onAuthorizationLost
  | .onClosing _ => true
  | _ => false

/-! ## Dispatching a query -/

structure Dispatching where
  traits : TableTraits Bytes
  dispatcher : NetQueryDispatcher traits
  clock : Clock

/-- What the dispatcher puts into the mailboxes of actors. -/
def Dispatching.dispatch (dispatching : Dispatching)
    (query : NetQuery) : Except Fault (List Message) := do
  let after ← dispatching.dispatcher.dispatch dispatching.clock query
  return after.sent.drop dispatching.dispatcher.sent.length

def resultOf : NetQuery.State → Option (Except Status Bytes)
  | .ok answer => some (.ok answer)
  | .error status => some (.error status)
  | .query => none

/-- The result with which the dispatcher has completed a query, if it has. -/
def completion (messages : List Message) : Option (Except Status Bytes) :=
  messages.findSome? fun message =>
    match message with
    | .onResultCallback query => resultOf query.state
    | _ => none

/-- A query that has not been completed is on its way. -/
def Handler.dispatched (messages : List Message) (handler : Handler) : Handler :=
  match completion messages with
  | some result => { handler with mailbox := handler.mailbox ++ [.onResult result] }
  | none => { handler with hasQuery := true }

def requestQuery (request : Nat) : NetQuery :=
  { id := request, dcId := DcId.main }

def authQuery (manager : AuthManager) : NetQuery :=
  { id := manager.netQueryId, dcId := DcId.main }

/-! ## The threads -/

/-- The functions of the user. -/
inductive Callback where
  | update
  | authState (state : AuthState) (info : Bytes)
  | send (request : Nat)
  deriving DecidableEq

/-- Where a thread is in a function of the client, or in one of the user. -/
inductive Frame where
  | callback (callback : Callback)
  | stop
  /-- A submission in front of the mutex, with it, and at the end. -/
  | lock (credential : Credential) (text : Bytes)
  | store (credential : Credential) (text : Bytes)
  | unlock
  /-- In `send_raw`, at the test of `actor_raw` and after it. -/
  | send
  | sendQuery (request : Nat)
  | dispatch (request : Nat)
  /-- In `export_session`, at the test, at the second use, and in the actor. -/
  | exportSession
  | exportUse
  | exportRead (actor : Nat)
  | exportDb (actor : Nat)
  deriving DecidableEq

inductive RunPoint where
  | createActor
  | setActorRaw
  | setHandlers
  | start
  | storeRunning
  /-- The test of `running` in the condition of the loop. -/
  | test
  /-- In `run_main`, which handles at most so many events more. -/
  | runMain (left : Nat)
  | lock
  | picking (credential : Credential)
  | unlock
  | clearActorRaw
  /-- The other threads are told to finish, and joined. -/
  | finish
  /-- The schedulers stop their actors. -/
  | stopActors
  | atFinish
  | reset
  deriving DecidableEq

namespace RunPoint

def hasActorRaw : RunPoint → Bool
  | setHandlers | start | storeRunning | test | runMain _ | lock | picking _
  | unlock | clearActorRaw => true
  | _ => false

/-- Where the other threads of the scheduler are running. -/
def workersRun : RunPoint → Bool
  | storeRunning | test | runMain _ | lock | picking _ | unlock
  | clearActorRaw | finish => true
  | _ => false

/-- Where the flag of the loop has been set. -/
def hasStoredRunning : RunPoint → Bool
  | createActor | setActorRaw | setHandlers | start | storeRunning => false
  | _ => true

/-- Where the mutex is held. -/
def holdsMutex : RunPoint → Bool
  | picking _ | unlock => true
  | _ => false

def callsUser : RunPoint → Bool
  | runMain _ | stopActors => true
  | _ => false

def afterPicking : Credential → RunPoint
  | .code => picking .password
  | .password => unlock

end RunPoint

/-- What an actor does on the thread of `run`, below the functions of the user. -/
inductive Activity where
  /-- A query of the `AuthManager` is dispatched. -/
  | dispatch (query : NetQuery)
  /-- A promise is set, and calls its function. -/
  | settle (request : Nat)
  /-- A `QueryResultHandler` is stopped. -/
  | destroy (request : Nat)
  /-- The destructor of its promise has called the function. -/
  | erase (request : Nat)
  deriving DecidableEq

structure RunFrame where
  point : RunPoint
  activity : Option Activity := none

/-- Why the process is aborted. -/
inductive Abort where
  /-- There is no actor context on the thread: the check in `G()`. -/
  | noContext (thread : ThreadId)
  | nullDereference (thread : ThreadId)
  /-- The check of `auth_manager_`. -/
  | noAuthManager
  | inActor
  /-- The check for objects that are left, at the end of an object pool. -/
  | leftInPool
  deriving DecidableEq

/-- What a call of another thread must not do. -/
inductive Violation where
  | abort
  | destroyedObject
  | concurrentActorCode
  deriving Repr, DecidableEq

/-- A client and its threads, with records at the end. -/
structure State where
  hasUpdateHandler : Bool
  hasAuthStateHandler : Bool
  actorRaw : Option Nat := none
  running : Bool := false
  pendingMutex : Option ThreadId := none
  /-- The pending code and the pending password. -/
  pending : Credential → Option Submission := fun _ => none
  run : Option RunFrame := none
  /-- The number of actors so far, which is that of the last one. -/
  actors : Nat := 0
  actor : Option Actor := none
  handlers : OrderedMap Nat Handler := .empty
  /-- How many actors and queries the other threads have left in their queues. -/
  leftInQueues : Nat := 0
  frames : ThreadId → List Frame := fun _ => []
  aborted : Option Abort := none
  iterations : Nat := 0
  /-- What the test of each call of `send` found. -/
  tests : List Bool := []
  /-- The number of `QueryResultHandler`s made for requests. -/
  created : Nat := 0
  invoked : List (Nat × Outcome) := []
  submissions : Nat := 0
  passed : List Nat := []
  /-- The submissions that were replaced, with the later ones. -/
  replaced : List (Nat × Nat) := []
  dropped : List Nat := []
  violations : List Violation := []

namespace State

def InUserCode (thread : ThreadId) (state : State) : Prop :=
  match state.frames thread with
  | .callback _ :: _ => True
  | [] => thread = runThread → state.run = none
  | _ => False

/-- What a thread is doing changes. -/
def setFrames (thread : ThreadId) (frames : List Frame) (state : State) : ThreadId → List Frame :=
  Function.update state.frames thread frames

/-- The functions of the user for what an `AuthManager` has told since. -/
def notifications (actor : Actor) (before after : AuthManager) : List Frame :=
  if actor.authStateCallback then
    (after.notified.drop before.notified.length).map
      fun notified => .callback (.authState notified.1 notified.2)
  else
    []

def submissionsIn (mailbox : List ClientMessage) : List Nat :=
  mailbox.filterMap fun message =>
    match message with
    | .check _ submission => some submission.number
    | _ => none

/-- The later submission of a credential replaces one that is pending. -/
def replacing (credential : Credential) (state : State) : List (Nat × Nat) :=
  match state.pending credential with
  | some submission => [(submission.number, state.submissions)]
  | none => []

def IsDestroyed (actor : Nat) (state : State) : Prop :=
  state.actor.isNone ∨ actor ≠ state.actors

instance (actor : Nat) (state : State) : Decidable (state.IsDestroyed actor) :=
  inferInstanceAs (Decidable (_ ∨ _))

/-- The thread of the scheduler is running its actors. -/
def RunsActors (state : State) : Prop :=
  state.run.any fun frame =>
    match frame.point with
    | .runMain _ => true
    | _ => false

instance (state : State) : Decidable state.RunsActors :=
  inferInstanceAs (Decidable (_ = true))

/-- The objects that the last actor of a run leaves are destroyed with it. -/
def IsDbDestroyed (actor : Nat) (state : State) : Prop :=
  actor ≠ state.actors ∨ state.run.all fun frame => frame.point = .atFinish || frame.point = .reset

instance (actor : Nat) (state : State) : Decidable (state.IsDbDestroyed actor) :=
  inferInstanceAs (Decidable (_ ∨ _))

def readViolations (thread : ThreadId) (actor : Nat) (state : State) : List Violation :=
  if thread = runThread then
    []
  else
    (if state.IsDestroyed actor then [.destroyedObject] else []) ++
      if state.RunsActors then [.concurrentActorCode] else []

/-- What a thread does wrong by reading the database. -/
def dbViolations (thread : ThreadId) (actor : Nat) (state : State) : List Violation :=
  if thread ≠ runThread ∧ state.IsDbDestroyed actor then
    [.destroyedObject]
  else
    []

def abortCall (thread : ThreadId) (abort : Abort) (state : State) : State :=
  { state with
    aborted := some abort
    violations := state.violations ++ if thread = runThread then [] else [.abort] }

def afterRead (actor : Nat) (rest : List Frame) (state : State) : List Frame :=
  if state.IsDestroyed actor ∨ state.actor.any Actor.tdDbRaw then
    .exportDb actor :: rest
  else
    rest

end State

/-! ## The steps -/

/-- The functions that a user can call at any moment. -/
inductive Frame.IsCall : Frame → Prop where
  | stop : IsCall .stop
  | submit (credential : Credential) (text : Bytes) : IsCall (.lock credential text)
  | send : IsCall .send
  | exportSession : IsCall .exportSession

/-- The user's code calls a function of the client, or returns. -/
inductive UserStep (state : State) (thread : ThreadId) : State → Prop where
  | call {frame : Frame} :
      state.InUserCode thread →
      frame.IsCall →
      UserStep state thread
        { state with
          frames := state.setFrames thread (frame :: state.frames thread) }
  | returnCallback {callback : Callback} {rest : List Frame} :
      state.frames thread = .callback callback :: rest →
      UserStep state thread { state with frames := state.setFrames thread rest }

/-- A function of the client goes on. -/
inductive CallStep (state : State) (thread : ThreadId) : State → Prop where
  | stop {rest : List Frame} :
      state.frames thread = .stop :: rest →
      CallStep state thread
        { state with
          running := false
          frames := state.setFrames thread rest }
  | lock {credential : Credential} {text : Bytes} {rest : List Frame} :
      state.frames thread = .lock credential text :: rest →
      state.pendingMutex = none →
      CallStep state thread
        { state with
          pendingMutex := some thread
          frames := state.setFrames thread (.store credential text :: rest) }
  | store {credential : Credential} {text : Bytes} {rest : List Frame} :
      state.frames thread = .store credential text :: rest →
      CallStep state thread
        { state with
          pending := Function.update state.pending credential (some ⟨state.submissions, text⟩)
          submissions := state.submissions + 1
          replaced := state.replaced ++ state.replacing credential
          frames := state.setFrames thread (.unlock :: rest) }
  | unlock {rest : List Frame} :
      state.frames thread = .unlock :: rest →
      CallStep state thread
        { state with
          pendingMutex := none
          frames := state.setFrames thread rest }
  -- The promise is set at once, and its function is the callback.
  | sendRefused {rest : List Frame} :
      state.frames thread = .send :: rest →
      state.actorRaw = none →
      CallStep state thread
        { state with
          tests := state.tests ++ [false]
          invoked := state.invoked ++ [(state.tests.length, .clientNotRunning)]
          frames := state.setFrames thread (.callback (.send state.tests.length) :: rest) }
  | sendAccepted {actor : Nat} {rest : List Frame} :
      state.frames thread = .send :: rest →
      state.actorRaw = some actor →
      CallStep state thread
        { state with
          tests := state.tests ++ [true]
          frames := state.setFrames thread (.sendQuery state.tests.length :: rest) }
  -- Only the thread of the scheduler has an actor context, inside of actors.
  | sendQuery {request : Nat} {rest : List Frame} :
      state.frames thread = .sendQuery request :: rest →
      thread = runThread →
      state.RunsActors →
      CallStep state thread
        { state with
          handlers := state.handlers.emplace request {}
          created := state.created + 1
          frames := state.setFrames thread (.dispatch request :: rest) }
  | sendQueryAborts {request : Nat} {rest : List Frame} :
      state.frames thread = .sendQuery request :: rest →
      ¬ (thread = runThread ∧ state.RunsActors) →
      CallStep state thread (state.abortCall thread (.noContext thread))
  | dispatch {request : Nat} {rest : List Frame} {dispatching : Dispatching}
      {messages : List Message} :
      state.frames thread = .dispatch request :: rest →
      dispatching.dispatch (requestQuery request) = .ok messages →
      CallStep state thread
        { state with
          handlers := state.handlers.modify request (Handler.dispatched messages)
          frames := state.setFrames thread rest }
  -- A data center that another thread is opening is waited for.
  | dispatchAborts {request : Nat} {rest : List Frame} {dispatching : Dispatching} {fault : Fault} :
      state.frames thread = .dispatch request :: rest →
      dispatching.dispatch (requestQuery request) = .error fault →
      fault ≠ .spin →
      CallStep state thread (state.abortCall thread .inActor)
  | exportNothing {rest : List Frame} :
      state.frames thread = .exportSession :: rest →
      state.actorRaw = none →
      CallStep state thread { state with frames := state.setFrames thread rest }
  | exportSession {actor : Nat} {rest : List Frame} :
      state.frames thread = .exportSession :: rest →
      state.actorRaw = some actor →
      CallStep state thread
        { state with
          frames := state.setFrames thread (.exportUse :: rest) }
  | exportUse {actor : Nat} {rest : List Frame} :
      state.frames thread = .exportUse :: rest →
      state.actorRaw = some actor →
      CallStep state thread
        { state with
          frames := state.setFrames thread (.exportRead actor :: rest) }
  | exportAborts {rest : List Frame} :
      state.frames thread = .exportUse :: rest →
      state.actorRaw = none →
      CallStep state thread (state.abortCall thread (.nullDereference thread))
  | exportRead {actor : Nat} {rest : List Frame} :
      state.frames thread = .exportRead actor :: rest →
      CallStep state thread
        { state with
          frames := state.setFrames thread (state.afterRead actor rest)
          violations := state.violations ++ state.readViolations thread actor }
  | exportDb {actor : Nat} {rest : List Frame} :
      state.frames thread = .exportDb actor :: rest →
      CallStep state thread
        { state with
          frames := state.setFrames thread rest
          violations := state.violations ++ state.dbViolations thread actor }

/-- The function `run` goes on from one statement to the next. -/
inductive PointStep (state : State) : RunPoint → State → Prop where
  | createActor :
      PointStep state .createActor
        { state with
          actors := state.actors + 1
          actor := some {}
          run := some { point := .setActorRaw } }
  | setActorRaw :
      PointStep state .setActorRaw
        { state with
          actorRaw := some state.actors
          run := some { point := .setHandlers } }
  | setHandlers :
      PointStep state .setHandlers
        { state with
          actor :=
            state.actor.map fun actor =>
              { actor with
                updateHandler := state.hasUpdateHandler
                authStateCallback := state.hasAuthStateHandler }
          run := some { point := .start } }
  | start :
      PointStep state .start { state with run := some { point := .storeRunning } }
  | storeRunning :
      PointStep state .storeRunning
        { state with
          running := true
          run := some { point := .test } }
  | enterLoop (left : Nat) :
      state.running = true →
      PointStep state .test
        { state with
          iterations := state.iterations + 1
          run := some { point := .runMain left } }
  | leaveLoop :
      state.running = false →
      PointStep state .test { state with run := some { point := .clearActorRaw } }
  -- No actor of the client finishes the scheduler, so `run_main` returns true.
  | returnRunMain {left : Nat} :
      PointStep state (.runMain left) { state with run := some { point := .lock } }
  | lock :
      state.pendingMutex = none →
      PointStep state .lock
        { state with
          pendingMutex := some runThread
          run := some { point := .picking .code } }
  | nothingPending {credential : Credential} :
      state.pending credential = none →
      PointStep state (.picking credential)
        { state with
          run := some { point := .afterPicking credential } }
  -- The closure is run at once if nothing is in front of it.
  | passNow {credential : Credential} {submission : Submission} {actor : Actor}
      {manager : AuthManager} :
      state.pending credential = some submission →
      state.actor = some actor →
      actor.mailbox = [] →
      actor.authManager = some manager →
      PointStep state (.picking credential)
        { state with
          pending := Function.update state.pending credential none
          actor :=
            some { actor with
              authManager := some (checkCredential credential submission.text manager) }
          passed := state.passed ++ [submission.number]
          frames :=
            state.setFrames runThread
              (State.notifications actor manager
                (checkCredential credential submission.text manager))
          run :=
            some
              { point := .afterPicking credential
                activity :=
                  some (.dispatch (authQuery
                    (checkCredential credential submission.text manager))) } }
  | passAborts {credential : Credential} {submission : Submission} {actor : Actor} :
      state.pending credential = some submission →
      state.actor = some actor →
      actor.mailbox = [] →
      actor.authManager = none →
      PointStep state (.picking credential) { state with aborted := some .noAuthManager }
  | passLater {credential : Credential} {submission : Submission} {actor : Actor} :
      state.pending credential = some submission →
      state.actor = some actor →
      actor.mailbox ≠ [] →
      PointStep state (.picking credential)
        { state with
          pending := Function.update state.pending credential none
          actor :=
            some { actor with
              mailbox := actor.mailbox ++ [.check credential submission] }
          run := some { point := .afterPicking credential } }
  | unlock :
      PointStep state .unlock
        { state with
          pendingMutex := none
          run := some { point := .test } }
  | clearActorRaw :
      PointStep state .clearActorRaw
        { state with
          actorRaw := none
          run := some { point := .finish } }
  | finish (leftInQueues : Nat) :
      PointStep state .finish
        { state with
          leftInQueues := leftInQueues
          run := some { point := .stopActors } }
  | stopClient {actor : Actor} :
      state.actor = some actor →
      PointStep state .stopActors
        { state with
          actor := none
          dropped := state.dropped ++ State.submissionsIn actor.mailbox }
  | stopHandler {request : Nat} {handler : Handler} :
      state.handlers.find? request = some handler →
      PointStep state .stopActors
        { state with
          run := some { point := .stopActors, activity := some (.destroy request) } }
  | stopped :
      state.actor = none →
      state.handlers.size = 0 →
      PointStep state .stopActors { state with run := some { point := .atFinish } }
  | atFinish :
      state.leftInQueues = 0 →
      PointStep state .atFinish { state with run := some { point := .reset } }
  | leftInPool :
      state.leftInQueues ≠ 0 →
      PointStep state .atFinish { state with aborted := some .leftInPool }
  | reset : PointStep state .reset { state with run := none }

/-- An event of an actor is handled in `run_main`. -/
inductive EventStep (state : State) (left : Nat) : State → Prop where
  | start {actor : Actor} {rest : List ClientMessage} (environment : AuthManager.Environment)
      (login : Login) :
      state.actor = some actor →
      actor.mailbox = .start :: rest →
      EventStep state left
        { state with
          actor :=
            some { actor with
              authManager := some (startUp environment login)
              tdDbRaw := true
              mailbox := rest }
          frames :=
            state.setFrames runThread (State.notifications actor {} (startUp environment login))
          run :=
            some
              { point := .runMain left
                activity :=
                  if (startUp environment login).inFlight = [] then none
                  else
                    some (.dispatch (authQuery (startUp environment login))) } }
  | onUpdate {actor : Actor} {rest : List ClientMessage} :
      state.actor = some actor →
      actor.mailbox = .onUpdate :: rest →
      EventStep state left
        { state with
          actor := some { actor with mailbox := rest }
          frames :=
            state.setFrames runThread (if actor.updateHandler then [.callback .update] else [])
          run := some { point := .runMain left } }
  | check {actor : Actor} {credential : Credential} {submission : Submission}
      {rest : List ClientMessage} {manager : AuthManager} :
      state.actor = some actor →
      actor.mailbox = .check credential submission :: rest →
      actor.authManager = some manager →
      EventStep state left
        { state with
          actor :=
            some { actor with
              authManager := some (checkCredential credential submission.text manager)
              mailbox := rest }
          passed := state.passed ++ [submission.number]
          frames :=
            state.setFrames runThread
              (State.notifications actor manager
                (checkCredential credential submission.text manager))
          run :=
            some
              { point := .runMain left
                activity :=
                  some (.dispatch (authQuery
                    (checkCredential credential submission.text manager))) } }
  | checkAborts {actor : Actor} {credential : Credential} {submission : Submission}
      {rest : List ClientMessage} :
      state.actor = some actor →
      actor.mailbox = .check credential submission :: rest →
      actor.authManager = none →
      EventStep state left { state with aborted := some .noAuthManager }
  | other {actor : Actor} {rest : List ClientMessage} :
      state.actor = some actor →
      actor.mailbox = .other :: rest →
      EventStep state left
        { state with
          actor := some { actor with mailbox := rest }
          run := some { point := .runMain left } }
  | authManager {actor : Actor} {manager after : AuthManager}
      (environment : AuthManager.Environment) (event : AuthManager.Event) :
      state.actor = some actor →
      actor.authManager = some manager →
      isActorEvent event = true →
      manager.after environment event = .ok after →
      EventStep state left
        { state with
          actor := some { actor with authManager := some after }
          frames := state.setFrames runThread (State.notifications actor manager after)
          run := some { point := .runMain left } }
  | authManagerAborts {actor : Actor} {manager : AuthManager} {fault : Fault}
      (environment : AuthManager.Environment) (event : AuthManager.Event) :
      state.actor = some actor →
      actor.authManager = some manager →
      isActorEvent event = true →
      manager.after environment event = .error fault →
      EventStep state left { state with aborted := some .inActor }
  | startHandler {request : Nat} {handler : Handler} {rest : List QueryMessage} :
      state.handlers.find? request = some handler →
      handler.mailbox = .start :: rest →
      EventStep state left
        { state with
          handlers := state.handlers.modify request fun handler => { handler with mailbox := rest }
          run := some { point := .runMain left } }
  -- The function of a promise that is not complete is called.
  | onResult {request : Nat} {handler : Handler} {result : Except Status Bytes}
      {rest : List QueryMessage} :
      state.handlers.find? request = some handler →
      handler.mailbox = .onResult result :: rest →
      handler.promise = .ready →
      EventStep state left
        { state with
          invoked := state.invoked ++ [(request, .result result)]
          frames := state.setFrames runThread [.callback (.send request)]
          run := some { point := .runMain left, activity := some (.settle request) } }
  | onResultAgain {request : Nat} {handler : Handler} {result : Except Status Bytes}
      {rest : List QueryMessage} :
      state.handlers.find? request = some handler →
      handler.mailbox = .onResult result :: rest →
      handler.promise = .complete →
      EventStep state left
        { state with
          run := some { point := .runMain left, activity := some (.destroy request) } }
  | hangup {request : Nat} {handler : Handler} {rest : List QueryMessage} :
      state.handlers.find? request = some handler →
      handler.mailbox = .hangup :: rest →
      EventStep state left
        { state with
          run := some { point := .runMain left, activity := some (.destroy request) } }

/-- An actor goes on with what it is doing. -/
inductive ActivityStep (state : State) (point : RunPoint) :
    Activity → State → Prop where
  | dispatch {query : NetQuery} {dispatching : Dispatching} {messages : List Message} :
      dispatching.dispatch query = .ok messages →
      ActivityStep state point (.dispatch query) { state with run := some { point := point } }
  | dispatchAborts {query : NetQuery} {dispatching : Dispatching} {fault : Fault} :
      dispatching.dispatch query = .error fault →
      fault ≠ .spin →
      ActivityStep state point (.dispatch query) { state with aborted := some .inActor }
  -- The promise is complete, and `on_result` stops the actor.
  | settle {request : Nat} :
      ActivityStep state point (.settle request)
        { state with
          handlers :=
            state.handlers.modify request fun handler => { handler with promise := .complete }
          run := some { point := point, activity := some (.destroy request) } }
  | destroyReady {request : Nat} {handler : Handler} :
      state.handlers.find? request = some handler →
      handler.promise = .ready →
      ActivityStep state point (.destroy request)
        { state with
          invoked := state.invoked ++ [(request, .lostPromise)]
          frames := state.setFrames runThread [.callback (.send request)]
          run := some { point := point, activity := some (.erase request) } }
  | destroyComplete {request : Nat} :
      (∀ handler, state.handlers.find? request = some handler → handler.promise = .complete) →
      ActivityStep state point (.destroy request)
        { state with
          handlers := state.handlers.erase request
          run := some { point := point } }
  | erase {request : Nat} :
      ActivityStep state point (.erase request)
        { state with
          handlers := state.handlers.erase request
          run := some { point := point } }

/-- The thread of `run` goes on outside the functions of the user. -/
inductive OwnStep (state : State) : State → Prop where
  | point {point : RunPoint} {after : State} :
      state.run = some { point := point } →
      PointStep state point after →
      OwnStep state after
  | event {left : Nat} {after : State} :
      state.run = some { point := .runMain (left + 1) } →
      EventStep state left after →
      OwnStep state after
  | activity {point : RunPoint} {activity : Activity} {after : State} :
      state.run = some { point := point, activity := some activity } →
      ActivityStep state point activity after →
      OwnStep state after

/-- The network layer sends a message to an actor. -/
inductive NetworkStep (state : State) : State → Prop where
  | answer {request : Nat} {handler : Handler} (result : Except Status Bytes) :
      state.handlers.find? request = some handler →
      handler.hasQuery = true →
      NetworkStep state
        { state with
          handlers :=
            state.handlers.modify request fun handler =>
              { handler with
                mailbox := handler.mailbox ++ [.onResult result]
                hasQuery := false } }
  | drop {request : Nat} {handler : Handler} :
      state.handlers.find? request = some handler →
      handler.hasQuery = true →
      NetworkStep state
        { state with
          handlers :=
            state.handlers.modify request fun handler =>
              { handler with
                mailbox := handler.mailbox ++ [.hangup]
                hasQuery := false } }
  | message {actor : Actor} {message : ClientMessage} :
      state.actor = some actor →
      message = .onUpdate ∨ message = .other →
      NetworkStep state
        { state with
          actor := some { actor with mailbox := actor.mailbox ++ [message] } }

/-- Who takes a step. -/
inductive Event where
  | beginRun
  | user (thread : ThreadId)
  | call (thread : ThreadId)
  | own
  | network
  deriving Repr, DecidableEq

/-- The steps of the system, which ends when the process is aborted. -/
inductive Step (state : State) : Event → State → Prop where
  | beginRun :
      state.aborted = none →
      state.run = none →
      state.frames runThread = [] →
      Step state .beginRun { state with run := some { point := .createActor } }
  | user {thread : ThreadId} {after : State} :
      state.aborted = none →
      UserStep state thread after →
      Step state (.user thread) after
  | call {thread : ThreadId} {after : State} :
      state.aborted = none →
      CallStep state thread after →
      Step state (.call thread) after
  | own {after : State} :
      state.aborted = none →
      state.frames runThread = [] →
      OwnStep state after →
      Step state .own after
  | network {frame : RunFrame} {after : State} :
      state.aborted = none →
      state.run = some frame →
      frame.point.workersRun = true →
      NetworkStep state after →
      Step state .network after

def Continues (first : State) (events : List Event) (reached : State) : Prop :=
  Transition.Run Step first events reached

/-- A client that has just been made, and a run of it. -/
def Reaches (hasUpdateHandler hasAuthStateHandler : Bool) (events : List Event)
    (reached : State) : Prop :=
  Continues { hasUpdateHandler, hasAuthStateHandler } events reached

/-! ## Calls of other threads -/

def Frame.testsActor : Frame → Bool
  | .send | .exportSession => true
  | _ => false

/-- The tests of other threads find no actor. -/
def Contained (state : State) (event : Event) : Prop :=
  ∀ thread top rest, event = .call thread →
      thread ≠ runThread →
        state.frames thread = top :: rest → top.testsActor = true → state.actorRaw = none

/-- A run in which the tests of other threads find no actor. -/
def ReachesContained (hasUpdateHandler hasAuthStateHandler : Bool) (events : List Event)
    (reached : State) : Prop :=
  Transition.Run (Transition.Guarded Contained Step)
    { hasUpdateHandler, hasAuthStateHandler } events reached

theorem ReachesContained.reaches {hasUpdateHandler hasAuthStateHandler : Bool} {events : List Event}
    {reached : State}
    (reaches : ReachesContained hasUpdateHandler hasAuthStateHandler events reached) :
    Reaches hasUpdateHandler hasAuthStateHandler events reached :=
  reaches.mono fun _ _ _ step => step.2

end Autoproto.PublicClient
