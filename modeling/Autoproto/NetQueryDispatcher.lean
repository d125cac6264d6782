import Autoproto.StartUpReads

namespace Autoproto

open List Text InMemoryKeyValue

/-!
# The dispatcher of queries

Every query goes through `NetQueryDispatcher::dispatch`, on its way to a session
and, with an error, on its way back. The dispatcher knows the main data center,
opens the sessions of a data center for its first query, and decides what
becomes of a query that has failed.
-/

/-- The text of a data center in a message. -/
def DcId.print (dcId : DcId) : Bytes :=
  let name :=
    if dcId = DcId.invalid then
      ascii "invalid"
    else if dcId = {} then
      ascii "empty"
    else if ¬ dcId.isExact ∧ ¬ dcId.isMain then
      ascii "is_empty"
    else if dcId.isMain then
      ascii "main"
    else
      decimal dcId.value ++
        if dcId.isExternal then ascii " external" else []
  ascii "DcId\x7b" ++ name ++ ascii "\x7d"

/-- The function `get_raw_id`, which aborts if the data center is not exact. -/
def DcId.getRawId (dcId : DcId) : Except Fault Int := do
  check dcId.isExact
  return dcId.value

namespace NetQuery

inductive State where
  | query
  | ok (answer : Bytes)
  | error (status : Status)
  deriving DecidableEq

/-- The kinds of sessions. -/
inductive QueryType where
  | common
  | upload
  | download
  | downloadSmall
  deriving Repr, DecidableEq

end NetQuery

/-- A query, as far as the dispatcher looks at it. -/
structure NetQuery where
  id : Nat
  state : NetQuery.State := .query
  type : NetQuery.QueryType := .common
  dcId : DcId
  chainIds : List Nat := []
  inSequenceDispatcher : Bool := false
  dispatchTtl : Int := -1
  hasCallback : Bool := true
  deriving DecidableEq

namespace NetQuery

def isReady (query : NetQuery) : Prop :=
  query.state ≠ .query

instance (query : NetQuery) : Decidable query.isReady :=
  inferInstanceAs (Decidable (query.state ≠ .query))

/-- The query is asked again, possibly somewhere else. -/
def resend (newDcId : DcId) (query : NetQuery) : NetQuery :=
  { query with dcId := newDcId, state := .query }

/-- The query is sent once more. -/
def spendTtl (query : NetQuery) : NetQuery :=
  if 0 < query.dispatchTtl then
    { query with dispatchTtl := query.dispatchTtl - 1 }
  else
    query

/-- The error of a query; inner codes are not let through. -/
def setError (status : Status) (query : NetQuery) : NetQuery :=
  if status.code = 202 ∨ status.code = 203 ∨ status.code = 204 then
    { query with state := .error ⟨200, status.print⟩ }
  else if status.message = ascii "MSG_WAIT_FAILED" ∧ status.code ≠ 400 then
    { query with state := .error ⟨400, ascii "MSG_WAIT_FAILED"⟩ }
  else
    { query with state := .error status }

@[simp] theorem id_setError (status : Status) (query : NetQuery) :
    (query.setError status).id = query.id := by
  unfold setError
  split_ifs <;> rfl

end NetQuery

/-- The sessions of one kind that a data center has. -/
structure SessionMultiProxy where
  sessionCount : Nat
  isPrimary : Bool
  isMain : Bool
  usePfs : Bool
  allowMediaOnly : Bool
  isMedia : Bool
  isCdn : Bool
  deriving Repr, DecidableEq

/-- A data center, with its sessions once in use. -/
structure Dc where
  id : DcId := {}
  isValid : Bool := false
  isInited : Bool := false
  sessions : NetQuery.QueryType → Option SessionMultiProxy := fun _ => none

/-- What is put into the mailboxes of other actors. -/
inductive Message where
  | onResult (query : NetQuery)
  | onResultCallback (query : NetQuery)
  | sequence (query : NetQuery)
  | delay (query : NetQuery)
  | session (rawDcId : Int) (type : NetQuery.QueryType) (query : NetQuery)
  | updateMainFlag (rawDcId : Int) (isMain : Bool)
  | updateMainDc (dcId : DcId)
  | addPublicRsaKey (dcId : DcId)
  | addDc (dcId : DcId)
  deriving DecidableEq

namespace Message

/-- A message that says nothing about a query. -/
def IsNotice : Message → Prop
  | updateMainFlag _ _ => True
  | updateMainDc _ => True
  | addPublicRsaKey _ => True
  | addDc _ => True
  | _ => False

/-- A message that brings a query back, with an answer or an error. -/
def IsCompletion : Message → Prop
  | onResult _ => True
  | onResultCallback _ => True
  | _ => False

/-- A query goes to an existing data center. -/
def IsSent : Message → Prop
  | session rawDcId _ _ => DcId.isValid rawDcId
  | _ => False

end Message

/-- The dispatcher; its client has the main data center. -/
structure NetQueryDispatcher (traits : TableTraits Bytes) where
  client : Client traits
  dcs : Nat → Dc := fun _ => {}
  stopFlag : Bool := false
  needDestroyAuthKey : Bool := false
  sent : List Message := []

namespace NetQueryDispatcher

variable {traits : TableTraits Bytes}

/-- A message is put into the mailbox of its actor. -/
def sendClosureLater (message : Message)
    (dispatcher : NetQueryDispatcher traits) : NetQueryDispatcher traits :=
  { dispatcher with sent := dispatcher.sent ++ [message] }

/-- A query goes back to where it came from. -/
def completeNetQuery (query : NetQuery)
    (dispatcher : NetQueryDispatcher traits) : NetQueryDispatcher traits :=
  if query.hasCallback then
    dispatcher.sendClosureLater (.onResultCallback { query with hasCallback := false })
  else
    dispatcher.sendClosureLater (.onResult query)

/-- The function `check_stop_flag` in front of what else would be done. -/
def unlessStopped (query : NetQuery) (dispatcher : NetQueryDispatcher traits)
    (next : Except Fault (NetQueryDispatcher traits)) :
    Except Fault (NetQueryDispatcher traits) :=
  if dispatcher.stopFlag then
    .ok (dispatcher.completeNetQuery (query.setError ⟨500, ascii "Request aborted"⟩))
  else
    next

/-- Whether sessions are there; the index is not checked. -/
def isDcInited (rawDcId : Int) (dispatcher : NetQueryDispatcher traits) : Except Fault Bool :=
  if DcId.isValid rawDcId then
    .ok (dispatcher.dcs (rawDcId - 1).toNat).isValid
  else
    .error .outOfBounds

/-- The sessions of a data center learn whether it is the main one. -/
def updateMainFlag (rawDcId : Int) (isMain : Bool) (dispatcher : NetQueryDispatcher traits) :
    Except Fault (NetQueryDispatcher traits) := do
  let isInited ← dispatcher.isDcInited rawDcId
  return if isInited then
    dispatcher.sendClosureLater (.updateMainFlag rawDcId isMain)
  else
    dispatcher

def setMainDcId (newMainDcId : Int) (dispatcher : NetQueryDispatcher traits) :
    Except Fault (NetQueryDispatcher traits) :=
  if ¬ DcId.isValid newMainDcId then
    .ok dispatcher
  else if newMainDcId = dispatcher.client.mainDcId then
    .ok dispatcher
  else do
    let dispatcher ← dispatcher.updateMainFlag dispatcher.client.mainDcId false
    let client ← dispatcher.client.setMainDcId newMainDcId
    let dispatcher ← { dispatcher with client := client }.updateMainFlag newMainDcId true
    let mainDcId ← DcId.internal newMainDcId
    return dispatcher.sendClosureLater (.updateMainDc ⟨mainDcId, false⟩)

/-- A query that came to the wrong data center is asked at the right one. -/
def resendMigrated (newMainDcId : Int) (query : NetQuery) : Except Fault NetQuery :=
  if query.dcId.isMain then
    .ok (query.resend query.dcId)
  else do
    let dcId ← DcId.internal newMainDcId
    return query.resend ⟨dcId, false⟩

/-- The function `try_fix_migrate`, for a query with the given error. -/
def tryFixMigrate (message : Bytes) (query : NetQuery) (dispatcher : NetQueryDispatcher traits) :
    Except Fault (NetQueryDispatcher traits × NetQuery) :=
  match Client.migratePrefixes.find?
      (fun leading => leading.isPrefixOf message) with
  | some leading => do
      let newMainDcId := toInteger (message.drop leading.length)
      let dispatcher ← dispatcher.setMainDcId newMainDcId
      let query ← resendMigrated newMainDcId query
      return (dispatcher, query)
  | none => .ok (dispatcher, query)

/-- The option `session_count` is set nowhere. -/
def getSessionCount : Nat :=
  max 0 1

/-- The option `use_pfs` is set nowhere. -/
def getUsePfs : Bool :=
  false || decide (1 < getSessionCount)

/-- The sessions; `is_premium` is set nowhere. -/
def createSessions (rawDcId mainDcId : Int) (isCdn : Bool) : NetQuery.QueryType → SessionMultiProxy
  | .common => ⟨getSessionCount, true, decide (rawDcId = mainDcId), getUsePfs, false, false, isCdn⟩
  | .upload =>
    ⟨if rawDcId ≠ 2 ∧ rawDcId ≠ 4 then 8 else 4, false, false, getUsePfs, false, true, isCdn⟩
  | .download => ⟨2, false, false, getUsePfs, true, true, isCdn⟩
  | .downloadSmall => ⟨2, false, false, getUsePfs, true, true, isCdn⟩

/-- One of the data centers changes. -/
def withDc (position : Nat) (dc : Dc)
    (dispatcher : NetQueryDispatcher traits) : NetQueryDispatcher traits :=
  { dispatcher with dcs := Function.update dispatcher.dcs position dc }

/-- The keys of a data center outside have to be looked for. -/
def addPublicRsaKey (dcId : DcId)
    (dispatcher : NetQueryDispatcher traits) : NetQueryDispatcher traits :=
  if dcId.isExternal then
    dispatcher.sendClosureLater (.addPublicRsaKey dcId)
  else
    dispatcher

/-- A data center inside has to be authorized. -/
def addDc (dcId : DcId) (dispatcher : NetQueryDispatcher traits) : NetQueryDispatcher traits :=
  if dcId.isExternal then
    dispatcher
  else
    dispatcher.sendClosureLater (.addDc dcId)

/-- The first query to a data center opens its sessions. -/
def initDc (clock : Clock) (dcId : DcId) (position : Nat) (dispatcher : NetQueryDispatcher traits) :
    Except Fault (NetQueryDispatcher traits × Option Bytes) :=
  let dc := { dispatcher.dcs position with isValid := true }
  if dispatcher.stopFlag ∨ dispatcher.needDestroyAuthKey then
    .ok (dispatcher.withDc position dc, some (ascii "Closing"))
  else do
    let rawDcId ← dcId.getRawId
    let _authData ← AuthDataShared.create clock rawDcId dispatcher.client.db.binlogPmc
    let sessions :=
      createSessions rawDcId dispatcher.client.mainDcId dcId.isExternal
    let dc :=
      { dc with
        id := dcId
        isInited := true
        sessions := fun type => some (sessions type) }
    return (((dispatcher.addPublicRsaKey dcId).withDc position dc).addDc dcId, none)

/-- The function `wait_dc_init`, which waits for a data center that is being opened. -/
def waitDcInit (clock : Clock) (dcId : DcId) (force : Bool)
    (dispatcher : NetQueryDispatcher traits) :
    Except Fault (NetQueryDispatcher traits × Option Bytes) :=
  if ¬ dcId.isExact then
    .ok (dispatcher, some (ascii "Not exact DC"))
  else
    let position := (dcId.value - 1).toNat
    if 1000 ≤ position then
      .ok (dispatcher, some (ascii "Too big DC ID"))
    else if (dispatcher.dcs position).isValid then
      if (dispatcher.dcs position).isInited then
        .ok (dispatcher, none)
      else if dispatcher.stopFlag then
        .ok (dispatcher, some (ascii "Closing"))
      else
        .error .spin
    else if force then
      dispatcher.initDc clock dcId position
    else
      .ok (dispatcher, some (ascii "Invalid DC"))

/-- A query that has been sent too often is not sent again. -/
def checkTtl (query : NetQuery) : NetQuery :=
  if ¬ query.isReady ∧ query.dispatchTtl = 0 then
    query.setError ⟨0, ascii "DispatchTtlError"⟩
  else
    query

/-- Where a query goes. -/
def destination (query : NetQuery) (dispatcher : NetQueryDispatcher traits) : Except Fault DcId :=
  if query.dcId.isMain then do
    let mainDcId ← DcId.internal dispatcher.client.mainDcId
    return ⟨mainDcId, false⟩
  else
    .ok query.dcId

/-- A query goes to the sessions of its data center. -/
def sendToSession (clock : Clock) (destDcId : DcId) (query : NetQuery)
    (dispatcher : NetQueryDispatcher traits) :
    Except Fault (NetQueryDispatcher traits) := do
  let (dispatcher, failure) ← dispatcher.waitDcInit clock destDcId true
  match failure with
  | some _ =>
    return dispatcher.completeNetQuery (query.setError ⟨0, ascii "No such dc " ++ destDcId.print⟩)
  | none => do
      let rawDcId ← destDcId.getRawId
      check (rawDcId - 1 < 1000)
      dispatcher.unlessStopped query.spendTtl
        (.ok (dispatcher.sendClosureLater (.session rawDcId query.type query.spendTtl)))

/-- The last part of `dispatch`: an answer goes back, a query goes on. -/
def forward (clock : Clock) (query : NetQuery) (dispatcher : NetQueryDispatcher traits) :
    Except Fault (NetQueryDispatcher traits) := do
  let query := checkTtl query
  let destDcId ← dispatcher.destination query
  if query.isReady then
    return dispatcher.completeNetQuery query
  else
    dispatcher.sendToSession clock destDcId query

/-- Errors after which a query is asked again after a while. -/
def isDelayed (status : Status) : Prop :=
  status.code < 0 ∨ status.code = 500 ∨
    (status.code = 420 ∧ ¬ (ascii "STORY_SEND_FLOOD_").isPrefixOf status.message ∧
      ¬ (ascii "PREMIUM_SUB_ACTIVE_UNTIL_").isPrefixOf status.message)

instance (status : Status) : Decidable (isDelayed status) :=
  inferInstanceAs (Decidable (_ ∨ _ ∨ _))

/-- What `dispatch` does with an error, without the verification of applications on phones. -/
def handleError (clock : Clock) (status : Status) (query : NetQuery)
    (dispatcher : NetQueryDispatcher traits) :
    Except Fault (NetQueryDispatcher traits) :=
  if status.code = 303 then do
    let (dispatcher, query) ← dispatcher.tryFixMigrate status.message query
    dispatcher.forward clock query
  else if status.code = 202 then
    dispatcher.forward clock (query.resend query.dcId)
  else if status.code = 420 ∧
      status.message = ascii "FROZEN_METHOD_INVALID" then
    dispatcher.forward clock (query.setError ⟨406, status.message⟩)
  else if isDelayed status then
    dispatcher.unlessStopped query (.ok (dispatcher.sendClosureLater (.delay query)))
  else
    dispatcher.forward clock query

def dispatch (clock : Clock) (query : NetQuery) (dispatcher : NetQueryDispatcher traits) :
    Except Fault (NetQueryDispatcher traits) :=
  dispatcher.unlessStopped query
    (if ¬ query.inSequenceDispatcher ∧ query.chainIds ≠ [] then
      dispatcher.unlessStopped query (.ok (dispatcher.sendClosureLater (.sequence query)))
    else
      match query.state with
      | .error status => dispatcher.handleError clock status query
      | _ => dispatcher.forward clock query)

/-- A dispatcher with a main data center and a store that can be read. -/
structure Operational (clock : Clock) (dispatcher : NetQueryDispatcher traits) : Prop where
  main : DcId.isValid dispatcher.client.mainDcId
  inited : ∀ position, (dispatcher.dcs position).isValid = true →
        (dispatcher.dcs position).isInited = true ∨ dispatcher.stopFlag = true
  readable : ∀ rawDcId : RawDcId,
      KeyReadable clock dispatcher.client.binlog rawDcId.val ∧
        SaltsReadable dispatcher.client.binlog rawDcId.val
  room : ∀ value, Operation.Fits (.set mainDcIdKey value) dispatcher.client.db.binlogPmc

/-- Some notices have been sent, and nothing else. -/
def Notifies (before after : NetQueryDispatcher traits) : Prop :=
  ∃ notices, after.sent = before.sent ++ notices ∧ ∀ notice ∈ notices, notice.IsNotice

/-- Some notices have been sent, and then one message with the query. -/
def Delivers (before after : NetQueryDispatcher traits) (outcome : Message) : Prop :=
  ∃ notices, after.sent = before.sent ++ notices ++ [outcome] ∧ ∀ notice ∈ notices, notice.IsNotice

variable {clock : Clock} {dispatcher between after : NetQueryDispatcher traits} {query : NetQuery}
  {outcome : Message}

theorem initDc_eq_ok {opened : NetQueryDispatcher traits} {dcId : DcId} {place : Nat}
    {failure : Option Bytes}
    (returned : dispatcher.initDc clock dcId place = .ok (opened, failure)) :
    ((dispatcher.stopFlag = true ∨ dispatcher.needDestroyAuthKey = true) ∧
        opened = dispatcher.withDc place { dispatcher.dcs place with isValid := true }) ∨
      ((dispatcher.stopFlag = false ∧ dispatcher.needDestroyAuthKey = false) ∧ opened =
          ((dispatcher.addPublicRsaKey dcId).withDc place
            { id := dcId
              isValid := true
              isInited := true
              sessions := fun type =>
                some (createSessions dcId.value dispatcher.client.mainDcId dcId.isExternal type)
              }).addDc dcId) := by
  unfold initDc at returned
  by_cases closing : dispatcher.stopFlag = true ∨ dispatcher.needDestroyAuthKey = true
  · rw [if_pos closing] at returned
    cases returned
    exact .inl ⟨closing, rfl⟩
  · rw [if_neg closing] at returned
    obtain ⟨rawDcId, isRaw, returned⟩ := bind_eq_ok returned
    obtain ⟨authData, _, returned⟩ := bind_eq_ok returned
    obtain ⟨_, _, same⟩ := bind_eq_ok isRaw
    cases same
    cases returned
    exact .inr ⟨by simpa using closing, rfl⟩

theorem Notifies.refl (dispatcher : NetQueryDispatcher traits) : Notifies dispatcher dispatcher :=
  ⟨[], (append_nil _).symm, forall_mem_nil _⟩

theorem Notifies.trans (first : Notifies dispatcher between) (second : Notifies between after) :
    Notifies dispatcher after := by
  obtain ⟨notices, sent, isNotice⟩ := first
  obtain ⟨later, sentLater, isNoticeLater⟩ := second
  refine ⟨notices ++ later, ?_, ?_⟩
  · rw [sentLater, sent, append_assoc]
  · exact forall_mem_append.mpr ⟨isNotice, isNoticeLater⟩

theorem Notifies.send {notice : Message} (isNotice : notice.IsNotice) :
    Notifies dispatcher (dispatcher.sendClosureLater notice) :=
  ⟨[notice], rfl, forall_mem_singleton.mpr isNotice⟩

theorem Notifies.delivers (notified : Notifies dispatcher between)
    (delivered : Delivers between after outcome) : Delivers dispatcher after outcome := by
  obtain ⟨notices, sent, isNotice⟩ := notified
  obtain ⟨later, sentLater, isNoticeLater⟩ := delivered
  refine ⟨notices ++ later, ?_, ?_⟩
  · rw [sentLater, sent, append_assoc dispatcher.sent]
  · exact forall_mem_append.mpr ⟨isNotice, isNoticeLater⟩

theorem Delivers.send (dispatcher : NetQueryDispatcher traits) (outcome : Message) :
    Delivers dispatcher (dispatcher.sendClosureLater outcome) outcome :=
  ⟨[], by rw [append_nil]; rfl, forall_mem_nil _⟩

theorem completeNetQuery_spec :
    ∃ outcome, outcome.IsCompletion ∧
        Delivers dispatcher (dispatcher.completeNetQuery query) outcome ∧
        (dispatcher.completeNetQuery query).client = dispatcher.client := by
  rw [completeNetQuery]
  split
  · exact ⟨.onResultCallback { query with hasCallback := false }, trivial, Delivers.send _ _, rfl⟩
  · exact ⟨.onResult query, trivial, Delivers.send _ _, rfl⟩

theorem updateMainFlag_spec {rawDcId : Int} (valid : DcId.isValid rawDcId) (isMain : Bool)
    (dispatcher : NetQueryDispatcher traits) : ∃ notified,
      dispatcher.updateMainFlag rawDcId isMain = .ok notified ∧
        Notifies dispatcher notified ∧
        notified = { dispatcher with sent := notified.sent } := by
  rw [updateMainFlag, isDcInited, if_pos valid, ok_bind]
  refine ⟨_, rfl, ?_⟩
  split
  · exact ⟨Notifies.send trivial, rfl⟩
  · exact ⟨Notifies.refl _, rfl⟩

theorem readable_update_mainDcIdKey {map : Bytes → Option Bytes} {dcId : Int} (value : Option Bytes)
    (readable : KeyReadable clock map dcId ∧ SaltsReadable map dcId) :
    KeyReadable clock (Function.update map mainDcIdKey value) dcId ∧
      SaltsReadable (Function.update map mainDcIdKey value) dcId := by
  refine ⟨(Reader.parsesAt_congr (Function.update_of_ne ?_ _ _)).mpr readable.1,
    (Reader.parsesAt_congr (Function.update_of_ne ?_ _ _)).mpr readable.2⟩
  all_goals
    intro same
    exact absurd (cons.inj same).1 (by decide)

theorem setMainDcId_spec (operational : dispatcher.Operational clock) (newMainDcId : Int) :
    ∃ migrated, dispatcher.setMainDcId newMainDcId = .ok migrated ∧
        migrated.Operational clock ∧
        Notifies dispatcher migrated ∧
        migrated.stopFlag = dispatcher.stopFlag ∧
        migrated.needDestroyAuthKey = dispatcher.needDestroyAuthKey ∧
        migrated.client.mainDcId =
          if DcId.isValid newMainDcId then newMainDcId
          else dispatcher.client.mainDcId := by
  rw [setMainDcId]
  by_cases valid : DcId.isValid newMainDcId
  · rw [if_neg (not_not.mpr valid), if_pos valid]
    by_cases same : newMainDcId = dispatcher.client.mainDcId
    · rw [if_pos same]
      exact ⟨dispatcher, rfl, operational, Notifies.refl _, rfl, rfl, same.symm⟩
    · rw [if_neg same]
      obtain ⟨told, toldDone, toldNotices, toldShape⟩ :=
        updateMainFlag_spec operational.main false dispatcher
      obtain ⟨written, writeDone, contents⟩ :=
        Operation.apply_refines _ _ (operational.room (decimal newMainDcId))
      have present : mainDcIdKey ∈ written.map.keys := by
        rw [FlatHashMap.mem_keys]
        change written.contents mainDcIdKey ≠ none
        rw [contents, Operation.effect, Function.update_self]
        exact Option.some_ne_none _
      let client : Client traits :=
        { dispatcher.client with
          mainDcId := newMainDcId
          db := { dispatcher.client.db with binlogPmc := written } }
      have stored : told.client.setMainDcId newMainDcId = .ok client := by
        rw [toldShape, Client.setMainDcId, if_neg (not_not.mpr valid),
          if_neg same, Client.withBinlog, writeDone, ok_bind]
        rfl
      obtain ⟨toldNew, toldNewDone, toldNewNotices, toldNewShape⟩ :=
        updateMainFlag_spec valid true { told with client := client }
      have isDc : DcId.internal newMainDcId = .ok newMainDcId := by
        rw [DcId.internal, check_eq_ok valid]
        rfl
      have shape : toldNew = { dispatcher with client := client, sent := toldNew.sent } := by
        rw [toldNewShape, toldShape]
      have notices : Notifies dispatcher toldNew := toldNotices.trans toldNewNotices
      rw [toldDone, ok_bind, stored, ok_bind, toldNewDone, ok_bind, isDc, ok_bind]
      rw [shape] at notices ⊢
      refine ⟨_, rfl, ⟨valid, operational.inited, ?_, ?_⟩,
        notices.trans (Notifies.send trivial), rfl, rfl, rfl⟩
      · intro rawDcId
        change KeyReadable clock written.contents _ ∧ SaltsReadable written.contents _
        rw [contents]
        exact readable_update_mainDcIdKey _ (operational.readable rawDcId)
      · exact fun value => ⟨(operational.room value).1, .inl present⟩
  · rw [if_pos valid, if_neg valid]
    exact ⟨dispatcher, rfl, operational, Notifies.refl _, rfl, rfl, rfl⟩

/-- Neither the dispatcher nor the client is being closed. -/
def Running (dispatcher : NetQueryDispatcher traits) : Prop :=
  dispatcher.stopFlag = false ∧ dispatcher.needDestroyAuthKey = false

theorem Operational.create (operational : dispatcher.Operational clock) {rawDcId : Int}
    (valid : DcId.isValid rawDcId) :
    Returns (AuthDataShared.create clock rawDcId dispatcher.client.db.binlogPmc) := by
  obtain ⟨keyReadable, saltsReadable⟩ := operational.readable ⟨rawDcId, valid⟩
  refine (returns_bind_iff ?_).mpr ⟨returns_getAuthKeyForDc_iff.mpr keyReadable, saltsReadable⟩
  intro authKey _
  exact returns_bind_pure_iff.trans returns_getFutureSalts_iff

theorem addPublicRsaKey_spec (dcId : DcId) :
    Notifies dispatcher (dispatcher.addPublicRsaKey dcId) ∧
      dispatcher.addPublicRsaKey dcId =
        { dispatcher with sent := (dispatcher.addPublicRsaKey dcId).sent } := by
  rw [addPublicRsaKey]
  split
  · exact ⟨Notifies.send trivial, rfl⟩
  · exact ⟨Notifies.refl _, rfl⟩

theorem addDc_spec (dcId : DcId) :
    Notifies dispatcher (dispatcher.addDc dcId) ∧
      dispatcher.addDc dcId = { dispatcher with sent := (dispatcher.addDc dcId).sent } := by
  rw [addDc]
  split
  · exact ⟨Notifies.refl _, rfl⟩
  · exact ⟨Notifies.send trivial, rfl⟩

/-- What waiting for a data center comes to. -/
structure Waits (dcId : DcId) (before after : NetQueryDispatcher traits)
    (failure : Option Bytes) : Prop where
  notifies : Notifies before after
  client : after.client = before.client
  stopFlag : after.stopFlag = before.stopFlag
  valid : failure = none → DcId.isValid dcId.value
  succeeds : DcId.isValid dcId.value → before.Running → failure = none

theorem initDc_spec (operational : dispatcher.Operational clock) {dcId : DcId}
    (valid : DcId.isValid dcId.value) (position : Nat) : ∃ waited failure,
      dispatcher.initDc clock dcId position = .ok (waited, failure) ∧
        Waits dcId dispatcher waited failure := by
  rw [initDc]
  by_cases closing : dispatcher.stopFlag = true ∨ dispatcher.needDestroyAuthKey = true
  · rw [if_pos closing]
    refine ⟨_, _, rfl, Notifies.refl _, rfl, rfl, fun _ => valid, ?_⟩
    rintro _ ⟨notStopped, notDestroyed⟩
    rw [notStopped, notDestroyed] at closing
    exact absurd closing (by decide)
  · have isExact : dcId.isExact := valid.1
    obtain ⟨authData, created⟩ := operational.create valid
    rw [if_neg closing, DcId.getRawId, check_eq_ok isExact, ok_bind,
      pure_eq_ok, ok_bind, created, ok_bind]
    obtain ⟨keyNotices, keyShape⟩ := addPublicRsaKey_spec dcId
    refine ⟨_, _, rfl, ?_, ?_, ?_, fun _ => valid, fun _ _ => rfl⟩
    · exact keyNotices.trans (addDc_spec dcId).1
    all_goals
      rw [(addDc_spec dcId).2, keyShape]
      rfl

/-- Waiting for a data center always ends. -/
theorem waitDcInit_spec (operational : dispatcher.Operational clock) (dcId : DcId) :
    ∃ waited failure, dispatcher.waitDcInit clock dcId true = .ok (waited, failure) ∧
        Waits dcId dispatcher waited failure := by
  have refuses (text : Bytes) (impossible : ¬ (DcId.isValid dcId.value ∧ dispatcher.Running)) :
      Waits dcId dispatcher dispatcher (some text) :=
    ⟨Notifies.refl _, rfl, rfl, nofun, fun valid running => absurd ⟨valid, running⟩ impossible⟩
  rw [waitDcInit]
  by_cases isExact : dcId.isExact
  · rw [if_neg (not_not.mpr isExact)]
    have positive : 0 < dcId.value := isExact
    by_cases tooBig : 1000 ≤ (dcId.value - 1).toNat
    · rw [if_pos tooBig]
      refine ⟨_, _, rfl, refuses _ ?_⟩
      rintro ⟨⟨_, small⟩, _⟩
      omega
    · have valid : DcId.isValid dcId.value := by constructor <;> omega
      rw [if_neg tooBig]
      split
      · rename_i isValid
        split
        · exact ⟨_, _, rfl, Notifies.refl _, rfl, rfl, fun _ => valid, fun _ _ => rfl⟩
        · rename_i notInited
          have stopped := (operational.inited _ isValid).resolve_left notInited
          rw [if_pos stopped]
          refine ⟨_, _, rfl, refuses _ ?_⟩
          rintro ⟨_, notStopped, _⟩
          rw [stopped] at notStopped
          cases notStopped
      · exact initDc_spec operational valid _
  · rw [if_pos isExact]
    refine ⟨_, _, rfl, refuses _ ?_⟩
    rintro ⟨⟨positive, _⟩, _⟩
    exact isExact (Int.lt_of_lt_of_le (by decide) positive)

/-- A query that is handed to a session, or completed because it cannot be. -/
structure Forwards (destination : Int) (query : NetQuery) (before after : NetQueryDispatcher traits)
    (outcome : Message) : Prop where
  delivers : Delivers before after outcome
  client : after.client = before.client
  answered : outcome.IsCompletion ∨ outcome.IsSent
  sent : ¬ query.isReady →
      query.dispatchTtl ≠ 0 →
      DcId.isValid destination →
      before.Running →
      outcome = .session destination query.type query.spendTtl

theorem sendToSession_spec (operational : dispatcher.Operational clock) (destDcId : DcId) :
    ∃ after outcome,
      dispatcher.sendToSession clock destDcId query = .ok after ∧
        Forwards destDcId.value query dispatcher after outcome := by
  obtain ⟨waited, failure, done, waits⟩ := waitDcInit_spec operational destDcId
  rw [sendToSession, done, ok_bind]
  cases failure with
  | some text =>
    obtain ⟨outcome, completes, delivers, client⟩ :=
      completeNetQuery_spec
    refine ⟨_, outcome, rfl, waits.notifies.delivers delivers,
      client.trans waits.client, .inl completes, ?_⟩
    intro _ _ valid running
    cases waits.succeeds valid running
  | none =>
    have valid := waits.valid rfl
    have isExact : destDcId.isExact := valid.1
    have inRange : destDcId.value - 1 < 1000 := by
      have := valid.2
      omega
    change ∃ after outcome, (destDcId.getRawId >>= _) = _ ∧ _
    rw [DcId.getRawId, check_eq_ok isExact, ok_bind, pure_eq_ok, ok_bind,
      check_eq_ok inRange, ok_bind, unlessStopped]
    split
    · rename_i stopped
      obtain ⟨outcome, completes, delivers, client⟩ :=
        completeNetQuery_spec
      refine ⟨_, outcome, rfl, waits.notifies.delivers delivers,
        client.trans waits.client, .inl completes, ?_⟩
      rintro _ _ _ ⟨notStopped, _⟩
      rw [waits.stopFlag, notStopped] at stopped
      cases stopped
    · exact ⟨_, .session destDcId.value query.type query.spendTtl, rfl,
        waits.notifies.delivers (Delivers.send _ _), waits.client,
        .inr valid, fun _ _ _ _ => rfl⟩

theorem isReady_setError (status : Status) : (query.setError status).isReady := by
  rw [NetQuery.setError]
  split
  · exact NetQuery.State.noConfusion
  · split
    all_goals exact NetQuery.State.noConfusion

theorem forward_spec (operational : dispatcher.Operational clock) (query : NetQuery) :
    ∃ after outcome, dispatcher.forward clock query = .ok after ∧
        Forwards
          (if query.dcId.isMain then dispatcher.client.mainDcId else query.dcId.value)
          query dispatcher after outcome := by
  have checked : (checkTtl query).dcId = query.dcId := by
    rw [checkTtl, NetQuery.setError]
    split <;> rfl
  have target : ∃ destDcId, dispatcher.destination (checkTtl query) = .ok destDcId ∧
          destDcId.value =
            if query.dcId.isMain then dispatcher.client.mainDcId
            else query.dcId.value := by
    rw [destination, checked]
    split
    · rw [DcId.internal, check_eq_ok operational.main]
      exact ⟨_, rfl, rfl⟩
    · exact ⟨_, rfl, rfl⟩
  obtain ⟨destDcId, targetDone, targetValue⟩ := target
  rw [forward, targetDone, ok_bind, ← targetValue]
  by_cases ready : (checkTtl query).isReady
  · obtain ⟨outcome, completes, delivers, client⟩ :=
      completeNetQuery_spec
    rw [if_pos ready]
    refine ⟨_, outcome, rfl, delivers, client, .inl completes, ?_⟩
    intro notReady hasTtl _ _
    rw [checkTtl, if_neg (fun both => hasTtl both.2)] at ready
    exact absurd ready notReady
  · have unspent : checkTtl query = query := by
      rw [checkTtl, if_neg]
      intro spent
      rw [checkTtl, if_pos spent] at ready
      exact ready (isReady_setError _)
    rw [if_neg ready, unspent]
    exact sendToSession_spec operational destDcId

/-- The ways on which `dispatch` passes a query on. -/
def Answers (outcome : Message) : Prop :=
  outcome.IsCompletion ∨ outcome.IsSent ∨
    (∃ query, outcome = .sequence query) ∨ ∃ query, outcome = .delay query

def PassesOn (dispatcher : NetQueryDispatcher traits)
    (next : Except Fault (NetQueryDispatcher traits)) : Prop :=
  ∃ after outcome, next = .ok after ∧ Delivers dispatcher after outcome ∧ Answers outcome

theorem forward_passesOn (operational : dispatcher.Operational clock) :
    dispatcher.PassesOn (dispatcher.forward clock query) := by
  obtain ⟨after, outcome, done, forwards⟩ := forward_spec operational query
  exact ⟨after, outcome, done, forwards.delivers,
    forwards.answered.elim .inl (fun sent => .inr (.inl sent))⟩

theorem unlessStopped_passesOn {next : Except Fault (NetQueryDispatcher traits)}
    (goesOn : dispatcher.PassesOn next) :
    dispatcher.PassesOn (dispatcher.unlessStopped query next) := by
  rw [unlessStopped]
  split
  · obtain ⟨outcome, completes, delivers, _⟩ :=
      completeNetQuery_spec
    exact ⟨_, outcome, rfl, delivers, .inl completes⟩
  · exact goesOn

/-- The error announces another main data center. -/
def Announces (query : NetQuery) (rest : Bytes) : Prop :=
  ∃ leading ∈ Client.migratePrefixes, query.state = .error ⟨303, leading ++ rest⟩

theorem find_migratePrefixes {leading : Bytes} (member : leading ∈ Client.migratePrefixes)
    (rest : Bytes) : Client.migratePrefixes.find?
        (fun other => other.isPrefixOf (leading ++ rest)) = some leading := by
  rw [Client.migratePrefixes] at member
  simp only [mem_cons, not_mem_nil, or_false] at member
  rcases member with rfl | rfl | rfl
  all_goals simp [Client.migratePrefixes, ascii]

theorem tryFixMigrate_eq {leading : Bytes} (member : leading ∈ Client.migratePrefixes)
    (rest : Bytes) :
    dispatcher.tryFixMigrate (leading ++ rest) query = (do
      let migrated ← dispatcher.setMainDcId (toInteger rest)
      let resent ← resendMigrated (toInteger rest) query
      return (migrated, resent)) := by
  rw [tryFixMigrate, find_migratePrefixes member rest]
  change (dispatcher.setMainDcId (toInteger ((leading ++ rest).drop leading.length)) >>= _) = _
  rw [drop_left]

/-- The main data center after an announcement. -/
def announcedDcId (rest : Bytes) (dispatcher : NetQueryDispatcher traits) : Int :=
  if DcId.isValid (toInteger rest) then
    toInteger rest
  else
    dispatcher.client.mainDcId

/-- The query that is asked again after an announcement. -/
def resent (rest : Bytes) (query : NetQuery) : NetQuery :=
  query.resend (if query.dcId.isMain then query.dcId else ⟨toInteger rest, false⟩)

theorem handleError_announces (operational : dispatcher.Operational clock) {leading rest : Bytes}
    (member : leading ∈ Client.migratePrefixes)
    (addressable : DcId.isValid (toInteger rest) ∨ query.dcId.isMain) : ∃ after outcome,
      dispatcher.handleError clock ⟨303, leading ++ rest⟩ query = .ok after ∧
        Delivers dispatcher after outcome ∧ (outcome.IsCompletion ∨ outcome.IsSent) ∧
        after.client.mainDcId = dispatcher.announcedDcId rest ∧
        (dispatcher.Running → query.dispatchTtl ≠ 0 → outcome =
            .session (dispatcher.announcedDcId rest) query.type (resent rest query).spendTtl) := by
  obtain ⟨migrated, migratedDone, migratedOperational, notices, stopFlag,
      needDestroyAuthKey, main⟩ :=
    setMainDcId_spec operational (toInteger rest)
  have resends : resendMigrated (toInteger rest) query = .ok (resent rest query) := by
    rw [resendMigrated, resent]
    by_cases isMain : query.dcId.isMain
    · rw [if_pos isMain, if_pos isMain]
    · have valid := addressable.resolve_right isMain
      rw [if_neg isMain, if_neg isMain, DcId.internal, check_eq_ok valid]
      rfl
  have fixed :
      dispatcher.tryFixMigrate (leading ++ rest) query = .ok (migrated, resent rest query) := by
    rw [tryFixMigrate_eq member, migratedDone, ok_bind, resends]
    rfl
  obtain ⟨after, outcome, done, forwards⟩ := forward_spec migratedOperational (resent rest query)
  refine ⟨after, outcome, ?_, notices.delivers forwards.delivers, forwards.answered, ?_, ?_⟩
  · rw [handleError, if_pos rfl, fixed, ok_bind]
    exact done
  · rw [forwards.client, main]
    rfl
  · intro running hasTtl
    have destination : (if (resent rest query).dcId.isMain then migrated.client.mainDcId
          else (resent rest query).dcId.value) =
          dispatcher.announcedDcId rest := by
      have sameDcId : (resent rest query).dcId =
            if query.dcId.isMain then query.dcId
            else ⟨toInteger rest, false⟩ :=
        rfl
      rw [main, announcedDcId, sameDcId]
      by_cases isMain : query.dcId.isMain
      · rw [if_pos isMain, if_pos isMain]
      · have valid := addressable.resolve_right isMain
        have notMain : ¬ DcId.isMain ⟨toInteger rest, false⟩ := by
          intro (same : toInteger rest = -1)
          rw [same] at valid
          exact absurd valid (by decide)
        rw [if_neg isMain, if_neg notMain, if_pos valid]
    rw [destination] at forwards
    refine forwards.sent ?_ hasTtl ?_ ?_
    · exact not_not.mpr rfl
    · rw [announcedDcId]
      split
      · assumption
      · exact operational.main
    · exact ⟨stopFlag.trans running.1, needDestroyAuthKey.trans running.2⟩

theorem handleError_aborts (operational : dispatcher.Operational clock) {leading rest : Bytes}
    (member : leading ∈ Client.migratePrefixes)
    (unread : ¬ DcId.isValid (toInteger rest))
    (isExact : ¬ query.dcId.isMain) :
    dispatcher.handleError clock ⟨303, leading ++ rest⟩ query = .error .check := by
  obtain ⟨migrated, migratedDone, _⟩ := setMainDcId_spec operational (toInteger rest)
  rw [handleError, if_pos rfl, tryFixMigrate_eq member, migratedDone, ok_bind, resendMigrated,
    if_neg isExact, DcId.internal, check_eq_error unread]
  rfl

/--
The query is not looked at, as the dispatcher is stopped or the query waits for
its turn; it ends in the number of a data center; or what it ends in is read as
the main data center, or not as one while the query is for the main one.
-/
def Followable (query : NetQuery) (dispatcher : NetQueryDispatcher traits) : Prop :=
  ∀ rest, Announces query rest →
    dispatcher.stopFlag = true ∨
      (¬ query.inSequenceDispatcher = true ∧ query.chainIds ≠ []) ∨
      (∃ number, numeral rest = some number ∧ DcId.isValid number) ∨
      if DcId.isValid (toInteger rest) then
        toInteger rest = dispatcher.client.mainDcId
      else
        query.dcId.isMain

theorem toInteger_of_valid {rest : Bytes} {number : Nat} (denotes : numeral rest = some number)
    (valid : DcId.isValid number) : toInteger rest = number := by
  refine toInteger_of_numeral denotes ?_
  have := valid.2
  omega

theorem handleError_passesOn (operational : dispatcher.Operational clock) {status : Status}
    (state : query.state = .error status) (silent : ∀ rest, ¬ Announces query rest) :
    dispatcher.PassesOn (dispatcher.handleError clock status query) := by
  rw [handleError]
  split
  · rename_i isMigrate
    have notFound :
        Client.migratePrefixes.find? (fun leading => leading.isPrefixOf status.message) = none := by
      rw [find?_eq_none]
      intro leading member matching
      obtain ⟨rest, whole⟩ := isPrefixOf_iff_prefix.mp matching
      refine silent rest ⟨leading, member, ?_⟩
      rw [state, whole, ← isMigrate]
    rw [tryFixMigrate, notFound]
    exact forward_passesOn operational
  · split
    · exact forward_passesOn operational
    · split
      · exact forward_passesOn operational
      · split
        · exact unlessStopped_passesOn
            ⟨_, _, rfl, Delivers.send _ _, .inr (.inr (.inr ⟨query, rfl⟩))⟩
        · exact forward_passesOn operational

/-- An error announces one thing only. -/
theorem Announces.unique {rest other : Bytes} (announces : Announces query rest)
    (announcesOther : Announces query other) : other = rest := by
  obtain ⟨leading, member, state⟩ := announces
  obtain ⟨otherLeading, otherMember, otherState⟩ := announcesOther
  have same : otherLeading ++ other = leading ++ rest := by
    rw [state] at otherState
    exact (congrArg Status.message (NetQuery.State.error.inj otherState)).symm
  have sameLeading : otherLeading = leading := by
    have found := find_migratePrefixes otherMember other
    rw [same, find_migratePrefixes member rest] at found
    exact (Option.some.inj found).symm
  rw [sameLeading] at same
  exact append_cancel_left same

theorem dispatch_silent (operational : dispatcher.Operational clock)
    (silent : ∀ rest, ¬ Announces query rest) :
    dispatcher.PassesOn (dispatcher.dispatch clock query) := by
  refine unlessStopped_passesOn ?_
  split
  · exact unlessStopped_passesOn ⟨_, _, rfl, Delivers.send _ _, .inr (.inr (.inl ⟨query, rfl⟩))⟩
  · split
    · rename_i status state
      exact handleError_passesOn operational state silent
    · exact forward_passesOn operational

/-- What a query with an announcement is to come to when it is its turn. -/
def Migrates (dispatcher : NetQueryDispatcher traits) (query : NetQuery) (rest : Bytes)
    (after : NetQueryDispatcher traits) (outcome : Message) : Prop :=
  (∀ number, numeral rest = some number → DcId.isValid number → dispatcher.Running →
      query.dispatchTtl ≠ 0 → after.client.mainDcId = number ∧
        outcome = .session number query.type (resent rest query).spendTtl) ∧
    ((∀ number, numeral rest = some number → ¬ DcId.isValid number) →
      after.client.mainDcId = dispatcher.client.mainDcId ∧
        (outcome.IsCompletion ∨ outcome.IsSent))

theorem handleError_migrates (operational : dispatcher.Operational clock) {leading rest : Bytes}
    (member : leading ∈ Client.migratePrefixes)
    (follow : (∃ number, numeral rest = some number ∧ DcId.isValid number) ∨
      if DcId.isValid (toInteger rest) then toInteger rest = dispatcher.client.mainDcId
      else query.dcId.isMain) :
    ∃ after outcome, dispatcher.handleError clock ⟨303, leading ++ rest⟩ query = .ok after ∧
      Delivers dispatcher after outcome ∧ Answers outcome ∧
      dispatcher.Migrates query rest after outcome := by
  have addressable : DcId.isValid (toInteger rest) ∨ query.dcId.isMain := by
    rcases follow with ⟨number, denotes, valid⟩ | reads
    · rw [toInteger_of_valid denotes valid]
      exact .inl valid
    · split at reads
      · exact .inl ‹_›
      · exact .inr reads
  obtain ⟨after, outcome, done, delivers, answered, main, sent⟩ :=
    handleError_announces operational member addressable
  refine ⟨after, outcome, done, delivers, answered.elim .inl (fun isSent => .inr (.inl isSent)),
    ?_, ?_⟩
  · intro number denotes valid running hasTtl
    have announcedNumber : dispatcher.announcedDcId rest = number := by
      rw [announcedDcId, toInteger_of_valid denotes valid, if_pos valid]
    rw [← announcedNumber]
    exact ⟨main, sent running hasTtl⟩
  · intro noNumber
    refine ⟨main.trans ?_, answered⟩
    rcases follow with ⟨number, denotes, valid⟩ | reads
    · exact absurd valid (noNumber number denotes)
    · rw [announcedDcId]
      split at reads
      · rw [if_pos ‹_›, reads]
      · rw [if_neg ‹_›]

/--
A dispatcher does not abort just if announcements can be followed: the query is
completed, delayed, put in order or sent to an existing data center. A number of
a data center makes it the main one, where the query is asked; anything else
leaves the main one as it is.
-/
theorem dispatch_followable (operational : dispatcher.Operational clock) :
    (∃ after outcome, dispatcher.dispatch clock query = .ok after ∧
      Delivers dispatcher after outcome ∧ Answers outcome ∧
      ∀ rest, Announces query rest → query.chainIds = [] ∨ query.inSequenceDispatcher = true →
        dispatcher.Migrates query rest after outcome) ↔
      dispatcher.Followable query := by
  -- A query whose announcement is looked at.
  have looks {rest leading : Bytes} (state : query.state = .error ⟨303, leading ++ rest⟩)
      (running : ¬ dispatcher.stopFlag = true)
      (turn : ¬ (¬ query.inSequenceDispatcher = true ∧ query.chainIds ≠ [])) :
      dispatcher.dispatch clock query =
        dispatcher.handleError clock ⟨303, leading ++ rest⟩ query := by
    rw [dispatch, unlessStopped, if_neg running, if_neg turn, state]
  constructor
  · rintro ⟨after, outcome, done, _, _, migrates⟩ rest announces
    by_cases stopped : dispatcher.stopFlag = true
    · exact .inl stopped
    by_cases waits : ¬ query.inSequenceDispatcher = true ∧ query.chainIds ≠ []
    · exact .inr (.inl waits)
    refine .inr (.inr (or_iff_not_imp_left.mpr fun noNumber => ?_))
    have turn : query.chainIds = [] ∨ query.inSequenceDispatcher = true :=
      or_iff_not_imp_left.mpr fun chained => not_not.mp fun unordered => waits ⟨unordered, chained⟩
    have unchanged := ((migrates rest announces turn).2 fun number denotes valid =>
      noNumber ⟨number, denotes, valid⟩).1
    obtain ⟨leading, member, state⟩ := announces
    rw [looks state stopped waits] at done
    split
    case isTrue valid =>
      obtain ⟨_, _, again, _, _, main, _⟩ :=
        handleError_announces operational member (.inl valid)
      cases again.symm.trans done
      rw [announcedDcId, if_pos valid] at main
      exact main.symm.trans unchanged
    case isFalse unread =>
      by_contra isExact
      rw [handleError_aborts operational member unread isExact] at done
      cases done
  · intro followable
    by_cases announced : ∃ rest, Announces query rest
    · obtain ⟨rest, announces⟩ := announced
      -- The only announcement is the one that has been found.
      have onlyThis {property : Bytes → Prop} (holds : property rest) :
          ∀ other, Announces query other → property other := by
        intro other announcesOther
        rw [announces.unique announcesOther]
        exact holds
      by_cases stopped : dispatcher.stopFlag = true
      · obtain ⟨outcome, completes, delivers, client⟩ :=
          completeNetQuery_spec
        refine ⟨_, outcome, if_pos stopped, delivers, .inl completes, onlyThis fun _ => ⟨?_, ?_⟩⟩
        · rintro _ _ _ ⟨notStopped, _⟩
          rw [stopped] at notStopped
          cases notStopped
        · exact fun _ => ⟨congrArg Client.mainDcId client, .inl completes⟩
      by_cases waits : ¬ query.inSequenceDispatcher = true ∧ query.chainIds ≠ []
      · refine ⟨dispatcher.sendClosureLater (.sequence query), _, ?_,
          Delivers.send _ _, .inr (.inr (.inl ⟨query, rfl⟩)), onlyThis ?_⟩
        · rw [dispatch, unlessStopped, if_neg stopped, if_pos waits, unlessStopped, if_neg stopped]
        · rintro (unchained | inSequence)
          · exact absurd unchained waits.2
          · exact absurd inSequence waits.1
      · have follow := ((followable rest announces).resolve_left stopped).resolve_left waits
        obtain ⟨leading, member, state⟩ := announces
        rw [looks state stopped waits]
        obtain ⟨after, outcome, done, delivers, answers, migrates⟩ :=
          handleError_migrates operational member follow
        exact ⟨after, outcome, done, delivers, answers, onlyThis fun _ => migrates⟩
    · obtain ⟨after, outcome, done, delivers, answers⟩ :=
        dispatch_silent operational (not_exists.mp announced)
      refine ⟨after, outcome, done, delivers, answers, ?_⟩
      intro rest announces
      exact absurd ⟨rest, announces⟩ announced

section Example

/-- A new client in the first data center. -/
def exampleDispatcher : NetQueryDispatcher collidingTraits where
  client := ⟨TdDb.fresh, 1, fun _ => none⟩

theorem operational_exampleDispatcher :
    exampleDispatcher.Operational MtprotoClient.exampleClock where
  main := by decide
  inited := by
    intro position isValid
    cases isValid
  readable := fun rawDcId => ⟨.inl rfl, .inl rfl⟩
  room := by
    intro value
    refine ⟨by decide, .inr ?_⟩
    exact FlatHashTable.maxNodeCount_pos collidingTraits

/-- A query that is told to go to another data center. -/
def migratedQuery (dcId : DcId) (rest : String) : NetQuery where
  id := 1
  dcId := dcId
  state := .error ⟨303, ascii "PHONE_MIGRATE_" ++ ascii rest⟩

/-- One announcement is followed, and another one is not. -/
theorem dispatch_followable_five :
    (∃ after outcome, exampleDispatcher.dispatch MtprotoClient.exampleClock
        (migratedQuery DcId.main "5") = .ok after ∧
      Delivers exampleDispatcher after outcome ∧ after.client.mainDcId = 5 ∧
      outcome = .session 5 .common { migratedQuery DcId.main "5" with state := .query }) ∧
      ¬ ∃ after outcome, exampleDispatcher.dispatch MtprotoClient.exampleClock
          (migratedQuery DcId.main "5abc") = .ok after ∧
        Delivers exampleDispatcher after outcome ∧ Answers outcome ∧
        ∀ rest, Announces (migratedQuery DcId.main "5abc") rest →
          (migratedQuery DcId.main "5abc").chainIds = [] ∨
            (migratedQuery DcId.main "5abc").inSequenceDispatcher = true →
          exampleDispatcher.Migrates (migratedQuery DcId.main "5abc") rest after outcome := by
  have announces (rest : String) : Announces (migratedQuery DcId.main rest) (ascii rest) :=
    ⟨ascii "PHONE_MIGRATE_", mem_cons_self, rfl⟩
  constructor
  · have denotes : numeral (ascii "5") = some 5 := by decide
    have followable : exampleDispatcher.Followable (migratedQuery DcId.main "5") := by
      intro rest announcesRest
      rw [(announces "5").unique announcesRest]
      exact .inr (.inr (.inl ⟨5, denotes, by decide⟩))
    obtain ⟨after, outcome, done, delivers, _, migrates⟩ :=
      (dispatch_followable operational_exampleDispatcher).mpr followable
    obtain ⟨main, sent⟩ :=
      (migrates _ (announces "5") (.inl rfl)).1 5 denotes (by decide) ⟨rfl, rfl⟩ (by decide)
    exact ⟨after, outcome, done, delivers, main, sent⟩
  · intro met
    have followable := (dispatch_followable operational_exampleDispatcher).mp met _
      (announces "5abc")
    rcases followable with stopped | waits | ⟨number, denotes, _⟩ | reads
    · cases stopped
    · exact waits.2 rfl
    · rw [show numeral (ascii "5abc") = none by decide] at denotes
      cases denotes
    · rw [if_pos (by decide)] at reads
      exact absurd reads (by decide)

/--
A query for the second data center is told to go to data center zero, and the
process aborts. Numbers that are too long or have something behind them change
the main one.
-/
theorem dispatch_unfollowable : exampleDispatcher.dispatch MtprotoClient.exampleClock
          (migratedQuery ⟨2, false⟩ "0") = .error .check ∧
      (∃ after, exampleDispatcher.dispatch MtprotoClient.exampleClock
            (migratedQuery DcId.main "4294967298") = .ok after ∧ after.client.mainDcId = 2) ∧
      ∃ after, exampleDispatcher.dispatch MtprotoClient.exampleClock
            (migratedQuery DcId.main "5abc") = .ok after ∧ after.client.mainDcId = 5 := by
  have migrates (rest : String) : ∃ after, exampleDispatcher.dispatch MtprotoClient.exampleClock
            (migratedQuery DcId.main rest) = .ok after ∧
          after.client.mainDcId = exampleDispatcher.announcedDcId (ascii rest) := by
    obtain ⟨after, _, done, _, _, main, _⟩ := handleError_announces operational_exampleDispatcher
        (show ascii "PHONE_MIGRATE_" ∈ Client.migratePrefixes from
          mem_cons_self)
        (.inr (show (migratedQuery DcId.main rest).dcId.isMain from rfl))
    exact ⟨after, done, main⟩
  refine ⟨rfl, ?_, ?_⟩
  · exact migrates "4294967298"
  · exact migrates "5abc"

end Example

end NetQueryDispatcher

end Autoproto
