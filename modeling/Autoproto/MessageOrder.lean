import Autoproto.SessionConnection
import Autoproto.Transition

namespace Autoproto.Mtproto

open List SessionConnection
open IssuedIds (Later)

/-!
# The order of the numbers on the wire

All connections of a session take their numbers from one `AuthData`. A query
takes them when it is handed over, and may then wait while packets are sent. On
the wire, sequence numbers have to grow with the identifiers, and a container
needs a larger identifier than what it contains.
-/

/-! ## What takes numbers -/

theorem issueAll_cons (object : ServiceObject) (objects : List ServiceObject)
    (authData : AuthData) : issueAll (object :: objects) authData =
      (⟨object, (authData.stamp false).1⟩ :: (issueAll objects (authData.stamp false).2).1,
        (issueAll objects (authData.stamp false).2).2) :=
  rfl

theorem later_issueAll (objects : List ServiceObject) (authData : AuthData) :
    authData.issuedIds.Later (issueAll objects authData).2.issuedIds := by
  induction objects generalizing authData with
  | nil => exact Later.refl _
  | cons object objects ih =>
    exact (authData.later_stamp false).trans (ih _)

theorem AuthData.Numbered.issueAll {objects : List ServiceObject} {authData : AuthData}
    {stamps : List Stamp}
    (numbered : authData.Numbered stamps)
    (fits : (issueAll objects authData).2.overflowed = false) :
    (Mtproto.issueAll objects authData).2.Numbered
      (((Mtproto.issueAll objects authData).1.map ServiceMessage.stamp).reverse ++ stamps) := by
  induction objects generalizing authData stamps with
  | nil => exact numbered
  | cons object objects ih =>
    rw [issueAll_cons] at fits ⊢
    have first := numbered.stamp ((later_issueAll objects _).overflowed fits)
    have others := ih first fits
    rw [map_cons, reverse_cons, append_assoc]
    exact others

variable {contents : PacketContents} {serverTime : Rat} {authData after : AuthData}
  {impl : CryptoImpl}

theorem CryptoImpl.new_eq_ok (made : new contents serverTime authData = .ok (impl, after)) :
    impl.service = (issueAll contents.serviceObjects authData).1 ∧
      ((∃ stamp, impl.type = .mixed stamp ∧
            (issueAll contents.serviceObjects authData).2.stamp false = (stamp, after)) ∨
        ((∀ stamp, impl.type ≠ .mixed stamp) ∧
          after = (issueAll contents.serviceObjects authData).2)) := by
  obtain ⟨_, _, made⟩ := bind_eq_ok made
  obtain ⟨queries, _, made⟩ := bind_eq_ok made
  obtain ⟨_, _, made⟩ := bind_eq_ok made
  split at made
  · cases made
    exact ⟨rfl, Or.inl ⟨_, rfl, rfl⟩⟩
  · obtain ⟨⟨type, parentMessageId⟩, typed, made⟩ := bind_eq_ok made
    cases made
    refine ⟨rfl, Or.inr ⟨?_, rfl⟩⟩
    intro stamp mixed
    subst mixed
    unfold onlyType at typed
    split at typed
    · obtain ⟨_, _, typed⟩ := bind_eq_ok typed
      cases typed
    · split at typed
      · split at typed
        · cases typed
        · cases typed
      · cases typed

/-! ## The system -/

/-- The numbers of a query, which is related to content. -/
def MtprotoQuery.stamp (query : MtprotoQuery) : Stamp :=
  ⟨query.messageId, query.seqNo, true⟩

namespace SessionConnection.SentPacket

/-- The numbers of the messages of a packet, apart from a container. -/
def stamps (packet : SentPacket) : List Stamp :=
  packet.contents.toSend.map MtprotoQuery.stamp ++ packet.impl.service.map ServiceMessage.stamp

def container (packet : SentPacket) : Option Stamp :=
  match packet.impl.type with
  | .mixed stamp => some stamp
  | _ => none

/-- The numbers of all messages of a packet. -/
def wire (packet : SentPacket) : List Stamp :=
  packet.container.toList ++ packet.stamps

end SessionConnection.SentPacket

inductive ConnectionCall where
  | getStateInfo (messageId : MessageId)
  | resendAnswer (messageId : MessageId)
  | cancelAnswer (messageId : MessageId)
  | sendAck (messageId : MessageId)
  | destroyKey
  | forgetServiceQuery (messageId : MessageId)
  | onMessageFailed (messageId : MessageId)
  /-- All queries that wait are dropped. -/
  | clearToSend
  /-- The connection is lost and another one takes its place. -/
  | reconnect (mode : ConnectionMode)

def ConnectionCall.run (connection : SessionConnection) : ConnectionCall → SessionConnection
  | .getStateInfo messageId => connection.getStateInfo messageId
  | .resendAnswer messageId => connection.resendAnswer messageId
  | .cancelAnswer messageId => connection.cancelAnswer messageId
  | .sendAck messageId => connection.sendAck messageId
  | .destroyKey => connection.destroyKey
  | .forgetServiceQuery messageId => connection.forgetServiceQuery messageId
  | .onMessageFailed messageId => connection.onMessageFailed messageId
  | .clearToSend => { connection with toSend := [] }
  | .reconnect mode => { mode := mode }

/-- What takes numbers from an `AuthData`. -/
inductive MessageEvent where
  | nextMessageId
  | nextSeqNo (isContentRelated : Bool)
  | sendQuery (index : Nat) (packet : Bytes) (gzipFlag : Bool)
      (invokeAfterMessageIds : List MessageId) (useQuickAck : Bool)
  /-- A call of `encrypted_bind`, and of `send_query` with its identifier. -/
  | bindKey (index : Nat) (packet : Bytes)
  | call (index : Nat) (connectionCall : ConnectionCall)
  | flushPacket (index : Nat) (inputs : SessionConnection.FlushInputs)

structure MessageSystem where
  authData : AuthData
  connections : Nat → SessionConnection
  packets : List SessionConnection.SentPacket := []

namespace MessageSystem

def setConnection (index : Nat) (connection : SessionConnection) (authData : AuthData)
    (system : MessageSystem) : MessageSystem :=
  { system with
    authData := authData
    connections := Function.update system.connections index connection }

def handle (system : MessageSystem) :
    MessageEvent → Except Fault MessageSystem
  | .nextMessageId =>
    .ok { system with authData := system.authData.nextMessageId.2 }
  | .nextSeqNo isContentRelated =>
    .ok { system with
      authData := (system.authData.nextSeqNo isContentRelated).2 }
  | .sendQuery index packet gzipFlag invokeAfterMessageIds useQuickAck => do
      let (authData, connection) ←
        (system.connections index).sendQuery packet gzipFlag 0
          invokeAfterMessageIds useQuickAck system.authData
      return system.setConnection index connection authData
  | .bindKey index packet => do
      let (messageId, authData) := system.authData.nextMessageId
      let (authData, connection) ←
        (system.connections index).sendQuery packet false messageId [] false authData
      return system.setConnection index connection authData
  | .call index connectionCall =>
    .ok (system.setConnection index (connectionCall.run (system.connections index)) system.authData)
  | .flushPacket index inputs => do
      let flushed ← (system.connections index).flushPacket inputs system.authData
      return { system.setConnection index flushed.connection
          flushed.authData with
        packets := system.packets ++ flushed.sent.toList }

/-- An event that does not end in an abort. -/
def Step (before : MessageSystem) (event : MessageEvent) (after : MessageSystem) : Prop :=
  before.handle event = .ok after

/-- No message yet, and connections with nothing to send. -/
def new (draws : Nat → Draw) (modes : Nat → ConnectionMode) : MessageSystem where
  authData := { draws := draws }
  connections := fun index => { mode := modes index }

structure Ordered (system : MessageSystem) (stamps : List Stamp) : Prop where
  numbered : system.authData.Numbered stamps
  queued : ∀ index, ∀ query ∈ (system.connections index).toSend, query.stamp ∈ stamps
  sent : ∀ packet ∈ system.packets, ∀ stamp ∈ packet.wire, stamp ∈ stamps
  containers : ∀ packet ∈ system.packets, ∀ container, packet.container = some container →
        ∀ stamp ∈ packet.stamps, stamp.messageId < container.messageId

theorem ordered_new (draws : Nat → Draw) (modes : Nat → ConnectionMode) :
    (new draws modes).Ordered [] := by
  constructor
  · exact AuthData.numbered_new draws
  · intro index query queued
    cases queued
  all_goals
    intro packet known
    cases known

end MessageSystem

/-! ## Steps -/

namespace SessionConnection

/-- A connection keeps the queries that wait or loses them all, and remembers no more messages. -/
structure Keeps (before after : SessionConnection) : Prop where
  toSend : after.toSend = before.toSend ∨ after.toSend = []
  serviceQueries : ∀ messageId query,
      after.serviceQueries messageId = some query → before.serviceQueries messageId = some query

theorem Keeps.refl (connection : SessionConnection) : connection.Keeps connection :=
  ⟨Or.inl rfl, fun _ _ => id⟩

theorem Keeps.trans {first second third : SessionConnection} (before : first.Keeps second)
    (after : second.Keeps third) : first.Keeps third := by
  constructor
  · rcases after.toSend with same | lost
    · rw [same]
      exact before.toSend
    · exact Or.inr lost
  · intro messageId query found
    exact before.serviceQueries messageId query (after.serviceQueries messageId query found)

variable (connection : SessionConnection) (messageId : MessageId)

theorem keeps_getStateInfo : connection.Keeps (connection.getStateInfo messageId) :=
  ⟨Or.inl rfl, fun _ _ => id⟩

theorem keeps_resendAnswer : connection.Keeps (connection.resendAnswer messageId) :=
  ⟨Or.inl rfl, fun _ _ => id⟩

theorem keeps_cancelAnswer : connection.Keeps (connection.cancelAnswer messageId) :=
  ⟨Or.inl rfl, fun _ _ => id⟩

theorem keeps_destroyKey (connection : SessionConnection) :
    connection.Keeps connection.destroyKey :=
  ⟨Or.inl rfl, fun _ _ => id⟩

theorem keeps_new (mode : ConnectionMode) (connection : SessionConnection) :
    connection.Keeps { mode := mode } :=
  ⟨Or.inr rfl, nofun⟩

theorem keeps_foldl {change : SessionConnection → MessageId → SessionConnection}
    (keeps : ∀ connection messageId, Keeps connection (change connection messageId))
    (messageIds : List MessageId) (connection : SessionConnection) :
    connection.Keeps (messageIds.foldl change connection) := by
  induction messageIds generalizing connection with
  | nil => exact Keeps.refl _
  | cons messageId messageIds ih =>
    exact (keeps connection messageId).trans (ih _)

theorem keeps_forgetServiceQuery (connection : SessionConnection) :
    connection.Keeps (connection.forgetServiceQuery messageId) := by
  refine ⟨Or.inl rfl, ?_⟩
  intro other query found
  rw [forgetServiceQuery] at found
  dsimp only at found
  rw [Function.update_apply] at found
  split at found
  · cases found
  · exact found

theorem keeps_onMessageFailedInner :
    connection.Keeps (connection.onMessageFailedInner messageId) := by
  have forgets := keeps_forgetServiceQuery messageId connection
  rw [onMessageFailedInner]
  split
  · exact Keeps.refl _
  case h_2 query _ =>
    split
    · exact forgets.trans (keeps_foldl keeps_resendAnswer query.messageIds _)
    · exact forgets.trans (keeps_foldl keeps_getStateInfo query.messageIds _)

theorem keeps_onMessageFailed (connection : SessionConnection) :
    connection.Keeps (connection.onMessageFailed messageId) := by
  have ping :
      connection.Keeps (forgetPing messageId { connection with sentDestroyAuthKey := false }) := by
    rw [forgetPing]
    split
    all_goals exact ⟨Or.inl rfl, fun _ _ => id⟩
  rw [onMessageFailed]
  split
  · exact ping.trans (keeps_onMessageFailedInner _ messageId)
  · exact ping.trans (keeps_foldl keeps_onMessageFailedInner _ _)

theorem keeps_run (connectionCall : ConnectionCall) (connection : SessionConnection) :
    connection.Keeps (connectionCall.run connection) := by
  cases connectionCall with
  | getStateInfo messageId => exact keeps_getStateInfo connection messageId
  | resendAnswer messageId => exact keeps_resendAnswer connection messageId
  | cancelAnswer messageId => exact keeps_cancelAnswer connection messageId
  | sendAck messageId =>
    rw [ConnectionCall.run, sendAck]
    split
    · exact Keeps.refl _
    · exact ⟨Or.inl rfl, fun _ _ => id⟩
  | destroyKey => exact keeps_destroyKey connection
  | forgetServiceQuery messageId => exact keeps_forgetServiceQuery messageId connection
  | onMessageFailed messageId => exact keeps_onMessageFailed messageId connection
  | clearToSend => exact ⟨Or.inr rfl, fun _ _ => id⟩
  | reconnect mode => exact keeps_new mode connection

theorem noteSent_eq (contents : PacketContents) (impl : CryptoImpl)
    (connection : SessionConnection) : ∃ queries containers ping pingContainer,
      connection.noteSent contents impl = { connection with
        serviceQueries := queries
        containerToServiceMessageId := containers
        lastPingMessageId := ping
        lastPingContainerMessageId := pingContainer } := by
  have emplace (type messageId container messageIds) (connection : SessionConnection) :
      ∃ queries, connection.emplaceServiceQuery type messageId container messageIds =
        { connection with serviceQueries := queries } := by
    rw [emplaceServiceQuery]
    split <;> exact ⟨_, rfl⟩
  have add (messageId container) (connection : SessionConnection) :
      ∃ containers, connection.addContainer messageId container =
        { connection with containerToServiceMessageId := containers } := by
    rw [addContainer]
    split <;> exact ⟨_, rfl⟩
  have ping (connection : SessionConnection) :
      ∃ ping pingContainer, connection.notePing contents impl = { connection with
        lastPingMessageId := ping
        lastPingContainerMessageId := pingContainer } := by
    rw [notePing]
    split <;> exact ⟨_, _, rfl⟩
  obtain ⟨_, first⟩ := emplace .resendAnswer (impl.messageIdOf .resend) impl.containerMessageId
    contents.resend connection
  obtain ⟨_, second⟩ := emplace .getStateInfo (impl.messageIdOf .getInfo) impl.containerMessageId
    contents.getInfo _
  obtain ⟨_, _, pinged⟩ := ping _
  obtain ⟨_, third⟩ := add (impl.messageIdOf .resend) impl.containerMessageId _
  obtain ⟨_, fourth⟩ := add (impl.messageIdOf .getInfo) impl.containerMessageId _
  rw [noteSent, first, second, pinged, third, fourth]
  exact ⟨_, _, _, _, rfl⟩

theorem toSend_noteSent (connection : SessionConnection) :
    (connection.noteSent contents impl).toSend = connection.toSend := by
  obtain ⟨_, _, _, _, same⟩ := noteSent_eq contents impl connection
  rw [same]

variable {connection after : SessionConnection} {packet : Bytes} {gzipFlag useQuickAck : Bool}
  {invokeAfterMessageIds : List MessageId} {authData numbered : AuthData} {inputs : FlushInputs}

theorem sendQuery_new
    (sent : connection.sendQuery packet gzipFlag 0 invokeAfterMessageIds
        useQuickAck authData = .ok (numbered, after)) : ∃ query,
      MtprotoQuery.stamp query = (authData.stamp true).1 ∧ numbered = (authData.stamp true).2 ∧
        after = connection.push query := by
  obtain ⟨_, _, sent⟩ := bind_eq_ok sent
  have same := Except.ok.inj sent
  exact ⟨_, rfl, (congrArg Prod.fst same).symm, (congrArg Prod.snd same).symm⟩

variable {messageId : MessageId}

theorem sendQuery_issued (issued : messageId ≠ 0)
    (sent : connection.sendQuery packet gzipFlag messageId invokeAfterMessageIds
        useQuickAck authData = .ok (numbered, after)) : ∃ query,
      MtprotoQuery.stamp query = ⟨messageId, (authData.nextSeqNo true).1, true⟩ ∧
        numbered = (authData.nextSeqNo true).2 ∧ after = connection.push query := by
  obtain ⟨_, _, sent⟩ := bind_eq_ok sent
  rw [if_neg issued] at sent
  have same := Except.ok.inj sent
  exact ⟨_, rfl, (congrArg Prod.fst same).symm, (congrArg Prod.snd same).symm⟩

theorem later_sendQuery
    (sent : connection.sendQuery packet gzipFlag messageId invokeAfterMessageIds
        useQuickAck authData = .ok (numbered, after)) :
    authData.issuedIds.Later numbered.issuedIds := by
  by_cases zero : messageId = 0
  · subst zero
    obtain ⟨_, _, rfl, _⟩ := sendQuery_new sent
    exact authData.later_stamp true
  · obtain ⟨_, _, rfl, _⟩ := sendQuery_issued zero sent
    exact authData.later_nextSeqNo true

theorem flushPacket_eq_ok {flushed : Flushed}
    (returned : connection.flushPacket inputs authData = .ok flushed) :
    flushed = ⟨(nextPingId inputs authData).2, connection, none⟩ ∨ ∃ contents impl after,
        contents = connection.packetContents inputs (nextPingId inputs authData).1 ∧
          CryptoImpl.new contents inputs.serverTime
            (nextPingId inputs authData).2 = .ok (impl, after) ∧
          flushed = ⟨after, (connection.afterCut contents inputs).noteSent contents impl,
              some ⟨contents, impl⟩⟩ := by
  rw [flushPacket] at returned
  dsimp only at returned
  split at returned
  · cases returned
    exact Or.inl rfl
  · obtain ⟨_, _, returned⟩ := bind_eq_ok returned
    obtain ⟨⟨impl, after⟩, made, returned⟩ := bind_eq_ok returned
    exact Or.inr ⟨_, impl, after, rfl, made, (Except.ok.inj returned).symm⟩

theorem later_nextPingId (inputs : FlushInputs) (authData : AuthData) :
    authData.issuedIds.Later (nextPingId inputs authData).2.issuedIds := by
  rw [nextPingId]
  split
  · exact authData.takes_nextMessageId.isLater
  · exact Later.refl _

theorem numbered_nextPingId {stamps : List Stamp} (numbered : authData.Numbered stamps)
    (fits : (nextPingId inputs authData).2.overflowed = false) :
    (nextPingId inputs authData).2.Numbered stamps := by
  rw [nextPingId] at fits ⊢
  split at fits
  · rename_i pings
    rw [if_pos pings]
    exact numbered.issues authData.nextMessageId_issues fits
  · rename_i noPing
    rw [if_neg noPing]
    exact numbered

end SessionConnection

theorem CryptoImpl.later_new (made : new contents serverTime authData = .ok (impl, after)) :
    (issueAll contents.serviceObjects authData).2.issuedIds.Later after.issuedIds := by
  have stamps := (issueAll contents.serviceObjects authData).2.later_stamp false
  obtain ⟨_, ⟨stamp, _, stamped⟩ | ⟨_, rfl⟩⟩ := new_eq_ok made
  · rwa [stamped] at stamps
  · exact Later.refl _

theorem SessionConnection.later_flushPacket {connection : SessionConnection}
    {inputs : FlushInputs} {flushed : Flushed}
    (returned : connection.flushPacket inputs authData = .ok flushed) :
    authData.issuedIds.Later flushed.authData.issuedIds := by
  have pinged := later_nextPingId inputs authData
  rcases flushPacket_eq_ok returned with
    rfl | ⟨contents, impl, after, rfl, made, rfl⟩
  · exact pinged
  · exact (pinged.trans (later_issueAll _ _)).trans (CryptoImpl.later_new made)

theorem CryptoImpl.numbered_new {stamps : List Stamp}
    (made : new contents serverTime authData = .ok (impl, after))
    (numbered : authData.Numbered stamps) (fits : after.overflowed = false) : after.Numbered
        ((SessionConnection.SentPacket.mk contents impl).container.toList ++
          ((impl.service.map ServiceMessage.stamp).reverse ++ stamps)) ∧
      ∀ container, (SessionConnection.SentPacket.mk contents impl).container = some container →
          ∀ stamp ∈ (impl.service.map ServiceMessage.stamp).reverse ++ stamps,
            stamp.messageId < container.messageId := by
  have issued := numbered.issueAll ((later_new made).overflowed fits)
  obtain ⟨service, container⟩ := new_eq_ok made
  rw [← service] at issued
  rw [SessionConnection.SentPacket.container]
  rcases container with ⟨stamp, mixed, stamped⟩ | ⟨notMixed, rfl⟩
  · obtain ⟨first, second⟩ := Prod.ext_iff.mp stamped
    rw [mixed]
    have all := issued.stamp (by rw [second]; exact fits)
    rw [first, second] at all
    refine ⟨all, ?_⟩
    intro container same known inside
    cases same
    exact ((pairwise_cons.mp all.ordered).1 known inside).1
  · split
    · rename_i stamp mixed
      exact absurd mixed (notMixed stamp)
    · refine ⟨issued, ?_⟩
      intro container same
      cases same

namespace MessageSystem

theorem Ordered.setConnection {system : MessageSystem} {stamps more : List Stamp} {index : Nat}
    {connection : SessionConnection} {authData : AuthData} (ordered : system.Ordered stamps)
    (numbered : authData.Numbered (more ++ stamps)) (queued : ∀ query ∈ connection.toSend,
        query ∈ (system.connections index).toSend ∨ query.stamp ∈ more ++ stamps) :
    (system.setConnection index connection authData).Ordered (more ++ stamps) := by
  constructor
  · exact numbered
  · intro other query known
    by_cases same : other = index
    · subst same
      rw [MessageSystem.setConnection] at known
      dsimp only at known
      rw [Function.update_self] at known
      rcases queued query known with old | new
      · exact mem_append_right _ (ordered.queued other query old)
      · exact new
    · rw [MessageSystem.setConnection] at known
      dsimp only at known
      rw [Function.update_of_ne same] at known
      exact mem_append_right _ (ordered.queued other query known)
  · intro packet known stamp inPacket
    exact mem_append_right _ (ordered.sent packet known stamp inPacket)
  · exact ordered.containers

variable {system : MessageSystem} {stamps : List Stamp} {index : Nat}

section

variable (ordered : system.Ordered stamps)
include ordered

theorem Ordered.push {query : MtprotoQuery} (numbered : authData.Numbered (query.stamp :: stamps)) :
    (system.setConnection index
      ((system.connections index).push query) authData).Ordered (query.stamp :: stamps) := by
  refine @Ordered.setConnection system stamps [query.stamp] index _ _ ordered numbered ?_
  intro known queued
  rw [SessionConnection.push] at queued
  rw [mem_append, mem_singleton] at queued
  rcases queued with old | rfl
  · exact Or.inl old
  · exact Or.inr (mem_cons_self)

variable {connection : SessionConnection}

theorem Ordered.sendQuery {packet : Bytes} {gzipFlag useQuickAck : Bool}
    {invokeAfterMessageIds : List MessageId}
    (sent : (system.connections index).sendQuery packet gzipFlag 0
        invokeAfterMessageIds useQuickAck system.authData = .ok (authData, connection))
    (fits : authData.overflowed = false) :
    ∃ stamps, (system.setConnection index connection authData).Ordered stamps := by
  obtain ⟨query, stamp, rfl, rfl⟩ := sendQuery_new sent
  have numbered := ordered.numbered.stamp fits
  rw [← stamp] at numbered
  exact ⟨_, ordered.push numbered⟩

theorem Ordered.bindKey {packet : Bytes} (sent : (system.connections index).sendQuery packet false
        system.authData.nextMessageId.1 [] false
        system.authData.nextMessageId.2 = .ok (authData, connection))
    (fits : authData.overflowed = false) :
    ∃ stamps, (system.setConnection index connection authData).Ordered stamps := by
  have issues := system.authData.nextMessageId_issues
  have issued := (later_sendQuery sent).overflowed fits
  have later := issues.later issued
  have notZero : system.authData.nextMessageId.1 ≠ 0 :=
    Fin.pos_iff_ne_zero.mp ((Fin.zero_le _).trans_lt later)
  obtain ⟨query, stamp, rfl, rfl⟩ := sendQuery_issued notZero sent
  have numbered := (ordered.numbered.issues issues issued).nextSeqNo (fun stamp known => by
        rw [issues.lastMessageId]
        exact (ordered.numbered.before stamp known).1.trans_lt later)
      fits
  rw [issues.lastMessageId, ← stamp] at numbered
  exact ⟨_, ordered.push numbered⟩

theorem Ordered.flushPacket {inputs : SessionConnection.FlushInputs}
    {flushed : SessionConnection.Flushed}
    (returned : (system.connections index).flushPacket inputs system.authData = .ok flushed)
    (fits : flushed.authData.overflowed = false) : ∃ stamps, Ordered
        { system.setConnection index flushed.connection flushed.authData with
          packets := system.packets ++ flushed.sent.toList }
        stamps := by
  rcases flushPacket_eq_ok returned with
    rfl | ⟨contents, impl, after, isContents, made, rfl⟩
  · have numbered := numbered_nextPingId ordered.numbered fits
    have changed := @Ordered.setConnection system stamps [] index _ _ ordered numbered
        (fun _ queued => Or.inl queued)
    refine ⟨stamps, changed.numbered, changed.queued, ?_, ?_⟩
    · rw [Option.toList_none, append_nil]
      exact changed.sent
    · rw [Option.toList_none, append_nil]
      exact changed.containers
  · have pinged := numbered_nextPingId ordered.numbered
        (((later_issueAll _ _).trans (CryptoImpl.later_new made)).overflowed fits)
    obtain ⟨numbered, above⟩ := CryptoImpl.numbered_new made pinged fits
    rw [← append_assoc] at numbered
    have queries : ∀ query ∈ contents.toSend, query ∈ (system.connections index).toSend := by
      rw [isContents]
      exact fun _ known => mem_of_mem_take known
    have changed := @Ordered.setConnection system stamps _ index
        (((system.connections index).afterCut contents inputs).noteSent contents impl)
        after ordered numbered (by
          intro query queued
          rw [toSend_noteSent] at queued
          exact Or.inl (mem_of_mem_drop queued))
    have inside : ∀ stamp ∈ (SessionConnection.SentPacket.mk contents impl).stamps,
          stamp ∈ (impl.service.map ServiceMessage.stamp).reverse ++ stamps := by
      intro stamp known
      rw [SessionConnection.SentPacket.stamps, mem_append, mem_map] at known
      rw [mem_append, mem_reverse]
      rcases known with ⟨query, known, rfl⟩ | known
      · exact Or.inr (ordered.queued index query (queries query known))
      · exact Or.inl known
    refine ⟨_, changed.numbered, changed.queued, ?_, ?_⟩
    · intro packet known stamp inPacket
      rw [Option.toList_some, mem_append, mem_singleton] at known
      rcases known with old | rfl
      · exact changed.sent packet old stamp inPacket
      · rw [append_assoc, mem_append]
        rw [SessionConnection.SentPacket.wire, mem_append] at inPacket
        exact inPacket.imp id (inside stamp)
    · intro packet known container isContainer stamp inPacket
      rw [Option.toList_some, mem_append, mem_singleton] at known
      rcases known with old | rfl
      · exact changed.containers packet old container isContainer stamp inPacket
      · exact above container isContainer stamp (inside stamp inPacket)

end

variable {event : MessageEvent}

theorem later_of_step {before after : MessageSystem} (step : Step before event after) :
    before.authData.issuedIds.Later after.authData.issuedIds := by
  have issues := before.authData.takes_nextMessageId.isLater
  cases event with
  | nextMessageId =>
    cases step
    exact issues
  | nextSeqNo isContentRelated =>
    cases step
    exact before.authData.later_nextSeqNo isContentRelated
  | sendQuery index packet gzipFlag invokeAfterMessageIds useQuickAck =>
    obtain ⟨⟨authData, connection⟩, sent, same⟩ := bind_eq_ok step
    cases same
    exact later_sendQuery sent
  | bindKey index packet =>
    obtain ⟨⟨authData, connection⟩, sent, same⟩ := bind_eq_ok step
    cases same
    exact issues.trans (later_sendQuery sent)
  | call index connectionCall =>
    cases step
    exact Later.refl _
  | flushPacket index inputs =>
    obtain ⟨flushed, returned, same⟩ := bind_eq_ok step
    cases same
    exact later_flushPacket returned

theorem ordered_of_step {before after : MessageSystem} (ordered : before.Ordered stamps)
    (step : Step before event after) (fits : after.authData.overflowed = false) :
    ∃ stamps, after.Ordered stamps := by
  cases event with
  | nextMessageId =>
    cases step
    exact ⟨stamps, ordered.numbered.issues before.authData.nextMessageId_issues fits,
        ordered.queued, ordered.sent, ordered.containers⟩
  | nextSeqNo isContentRelated =>
    cases step
    exact ⟨stamps, ordered.numbered.skip fits, ordered.queued, ordered.sent, ordered.containers⟩
  | sendQuery index packet gzipFlag invokeAfterMessageIds useQuickAck =>
    obtain ⟨⟨authData, connection⟩, sent, same⟩ := bind_eq_ok step
    cases same
    exact ordered.sendQuery sent fits
  | bindKey index packet =>
    obtain ⟨⟨authData, connection⟩, sent, same⟩ := bind_eq_ok step
    cases same
    exact ordered.bindKey sent fits
  | call index connectionCall =>
    cases step
    exact ⟨_, @Ordered.setConnection before stamps [] index _ _ ordered ordered.numbered
        fun query queued => by
        rcases (keeps_run connectionCall (before.connections index)).toSend with same | none
        · exact Or.inl (same ▸ queued)
        · rw [none] at queued
          cases queued⟩
  | flushPacket index inputs =>
    obtain ⟨flushed, returned, same⟩ := bind_eq_ok step
    cases same
    exact ordered.flushPacket returned fits

theorem ordered_of_run {draws : Nat → Draw} {modes : Nat → ConnectionMode}
    {events : List MessageEvent} {reached : MessageSystem}
    (run : Transition.Run Step (new draws modes) events reached)
    (fits : reached.authData.overflowed = false) : ∃ stamps, reached.Ordered stamps := by
  induction run with
  | start => exact ⟨[], ordered_new draws modes⟩
  | extend _ last ih =>
    obtain ⟨stamps, ordered⟩ := ih ((later_of_step last).overflowed fits)
    exact ordered_of_step ordered last fits

/--
As long as no counter overflows, identifiers increase and are multiples of four;
on the wire, sequence numbers are odd exactly for messages related to content
and grow with the identifiers, and a container has a larger identifier than what
it contains.
-/
theorem message_numbers_ordered
    (draws : Nat → Draw)
    (modes : Nat → ConnectionMode)
    (events : List MessageEvent)
    (reached : MessageSystem)
    (run : Transition.Run Step (new draws modes) events reached)
    (fits : reached.authData.overflowed = false) :
    reached.authData.issued.Pairwise (fun newer older => older < newer) ∧
      (∀ messageId ∈ reached.authData.issued, 4 ∣ messageId.val) ∧
      (∀ packet ∈ reached.packets, ∀ stamp ∈ packet.wire,
        (stamp.seqNo.toNat % 2 = 1 ↔ stamp.isContentRelated = true)) ∧
      (∀ first ∈ reached.packets, ∀ message₁ ∈ first.wire,
        ∀ second ∈ reached.packets, ∀ message₂ ∈ second.wire,
          message₁.messageId < message₂.messageId →
            message₁.seqNo ≤ message₂.seqNo ∧
              (message₁.isContentRelated = true → message₁.seqNo < message₂.seqNo)) ∧
      (∀ packet ∈ reached.packets, ∀ container, packet.container = some container →
          ∀ stamp ∈ packet.stamps, stamp.messageId < container.messageId) := by
  obtain ⟨stamps, ordered⟩ := ordered_of_run run fits
  refine ⟨ordered.numbered.increasing, ?_, ?_, ?_, ordered.containers⟩
  · intro messageId issued
    exact (ordered.numbered.issued messageId issued).2
  · intro packet known stamp inPacket
    rw [ordered.numbered.parity stamp (ordered.sent packet known stamp inPacket)]
    cases stamp.isContentRelated <;> decide
  · intro first firstKnown message₁ inFirst second secondKnown message₂ inSecond earlier
    have order := ordered.numbered.seqNo_le (ordered.sent first firstKnown message₁ inFirst)
        (ordered.sent second secondKnown message₂ inSecond) earlier
    constructor
    · rw [UInt32.le_iff_toNat_le]
      omega
    · intro related
      rw [related, Bool.toNat_true] at order
      rw [UInt32.lt_iff_toNat_lt]
      omega

/-- A clock that goes back, without randomness. -/
def fallingDraws (call : Nat) : Draw :=
  ⟨Fin.ofNat (2 ^ 64) (2 ^ 40 - call), 0⟩

/-- A query, a bind query, and one packet with them. -/
def packetEvents : List MessageEvent :=
  [.sendQuery 0 [1, 2, 3, 4] false [] false, .bindKey 0 [5, 6, 7, 8], .call 0 (.sendAck 5),
    .flushPacket 0 ⟨true, true, false, 60, 0, [], 256⟩]

/-- In the packet the container has the largest identifier. -/
theorem packet_numbers_ordered : ∃ reached,
      Transition.Run Step (new fallingDraws fun _ => .tcp) packetEvents reached ∧
        reached.packets.length = 1 ∧
        ∀ packet ∈ reached.packets, ∀ container, packet.container = some container →
            ∀ stamp ∈ packet.stamps, stamp.messageId < container.messageId := by
  have facts : (packetEvents.foldlM handle (new fallingDraws fun _ => .tcp)).toOption.map
          (fun reached => (reached.authData.overflowed, reached.packets.length)) =
        some (false, 1) := by
    decide +kernel
  cases returned : packetEvents.foldlM handle (new fallingDraws fun _ => .tcp) with
  | error failure =>
    rw [returned] at facts
    cases facts
  | ok reached =>
    rw [returned] at facts
    have both : (reached.authData.overflowed, reached.packets.length) = (false, 1) :=
      Option.some.inj facts
    have run : Transition.Run Step (new fallingDraws fun _ => .tcp) packetEvents reached :=
      Transition.Run.start.foldlM (fun _ _ _ handled => handled) returned
    exact ⟨reached, run, congrArg Prod.snd both,
      (message_numbers_ordered fallingDraws _ packetEvents reached run
        (congrArg Prod.fst both)).2.2.2.2⟩

end MessageSystem

end Autoproto.Mtproto
