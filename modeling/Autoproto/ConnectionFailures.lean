import Autoproto.ConnectionConservation

namespace Autoproto.Mtproto

open List SessionConnection SentPacket

/-!
# A packet that fails is asked for again, once

A connection forgets a message when it is answered or fails. A failure before
that puts all that the message has asked for back into its list; a failure that
is reported again puts back nothing.
-/

open SessionConnection (FlushInputs Flushed SentPacket)
open IssuedIds (Later Takes)

/-! ## What is remembered of a packet -/

namespace SessionConnection

theorem containers_emplaceServiceQuery (type : ServiceQueryType)
    (messageId containerMessageId : MessageId) (messageIds : List MessageId)
    (connection : SessionConnection) :
    (connection.emplaceServiceQuery type messageId containerMessageId
        messageIds).containerToServiceMessageId = connection.containerToServiceMessageId := by
  rw [emplaceServiceQuery]
  split <;> rfl

theorem containers_addContainer (messageId containerMessageId : MessageId)
    (connection : SessionConnection) (other : MessageId) :
    (connection.addContainer messageId containerMessageId).containerToServiceMessageId other =
      connection.containerToServiceMessageId other ++
        if other = containerMessageId ∧ containerMessageId ≠ 0 ∧
            messageId ≠ 0 then
          [messageId]
        else
          [] := by
  rw [addContainer]
  split
  case isTrue isNew =>
    dsimp only
    by_cases same : other = containerMessageId
    · simp [same, isNew]
    · simp [same]
  case isFalse isOld => rw [if_neg (fun isNew => isOld ⟨isNew.2.2, isNew.2.1⟩), append_nil]

theorem containers_notePing (contents : PacketContents) (impl : CryptoImpl)
    (connection : SessionConnection) :
    (connection.notePing contents impl).containerToServiceMessageId =
      connection.containerToServiceMessageId := by
  rw [notePing]
  split <;> rfl

theorem containers_noteSent (packet : SentPacket) (connection : SessionConnection)
    (other : MessageId) :
    (connection.noteSent packet.contents packet.impl).containerToServiceMessageId other =
      connection.containerToServiceMessageId other ++
        if other = packet.impl.containerMessageId ∧
            packet.impl.containerMessageId ≠ 0 then
          packet.serviceIds
        else
          [] := by
  rw [noteSent]
  rw [containers_addContainer, containers_addContainer,
    containers_notePing, containers_emplaceServiceQuery,
    containers_emplaceServiceQuery, append_assoc,
    serviceIds, serviceId, serviceId,
    ServiceQueryType.kind, ServiceQueryType.kind]
  congr 1
  by_cases isContainer : other = packet.impl.containerMessageId ∧ packet.impl.containerMessageId ≠ 0
  · simp only [isContainer, true_and, if_true, filter_cons,
      filter_nil, decide_eq_true_eq, not_false_eq_true, ne_eq]
    split <;> split <;> rfl
  · rw [if_neg isContainer, if_neg (fun isNew => isContainer ⟨isNew.1, isNew.2.1⟩),
      if_neg (fun isNew => isContainer ⟨isNew.1, isNew.2.1⟩)]
    rfl

variable {packet : SentPacket} {connection : SessionConnection} {type : ServiceQueryType}
  {gone : ServiceQueryType → Bool} {before after : SessionConnection}

theorem serviceQueries_noteSent_of_notMem {other : MessageId}
    (isOther : other ∉ packet.serviceIds) :
    (connection.noteSent packet.contents packet.impl).serviceQueries other =
      connection.serviceQueries other := by
  have notNew (type : ServiceQueryType) (isThere : packet.serviceId type ≠ 0)
      (same : other = packet.serviceId type) : False :=
    isOther (same ▸ mem_serviceIds isThere)
  rw [serviceQueries_noteSent, serviceQueries_emplaceServiceQuery,
    if_neg (fun isNew => notNew .getStateInfo isNew.2.1 isNew.1),
    serviceQueries_emplaceServiceQuery,
    if_neg (fun isNew => notNew .resendAnswer isNew.2.1 isNew.1)]

theorem serviceQueries_noteSent_self (distinct : packet.serviceIds.Nodup)
    (isThere : packet.serviceId type ≠ 0)
    (isNew : ∀ messageId ∈ packet.serviceIds, connection.serviceQueries messageId = none) :
    (connection.noteSent packet.contents packet.impl).serviceQueries (packet.serviceId type) =
      some ⟨type, packet.impl.containerMessageId, type.asked packet.contents⟩ := by
  have unknown := isNew (packet.serviceId type) (mem_serviceIds isThere)
  have apart : packet.serviceId type = packet.serviceId .resendAnswer →
        packet.serviceId type = packet.serviceId .getStateInfo → False := by
    intro isResend isInfo
    rw [serviceIds, ← isResend, ← isInfo] at distinct
    simp [isThere] at distinct
  rw [serviceQueries_noteSent, serviceQueries_emplaceServiceQuery]
  cases type with
  | resendAnswer =>
    have notInfo := apart rfl
    rw [if_neg (fun isInfo => notInfo isInfo.1), serviceQueries_emplaceServiceQuery,
      if_pos ⟨rfl, isThere, unknown⟩]
    rfl
  | getStateInfo =>
    have notResend := fun isResend => apart isResend rfl
    rw [if_pos]
    · rfl
    · refine ⟨rfl, isThere, ?_⟩
      rw [serviceQueries_emplaceServiceQuery, if_neg (fun isResend => notResend isResend.1)]
      exact unknown

/-! ## Connections that remember a packet -/

/-- All that is remembered has been issued. -/
structure Known (connection : SessionConnection) (issued : List MessageId) : Prop where
  queries : ∀ messageId, messageId ∉ issued → connection.serviceQueries messageId = none
  containers :
    ∀ messageId, messageId ∉ issued → connection.containerToServiceMessageId messageId = []
  members :
    ∀ container, ∀ messageId ∈ connection.containerToServiceMessageId container, messageId ∈ issued
  noContainer : connection.containerToServiceMessageId 0 = []

/-- What is remembered of a packet, when the messages that are gone have failed or been answered. -/
structure Recalls (packet : SentPacket) (gone : ServiceQueryType → Bool)
    (connection : SessionConnection) : Prop where
  own : ∀ type, packet.serviceId type ≠ 0 →
      connection.serviceQueries (packet.serviceId type) =
        if gone type then none
        else
          some ⟨type, packet.impl.containerMessageId, type.asked packet.contents⟩
  contained : packet.impl.containerMessageId ≠ 0 →
      connection.containerToServiceMessageId packet.impl.containerMessageId = packet.serviceIds
  alone : ∀ messageId ∈ packet.serviceIds, connection.containerToServiceMessageId messageId = []
  elsewhere : ∀ container, container ≠ packet.impl.containerMessageId →
      ∀ messageId ∈ packet.serviceIds, messageId ∉ connection.containerToServiceMessageId container
  noContainer : connection.containerToServiceMessageId 0 = []

theorem Known.mono {issued more : List MessageId} (known : connection.Known issued)
    (earlier : issued <:+ more) : connection.Known more := by
  have included (messageId : MessageId) (wasIssued : messageId ∈ issued) : messageId ∈ more :=
    earlier.subset wasIssued
  obtain ⟨queries, containers, members, noContainer⟩ := known
  refine ⟨?_, ?_, ?_, noContainer⟩
  · exact fun messageId unknown => queries messageId (mt (included messageId) unknown)
  · exact fun messageId unknown => containers messageId (mt (included messageId) unknown)
  · exact fun container messageId isMember =>
      included messageId (members container messageId isMember)

theorem Known.noteSent {before after : List MessageId} (known : connection.Known before)
    (isNew : packet.New before after) (earlier : before <:+ after) :
    (connection.noteSent packet.contents packet.impl).Known after := by
  have known := known.mono earlier
  constructor
  · intro messageId unknown
    rw [serviceQueries_noteSent_of_notMem fun isMember =>
      unknown (isNew.service messageId isMember).1]
    exact known.queries messageId unknown
  · intro messageId unknown
    rw [containers_noteSent, known.containers messageId unknown, if_neg]
    · rfl
    · rintro ⟨rfl, isThere⟩
      exact unknown (isNew.container isThere).1
  · intro container messageId isMember
    have wasIssued := known.members container messageId
    have isIssued := isNew.service messageId
    rw [containers_noteSent] at isMember
    grind
  · simp [containers_noteSent, known.noContainer, eq_comm]

/-- What has just been sent is remembered. -/
theorem Known.recalls {before after : List MessageId} (known : connection.Known before)
    (isNew : packet.New before after) :
    (connection.noteSent packet.contents packet.impl).Recalls packet (fun _ => false) := by
  have unknown (messageId : MessageId) (isMember : messageId ∈ packet.serviceIds) :=
    (isNew.service messageId isMember).2
  constructor
  · exact fun type isThere => serviceQueries_noteSent_self isNew.distinct isThere
      fun messageId isMember => known.queries messageId (unknown messageId isMember)
  · intro isThere
    simp [containers_noteSent, known.containers _ (isNew.container isThere).2, isThere]
  · intro messageId isMember
    rw [containers_noteSent, known.containers _ (unknown messageId isMember), if_neg]
    · rfl
    · rintro ⟨rfl, _⟩
      exact isNew.apart isMember
  · intro container isOther messageId isMember inOther
    rw [containers_noteSent, if_neg (fun same => isOther same.1), append_nil] at inOther
    exact unknown messageId isMember (known.members container messageId inOther)
  · simp [containers_noteSent, known.noContainer, eq_comm]

theorem Recalls.noteSent {other : SentPacket} {first before after : List MessageId}
    (recalls : connection.Recalls packet gone) (wasNew : packet.New first before)
    (isNew : other.New before after) :
    (connection.noteSent other.contents other.impl).Recalls packet gone := by
  have apart : ∀ messageId ∈ packet.serviceIds, messageId ∉ other.serviceIds := by
    intro messageId isOld isMember
    exact (isNew.service messageId isMember).2 (wasNew.service messageId isOld).1
  have notContainer : ∀ messageId ∈ before,
        ¬(messageId = other.impl.containerMessageId ∧ other.impl.containerMessageId ≠ 0) := by
    rintro messageId isOld ⟨rfl, isThere⟩
    exact (isNew.container isThere).2 isOld
  constructor
  · intro type isThere
    rw [serviceQueries_noteSent_of_notMem (apart _ (mem_serviceIds isThere))]
    exact recalls.own type isThere
  · intro isThere
    rw [containers_noteSent, recalls.contained isThere,
      if_neg (notContainer _ (wasNew.container isThere).1), append_nil]
  · intro messageId isMember
    rw [containers_noteSent, recalls.alone messageId isMember,
      if_neg (notContainer _ (wasNew.service messageId isMember).1)]
    rfl
  · intro container isOther messageId isMember
    have notBefore := recalls.elsewhere container isOther messageId isMember
    have notLater := apart messageId isMember
    rw [containers_noteSent]
    grind
  · simp [containers_noteSent, recalls.noContainer, eq_comm]

theorem Recalls.mem_failedIds_iff (recalls : connection.Recalls packet gone)
    (isThere : packet.serviceId type ≠ 0) (messageId : MessageId) :
    packet.serviceId type ∈ connection.failedIds messageId ↔
      messageId = packet.serviceId type ∨ messageId = packet.failureId type := by
  have isMember := mem_serviceIds isThere
  have alone := recalls.alone _ isMember
  constructor
  · intro fails
    rw [failedIds] at fails
    split at fails
    · exact Or.inl (mem_singleton.mp fails).symm
    case h_2 notEmpty =>
      refine Or.inr ?_
      have isContainer : messageId = packet.impl.containerMessageId := by
        by_contra isOther
        exact recalls.elsewhere messageId isOther _ isMember fails
      rw [failureId, if_neg]
      · exact isContainer
      · intro noContainer
        rw [isContainer, noContainer] at notEmpty
        exact notEmpty recalls.noContainer
  · rintro (rfl | rfl)
    · rw [failedIds, alone]
      exact mem_singleton_self _
    · rw [failureId]
      split
      · rw [failedIds, alone]
        exact mem_singleton_self _
      case isFalse isContainer =>
        rw [failedIds, recalls.contained isContainer]
        split
        case h_1 none =>
          rw [none] at isMember
          cases isMember
        case h_2 => exact isMember

variable {messageIds : List MessageId}

theorem Recalls.forgets {goneAfter : ServiceQueryType → Bool} (recalls : before.Recalls packet gone)
    (forgets : before.Forgets messageIds after) (isGone : ∀ type, packet.serviceId type ≠ 0 →
        (goneAfter type = true ↔ gone type = true ∨ packet.serviceId type ∈ messageIds)) :
    after.Recalls packet goneAfter := by
  constructor
  · intro type isThere
    have isGone := isGone type isThere
    rw [forgets.serviceQueries, recalls.own type isThere]
    grind
  · exact forgets.containers ▸ recalls.contained
  · exact forgets.containers ▸ recalls.alone
  · exact forgets.containers ▸ recalls.elsewhere
  · exact forgets.containers ▸ recalls.noContainer

theorem Recalls.queue_onMessageFailed (recalls : connection.Recalls packet gone)
    (distinct : packet.serviceIds.Nodup) (isThere : packet.serviceId type ≠ 0) :
    type.queue (connection.onMessageFailed (packet.failureId type)) = type.queue connection ++
        if gone type then [] else type.asked packet.contents := by
  have isMember := mem_serviceIds isThere
  have puts := putsBack_onMessageFailed (packet.failureId type) connection
  have owed (other : ServiceQueryType) (otherThere : packet.serviceId other ≠ 0) :
      connection.owed type (packet.serviceId other) =
        if other = type then
          if gone type then [] else type.asked packet.contents
        else [] := by
    rw [owed, recalls.own other otherThere]
    by_cases same : other = type
    · subst same
      cases gone other <;> simp
    · cases gone other <;> simp [same]
  by_cases noContainer : packet.impl.containerMessageId = 0
  · have failed : connection.failedIds (packet.failureId type) = [packet.serviceId type] := by
      rw [failureId, if_pos noContainer, failedIds, recalls.alone _ isMember]
    rw [failed] at puts
    rw [puts.queue (pairwise_singleton _ _), flatMap_singleton, owed type isThere, if_pos rfl]
  · have failed : connection.failedIds (packet.failureId type) = packet.serviceIds := by
      rw [failureId, if_neg noContainer, failedIds, recalls.contained noContainer]
      split
      case h_1 none => rw [none] at isMember; cases isMember
      case h_2 => rfl
    rw [failed] at puts
    rw [puts.queue distinct, serviceIds]
    congr 1
    -- Only the message of this type puts something back into the list.
    cases type with
    | resendAnswer =>
      by_cases otherThere : packet.serviceId .getStateInfo = 0 <;> simp [isThere, otherThere, owed]
    | getStateInfo =>
      by_cases otherThere : packet.serviceId .resendAnswer = 0 <;> simp [isThere, otherThere, owed]

theorem Known.forgets {issued : List MessageId} (known : before.Known issued)
    (forgets : before.Forgets messageIds after) : after.Known issued := by
  constructor
  · intro messageId unknown
    rw [forgets.serviceQueries, known.queries messageId unknown, ite_self]
  · exact forgets.containers ▸ known.containers
  · exact forgets.containers ▸ known.members
  · exact forgets.containers ▸ known.noContainer

theorem forgets_nil (queries : after.serviceQueries = before.serviceQueries)
    (containers : after.containerToServiceMessageId = before.containerToServiceMessageId) :
    before.Forgets [] after := by
  constructor
  · intro messageId
    rw [queries]
    rfl
  · exact containers

end SessionConnection

/-! ## Runs -/

namespace MessageEvent

/-- Another connection takes the place of this one. -/
def reconnects (index : Nat) : MessageEvent → Bool
  | .call other (.reconnect _) => decide (other = index)
  | _ => false

/-- The messages that an event makes the connection forget. -/
def forgotten (index : Nat) (connection : SessionConnection) : MessageEvent → List MessageId
  | .call other (.forgetServiceQuery messageId) =>
    if other = index then [messageId] else []
  | .call other (.onMessageFailed messageId) =>
    if other = index then connection.failedIds messageId else []
  | _ => []

/--
A message of the packet is answered or fails, by its own identifier or by the
one of the container.
-/
def settles (index : Nat) (packet : SentPacket) (type : ServiceQueryType) : MessageEvent → Bool
  | .call other (.forgetServiceQuery messageId) =>
    decide (other = index ∧ messageId = packet.serviceId type)
  | .call other (.onMessageFailed messageId) =>
    decide (other = index ∧ (messageId = packet.serviceId type ∨ messageId = packet.failureId type))
  | _ => false

theorem mem_forgotten_iff {connection : SessionConnection} {packet : SentPacket}
    {gone : ServiceQueryType → Bool} {type : ServiceQueryType}
    (recalls : connection.Recalls packet gone) (isThere : packet.serviceId type ≠ 0) (index : Nat)
    (event : MessageEvent) : packet.serviceId type ∈ event.forgotten index connection ↔
      event.settles index packet type = true := by
  cases event with
  | call other connectionCall =>
    by_cases isIndex : other = index
    · cases connectionCall with
      | forgetServiceQuery messageId => simp [forgotten, settles, isIndex, eq_comm]
      | onMessageFailed messageId =>
        simp [forgotten, settles, isIndex, recalls.mem_failedIds_iff isThere]
      | _ => simp [forgotten, settles]
    · cases connectionCall <;> simp [forgotten, settles, isIndex]
  | _ => simp [forgotten, settles]

end MessageEvent

namespace MessageSystem

theorem connections_setConnection_self (index : Nat) (connection : SessionConnection)
    (authData : AuthData) (system : MessageSystem) :
    (system.setConnection index connection authData).connections index = connection := by
  exact Function.update_self index connection system.connections

inductive Change (index : Nat) (before : MessageSystem) (event : MessageEvent)
    (after : MessageSystem) : Prop where
  | forgets :
      (before.connections index).Forgets
        (event.forgotten index (before.connections index))
        (after.connections index) →
      Change index before event after
  | sends (packet : SentPacket) (middle : SessionConnection) :
      event.forgotten index (before.connections index) = [] →
      (before.connections index).Forgets [] middle →
      after.connections index = middle.noteSent packet.contents packet.impl →
      packet.New before.authData.issued after.authData.issued →
      Change index before event after

variable {before after : MessageSystem} {event : MessageEvent} {connection : SessionConnection}
  {index : Nat} {inputs : FlushInputs} {authData : AuthData} {flushed : Flushed}
  {packet : SentPacket}

theorem Change.of_ne {other : Nat} (isOther : index ≠ other)
    (same : after.connections = Function.update before.connections other connection)
    (nothing : event.forgotten index (before.connections index) = []) :
    Change index before event after := by
  refine .forgets ?_
  rw [nothing, same, Function.update_of_ne isOther]
  exact forgets_nil rfl rfl

theorem Change.of_eq
    (same : after.connections = Function.update before.connections index connection)
    (forgets : (before.connections index).Forgets
        (event.forgotten index (before.connections index)) connection) :
    Change index before event after := by
  refine .forgets ?_
  rw [same, Function.update_self]
  exact forgets

/-- A query is pushed. -/
theorem pushes_of_sendQuery {after : SessionConnection} {packet : Bytes}
    {gzipFlag useQuickAck : Bool} {messageId : MessageId} {invokeAfterMessageIds : List MessageId}
    {numbered : AuthData}
    (sent : connection.sendQuery packet gzipFlag messageId invokeAfterMessageIds
        useQuickAck authData = .ok (numbered, after)) : connection.Forgets [] after := by
  obtain ⟨_, _, sent⟩ := bind_eq_ok sent
  cases sent
  exact forgets_nil rfl rfl

theorem forgets_run {connectionCall : ConnectionCall}
    (stays : (MessageEvent.call index connectionCall).reconnects index = false) : connection.Forgets
      ((MessageEvent.call index connectionCall).forgotten index connection)
      (connectionCall.run connection) := by
  cases connectionCall with
  | sendAck messageId =>
    rw [ConnectionCall.run, sendAck]
    split <;> exact forgets_nil rfl rfl
  | forgetServiceQuery messageId =>
    rw [MessageEvent.forgotten, if_pos rfl]
    exact forgets_forgetServiceQuery messageId connection
  | onMessageFailed messageId =>
    rw [MessageEvent.forgotten, if_pos rfl]
    exact (putsBack_onMessageFailed messageId connection).toForgets
  | reconnect mode =>
    rw [MessageEvent.reconnects, decide_eq_false_iff_not] at stays
    exact absurd rfl stays
  | _ => exact forgets_nil rfl rfl

theorem sends_of_flushed (returned : connection.flushPacket inputs authData = .ok flushed)
    (differ : flushed.authData.issued.Nodup) :
    (flushed.sent = none ∧ flushed.connection = connection) ∨
      ∃ packet middle, flushed.sent = some packet ∧ connection.Forgets [] middle ∧
          flushed.connection = middle.noteSent packet.contents packet.impl ∧
          packet.New authData.issued flushed.authData.issued := by
  rcases flushPacket_eq_ok returned with
    rfl | ⟨contents, impl, after, rfl, made, rfl⟩
  · exact Or.inl ⟨rfl, rfl⟩
  · have cut (contents : PacketContents) :
        connection.Forgets [] (connection.afterCut contents inputs) :=
      forgets_nil rfl rfl
    refine Or.inr ⟨_, _, rfl, cut _, rfl, ?_⟩
    exact (CryptoImpl.new_of_new made differ).mono (later_nextPingId inputs authData).messageIds
      (suffix_refl _)

theorem change_of_step (step : Step before event after) (differ : after.authData.issued.Nodup)
    (stays : event.reconnects index = false) : Change index before event after := by
  cases event with
  | nextMessageId | nextSeqNo =>
    cases step
    exact .forgets (forgets_nil rfl rfl)
  | sendQuery other | bindKey other =>
    obtain ⟨⟨authData, connection⟩, sent, same⟩ := bind_eq_ok step
    cases same
    by_cases isOther : index = other
    · subst isOther
      exact .of_eq rfl (pushes_of_sendQuery sent)
    · exact .of_ne isOther rfl rfl
  | call other connectionCall =>
    cases step
    by_cases isOther : index = other
    · subst isOther
      exact .of_eq rfl (forgets_run stays)
    · refine .of_ne isOther rfl ?_
      cases connectionCall <;> simp [MessageEvent.forgotten, Ne.symm isOther]
  | flushPacket other inputs =>
    obtain ⟨flushed, returned, same⟩ := bind_eq_ok step
    cases same
    by_cases isOther : index = other
    · subst isOther
      rcases sends_of_flushed returned differ with
        ⟨_, nothing⟩ | ⟨packet, middle, _, forgets, sent, isNew⟩
      · refine .of_eq rfl ?_
        rw [nothing]
        exact forgets_nil rfl rfl
      · refine .sends packet middle rfl forgets ?_ isNew
        exact (connections_setConnection_self index flushed.connection
          flushed.authData before).trans sent
    · exact .of_ne isOther rfl rfl

theorem known_new (mode : ConnectionMode) (issued : List MessageId) :
    SessionConnection.Known { mode := mode } issued :=
  ⟨fun _ _ => rfl, fun _ _ => rfl, nofun, rfl⟩

theorem known_of_step (known : (before.connections index).Known before.authData.issued)
    (step : Step before event after) (differ : after.authData.issued.Nodup) :
    (after.connections index).Known after.authData.issued := by
  have earlier := (later_of_step step).messageIds
  cases stays : event.reconnects index with
  | true =>
    unfold MessageEvent.reconnects at stays
    split at stays
    case h_1 other mode =>
      rw [decide_eq_true_eq] at stays
      subst stays
      cases step
      rw [connections_setConnection_self]
      exact known_new mode _
    · cases stays
  | false =>
    cases change_of_step step differ stays with
    | forgets forgets => exact (known.mono earlier).forgets forgets
    | sends packet middle _ forgets sent isNew =>
      rw [sent]
      exact (known.forgets forgets).noteSent isNew earlier

variable {reached : MessageSystem} {events : List MessageEvent}

theorem known_of_run {draws : Nat → Draw} {modes : Nat → ConnectionMode}
    (run : Transition.Run Step (new draws modes) events reached)
    (differ : reached.authData.issued.Nodup) (index : Nat) :
    (reached.connections index).Known reached.authData.issued := by
  induction run with
  | start => exact known_new (modes index) []
  | extend _ last ih =>
    have earlier := (later_of_step last).messageIds
    exact known_of_step (ih (differ.sublist earlier.sublist)) last differ

variable {first : List MessageId}

theorem recalls_of_step {gone : ServiceQueryType → Bool}
    (recalls : (before.connections index).Recalls packet gone)
    (wasNew : packet.New first before.authData.issued) (step : Step before event after)
    (differ : after.authData.issued.Nodup) (stays : event.reconnects index = false) :
    (after.connections index).Recalls packet
      (fun type => gone type || event.settles index packet type) := by
  have settles (type : ServiceQueryType) (isThere : packet.serviceId type ≠ 0) :
      (gone type || event.settles index packet type) = true ↔ gone type = true ∨
          packet.serviceId type ∈ event.forgotten index (before.connections index) := by
    rw [Bool.or_eq_true, event.mem_forgotten_iff recalls isThere index]
  cases change_of_step step differ stays with
  | forgets forgets => exact recalls.forgets forgets settles
  | sends other middle nothing forgets sent isNew =>
    rw [nothing] at settles
    rw [sent]
    exact (recalls.forgets forgets settles).noteSent wasNew isNew

theorem suffix_of_run {first : MessageSystem} (run : Transition.Run Step first events reached) :
    first.authData.issued <:+ reached.authData.issued := by
  induction run with
  | start => exact suffix_refl _
  | extend _ last ih =>
    exact ih.trans (later_of_step last).messageIds

theorem recalls_of_run {sent : MessageSystem} {later : List MessageEvent}
    (recalls : (sent.connections index).Recalls packet (fun _ => false))
    (isNew : packet.New first sent.authData.issued) (run : Transition.Run Step sent later reached)
    (differ : reached.authData.issued.Nodup)
    (stays : ∀ event ∈ later, event.reconnects index = false) :
    (reached.connections index).Recalls packet
      (fun type => later.any (·.settles index packet type)) := by
  induction run with
  | start => exact recalls
  | @extend events before after event run last ih =>
    have earlier := (later_of_step last).messageIds
    have recalled := ih (differ.sublist earlier.sublist)
        (fun event isMember => stays event (mem_append_left _ isMember))
    have kept := recalls_of_step recalled
        (isNew.mono (suffix_refl _) (suffix_of_run run)) last differ
        (stays event (mem_append_right _ (mem_singleton_self _)))
    simpa only [any_append, any_cons, any_nil, Bool.or_false] using kept

theorem recalls_of_flushed (returned : connection.flushPacket inputs authData = .ok flushed)
    (isSent : flushed.sent = some packet) (known : connection.Known authData.issued)
    (differ : flushed.authData.issued.Nodup) :
    flushed.connection.Recalls packet (fun _ => false) ∧
      packet.New authData.issued flushed.authData.issued := by
  rcases sends_of_flushed returned differ with
    ⟨nothing, _⟩ | ⟨other, middle, same, forgets, after, isNew⟩
  · rw [nothing] at isSent
    cases isSent
  · rw [same] at isSent
    cases isSent
    rw [after]
    exact ⟨(known.forgets forgets).recalls isNew, isNew⟩

theorem serviceId_ne_zero {type : ServiceQueryType}
    (returned : connection.flushPacket inputs authData = .ok flushed)
    (isSent : flushed.sent = some packet) (notZero : 0 ∉ flushed.authData.issued)
    (asks : type.asked packet.contents ≠ []) : packet.serviceId type ≠ 0 := by
  rcases flushPacket_eq_ok returned with
    rfl | ⟨contents, impl, after, rfl, made, rfl⟩
  · cases isSent
  · cases isSent
    exact CryptoImpl.messageIdOf_ne_zero made notZero asks

/--
A packet takes the first queries that wait and the last identifiers of each
list, within its limits; the rest still waits. As long as all identifiers
differ, a failure puts back what the packet has asked for, unless that has been
answered or put back before.
-/
theorem flushed_packet_conserved :
    (∀ (connection : SessionConnection) (inputs : FlushInputs) (authData : AuthData)
        (flushed : Flushed),
      connection.flushPacket inputs authData = .ok flushed →
        (flushed.sent = none → flushed.connection = connection) ∧
          ∀ packet, flushed.sent = some packet →
            connection.Splits packet.contents flushed.connection ∧
              SessionConnection.Limited packet.contents ∧
              (inputs.hasSalt = false → packet.contents.toSend = [])) ∧
      ∀ (draws : Nat → Draw)
          (modes : Nat → ConnectionMode)
          (events later : List MessageEvent)
          (before sent reached : MessageSystem)
          (index : Nat)
          (inputs : FlushInputs)
          (packet : SentPacket),
        Transition.Run Step (new draws modes) events before →
          Step before (.flushPacket index inputs) sent →
          sent.packets = before.packets ++ [packet] →
          Transition.Run Step sent later reached →
          (0 :: reached.authData.issued).Nodup →
          (∀ event ∈ later, event.reconnects index = false) →
          ∀ type : ServiceQueryType, type.asked packet.contents ≠ [] →
            type.queue ((reached.connections index).onMessageFailed (packet.failureId type)) =
              type.queue (reached.connections index) ++
                if later.any (·.settles index packet type) then []
                else type.asked packet.contents := by
  constructor
  · intro connection inputs authData flushed returned
    rcases flushPacket_eq_ok returned with
      rfl | ⟨contents, impl, after, rfl, made, rfl⟩
    · exact ⟨fun _ => rfl, nofun⟩
    · refine ⟨nofun, ?_⟩
      rintro packet same
      cases same
      refine ⟨?_, ?_, ?_⟩
      · exact (splits_afterCut inputs _ connection).sameTasks (sameTasks_noteSent ..)
      · exact limited_packetContents inputs _ connection
      · intro noSalt
        exact toSend_packetContents_of_noSalt noSalt _ connection
  · intro draws modes events later before sent reached index inputs packet
      run step isPacket more differ stays type asks
    rw [nodup_cons] at differ
    have afterwards := suffix_of_run more
    have wereDifferent := differ.2.sublist afterwards.sublist
    have earlier := wereDifferent.sublist (later_of_step step).messageIds.sublist
    have known := known_of_run run earlier index
    obtain ⟨flushed, returned, same⟩ := bind_eq_ok step
    have same := Except.ok.inj same
    have authData : flushed.authData = sent.authData := congrArg MessageSystem.authData same
    have connection : flushed.connection = sent.connections index := by
      rw [← same]
      exact (connections_setConnection_self index flushed.connection flushed.authData before).symm
    have isSent : flushed.sent = some packet := by
      have packets : before.packets ++ flushed.sent.toList = sent.packets :=
        congrArg MessageSystem.packets same
      rw [isPacket] at packets
      exact Option.toList_eq_singleton_iff.mp (append_cancel_left packets)
    rw [← authData] at wereDifferent afterwards
    obtain ⟨recalls, isNew⟩ := recalls_of_flushed returned isSent known wereDifferent
    rw [connection] at recalls
    rw [authData] at isNew
    refine
      (recalls_of_run recalls isNew more differ.2 stays).queue_onMessageFailed isNew.distinct ?_
    refine serviceId_ne_zero returned isSent ?_ asks
    exact fun isZero => differ.1 (afterwards.subset isZero)

/-- An answer is asked for again, and a state. -/
def askingEvents : List MessageEvent :=
  [.call 0 (.resendAnswer 5), .call 0 (.getStateInfo 7)]

def askAndFlush : Except Fault (MessageSystem × MessageSystem) := do
  let before ← askingEvents.foldlM handle (new fallingDraws fun _ => .tcp)
  let sent ← before.handle (.flushPacket 0 ⟨true, false, false, 60, 0, [], 256⟩)
  return (before, sent)

/-- The two identifiers are sent in a container, and each is put back by the first failure only. -/
theorem asked_again_once : ∃ (sent : MessageSystem) (packet : SentPacket), sent.packets = [packet] ∧
        packet.impl.containerMessageId ≠ 0 ∧ ∀ type : ServiceQueryType,
          type.asked packet.contents ≠ [] ∧
            type.queue ((sent.connections 0).onMessageFailed (packet.failureId type)) =
              type.queue (sent.connections 0) ++ type.asked packet.contents ∧ type.queue
                (((sent.connections 0).onMessageFailed
                  (packet.failureId type)).onMessageFailed (packet.failureId type)) =
              type.queue ((sent.connections 0).onMessageFailed (packet.failureId type)) := by
  have facts : askAndFlush.toOption.any (fun systems => decide (systems.1.packets = [] ∧
            (0 :: systems.2.authData.issued).Nodup ∧
            systems.2.packets.any (fun packet => decide (packet.impl.containerMessageId ≠ 0 ∧
                  packet.contents.resend = [5] ∧
                  packet.contents.getInfo = [7])) ∧
            systems.2.packets.length = 1)) = true := by
    decide +kernel
  obtain ⟨⟨before, sent⟩, returned, holds⟩ := exists_of_any facts
  obtain ⟨noPackets, differ, isAsking, one⟩ := of_decide_eq_true holds
  obtain ⟨_, first, returned⟩ := bind_eq_ok returned
  obtain ⟨_, flushed, same⟩ := bind_eq_ok returned
  cases same
  have run : Transition.Run Step (new fallingDraws fun _ => .tcp) askingEvents before :=
    Transition.Run.start.foldlM (fun _ _ _ handled => handled) first
  obtain ⟨packet, isPacket⟩ := length_eq_one_iff.mp one
  rw [isPacket, any_cons, any_nil, Bool.or_false, decide_eq_true_eq] at isAsking
  obtain ⟨isContainer, resend, getInfo⟩ := isAsking
  refine ⟨sent, packet, isPacket, isContainer, ?_⟩
  intro type
  have asks : type.asked packet.contents ≠ [] := by
    cases type with
    | getStateInfo =>
      rw [ServiceQueryType.asked, getInfo]
      decide
    | resendAnswer =>
      rw [ServiceQueryType.asked, resend]
      decide
  have isNew : sent.packets = before.packets ++ [packet] := by
    rw [noPackets]
    exact isPacket
  have once := flushed_packet_conserved.2 fallingDraws _ askingEvents [] before sent
      sent 0 _ packet run flushed isNew .start differ nofun type asks
  let report : MessageEvent :=
    .call 0 (.onMessageFailed (packet.failureId type))
  have reported : Transition.Run Step sent [report]
        (sent.setConnection 0 ((sent.connections 0).onMessageFailed (packet.failureId type))
          sent.authData) :=
    .extend .start rfl
  have twice := flushed_packet_conserved.2 fallingDraws _ askingEvents [report] before
      sent _ 0 _ packet run flushed isNew reported differ (by
        intro event isMember
        cases mem_singleton.mp isMember
        rfl) type asks
  have settles : [report].any (·.settles 0 packet type) = true := by
    simp [report, MessageEvent.settles]
  rw [settles, if_pos rfl, append_nil, connections_setConnection_self] at twice
  exact ⟨asks, once, twice⟩

end MessageSystem

end Autoproto.Mtproto
