import Autoproto.ConnectionMoves
import Mathlib.Data.List.Nodup

namespace Autoproto.Mtproto

open List

/-!
# What a connection has to send is neither lost nor sent twice

A packet takes the first queries that wait, and the last identifiers of four
lists. Two of the lists are asked about again if the packet fails, so their
messages are remembered under the identifiers with which a failure can be
reported.
-/

open SessionConnection (FlushInputs Flushed SentPacket)
open IssuedIds (Later Takes)

/-! ## What a packet takes -/

namespace SessionConnection

/-- All that waits is in the packet or still waits. -/
structure Splits (before : SessionConnection) (contents : PacketContents)
    (after : SessionConnection) : Prop where
  toSend : before.toSend = contents.toSend ++ after.toSend
  toAck : (contents.toAck ++ after.toAckMessageIds).Perm before.toAckMessageIds
  resend : (contents.resend ++ after.toResendAnswerMessageIds).Perm before.toResendAnswerMessageIds
  cancel : (contents.cancel ++ after.toCancelAnswerMessageIds).Perm before.toCancelAnswerMessageIds
  getInfo :
    (contents.getInfo ++ after.toGetStateInfoMessageIds).Perm before.toGetStateInfoMessageIds

/-- The packet is not larger than the server accepts. -/
structure Limited (contents : PacketContents) : Prop where
  queries : contents.toSend.length + contents.cancel.length ≤ maxQueryCount
  toAck : contents.toAck.length ≤ maxMessageIds
  resend : contents.resend.length ≤ maxMessageIds
  getInfo : contents.getInfo.length ≤ maxMessageIds

/-- Nothing that is to be done changes. -/
structure SameTasks (before after : SessionConnection) : Prop where
  mode : after.mode = before.mode
  needDestroyAuthKey : after.needDestroyAuthKey = before.needDestroyAuthKey
  sentDestroyAuthKey : after.sentDestroyAuthKey = before.sentDestroyAuthKey
  toSend : after.toSend = before.toSend
  toAck : after.toAckMessageIds = before.toAckMessageIds
  resend : after.toResendAnswerMessageIds = before.toResendAnswerMessageIds
  cancel : after.toCancelAnswerMessageIds = before.toCancelAnswerMessageIds
  getInfo : after.toGetStateInfoMessageIds = before.toGetStateInfoMessageIds

theorem sameTasks_noteSent (contents : PacketContents) (impl : CryptoImpl)
    (connection : SessionConnection) :
    connection.SameTasks (connection.noteSent contents impl) := by
  obtain ⟨_, _, _, _, same⟩ := noteSent_eq contents impl connection
  rw [same]
  exact ⟨rfl, rfl, rfl, rfl, rfl, rfl, rfl, rfl⟩

theorem perm_cutTail (size : Nat) (messageIds : List MessageId) :
    ((cutTail size messageIds).1 ++ (cutTail size messageIds).2).Perm messageIds := by
  rw [cutTail]
  split
  · rw [append_nil]
  · refine perm_append_comm.trans ?_
    rw [take_append_drop]

variable (inputs : FlushInputs) (pingId : MessageId) (connection : SessionConnection)

theorem limited_packetContents : Limited (connection.packetContents inputs pingId) := by
  have queries := length_toSend_packetContents_le inputs pingId connection
  have cancels := length_cancel_packetContents_le inputs pingId connection
  constructor
  · omega
  all_goals exact length_cutTail_le _ _

theorem splits_afterCut : connection.Splits (connection.packetContents inputs pingId)
      (connection.afterCut (connection.packetContents inputs pingId) inputs) := by
  constructor
  · exact (take_append_drop _ _).symm
  all_goals exact perm_cutTail _ _

theorem Splits.sameTasks {before middle after : SessionConnection} {contents : PacketContents}
    (splits : before.Splits contents middle) (same : middle.SameTasks after) :
    before.Splits contents after := by
  constructor
  · rw [same.toSend]
    exact splits.toSend
  · rw [same.toAck]
    exact splits.toAck
  · rw [same.resend]
    exact splits.resend
  · rw [same.cancel]
    exact splits.cancel
  · rw [same.getInfo]
    exact splits.getInfo

theorem toSend_packetContents_of_noSalt {inputs : FlushInputs} (noSalt : inputs.hasSalt = false)
    (pingId : MessageId) (connection : SessionConnection) :
    (connection.packetContents inputs pingId).toSend = [] := by
  have none : connection.sendCount inputs = 0 := by
    rw [sendCount, noSalt]
    rfl
  rw [packetContents, none]
  rfl

end SessionConnection

/-! ## What is put back -/

namespace ServiceQueryType

def kind : ServiceQueryType → ServiceKind
  | .getStateInfo => .getInfo
  | .resendAnswer => .resend

/-- The identifiers that wait to be asked about. -/
def queue (type : ServiceQueryType) (connection : SessionConnection) : List MessageId :=
  match type with
  | .getStateInfo => connection.toGetStateInfoMessageIds
  | .resendAnswer => connection.toResendAnswerMessageIds

def asked (type : ServiceQueryType) (contents : PacketContents) : List MessageId :=
  match type with
  | .getStateInfo => contents.getInfo
  | .resendAnswer => contents.resend

end ServiceQueryType

namespace SessionConnection

/-- What a failure of a message puts back into one of the lists. -/
def owed (type : ServiceQueryType) (connection : SessionConnection)
    (messageId : MessageId) : List MessageId :=
  match connection.serviceQueries messageId with
  | some query => if query.type = type then query.messageIds else []
  | none => []

theorem owed_congr {first second : SessionConnection} {messageId : MessageId}
    (same : first.serviceQueries messageId = second.serviceQueries messageId)
    (type : ServiceQueryType) : first.owed type messageId = second.owed type messageId := by
  rw [owed, owed, same]

variable (messageIds : List MessageId) (connection : SessionConnection)

theorem foldl_resendAnswer : messageIds.foldl
        (fun connection messageId => connection.resendAnswer messageId)
        connection = { connection with
        toResendAnswerMessageIds := connection.toResendAnswerMessageIds ++ messageIds } := by
  induction messageIds generalizing connection with
  | nil => rw [foldl_nil, append_nil]
  | cons messageId messageIds ih =>
    rw [foldl_cons, ih, resendAnswer, append_assoc, singleton_append]

theorem foldl_getStateInfo : messageIds.foldl
        (fun connection messageId => connection.getStateInfo messageId)
        connection = { connection with
        toGetStateInfoMessageIds := connection.toGetStateInfoMessageIds ++ messageIds } := by
  induction messageIds generalizing connection with
  | nil => rw [foldl_nil, append_nil]
  | cons messageId messageIds ih =>
    rw [foldl_cons, ih, getStateInfo, append_assoc, singleton_append]

/-- Some messages are no longer remembered. -/
structure Forgets (before : SessionConnection) (messageIds : List MessageId)
    (after : SessionConnection) : Prop where
  serviceQueries : ∀ messageId, after.serviceQueries messageId =
        if messageId ∈ messageIds then none
        else before.serviceQueries messageId
  containers : after.containerToServiceMessageId = before.containerToServiceMessageId

/-- The messages are forgotten, and if they differ, all that they have asked about is put back. -/
structure PutsBack (before : SessionConnection) (messageIds : List MessageId)
    (after : SessionConnection) : Prop
    extends Forgets before messageIds after where
  queue : messageIds.Nodup →
      ∀ type : ServiceQueryType,
        type.queue after = type.queue before ++ messageIds.flatMap (before.owed type)

variable (messageId : MessageId)

theorem forgets_forgetServiceQuery (connection : SessionConnection) :
    connection.Forgets [messageId] (connection.forgetServiceQuery messageId) := by
  constructor
  · intro other
    rw [forgetServiceQuery]
    simp only [Function.update_apply, mem_singleton]
  · rfl

theorem putsBack_onMessageFailedInner :
    connection.PutsBack [messageId] (connection.onMessageFailedInner messageId) := by
  have forgets := forgets_forgetServiceQuery messageId connection
  rw [onMessageFailedInner]
  split
  case h_1 unknown =>
    refine ⟨⟨?_, rfl⟩, ?_⟩
    · intro other
      by_cases same : other = messageId <;> simp [same, unknown]
    · intro _ type
      simp [owed, unknown]
  case h_2 query known =>
    cases isType : query.type with
    | resendAnswer =>
      dsimp only
      rw [foldl_resendAnswer]
      refine ⟨⟨forgets.serviceQueries, rfl⟩, ?_⟩
      intro _ type
      cases type <;> simp [owed, known, isType, ServiceQueryType.queue, forgetServiceQuery]
    | getStateInfo =>
      dsimp only
      rw [foldl_getStateInfo]
      refine ⟨⟨forgets.serviceQueries, rfl⟩, ?_⟩
      intro _ type
      cases type <;> simp [owed, known, isType, ServiceQueryType.queue, forgetServiceQuery]

theorem putsBack_foldl :
    connection.PutsBack messageIds (messageIds.foldl onMessageFailedInner connection) := by
  induction messageIds generalizing connection with
  | nil =>
    refine ⟨⟨?_, rfl⟩, ?_⟩
    · intro messageId
      simp
    · intro _ type
      simp
  | cons messageId messageIds ih =>
    have first := putsBack_onMessageFailedInner connection messageId
    have others := ih (connection.onMessageFailedInner messageId)
    refine ⟨⟨?_, others.containers.trans first.containers⟩, ?_⟩
    · intro other
      rw [foldl_cons, others.serviceQueries, first.serviceQueries]
      by_cases isFirst : other = messageId <;>
        by_cases isOther : other ∈ messageIds <;> simp [isFirst, isOther]
    · intro distinct type
      rw [nodup_cons] at distinct
      -- The first failure does not touch the messages of the others.
      have unchanged : messageIds.flatMap ((connection.onMessageFailedInner messageId).owed type) =
            messageIds.flatMap (connection.owed type) := by
        refine flatMap_congr ?_
        intro other isOther
        refine owed_congr ?_ type
        rw [first.serviceQueries, if_neg]
        rw [mem_singleton]
        rintro rfl
        exact distinct.1 isOther
      rw [foldl_cons, others.queue distinct.2, first.queue (pairwise_singleton _ _), unchanged,
        flatMap_singleton, flatMap_cons, append_assoc]

/-- The messages that fail with an identifier. -/
def failedIds (messageId : MessageId) (connection : SessionConnection) : List MessageId :=
  match connection.containerToServiceMessageId messageId with
  | [] => [messageId]
  | messageIds => messageIds

theorem putsBack_onMessageFailed (connection : SessionConnection) :
    connection.PutsBack (connection.failedIds messageId)
      (connection.onMessageFailed messageId) := by
  obtain ⟨noPing, isNoPing, queues, queries, containers⟩ : ∃ noPing : SessionConnection,
        noPing = forgetPing messageId { connection with sentDestroyAuthKey := false } ∧
          (∀ type : ServiceQueryType, type.queue noPing = type.queue connection) ∧
          noPing.serviceQueries = connection.serviceQueries ∧
          noPing.containerToServiceMessageId = connection.containerToServiceMessageId := by
    refine ⟨_, rfl, ?_⟩
    rw [forgetPing]
    split
    all_goals exact ⟨fun type => by cases type <;> rfl, rfl, rfl⟩
  have failed : connection.onMessageFailed messageId =
        (connection.failedIds messageId).foldl onMessageFailedInner noPing := by
    rw [onMessageFailed, failedIds, ← isNoPing, containers]
    cases connection.containerToServiceMessageId messageId with
    | nil | cons => rfl
  have puts := putsBack_foldl (connection.failedIds messageId) noPing
  rw [failed]
  refine ⟨⟨?_, puts.containers.trans containers⟩, ?_⟩
  · intro other
    rw [puts.serviceQueries, queries]
  · intro distinct type
    rw [puts.queue distinct, queues]
    congr 1
    refine flatMap_congr ?_
    intro other _
    exact owed_congr (congrFun queries other) type

end SessionConnection

/-! ## The identifiers under which a packet is remembered -/

namespace SessionConnection.SentPacket

/-- The message that asks, or zero if there is none. -/
def serviceId (type : ServiceQueryType) (packet : SentPacket) : MessageId :=
  packet.impl.messageIdOf type.kind

/-- The identifiers of the messages that ask. -/
def serviceIds (packet : SentPacket) : List MessageId :=
  [packet.serviceId .resendAnswer, packet.serviceId .getStateInfo].filter
    (fun messageId => messageId ≠ 0)

/-- A failure is reported with the container, if there is one. -/
def failureId (type : ServiceQueryType) (packet : SentPacket) : MessageId :=
  if packet.impl.containerMessageId = 0 then packet.serviceId type
  else packet.impl.containerMessageId

variable {packet : SentPacket}

theorem mem_serviceIds {type : ServiceQueryType} (isThere : packet.serviceId type ≠ 0) :
    packet.serviceId type ∈ packet.serviceIds := by
  rw [serviceIds, mem_filter]
  cases type with
  | getStateInfo | resendAnswer => simp [isThere]

theorem mem_serviceIds_iff {messageId : MessageId} :
    messageId ∈ packet.serviceIds ↔ messageId ≠ 0 ∧ ∃ type, messageId = packet.serviceId type := by
  constructor
  · intro isMember
    rw [serviceIds, mem_filter, mem_cons, mem_singleton, decide_eq_true_eq] at isMember
    refine ⟨isMember.2, ?_⟩
    rcases isMember.1 with same | same
    · exact ⟨.resendAnswer, same⟩
    · exact ⟨.getStateInfo, same⟩
  · rintro ⟨isThere, type, rfl⟩
    exact mem_serviceIds isThere

/-- The identifiers of a packet are issued with it, and the container has none of the others. -/
structure New (packet : SentPacket) (before after : List MessageId) : Prop where
  distinct : packet.serviceIds.Nodup
  service : ∀ messageId ∈ packet.serviceIds, messageId ∈ after ∧ messageId ∉ before
  container : packet.impl.containerMessageId ≠ 0 →
      packet.impl.containerMessageId ∈ after ∧ packet.impl.containerMessageId ∉ before
  apart : packet.impl.containerMessageId ∉ packet.serviceIds

theorem New.mono {first before after last : List MessageId} (isNew : packet.New before after)
    (earlier : first <:+ before) (later : after <:+ last) : packet.New first last := by
  constructor
  · exact isNew.distinct
  · intro messageId isMember
    obtain ⟨isIssued, notBefore⟩ := isNew.service messageId isMember
    exact ⟨later.subset isIssued, fun wasIssued => notBefore (earlier.subset wasIssued)⟩
  · intro isThere
    obtain ⟨isIssued, notBefore⟩ := isNew.container isThere
    exact ⟨later.subset isIssued, fun wasIssued => notBefore (earlier.subset wasIssued)⟩
  · exact isNew.apart

end SessionConnection.SentPacket

theorem issued_issueAll (objects : List ServiceObject) (authData : AuthData) :
    (issueAll objects authData).2.issued = ((issueAll objects authData).1.map
        (fun message => message.stamp.messageId)).reverse ++ authData.issued := by
  induction objects generalizing authData with
  | nil => rfl
  | cons object objects ih =>
    have takes :
        (authData.stamp false).2.issued = (authData.stamp false).1.messageId :: authData.issued :=
      authData.takes_stamp.messageIds
    rw [issueAll_cons, ih, takes, map_cons,
      reverse_cons, append_assoc, singleton_append]

namespace CryptoImpl

variable {contents : PacketContents} {serverTime : Rat} {authData after : AuthData}
  {impl : CryptoImpl}

theorem issued_new (made : new contents serverTime authData = .ok (impl, after)) : ∃ container,
      after.issued = container ++
            ((impl.service.map
              (fun message => message.stamp.messageId)).reverse ++ authData.issued) ∧
        (container = [impl.containerMessageId] ∨ container = [] ∧ impl.containerMessageId = 0) := by
  obtain ⟨service, container⟩ := new_eq_ok made
  have issued := issued_issueAll contents.serviceObjects authData
  rw [← service] at issued
  rw [containerMessageId]
  rcases container with ⟨stamp, mixed, stamped⟩ | ⟨notMixed, rfl⟩
  · have takes := (issueAll contents.serviceObjects authData).2.takes_stamp
    rw [stamped] at takes
    refine ⟨[stamp.messageId], ?_, ?_⟩
    · rw [← issued]
      exact takes.messageIds
    · rw [mixed]
      exact Or.inl rfl
  · refine ⟨[], issued, Or.inr ⟨rfl, ?_⟩⟩
    split
    case h_1 stamp mixed => exact absurd mixed (notMixed stamp)
    case h_2 => rfl

theorem exists_of_messageIdOf {kind : ServiceKind} (isThere : impl.messageIdOf kind ≠ 0) :
    ∃ message ∈ impl.service,
      message.kind = kind ∧ message.stamp.messageId = impl.messageIdOf kind := by
  rw [messageIdOf] at isThere ⊢
  split at isThere
  case h_1 message rest found =>
    have isMember : message ∈ ofKind kind impl.service := by
      rw [found]
      exact mem_cons_self
    rw [ofKind, mem_filter, decide_eq_true_eq] at isMember
    exact ⟨message, isMember.1, isMember.2, rfl⟩
  case h_2 => exact absurd rfl isThere

section

variable (made : new contents serverTime authData = .ok (impl, after))
include made

theorem exists_of_asked {type : ServiceQueryType} (asks : type.asked contents ≠ []) :
    ∃ message ∈ impl.service, message.kind = type.kind := by
  have object : ∃ object ∈ contents.serviceObjects, object.kind = type.kind := by
    cases type with
    | getStateInfo =>
      have notEmpty : contents.getInfo ≠ [] := asks
      refine ⟨⟨.getInfo, .ofBytes (msgsStateReq contents.getInfo)⟩, ?_, rfl⟩
      simp [PacketContents.serviceObjects, objectImpl, notEmpty]
    | resendAnswer =>
      have notEmpty : contents.resend ≠ [] := asks
      refine ⟨⟨.resend, .ofBytes (msgResendReq contents.resend)⟩, ?_, rfl⟩
      simp [PacketContents.serviceObjects, objectImpl, notEmpty]
  obtain ⟨object, isObject, isKind⟩ := object
  rw [← issueAll_objects contents.serviceObjects authData] at isObject
  obtain ⟨message, isMember, rfl⟩ := mem_map.mp isObject
  rw [← (new_eq_ok made).1] at isMember
  exact ⟨message, isMember, isKind⟩

theorem messageIdOf_ne_zero (notZero : 0 ∉ after.issued) {type : ServiceQueryType}
    (asks : type.asked contents ≠ []) : impl.messageIdOf type.kind ≠ 0 := by
  obtain ⟨message, isMember, isKind⟩ := exists_of_asked made asks
  have ofType : message ∈ ofKind type.kind impl.service := by
    rw [ofKind, mem_filter, decide_eq_true_eq]
    exact ⟨isMember, isKind⟩
  rw [messageIdOf]
  split
  case h_1 first rest found =>
    have isFirst : first ∈ ofKind type.kind impl.service := by
      rw [found]
      exact mem_cons_self
    have isFirst := mem_of_mem_filter isFirst
    obtain ⟨container, issued, _⟩ := issued_new made
    intro isZero
    refine notZero ?_
    rw [issued, mem_append, mem_append, mem_reverse]
    exact Or.inr (Or.inl (mem_map.mpr ⟨first, isFirst, isZero⟩))
  case h_2 none =>
    rw [none] at ofType
    cases ofType

theorem new_of_new (differ : after.issued.Nodup) :
    SentPacket.New ⟨contents, impl⟩ authData.issued after.issued := by
  obtain ⟨container, issued, isContainer⟩ := issued_new made
  rw [issued] at differ ⊢
  obtain ⟨_, others, apart⟩ := nodup_append.mp differ
  obtain ⟨service, _, older⟩ := nodup_append.mp others
  rw [nodup_reverse] at service
  have ofService : ∀ messageId ∈ SentPacket.serviceIds ⟨contents, impl⟩,
        messageId ∈ (impl.service.map (fun message => message.stamp.messageId)).reverse := by
    intro messageId isMember
    obtain ⟨isThere, type, rfl⟩ := SentPacket.mem_serviceIds_iff.mp isMember
    obtain ⟨message, isMember, _, same⟩ := exists_of_messageIdOf isThere
    rw [mem_reverse]
    exact mem_map.mpr ⟨message, isMember, same⟩
  constructor
  · rw [SentPacket.serviceIds]
    by_cases same :
        SentPacket.serviceId .resendAnswer ⟨contents, impl⟩ =
          SentPacket.serviceId .getStateInfo ⟨contents, impl⟩
    · by_cases isThere : SentPacket.serviceId .getStateInfo ⟨contents, impl⟩ = 0
      · simp [same, isThere]
      · -- One message would be of both kinds.
        obtain ⟨first, isFirst, firstKind, firstId⟩ := exists_of_messageIdOf (same ▸ isThere)
        obtain ⟨second, isSecond, secondKind, secondId⟩ := exists_of_messageIdOf isThere
        have one := inj_on_of_nodup_map service isFirst isSecond
            (firstId.trans (same.trans secondId.symm))
        rw [one, secondKind] at firstKind
        cases firstKind
    · refine List.Nodup.filter _ ?_
      simp [same]
  · intro messageId isMember
    have isIssued := ofService messageId isMember
    refine ⟨?_, fun wasIssued => older _ isIssued _ wasIssued rfl⟩
    exact mem_append_right _ (mem_append_left _ isIssued)
  · intro isThere
    have isMember : impl.containerMessageId ∈ container := by
      rcases isContainer with rfl | ⟨_, none⟩
      · exact mem_singleton_self _
      · exact absurd none isThere
    refine ⟨mem_append_left _ isMember, ?_⟩
    intro wasIssued
    exact apart _ isMember _ (mem_append_right _ wasIssued) rfl
  · intro isMember
    rcases isContainer with rfl | ⟨_, none⟩
    · exact apart _ (mem_singleton_self _) _ (mem_append_left _ (ofService _ isMember)) rfl
    · exact (SentPacket.mem_serviceIds_iff.mp isMember).1 none

end

end CryptoImpl

end Autoproto.Mtproto
