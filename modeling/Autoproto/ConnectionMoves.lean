import Autoproto.MessageOrder
import Autoproto.PacketMessages

namespace Autoproto.Mtproto

open List

/-!
# What a connection does, as moves

Whatever is called of a connection, it keeps the queries that wait or drops them all, or it sends
a packet.
-/

open SessionConnection (FlushInputs Flushed SentPacket)

open IssuedIds (Later Takes)

/-! ## Identifiers -/

theorem AuthData.takes_stamp (authData : AuthData) :
    authData.issuedIds.Takes (authData.stamp false).1.messageId
      (authData.stamp false).2.issuedIds :=
  authData.takes_nextMessageId

theorem bounds_of_mem_issueAll {objects : List ServiceObject} {authData : AuthData}
    {message : ServiceMessage} (fits : (issueAll objects authData).2.overflowed = false)
    (isMember : message ∈ (issueAll objects authData).1) :
    authData.lastMessageId < message.stamp.messageId ∧
      message.stamp.messageId ≤ (issueAll objects authData).2.lastMessageId := by
  induction objects generalizing authData with
  | nil => cases isMember
  | cons object objects ih =>
    have takes := authData.takes_stamp
    have others := later_issueAll objects (authData.stamp false).2
    have before := takes.later (others.overflowed fits)
    have upTo := others.lastMessageId fits
    have last : (authData.stamp false).2.lastMessageId = (authData.stamp false).1.messageId :=
      takes.lastMessageId
    rcases mem_cons.mp isMember with rfl | isOther
    · exact ⟨before, last ▸ upTo⟩
    · obtain ⟨after, bound⟩ := ih fits isOther
      exact ⟨before.trans (last ▸ after), bound⟩

/-! ## Packets -/

namespace CryptoImpl

theorem onlyType_eq_ok {toSend : List MtprotoQuery} {service : List ServiceMessage}
    {type : CryptoType} {parentMessageId : MessageId} (one : toSend.length + service.length = 1)
    (typed : onlyType toSend service = .ok (type, parentMessageId)) :
    (∀ stamp, type ≠ .mixed stamp) ∧
      toSend.map MtprotoQuery.messageId ++ service.map (fun message => message.stamp.messageId) =
        [parentMessageId] := by
  cases toSend with
  | nil =>
    rw [length_nil, Nat.zero_add, length_eq_one_iff] at one
    obtain ⟨message, rfl⟩ := one
    rw [onlyType_service] at typed
    cases typed
    exact ⟨fun _ => CryptoType.noConfusion, rfl⟩
  | cons query rest =>
    rw [length_cons] at one
    have noRest : rest = [] := length_eq_zero_iff.mp (by omega)
    have noService : service = [] := length_eq_zero_iff.mp (by omega)
    subst noRest noService
    obtain ⟨_, _, typed⟩ := bind_eq_ok typed
    cases typed
    exact ⟨fun _ => CryptoType.noConfusion, rfl⟩

/-- The identifiers of a packet, apart from the container. -/
def messageIds (contents : PacketContents) (impl : CryptoImpl) : List MessageId :=
  contents.toSend.map MtprotoQuery.messageId ++
    impl.service.map (fun message => message.stamp.messageId)

structure Packed (impl : CryptoImpl) (contents : PacketContents)
    (before after : IssuedIds) : Prop where
  later : before.Later after
  service : after.overflowed = false →
      ∀ message ∈ impl.service, before.lastMessageId < message.stamp.messageId ∧
          message.stamp.messageId ≤ after.lastMessageId
  parent : (impl.containerMessageId = impl.parentMessageId ∧
        ∃ middle, before.Later middle ∧ middle.Takes impl.containerMessageId after) ∨
      (impl.containerMessageId = 0 ∧ impl.messageIds contents = [impl.parentMessageId])

variable {impl : CryptoImpl}

theorem Packed.of_later {contents : PacketContents} {first before after : IssuedIds}
    (packed : impl.Packed contents before after) (later : first.Later before) :
    impl.Packed contents first after := by
  constructor
  · exact later.trans packed.later
  · intro fits message isMember
    obtain ⟨isAfter, bound⟩ := packed.service fits message isMember
    have earlier := later.lastMessageId (packed.later.overflowed fits)
    exact ⟨earlier.trans_lt isAfter, bound⟩
  · rcases packed.parent with ⟨same, middle, isLater, takes⟩ | only
    · exact Or.inl ⟨same, middle, later.trans isLater, takes⟩
    · exact Or.inr only

theorem packed_of_new {contents : PacketContents} {serverTime : Rat} {authData after : AuthData}
    (few : contents.toSend.length + contents.serviceObjects.length < 2 ^ 31)
    (made : new contents serverTime authData = .ok (impl, after)) :
    impl.Packed contents authData.issuedIds after.issuedIds := by
  have issued := later_issueAll contents.serviceObjects authData
  have bounds (message : ServiceMessage) :=
    @bounds_of_mem_issueAll contents.serviceObjects authData message
  have sameLength := congrArg length (issueAll_objects contents.serviceObjects authData)
  rw [length_map] at sameLength
  rw [← sameLength] at few
  obtain ⟨_, _, made⟩ := bind_eq_ok made
  obtain ⟨queries, _, made⟩ := bind_eq_ok made
  obtain ⟨_, notEmpty, made⟩ := bind_eq_ok made
  have notEmpty := holds_of_check notEmpty
  split at made
  · cases made
    have takes := (issueAll contents.serviceObjects authData).2.takes_stamp
    constructor
    · exact issued.trans takes.isLater
    · intro fits message isMember
      obtain ⟨after, bound⟩ := bounds message (takes.overflowed fits) isMember
      exact ⟨after, bound.trans (takes.isLater.lastMessageId fits)⟩
    · exact Or.inl ⟨rfl, _, issued, takes⟩
  case isFalse notMany =>
    rw [needsContainer_iff few serverTime] at notMany
    obtain ⟨⟨type, parentMessageId⟩, typed, made⟩ := bind_eq_ok made
    cases made
    have one :
        contents.toSend.length + (issueAll contents.serviceObjects authData).1.length = 1 := by
      have atMost := fun many => notMany (Or.inl many)
      have atLeast :
          contents.toSend.length + (issueAll contents.serviceObjects authData).1.length ≠ 0 := by
        intro none
        rw [none] at notEmpty
        exact notEmpty rfl
      omega
    obtain ⟨notMixed, only⟩ := onlyType_eq_ok one typed
    refine ⟨issued, fun fits message => bounds message fits, Or.inr ⟨?_, only⟩⟩
    rw [containerMessageId]
    split
    case h_1 stamp mixed => exact absurd mixed (notMixed stamp)
    case h_2 => rfl

theorem mem_of_messageIdOf {kind : ServiceKind} (isThere : impl.messageIdOf kind ≠ 0) :
    impl.messageIdOf kind ∈ impl.service.map (fun message => message.stamp.messageId) := by
  rw [messageIdOf] at isThere ⊢
  split at isThere
  case h_1 message rest found =>
    have isMember : message ∈ ofKind kind impl.service := by
      rw [found]
      exact mem_cons_self
    exact mem_map_of_mem (mem_of_mem_filter isMember)
  case h_2 => exact absurd rfl isThere

end CryptoImpl

theorem length_objectImpl_le (notEmpty : Bool) (kind : ServiceKind) (object : Bytes) :
    (objectImpl notEmpty kind object).length ≤ 1 := by
  cases notEmpty with
  | false => exact Nat.zero_le 1
  | true => exact le_refl 1

theorem PacketContents.length_serviceObjects_le (contents : PacketContents) :
    contents.serviceObjects.length ≤ contents.cancel.length + 7 := by
  have cancels (messageIds : List MessageId) : (messageIds.flatMap fun messageId =>
        objectImpl true .cancel (rpcDropAnswer messageId)).length = messageIds.length := by
    simp [objectImpl]
  have one := length_objectImpl_le
  have ack := one (!contents.toAck.isEmpty) .ack (msgsAck contents.toAck)
  have wait := one (decide (0 ≤ contents.maxDelay)) .httpWait
      (httpWait contents.maxDelay contents.maxAfter contents.maxWait)
  have salts :=
    one (decide (0 < contents.futureSaltN)) .getFutureSalts (getFutureSalts contents.futureSaltN)
  have info := one (!contents.getInfo.isEmpty) .getInfo (msgsStateReq contents.getInfo)
  have resend := one (!contents.resend.isEmpty) .resend (msgResendReq contents.resend)
  have destroy := one contents.destroyKey .destroyKey destroyAuthKey
  have ping := one (decide (contents.pingId ≠ 0)) .ping
      (pingDelayDisconnect contents.pingId contents.pingTimeout)
  simp only [serviceObjects, length_append, cancels]
  omega

namespace SessionConnection

theorem sendTill_le (count size : Nat) (queries : List MtprotoQuery) :
    sendTill count size queries ≤ maxQueryCount - count := by
  induction queries generalizing count size with
  | nil => exact Nat.zero_le _
  | cons query queries ih =>
    rw [sendTill]
    split
    case isTrue more =>
      have rest := ih (count + 1) (size + query.packet.length)
      omega
    case isFalse => exact Nat.zero_le _

theorem length_cutTail_le (size : Nat) (messageIds : List MessageId) :
    (cutTail size messageIds).1.length ≤ size := by
  rw [cutTail]
  split
  case isTrue fits => exact fits
  case isFalse more =>
    rw [length_drop]
    omega

section

variable (inputs : FlushInputs) (pingId : MessageId) (connection : SessionConnection)

theorem length_toSend_packetContents_le :
    (connection.packetContents inputs pingId).toSend.length ≤ maxQueryCount := by
  refine (length_take_le _ _).trans ?_
  rw [sendCount]
  split
  · exact sendTill_le 0 0 connection.toSend
  · exact Nat.zero_le _

theorem length_cancel_packetContents_le : (connection.packetContents inputs pingId).cancel.length ≤
      maxQueryCount - (connection.packetContents inputs pingId).toSend.length :=
  length_cutTail_le _ _

theorem packetContents_few : (connection.packetContents inputs pingId).toSend.length +
        (connection.packetContents inputs pingId).serviceObjects.length < 2 ^ 31 := by
  have service := (connection.packetContents inputs pingId).length_serviceObjects_le
  have cancels := length_cancel_packetContents_le inputs pingId connection
  have queries := length_toSend_packetContents_le inputs pingId connection
  rw [maxQueryCount] at cancels queries
  omega

end

theorem serviceQueries_emplaceServiceQuery (type : ServiceQueryType)
    (messageId containerMessageId : MessageId) (messageIds : List MessageId)
    (connection : SessionConnection) (other : MessageId) :
    (connection.emplaceServiceQuery type messageId containerMessageId
        messageIds).serviceQueries other =
      if other = messageId ∧ messageId ≠ 0 ∧
          connection.serviceQueries messageId = none then
        some ⟨type, containerMessageId, messageIds⟩
      else
        connection.serviceQueries other := by
  rw [emplaceServiceQuery]
  split
  case isTrue isNew =>
    dsimp only
    rw [Function.update_apply]
    simp [isNew]
  case isFalse isOld => rw [if_neg (fun isNew => isOld isNew.2)]

theorem serviceQueries_noteSent (contents : PacketContents) (impl : CryptoImpl)
    (connection : SessionConnection) : (connection.noteSent contents impl).serviceQueries =
      ((connection.emplaceServiceQuery .resendAnswer (impl.messageIdOf .resend)
        impl.containerMessageId contents.resend).emplaceServiceQuery .getStateInfo
          (impl.messageIdOf .getInfo) impl.containerMessageId contents.getInfo).serviceQueries := by
  have add (messageId containerMessageId : MessageId) (connection : SessionConnection) :
      (connection.addContainer messageId containerMessageId).serviceQueries =
        connection.serviceQueries := by
    rw [addContainer]
    split <;> rfl
  rw [noteSent, add, add, notePing]
  split <;> rfl

structure Sends (before : SessionConnection) (packet : SentPacket)
    (after : SessionConnection) : Prop where
  toSend : before.toSend = packet.contents.toSend ++ after.toSend
  serviceQueries : ∀ messageId query, after.serviceQueries messageId = some query →
        before.serviceQueries messageId = some query ∨
          messageId ∈ packet.impl.service.map (fun message => message.stamp.messageId) ∧
            query.containerMessageId = packet.impl.containerMessageId

theorem sends_of_flushPacket {connection : SessionConnection} {inputs : FlushInputs}
    {authData : AuthData} {flushed : Flushed}
    (returned : connection.flushPacket inputs authData = .ok flushed) :
    (flushed.sent = none ∧ flushed.connection = connection ∧
        authData.issuedIds.Later flushed.authData.issuedIds) ∨
      ∃ packet, flushed.sent = some packet ∧ connection.Sends packet flushed.connection ∧
          packet.impl.Packed packet.contents authData.issuedIds flushed.authData.issuedIds := by
  have pinged := later_nextPingId inputs authData
  rcases flushPacket_eq_ok returned with
    rfl | ⟨contents, impl, after, rfl, made, rfl⟩
  · exact Or.inl ⟨rfl, rfl, pinged⟩
  · refine Or.inr ⟨_, rfl, ?_, ?_⟩
    · constructor
      · rw [toSend_noteSent]
        exact (take_append_drop _ _).symm
      · intro messageId query found
        rw [serviceQueries_noteSent, serviceQueries_emplaceServiceQuery] at found
        split at found
        case isTrue isNew =>
          cases found
          exact Or.inr ⟨isNew.1 ▸ CryptoImpl.mem_of_messageIdOf isNew.2.1, rfl⟩
        case isFalse =>
          rw [serviceQueries_emplaceServiceQuery] at found
          split at found
          case isTrue isNew =>
            cases found
            exact Or.inr ⟨isNew.1 ▸ CryptoImpl.mem_of_messageIdOf isNew.2.1, rfl⟩
          case isFalse => exact Or.inl found
    · exact (CryptoImpl.packed_of_new (packetContents_few inputs _ connection) made).of_later pinged

end SessionConnection

end Autoproto.Mtproto
