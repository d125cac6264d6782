import Autoproto.ConnectionMoves
import Autoproto.LinkedSession

namespace Autoproto

/-!
# The steps of a session and its connections, as moves

A step sends nothing, or it hands one query over to the main connection, or one of the connections
sends a packet.
-/

namespace Net

open Mtproto (Draw MtprotoQuery SessionConnection ConnectionCall IssuedIds)
open Mtproto.SessionConnection (FlushInputs Flushed SentPacket)
open Mtproto.IssuedIds (Later Takes)

/-! ## Which query a step hands over -/

namespace Session

/-- Nothing is sent: what was sent may be settled, the key and the last identifier may change. -/
def Calms (before after : Delivery) : Prop :=
  ∃ same : Delivery,
    same.sentQueries = before.sentQueries ∧
      same.sentContainers = before.sentContainers ∧
      Settles same after

variable {messageId : MessageId} {query : Query}

theorem Calms.find? {before after : Delivery} (calms : Calms before after)
    (found : after.sentQueries.find? messageId = some query) : ∃ earlier,
      before.sentQueries.find? messageId = some earlier ∧
        query.containerMessageId = earlier.containerMessageId := by
  obtain ⟨same, queries, _, settles⟩ := calms
  obtain ⟨earlier, earlierFound, sameContainer⟩ := settles.find? found
  rw [queries] at earlierFound
  exact ⟨earlier, earlierFound, sameContainer⟩

variable {before after : Session}

theorem handedOver_of_calms (calms : Calms before.delivery after.delivery) :
    handedOver before after = none := by
  rw [handedOver, List.find?_eq_none]
  intro messageId isKey
  obtain ⟨query, found⟩ := OrderedMap.mem_keys_iff.mp isKey
  obtain ⟨earlier, earlierFound, _⟩ := calms.find? found
  change before.sentQueries.find? messageId = some earlier at earlierFound
  rw [earlierFound]
  exact Bool.false_ne_true

theorem handedOver_of_send (absent : before.delivery.sentQueries.find? messageId = none)
    (sent : after.delivery = before.delivery.send messageId query) :
    handedOver before after = some messageId := by
  have found (other : MessageId) : after.sentQueries.find? other =
        if other = messageId then some query
        else before.sentQueries.find? other :=
    (congrArg (fun delivery => delivery.sentQueries.find? other) sent).trans
      (Delivery.find?_send absent other)
  cases isHanded : handedOver before after with
  | none =>
    rw [handedOver, List.find?_eq_none] at isHanded
    refine absurd ?_ (isHanded messageId (OrderedMap.mem_keys_iff.mpr ⟨query, ?_⟩))
    · exact Option.isNone_iff_eq_none.mpr absent
    · rw [found, if_pos rfl]
  | some other =>
    have isNew := List.find?_some isHanded
    obtain ⟨stored, isStored⟩ := OrderedMap.mem_keys_iff.mp (List.mem_of_find?_eq_some isHanded)
    rw [found] at isStored
    split at isStored
    case isTrue same => rw [same]
    case isFalse =>
      rw [isStored] at isNew
      cases isNew

theorem calms_or_sends {before after : System} {event : Event}
    (step : System.Step before event after) (noPacket : ∀ containerMessageId messageIds,
        event.action ≠ .callback (.onContainerSent containerMessageId messageIds)) :
    Calms before.session.delivery after.session.delivery ∨
      ∃ isBindKey, Sends isBindKey before.session.delivery after.session.delivery := by
  cases System.move_of_step step with
  | settles settled => exact Or.inl ⟨_, rfl, rfl, settled⟩
  | issues messageId issued =>
    exact Or.inl
      ⟨before.session.delivery.setLastMessageId messageId, rfl, rfl, Settles.of_eq issued⟩
  | sends isBindKey sent _ => exact Or.inr ⟨isBindKey, sent⟩
  | packs containerMessageId messageIds isPacket _ =>
    exact absurd isPacket (noPacket containerMessageId messageIds)
  | installs authKey _ settled =>
    exact Or.inl ⟨before.session.delivery.setTmpAuthKey authKey, rfl, rfl, settled⟩
  | binds query _ _ bound =>
    exact Or.inl ⟨before.session.delivery.bindTmpAuthKey, rfl, rfl, Settles.of_eq bound⟩

/-- What a session is told of a packet. -/
def Delivery.noteSent (sent : Option SentPacket) (delivery : Delivery) : Delivery :=
  match sent with
  | none => delivery
  | some packet =>
    if packet.impl.containerMessageId = 0 then
      delivery
    else
      delivery.pack packet.impl.containerMessageId
        (packet.contents.toSend.map MtprotoQuery.messageId)

variable {flushed : Flushed}

theorem delivery_of_onFlushed (isTold : before.onFlushed flushed = .ok after) : after.delivery =
      (before.delivery.setLastMessageId flushed.authData.lastMessageId).noteSent flushed.sent := by
  cases isSent : flushed.sent with
  | none =>
    simp only [onFlushed, isSent] at isTold
    cases isTold
    rfl
  | some packet =>
    simp only [onFlushed, isSent] at isTold
    rw [Delivery.noteSent]
    split at isTold
    case isTrue alone =>
      cases isTold
      rw [if_pos alone]
      rfl
    case isFalse mixed =>
      rw [if_neg mixed]
      exact delivery_of_onContainerSent isTold

theorem lastMessageId_of_onFlushed (isTold : before.onFlushed flushed = .ok after) :
    after.authData.lastMessageId = flushed.authData.lastMessageId := by
  have last := congrArg Delivery.lastMessageId (delivery_of_onFlushed isTold)
  refine Eq.trans last ?_
  cases flushed.sent with
  | none => rfl
  | some packet =>
    rw [Delivery.noteSent]
    split
    · rfl
    · exact Delivery.lastMessageId_pack

/-! ## What happens to the connections -/

theorem keeps_connectionsAfter (connections : ConnectionId → SessionConnection)
    (info : ConnectionId) :
    (connections info).Keeps (connectionsAfter before after connections info) := by
  have ask (output : Output) (connections : ConnectionId → SessionConnection) :
      (connections info).Keeps (Output.ask connections output info) := by
    have updated (other : ConnectionId) (connection : SessionConnection)
        (keeps : (connections other).Keeps connection) :
        (connections info).Keeps (Function.update connections other connection info) := by
      rw [Function.update_apply]
      split
      case isTrue same =>
        rw [same]
        exact keeps
      case isFalse => exact SessionConnection.Keeps.refl _
    cases output with
    | destroyKey other => exact updated other _ (SessionConnection.keeps_destroyKey _)
    | getStateInfo other messageId =>
      exact updated other _ (SessionConnection.keeps_getStateInfo _ _)
    | cancelAnswer other messageId =>
      exact updated other _ (SessionConnection.keeps_cancelAnswer _ _)
    | resendAnswer other messageId =>
      exact updated other _ (SessionConnection.keeps_resendAnswer _ _)
    | _ => exact SessionConnection.Keeps.refl _
  have asked (outputs : List Output) (connections : ConnectionId → SessionConnection) :
      (connections info).Keeps (outputs.foldl Output.ask connections info) := by
    induction outputs generalizing connections with
    | nil => exact SessionConnection.Keeps.refl _
    | cons output outputs ih =>
      exact (ask output connections).trans (ih _)
  refine SessionConnection.Keeps.trans ?_ (asked _ (keepConnection before after connections))
  rw [keepConnection]
  split
  · exact SessionConnection.Keeps.refl _
  · exact SessionConnection.keeps_new _ _

end Session

open Net.Session

namespace LinkedSession

def issuedIds (linked : LinkedSession) : IssuedIds :=
  ⟨linked.session.authData.lastMessageId, linked.issued, linked.overflowed⟩

/-- Nothing is sent. -/
structure Calm (before after : LinkedSession) : Prop where
  delivery : Calms before.session.delivery after.session.delivery
  connections : ∀ info, (before.connections info).Keeps (after.connections info)
  issued : before.issuedIds.Later after.issuedIds
  packets : after.packets = before.packets

/-- What a step does. -/
inductive Move (before after : LinkedSession) : Prop where
  | calm : Calm before after → Move before after
  /-- The query is the last one that waits. -/
  | sends (messageId : MessageId) (query : Query) (waiting : MtprotoQuery)
      (kept : ConnectionId → SessionConnection) :
      query.containerMessageId = messageId →
      before.session.delivery.sentQueries.find? messageId = none →
      after.session.delivery = before.session.delivery.send messageId query →
      (∀ info, (before.connections info).Keeps (kept info)) →
      waiting.messageId = messageId →
      after.connections = Function.update kept .main ((kept .main).push waiting) →
      before.issuedIds.Takes messageId after.issuedIds →
      after.packets = before.packets →
      Move before after
  | flushes (info : ConnectionId) (packet : SentPacket) (connection : SessionConnection) :
      (before.connections info).Sends packet connection →
      after.connections = Function.update before.connections info connection →
      packet.impl.Packed packet.contents before.issuedIds after.issuedIds →
      after.session.delivery = (before.session.delivery.setLastMessageId
          after.issuedIds.lastMessageId).noteSent (some packet) →
      after.packets = packet :: before.packets →
      Move before after

variable {linked after : LinkedSession} {next : System} {body : QueryBody}

theorem issuedIds_follow : (linked.follow next body).issuedIds =
      if (handedOver linked.session next.session).isSome ∨
          next.session.authData.lastMessageId ≠ linked.session.authData.lastMessageId then
        ⟨next.session.authData.lastMessageId, next.session.authData.lastMessageId :: linked.issued,
          linked.overflowed ||
            decide (next.session.authData.lastMessageId ≤ linked.session.authData.lastMessageId)⟩
      else
        linked.issuedIds := by
  cases isHanded : handedOver linked.session next.session with
  | none =>
    simp only [follow, isHanded, noteIssued]
    split
    · rfl
    case isFalse same =>
      simp only [Option.isSome_none, Bool.false_eq_true, false_or, not_not] at same
      exact congrArg (fun last => IssuedIds.mk last linked.issued linked.overflowed) same
  | some messageId =>
    simp only [follow, isHanded, noteIssued, Option.isSome_some, true_or, if_true]
    rfl

theorem takes_issue (messageId : MessageId) (issued : IssuedIds) : issued.Takes messageId
      ⟨messageId, messageId :: issued.messageIds,
        issued.overflowed || decide (messageId ≤ issued.lastMessageId)⟩ := by
  refine ⟨rfl, rfl, ?_, ?_⟩
  · intro fits
    exact (Bool.or_eq_false_iff.mp fits).1
  · intro fits
    have later := (Bool.or_eq_false_iff.mp fits).2
    rw [decide_eq_false_iff_not, not_le] at later
    exact later

theorem connections_noteIssued (before after : Session) :
    (linked.noteIssued before after).connections = linked.connections := by
  rw [noteIssued]
  split <;> rfl

theorem session_follow : (linked.follow next body).session = next.session := by
  simp only [follow]
  split
  all_goals
    rw [noteIssued]
    split <;> rfl

theorem packets_follow : (linked.follow next body).packets = linked.packets := by
  simp only [follow]
  split
  all_goals
    rw [noteIssued]
    split <;> rfl

theorem calm_follow (calms : Calms linked.session.delivery next.session.delivery) :
    Calm linked (linked.follow next body) := by
  refine ⟨?_, ?_, ?_, packets_follow⟩
  · rw [session_follow]
    exact calms
  · intro info
    have connections : (linked.follow next body).connections =
          connectionsAfter linked.session next.session linked.connections := by
      simp only [follow, handedOver_of_calms calms]
      exact connections_noteIssued _ _
    rw [connections]
    exact keeps_connectionsAfter linked.connections info
  · rw [issuedIds_follow]
    split
    · exact (takes_issue _ linked.issuedIds).isLater
    · exact Later.refl _

theorem move_of_sends {isBindKey : Bool}
    (sends : Sends isBindKey linked.session.delivery next.session.delivery) :
    Move linked (linked.follow next body) := by
  obtain ⟨messageId, query, own, _, absent, sent⟩ := sends
  have isHanded := handedOver_of_send absent sent
  have last : next.session.authData.lastMessageId = messageId :=
    congrArg Delivery.lastMessageId sent
  have connections : ∃ waiting : MtprotoQuery, waiting.messageId = messageId ∧
          (linked.follow next body).connections = Function.update
              (connectionsAfter linked.session next.session linked.connections) .main
              ((connectionsAfter linked.session next.session
                linked.connections .main).push waiting) := by
    simp only [follow, isHanded, handOver, setConnection, connections_noteIssued]
    exact ⟨_, rfl, rfl⟩
  obtain ⟨waiting, isWaiting, connections⟩ := connections
  refine .sends messageId query waiting _ own absent ?_
    (keeps_connectionsAfter linked.connections) isWaiting connections ?_
    packets_follow
  · rw [session_follow]
    exact sent
  · rw [issuedIds_follow, isHanded, if_pos (Or.inl Option.isSome_some), last]
    exact takes_issue messageId linked.issuedIds

theorem perform_eq_ok {event : Event} (performed : linked.perform event body = .ok after) :
    ∃ next, System.Step linked.system event next ∧ after = linked.follow next body := by
  obtain ⟨_, enabled, performed⟩ := bind_eq_ok performed
  obtain ⟨next, isNext, performed⟩ := bind_eq_ok performed
  exact ⟨next, ⟨holds_of_check enabled, isNext⟩, (Except.ok.inj performed).symm⟩

variable {environment : Environment} {callback : Callback}

/-- What a connection calls sends nothing. -/
theorem calms_of_callback {before : System} (only : callback.settles = true)
    (step : System.Step before ⟨environment, .callback callback⟩ next) :
    Calms before.session.delivery next.session.delivery := by
  obtain ⟨session, point⟩ := before
  obtain ⟨enabled, performed⟩ := step
  cases point with
  | flushing info now failure =>
    obtain ⟨result, isCalled, performed⟩ := bind_eq_ok performed
    cases performed
    exact ⟨_, rfl, rfl, (callback.keeps_run only isCalled).settles⟩
  | _ => cases enabled.2

variable {info : ConnectionId}

theorem flushing_eq_ok (isFlushing : linked.flushing = .ok info) :
    ∃ now, linked.system.point = .flushing info now none ∧ linked.session.isStopped = false := by
  rw [flushing] at isFlushing
  split at isFlushing
  case h_1 other now atPoint =>
    obtain ⟨_, stopped, isFlushing⟩ := bind_eq_ok isFlushing
    cases isFlushing
    exact ⟨now, atPoint, holds_of_check stopped⟩
  case h_2 => cases isFlushing

theorem Calm.refl (linked : LinkedSession) : Calm linked linked :=
  ⟨⟨_, rfl, rfl, Settles.refl _⟩, fun _ => SessionConnection.Keeps.refl _, Later.refl _, rfl⟩

theorem Calm.setConnection {connection : SessionConnection} (calm : Calm linked after)
    (keeps : (after.connections info).Keeps connection) :
    Calm linked (after.setConnection info connection) := by
  refine ⟨calm.delivery, ?_, calm.issued, calm.packets⟩
  intro other
  refine (calm.connections other).trans ?_
  change (after.connections other).Keeps (Function.update after.connections info connection other)
  rw [Function.update_apply]
  split
  case isTrue same =>
    rw [same]
    exact keeps
  case isFalse => exact SessionConnection.Keeps.refl _

theorem calm_of_callback (only : callback.settles = true)
    (performed : linked.perform ⟨environment, .callback callback⟩ body = .ok after) :
    Calm linked after := by
  obtain ⟨next, step, rfl⟩ := perform_eq_ok performed
  exact calm_follow (calms_of_callback only step)

theorem move_of_flushed {inputs : FlushInputs} {draws : Nat → Draw} {flushed : Flushed}
    {told : Session}
    (isFlushed : (linked.connections info).flushPacket inputs (linked.numbers draws) = .ok flushed)
    (isTold : linked.session.onFlushed flushed = .ok told) : Move linked
      { linked.setConnection info flushed.connection with
        system := ⟨told, linked.system.point⟩
        seqNo := flushed.authData.seqNo
        issued := flushed.authData.issued
        overflowed := flushed.authData.overflowed
        packets := flushed.sent.toList ++ linked.packets } := by
  have last := lastMessageId_of_onFlushed isTold
  have delivery := delivery_of_onFlushed isTold
  have issued :
      IssuedIds.mk told.authData.lastMessageId flushed.authData.issued flushed.authData.overflowed =
        flushed.authData.issuedIds := by
    rw [last]
    rfl
  rcases SessionConnection.sends_of_flushPacket isFlushed with
    ⟨nothing, same, later⟩ | ⟨packet, isPacket, sends, packed⟩
  · rw [nothing] at delivery ⊢
    rw [same]
    refine .calm ⟨?_, ?_, ?_, rfl⟩
    · exact ⟨linked.session.delivery.setLastMessageId flushed.authData.lastMessageId,
          rfl, rfl, Settles.of_eq delivery⟩
    · intro other
      change (linked.connections other).Keeps
        (Function.update linked.connections info (linked.connections info) other)
      rw [Function.update_eq_self]
      exact SessionConnection.Keeps.refl _
    · rw [← issued] at later
      exact later
  · rw [isPacket] at delivery ⊢
    rw [← issued] at packed
    rw [← last] at delivery
    exact .flushes info packet flushed.connection sends rfl packed delivery rfl

theorem move_of_step {before : LinkedSession} {event : LinkedEvent}
    (step : Step before event after) : Move before after := by
  cases event with
  | session event body =>
    obtain ⟨_, notLinked, performed⟩ := bind_eq_ok step
    have notLinked := holds_of_check notLinked
    obtain ⟨next, isNext, rfl⟩ := perform_eq_ok performed
    have noPacket (containerMessageId : MessageId) (messageIds : List MessageId) :
        event.action ≠ .callback (.onContainerSent containerMessageId messageIds) := by
      intro isPacket
      rw [isPacket] at notLinked
      cases notLinked
    rcases calms_or_sends isNext noPacket with calms | ⟨_, sends⟩
    · exact .calm (calm_follow calms)
    · exact move_of_sends sends
  | flushPacket inputs draws =>
    obtain ⟨info, _, step⟩ := bind_eq_ok step
    obtain ⟨flushed, isFlushed, step⟩ := bind_eq_ok step
    obtain ⟨told, isTold, step⟩ := bind_eq_ok step
    cases step
    exact move_of_flushed isFlushed isTold
  | newSessionCreated environment firstMsgId =>
    obtain ⟨info, _, performed⟩ := bind_eq_ok step
    exact .calm (calm_of_callback rfl performed)
  | messageFailed environment messageId =>
    obtain ⟨info, _, step⟩ := bind_eq_ok step
    obtain ⟨failed, isFailed, step⟩ := bind_eq_ok step
    cases step
    exact .calm ((calm_of_callback rfl isFailed).setConnection
      (SessionConnection.keeps_onMessageFailed messageId _))
  | call connectionCall =>
    obtain ⟨info, _, step⟩ := bind_eq_ok step
    cases step
    exact .calm ((Calm.refl before).setConnection (SessionConnection.keeps_run connectionCall _))

end LinkedSession

end Net

end Autoproto
