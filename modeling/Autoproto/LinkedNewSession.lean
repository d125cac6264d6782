import Autoproto.LinkedContainers

namespace Autoproto.Net

open List

open Mtproto (MtprotoQuery SessionConnection IssuedIds)
open Mtproto.SessionConnection (SentPacket)
open Net.Session

/-!
# New sessions of the server

When the server has made a new session it names the first message that it knows
of, and everything that was sent before has to be sent again. The client
compares identifiers of containers for that, which are in the order of the
packets only as long as no query waits while another packet is sent.
-/

namespace Session

/-! ## What is sent again -/

/-- The query waits again, or is returned to be made again. -/
def Resent (netQuery : NetQueryPtr) (session : Session) : Prop :=
  if netQuery.isBindKey then
    { (netQuery.setMessageId 0).setErrorResend with sessionId := 0 } ∈ session.returned
  else
    netQuery.setMessageId 0 ∈ session.pendingQueries.toList

/-- Queries are added to those that wait or were returned. -/
structure Adds (before after : Session) : Prop where
  pending : ∀ netQuery ∈ before.pendingQueries.toList, netQuery ∈ after.pendingQueries.toList
  returned : ∀ netQuery ∈ before.returned, netQuery ∈ after.returned

theorem Adds.refl (session : Session) : Adds session session :=
  ⟨fun _ => id, fun _ => id⟩

theorem Adds.trans {first second third : Session} (before : Adds first second)
    (after : Adds second third) : Adds first third :=
  ⟨fun netQuery isPending => after.pending netQuery (before.pending netQuery isPending),
    fun netQuery isReturned => after.returned netQuery (before.returned netQuery isReturned)⟩

variable {netQuery : NetQueryPtr}

theorem Resent.adds {before after : Session} (resent : Resent netQuery before)
    (adds : Adds before after) : Resent netQuery after := by
  rw [Resent] at resent ⊢
  split at resent
  case isTrue isBindKey =>
    rw [if_pos isBindKey]
    exact adds.returned _ resent
  case isFalse regular =>
    rw [if_neg regular]
    exact adds.pending _ resent

variable {pending : PendingQueries}

theorem mem_toList_push {other : NetQueryPtr} :
    other ∈ (pending.push netQuery).toList ↔ other = netQuery ∨ other ∈ pending.toList := by
  rw [PendingQueries.push]
  split
  all_goals
    simp only [PendingQueries.toList, mem_append, mem_singleton]
    tauto

theorem mem_toList_foldl_push (queries : List NetQueryPtr) (isPending : netQuery ∈ pending.toList) :
    netQuery ∈ (queries.foldl (fun pending query => pending.push query) pending).toList := by
  induction queries generalizing pending with
  | nil => exact isPending
  | cons first rest ih =>
    exact ih (mem_toList_push.mpr (Or.inr isPending))

section Functions

variable {session after : Session} {environment : Environment} {messageId : MessageId}
  {query : Query}

theorem adds_takeSentQuery :
    Adds session ((session.cleanupContainer messageId query).takeSentQuery messageId query) := by
  have cleaned : Adds session (session.cleanupContainer messageId query) := by
    rw [cleanupContainer]
    split
    · exact Adds.refl _
    · exact ⟨fun _ => id, fun _ => id⟩
  have marked (session : Session) : Adds session (session.markAsKnown messageId query) := by
    rw [markAsKnown]
    split
    · exact Adds.refl _
    · rw [applyIf]
      split
      · exact ⟨fun _ isPending => mem_toList_foldl_push _ isPending, fun _ => id⟩
      · exact ⟨fun _ => id, fun _ => id⟩
  have taken := cleaned.trans (marked _)
  exact ⟨taken.pending, taken.returned⟩

theorem resendQuery_resends (environment : Environment) (netQuery : NetQueryPtr)
    (session : Session) : ∃ after, session.resendQuery environment netQuery = .ok after ∧
        after.delivery = session.delivery ∧ Adds session after ∧ Resent netQuery after := by
  obtain ⟨after, resent⟩ := resendQuery_returns environment netQuery session
  refine ⟨after, resent, delivery_of_resendQuery resent, ?_⟩
  simp only [resendQuery] at resent
  split at resent
  case isTrue isBindKey =>
    cases resent
    refine ⟨⟨fun _ => id, fun _ => mem_append_left _⟩, ?_⟩
    have isBindKey : netQuery.isBindKey = true := isBindKey
    rw [Resent, if_pos isBindKey]
    exact mem_append_right _ (mem_singleton.mpr rfl)
  case isFalse regular =>
    obtain ⟨_, _, resent⟩ := bind_eq_ok resent
    cases resent
    refine ⟨⟨?_, fun _ => id⟩, ?_⟩
    · intro other isPending
      exact mem_toList_push.mpr (Or.inr isPending)
    · have regular : ¬ netQuery.isBindKey = true := regular
      rw [Resent, if_neg regular]
      exact mem_toList_push.mpr (Or.inl rfl)

theorem resendIfBefore_spec (environment : Environment) (firstMessageId : MessageId)
    (session : Session) (messageId : MessageId) : ∃ after,
      session.resendIfBefore environment firstMessageId messageId = .ok after ∧
        Adds session after ∧
        (∀ other, other ≠ messageId →
          after.sentQueries.find? other = session.sentQueries.find? other) ∧
        ∀ query, session.sentQueries.find? messageId = some query →
          if query.containerMessageId < firstMessageId then
            after.sentQueries.find? messageId = none ∧ Resent query.netQuery after
          else
            after.sentQueries.find? messageId = some query := by
  rw [resendIfBefore]
  split
  case h_1 absent =>
    refine ⟨session, rfl, Adds.refl _, fun _ _ => rfl, ?_⟩
    intro query found
    rw [absent] at found
    cases found
  case h_2 query found =>
    split
    case isTrue isBefore =>
      obtain ⟨after, resent, delivery, adds, isResent⟩ :=
        resendQuery_resends environment query.netQuery
          ((session.cleanupContainer messageId query).takeSentQuery messageId query)
      have erased (other : MessageId) : after.sentQueries.find? other =
            if other = messageId then none
            else session.sentQueries.find? other := by
        have queries := congrArg (fun delivery => delivery.sentQueries.find? other)
            (delivery.trans (delivery_takeSentQuery ..))
        refine queries.trans ?_
        rw [Delivery.find?_erase]
        change
          (if other = messageId then none else
              (session.cleanupContainer messageId query).toQueries.sentQueries.find? other) = _
        rw [toQueries_cleanupContainer]
      refine ⟨after, resent, (adds_takeSentQuery ..).trans adds, ?_, ?_⟩
      · intro other differs
        rw [erased, if_neg differs]
      · intro other isOther
        rw [found] at isOther
        cases isOther
        rw [if_pos isBefore]
        exact ⟨by rw [erased, if_pos rfl], isResent⟩
    case isFalse notBefore =>
      refine ⟨session, rfl, Adds.refl _, fun _ _ => rfl, ?_⟩
      intro other isOther
      rw [found] at isOther
      cases isOther
      rw [if_neg notBefore]
      exact found

theorem resendAllBefore_spec (environment : Environment) (firstMessageId : MessageId)
    (messageIds : List MessageId) (distinct : messageIds.Nodup) (session : Session) : ∃ after,
      messageIds.foldlM (resendIfBefore environment firstMessageId) session = .ok after ∧
        Adds session after ∧
        (∀ other, other ∉ messageIds →
          after.sentQueries.find? other = session.sentQueries.find? other) ∧
        ∀ messageId ∈ messageIds, ∀ query, session.sentQueries.find? messageId = some query →
            if query.containerMessageId < firstMessageId then
              after.sentQueries.find? messageId = none ∧ Resent query.netQuery after
            else
              after.sentQueries.find? messageId = some query := by
  induction messageIds generalizing session with
  | nil => exact ⟨session, rfl, Adds.refl _, fun _ _ => rfl, nofun⟩
  | cons first rest ih =>
    rw [nodup_cons] at distinct
    obtain ⟨next, stepped, adds, others, atFirst⟩ :=
      resendIfBefore_spec environment firstMessageId session first
    obtain ⟨after, ran, addsMore, untouched, atRest⟩ := ih distinct.2 next
    refine ⟨after, ?_, adds.trans addsMore, ?_, ?_⟩
    · rw [foldlM_cons, stepped]
      exact ran
    · intro other isNone
      rw [mem_cons, not_or] at isNone
      rw [untouched other isNone.2, others other isNone.1]
    · intro messageId isMember query found
      rcases mem_cons.mp isMember with rfl | isRest
      · have settled := atFirst query found
        have same := untouched messageId distinct.1
        split at settled
        case isTrue isBefore =>
          rw [if_pos isBefore, same]
          exact ⟨settled.1, settled.2.adds addsMore⟩
        case isFalse notBefore =>
          rw [if_neg notBefore, same]
          exact settled
      · have differs : messageId ≠ first := by
          rintro rfl
          exact distinct.1 isRest
        rw [← others messageId differs] at found
        exact atRest messageId isRest query found

/-- The identifier with which the containers of the sent queries are compared. -/
def firstContainer (firstMessageId : MessageId) (session : Session) : MessageId :=
  match session.sentQueries.find? firstMessageId with
  | some query => query.containerMessageId
  | none => firstMessageId

theorem onNewSessionCreated_spec (firstMessageId : MessageId) : ∃ after,
      session.onNewSessionCreated environment firstMessageId = .ok after ∧
        ∀ messageId query, session.sentQueries.find? messageId = some query →
            if query.containerMessageId < session.firstContainer firstMessageId then
              after.sentQueries.find? messageId = none ∧ Resent query.netQuery after
            else
              after.sentQueries.find? messageId = some query := by
  let noted :=
    (session.noteSuccess environment).applyIf
      (session.noteSuccess environment).isMain (fun session =>
        (session.setLastActivity environment).emit
          (.onUpdate updatesTooLong session.authData.getAuthKey.id))
  have same : noted.sentQueries = session.sentQueries := by
    have delivery : noted.delivery = session.delivery := by
      refine (delivery_applyIf ?_).trans (delivery_applyIf ?_)
      · intro _
        rfl
      · intro _
        rfl
    exact congrArg Delivery.sentQueries delivery
  obtain ⟨after, ran, _, _, settled⟩ :=
    resendAllBefore_spec environment (noted.firstContainer firstMessageId)
      noted.sentQueries.keys noted.sentQueries.nodup_keys noted
  refine ⟨after, ran, ?_⟩
  intro messageId query found
  rw [← same] at found
  have first : session.firstContainer firstMessageId = noted.firstContainer firstMessageId := by
    rw [firstContainer, firstContainer, same]
  rw [first]
  exact settled messageId (OrderedMap.mem_keys_iff.mpr ⟨query, found⟩) query found

end Functions

end Session

/-! ## The order of the packets -/

/-- The identifiers of a packet, apart from the container. -/
def messageIdsOf (packet : SentPacket) : List MessageId :=
  packet.impl.messageIds packet.contents

def queryIdsOf (packet : SentPacket) : List MessageId :=
  packet.contents.toSend.map MtprotoQuery.messageId

namespace LinkedSession

/--
Nothing overflows, no query waits after a packet has been sent, and no query is
lost while it waits.
-/
structure Prompt (before after : LinkedSession) : Prop where
  fits : after.overflowed = false
  sends : after.packets.length ≠ before.packets.length → after.queue = []
  keeps : after.packets.length = before.packets.length →
      ∀ messageId ∈ before.queue,
        (after.session.sentQueries.find? messageId).isSome → messageId ∈ after.queue

/-- The steps that leave no query behind. -/
def PromptStep (before : LinkedSession) (event : LinkedEvent) (after : LinkedSession) : Prop :=
  Step before event after ∧ Prompt before after

structure Ordered (linked : LinkedSession) : Prop where
  idle : (linked.connections .longPoll).toSend = []
  bounded : ∀ packet ∈ linked.packets, ∀ messageId ∈ messageIdsOf packet,
      messageId ≤ packet.impl.parentMessageId
  container : ∀ packet ∈ linked.packets, packet.impl.containerMessageId = 0 ∨
        packet.impl.containerMessageId = packet.impl.parentMessageId
  sent : ∀ packet ∈ linked.packets, packet.impl.parentMessageId ≤ linked.issuedIds.lastMessageId
  separated :
    linked.packets.Pairwise (fun newer older =>
      older.impl.parentMessageId < newer.impl.parentMessageId ∧
        ∀ messageId ∈ messageIdsOf newer, older.impl.parentMessageId < messageId)
  queued : ∀ messageId ∈ linked.queue, messageId ≤ linked.issuedIds.lastMessageId ∧
        ∀ packet ∈ linked.packets, packet.impl.parentMessageId < messageId
  /-- A sent query waits, or it is in a packet whose identifier it has. -/
  queries : ∀ messageId query, linked.session.delivery.sentQueries.find? messageId = some query →
        messageId ∈ linked.queue ∧ query.containerMessageId = messageId ∨
          ∃ packet ∈ linked.packets,
            messageId ∈ queryIdsOf packet ∧ query.containerMessageId = packet.impl.parentMessageId
  services : ∀ info messageId query,
      (linked.connections info).serviceQueries messageId = some query →
        ∃ packet ∈ linked.packets, messageId ∈ messageIdsOf packet ∧
            query.containerMessageId = packet.impl.containerMessageId

variable {setup : Setup} {session : Session}

theorem ordered_new (created : Session.create setup = .ok session) : (new session).Ordered := by
  constructor
  · rfl
  · nofun
  · nofun
  · nofun
  · exact List.Pairwise.nil
  · nofun
  · intro messageId query found
    have absent : (new session).session.delivery.sentQueries.find? messageId = none :=
      (create_empty created).1 messageId
    rw [absent] at found
    cases found
  · nofun

variable {before after : LinkedSession} {messageId : MessageId} {query : Query}

theorem Ordered.waits (ordered : before.Ordered) (prompt : Prompt before after)
    (packets : after.packets = before.packets) {earlier : Query}
    (found : after.session.delivery.sentQueries.find? messageId = some query)
    (earlierFound : before.session.delivery.sentQueries.find? messageId = some earlier)
    (sameContainer : query.containerMessageId = earlier.containerMessageId) :
    messageId ∈ after.queue ∧ query.containerMessageId = messageId ∨ ∃ packet ∈ after.packets,
        messageId ∈ queryIdsOf packet ∧ query.containerMessageId = packet.impl.parentMessageId := by
  rw [sameContainer, packets]
  have isSent : (after.session.sentQueries.find? messageId).isSome :=
    Option.isSome_iff_exists.mpr ⟨query, found⟩
  rcases ordered.queries messageId earlier earlierFound with
    ⟨isQueued, own⟩ | inPacket
  · exact Or.inl ⟨prompt.keeps (congrArg length packets) messageId isQueued isSent, own⟩
  · exact Or.inr inPacket

theorem Ordered.calm (ordered : before.Ordered) (calm : Calm before after)
    (prompt : Prompt before after) : after.Ordered := by
  have later := calm.issued.lastMessageId prompt.fits
  have packets := calm.packets
  have waited (messageId : MessageId) (isQueued : messageId ∈ after.queue) :
      messageId ∈ before.queue :=
    (sublist_queue_of_keeps (calm.connections .main)).subset isQueued
  constructor
  · exact idle_of_keeps (calm.connections .longPoll) ordered.idle
  · rw [packets]
    exact ordered.bounded
  · rw [packets]
    exact ordered.container
  · rw [packets]
    intro packet isSent
    exact (ordered.sent packet isSent).trans later
  · rw [packets]
    exact ordered.separated
  · rw [packets]
    intro messageId isQueued
    obtain ⟨bound, newer⟩ := ordered.queued messageId (waited messageId isQueued)
    exact ⟨bound.trans later, newer⟩
  · intro messageId query found
    obtain ⟨earlier, earlierFound, sameContainer⟩ := calm.delivery.find? found
    exact ordered.waits prompt packets found earlierFound sameContainer
  · rw [packets]
    intro info messageId query found
    exact ordered.services info messageId query
      ((calm.connections info).serviceQueries messageId query found)

theorem Ordered.sends {waiting : MtprotoQuery} {kept : ConnectionId → SessionConnection}
    (ordered : before.Ordered) (prompt : Prompt before after)
    (own : query.containerMessageId = messageId)
    (absent : before.session.delivery.sentQueries.find? messageId = none)
    (sent : after.session.delivery = before.session.delivery.send messageId query)
    (keeps : ∀ info, (before.connections info).Keeps (kept info))
    (isWaiting : waiting.messageId = messageId)
    (connections : after.connections = Function.update kept .main ((kept .main).push waiting))
    (takes : before.issuedIds.Takes messageId after.issuedIds)
    (packets : after.packets = before.packets) : after.Ordered := by
  have later := takes.isLater.lastMessageId prompt.fits
  have isNew := takes.later prompt.fits
  have queue : after.queue = (kept .main).toSend.map MtprotoQuery.messageId ++ [messageId] := by
    rw [LinkedSession.queue, connections, Function.update_self,
      SessionConnection.push, map_append, map_singleton, isWaiting]
  constructor
  · rw [connections, Function.update_of_ne (by decide)]
    exact idle_of_keeps (keeps .longPoll) ordered.idle
  · rw [packets]
    exact ordered.bounded
  · rw [packets]
    exact ordered.container
  · rw [packets]
    intro packet isSent
    exact (ordered.sent packet isSent).trans later
  · rw [packets]
    exact ordered.separated
  · rw [packets, queue]
    intro other isQueued
    rcases mem_append.mp isQueued with isOld | isLast
    · obtain ⟨bound, newer⟩ :=
        ordered.queued other ((sublist_queue_of_keeps (keeps .main)).subset isOld)
      exact ⟨bound.trans later, newer⟩
    · rw [mem_singleton.mp isLast]
      refine ⟨takes.lastMessageId.ge, ?_⟩
      intro packet isSent
      exact (ordered.sent packet isSent).trans_lt isNew
  · intro other stored found
    by_cases isLast : other = messageId
    · subst isLast
      have same : stored = query := by
        rw [sent, Delivery.find?_send absent, if_pos rfl] at found
        exact (Option.some.inj found).symm
      rw [same, queue]
      exact Or.inl ⟨mem_append_right _ (mem_singleton.mpr rfl), own⟩
    · have earlierFound := found
      rw [sent, Delivery.find?_send absent, if_neg isLast] at earlierFound
      exact ordered.waits prompt packets found earlierFound rfl
  · rw [packets]
    intro info other stored found
    refine ordered.services info other stored ((keeps info).serviceQueries other stored ?_)
    rw [connections, Function.update_apply] at found
    split at found
    case isTrue isMain =>
      rw [isMain]
      exact found
    case isFalse => exact found

/-- The identifiers of a packet that takes all queries that wait. -/
structure Follows (before : LinkedSession) (packet : SentPacket)
    (after : LinkedSession) : Prop where
  bounded : ∀ messageId ∈ messageIdsOf packet, messageId ≤ packet.impl.parentMessageId
  sent : packet.impl.parentMessageId ≤ after.issuedIds.lastMessageId
  separated : ∀ older ∈ before.packets, older.impl.parentMessageId < packet.impl.parentMessageId ∧
        ∀ messageId ∈ messageIdsOf packet, older.impl.parentMessageId < messageId
  parent :
    packet.impl.containerMessageId = 0 ∧ messageIdsOf packet = [packet.impl.parentMessageId] ∨
      packet.impl.containerMessageId ≠ 0 ∧
        packet.impl.containerMessageId = packet.impl.parentMessageId

variable {packet : SentPacket}

section

variable (ordered : before.Ordered)
include ordered

theorem Ordered.follows
    (packed : packet.impl.Packed packet.contents before.issuedIds after.issuedIds)
    (fits : after.issuedIds.overflowed = false) (waited : before.queue = queryIdsOf packet) :
    Follows before packet after := by
  have later := packed.later.lastMessageId fits
  -- What a query or a message of the connection adds to the packet.
  have member (messageId : MessageId) (isMember : messageId ∈ messageIdsOf packet) :
      messageId ≤ after.issuedIds.lastMessageId ∧
        ∀ older ∈ before.packets, older.impl.parentMessageId < messageId := by
    rcases mem_append.mp isMember with isQuery | isService
    · have isQueued : messageId ∈ before.queue := by
        rw [waited]
        exact isQuery
      obtain ⟨bound, newer⟩ := ordered.queued messageId isQueued
      exact ⟨bound.trans later, newer⟩
    · obtain ⟨message, isMessage, rfl⟩ := mem_map.mp isService
      obtain ⟨isNew, bound⟩ := packed.service fits message isMessage
      refine ⟨bound, ?_⟩
      intro older isOlder
      exact (ordered.sent older isOlder).trans_lt isNew
  rcases packed.parent with ⟨same, middle, isLater, takes⟩ | ⟨alone, only⟩
  · have isNew := takes.later fits
    have isLast := takes.lastMessageId
    have first := isLater.lastMessageId (takes.overflowed fits)
    rw [same] at isNew isLast
    constructor
    · intro messageId isMember
      rw [← isLast]
      exact (member messageId isMember).1
    · exact isLast.ge
    · intro older isOlder
      exact ⟨((ordered.sent older isOlder).trans first).trans_lt isNew,
        fun messageId isMember => (member messageId isMember).2 older isOlder⟩
    · refine Or.inr ⟨?_, same⟩
      rw [same]
      exact Fin.pos_iff_ne_zero.mp ((Fin.zero_le _).trans_lt isNew)
  · have parentIsMember : packet.impl.parentMessageId ∈ messageIdsOf packet := by
      rw [messageIdsOf, only]
      exact mem_singleton.mpr rfl
    obtain ⟨bound, newer⟩ := member _ parentIsMember
    constructor
    · intro messageId isMember
      rw [messageIdsOf, only, mem_singleton] at isMember
      exact isMember.le
    · exact bound
    · intro older isOlder
      exact ⟨newer older isOlder,
        fun messageId isMember => (member messageId isMember).2 older isOlder⟩
    · exact Or.inl ⟨alone, only⟩

theorem Ordered.queries_of_flushes {lastMessageId : MessageId}
    (follows : Follows before packet after) (waited : before.queue = queryIdsOf packet)
    (found : ((before.session.delivery.setLastMessageId lastMessageId).noteSent
        (some packet)).sentQueries.find? messageId = some query) :
    ∃ sent ∈ packet :: before.packets,
      messageId ∈ queryIdsOf sent ∧ query.containerMessageId = sent.impl.parentMessageId := by
  rw [Delivery.noteSent] at found
  rcases follows.parent with ⟨alone, only⟩ | ⟨mixed, same⟩
  · rw [if_pos alone] at found
    rcases ordered.queries messageId query found with
      ⟨isQueued, own⟩ | inPacket
    · rw [waited] at isQueued
      have isParent : messageId = packet.impl.parentMessageId := by
        have isMember : messageId ∈ messageIdsOf packet := mem_append_left _ isQueued
        rw [only] at isMember
        exact mem_singleton.mp isMember
      exact ⟨packet, mem_cons_self, isQueued, own.trans isParent⟩
    · obtain ⟨sent, isSent, inPacket⟩ := inPacket
      exact ⟨sent, mem_cons_of_mem _ isSent, inPacket⟩
  · rw [if_neg mixed, Delivery.find?_pack] at found
    split at found
    case isTrue isMember =>
      obtain ⟨_, _, rfl⟩ := Option.map_eq_some_iff.mp found
      exact ⟨packet, mem_cons_self, isMember, same⟩
    case isFalse notMember =>
      have notQueued : messageId ∉ before.queue := by
        rw [waited]
        exact notMember
      obtain ⟨sent, isSent, inPacket⟩ :=
        (ordered.queries messageId query found).resolve_left (fun isQueued => notQueued isQueued.1)
      exact ⟨sent, mem_cons_of_mem _ isSent, inPacket⟩

theorem Ordered.flushes {info : ConnectionId} {connection : SessionConnection}
    (prompt : Prompt before after) (sends : (before.connections info).Sends packet connection)
    (connections : after.connections = Function.update before.connections info connection)
    (packed : packet.impl.Packed packet.contents before.issuedIds after.issuedIds)
    (delivery : after.session.delivery = (before.session.delivery.setLastMessageId
          after.issuedIds.lastMessageId).noteSent (some packet))
    (packets : after.packets = packet :: before.packets) : after.Ordered := by
  obtain ⟨waited, idle⟩ := queue_of_sends ordered.idle sends connections
  have empty : after.queue = [] := prompt.sends (by rw [packets]; exact Nat.succ_ne_self _)
  rw [empty, append_nil] at waited
  have follows := ordered.follows packed prompt.fits waited
  have later := packed.later.lastMessageId prompt.fits
  constructor
  · exact idle
  · rw [packets]
    exact forall_mem_cons.mpr ⟨follows.bounded, ordered.bounded⟩
  · rw [packets]
    refine forall_mem_cons.mpr ⟨?_, ordered.container⟩
    rcases follows.parent with ⟨alone, _⟩ | ⟨_, same⟩
    · exact Or.inl alone
    · exact Or.inr same
  · rw [packets]
    refine forall_mem_cons.mpr ⟨follows.sent, ?_⟩
    intro older isOlder
    exact (ordered.sent older isOlder).trans later
  · rw [packets]
    exact pairwise_cons.mpr ⟨follows.separated, ordered.separated⟩
  · rw [empty]
    nofun
  · intro messageId query found
    rw [delivery] at found
    rw [packets]
    exact Or.inr (ordered.queries_of_flushes follows waited found)
  · rw [packets]
    have older
        {other : ConnectionId}
        {messageId : MessageId}
        {query : Mtproto.ServiceQuery}
        (found : (before.connections other).serviceQueries messageId = some query) :
        ∃ sent ∈ packet :: before.packets,
          messageId ∈ messageIdsOf sent ∧
            query.containerMessageId = sent.impl.containerMessageId := by
      obtain ⟨sent, isSent, inPacket⟩ := ordered.services other messageId query found
      exact ⟨sent, mem_cons_of_mem _ isSent, inPacket⟩
    intro other messageId query found
    rw [connections, Function.update_apply] at found
    split at found
    case isTrue same =>
      rcases sends.serviceQueries messageId query found with
        found | ⟨isService, sameContainer⟩
      · exact older found
      · exact ⟨packet, mem_cons_self, mem_append_right _ isService, sameContainer⟩
    case isFalse => exact older found

theorem Ordered.move (move : Move before after) (prompt : Prompt before after) : after.Ordered := by
  cases move with
  | calm calm => exact ordered.calm calm prompt
  | sends messageId query waiting kept own absent sent keeps isWaiting
      connections takes packets =>
      exact ordered.sends prompt own absent sent keeps isWaiting connections takes packets
  | flushes info packet connection sends connections packed delivery
      packets =>
      exact ordered.flushes prompt sends connections packed delivery packets

end

variable {events : List LinkedEvent}

theorem ordered_of_run {reached : LinkedSession} (created : Session.create setup = .ok session)
    (run : Transition.Run PromptStep (new session) events reached) : reached.Ordered := by
  have kept :
      ∀ before event after, Ordered before → PromptStep before event after → Ordered after := by
    intro before event after ordered step
    exact ordered.move (move_of_step step.1) step.2
  exact run.invariant (ordered_new created) kept

/-! ## The first message that the server knows -/

theorem perform_callback {linked : LinkedSession} {environment : Environment} {callback : Callback}
    {body : QueryBody} {info : ConnectionId} {now : Rat} {next : Session}
    {failure : Option Status} (atPoint : linked.system.point = .flushing info now none)
    (running : linked.session.isStopped = false)
    (isCalled : callback.run environment linked.session = .ok (next, failure)) :
    linked.perform ⟨environment, .callback callback⟩ body =
      .ok (linked.follow ⟨next, .flushing info now failure⟩ body) := by
  have enabled : linked.system.Enabled ⟨environment, .callback callback⟩ := by
    rw [System.Enabled, atPoint]
    exact ⟨running, trivial⟩
  have performed : linked.system.perform ⟨environment, .callback callback⟩ =
        .ok ⟨next, .flushing info now failure⟩ := by
    rw [System.perform, atPoint]
    dsimp only
    rw [show callback.run environment linked.system.session = .ok (next, failure) from isCalled]
    rfl
  rw [perform, check_eq_ok enabled, ok_bind, performed]
  rfl

section NewSession

variable {reached : LinkedSession} {newer older : List SentPacket} {packet : SentPacket}
  {firstMsgId : MessageId}

def BelongsTo (packet : SentPacket) (older : List SentPacket) (messageId : MessageId) : Prop :=
  messageId ≤ packet.impl.parentMessageId ∧
    ∀ earlier ∈ older, earlier.impl.parentMessageId < messageId

theorem Ordered.around (ordered : reached.Ordered)
    (packets : reached.packets = newer ++ packet :: older) :
    (∀ later ∈ newer, ∀ messageId ∈ messageIdsOf later, packet.impl.parentMessageId < messageId) ∧
    (∀ later ∈ newer, packet.impl.parentMessageId < later.impl.parentMessageId) ∧
    BelongsTo packet older packet.impl.parentMessageId ∧
    ∀ messageId ∈ messageIdsOf packet, BelongsTo packet older messageId := by
  have separated := ordered.separated
  rw [packets] at separated
  obtain ⟨_, fromPacket, acrossPacket⟩ := pairwise_append.mp separated
  obtain ⟨beforePacket, _⟩ := pairwise_cons.mp fromPacket
  have isSent : packet ∈ reached.packets := by
    rw [packets]
    exact mem_append_right newer mem_cons_self
  refine ⟨?_, ?_, ⟨le_refl _, ?_⟩, ?_⟩
  · intro later isLater
    exact (acrossPacket later isLater packet mem_cons_self).2
  · intro later isLater
    exact (acrossPacket later isLater packet mem_cons_self).1
  · intro earlier isEarlier
    exact (beforePacket earlier isEarlier).1
  · intro messageId isMember
    exact ⟨ordered.bounded packet isSent messageId isMember,
      fun earlier isEarlier => (beforePacket earlier isEarlier).2 messageId isMember⟩

variable {messageId : MessageId}

section

variable (ordered : reached.Ordered)
include ordered

section

variable (packets : reached.packets = newer ++ packet :: older)
include packets

theorem Ordered.eq_of_belongsTo {other : SentPacket}
    (belongs : BelongsTo packet older messageId) (isOther : other ∈ reached.packets)
    (isMember : messageId ∈ messageIdsOf other) : other = packet := by
  have bound := ordered.bounded other isOther messageId isMember
  rw [packets] at isOther
  rcases mem_append.mp isOther with isNewer | isRest
  · have later := (ordered.around packets).1 other isNewer messageId isMember
    exact absurd belongs.1 later.not_ge
  · rcases mem_cons.mp isRest with same | isOlder
    · exact same
    · exact absurd bound (belongs.2 other isOlder).not_ge

theorem Ordered.belongsTo_firstContainer
    (belongs : BelongsTo packet older messageId) :
    BelongsTo packet older (reached.session.firstContainer messageId) := by
  rw [firstContainer]
  split
  case h_1 query found =>
    rcases ordered.queries messageId query found with
      ⟨isQueued, _⟩ | ⟨other, isOther, isMember, sameContainer⟩
    · have later := (ordered.queued messageId isQueued).2 packet
          (by rw [packets]; exact mem_append_right _ mem_cons_self)
      exact absurd belongs.1 later.not_ge
    · have same := ordered.eq_of_belongsTo packets belongs isOther (mem_append_left _ isMember)
      rw [sameContainer, same]
      exact (ordered.around packets).2.2.1
  case h_2 => exact belongs

theorem Ordered.belongsTo_firstMessageId {info : ConnectionId}
    (isSent : firstMsgId ∈ messageIdsOf packet)
    (inContainer : ∀ service, (reached.connections info).serviceQueries firstMsgId = some service →
          service.containerMessageId ≠ 0) :
    BelongsTo packet older ((reached.connections info).firstMessageId firstMsgId) := by
  obtain ⟨_, _, parent, members⟩ := ordered.around packets
  rw [SessionConnection.firstMessageId]
  split
  case h_1 service found =>
    obtain ⟨other, isOther, isMember, sameContainer⟩ :=
      ordered.services info firstMsgId service found
    have same := ordered.eq_of_belongsTo packets (members firstMsgId isSent) isOther isMember
    have notZero := inContainer service found
    rw [same] at sameContainer isOther
    rw [sameContainer] at notZero ⊢
    rw [(ordered.container packet isOther).resolve_left notZero]
    exact parent
  case h_2 => exact members firstMsgId isSent

theorem Ordered.container_lt_iff {first : MessageId} (belongs : BelongsTo packet older first)
    (found : reached.session.sentQueries.find? messageId = some query) :
    query.containerMessageId < first ↔ ∃ earlier ∈ older, messageId ∈ queryIdsOf earlier := by
  obtain ⟨newerMembers, newerParents, _, members⟩ := ordered.around packets
  constructor
  · intro isLess
    have isLess := isLess.trans_le belongs.1
    rcases ordered.queries messageId query found with
      ⟨isQueued, own⟩ | ⟨other, isOther, isMember, sameContainer⟩
    · have later := (ordered.queued messageId isQueued).2 packet
          (by rw [packets]; exact mem_append_right _ mem_cons_self)
      rw [own] at isLess
      exact absurd isLess later.not_gt
    · rw [sameContainer] at isLess
      rw [packets] at isOther
      rcases mem_append.mp isOther with isNewer | isRest
      · exact absurd isLess (newerParents other isNewer).not_gt
      · rcases mem_cons.mp isRest with rfl | isOlder
        · exact absurd isLess (lt_irrefl _)
        · exact ⟨other, isOlder, isMember⟩
  · rintro ⟨earlier, isEarlier, isMember⟩
    have isSent : earlier ∈ reached.packets := by
      rw [packets]
      exact mem_append_right _ (mem_cons_of_mem _ isEarlier)
    obtain ⟨newest, oldest, split⟩ := append_of_mem isSent
    have belongsToEarlier := (ordered.around split).2.2.2 messageId (mem_append_left _ isMember)
    rcases ordered.queries messageId query found with
      ⟨isQueued, _⟩ | ⟨other, isOther, isThere, sameContainer⟩
    · have later := (ordered.queued messageId isQueued).2 earlier isSent
      exact absurd belongsToEarlier.1 later.not_ge
    · have same :=
        ordered.eq_of_belongsTo split belongsToEarlier isOther (mem_append_left _ isThere)
      rw [sameContainer, same]
      exact belongs.2 earlier isEarlier

end

end

/--
If no query was left behind, and a remembered message of the connection was sent
in a container, then the sent queries of the packets before the one with the
first message of the new session are sent again, and no others.
-/
theorem new_session_resends_earlier_packets
    {setup : Setup}
    {session : Session}
    {events : List LinkedEvent}
    {info : ConnectionId}
    (created : Session.create setup = .ok session)
    (run : Transition.Run PromptStep (new session) events reached)
    (isFlushing : reached.flushing = .ok info)
    (packets : reached.packets = newer ++ packet :: older)
    (isSent : firstMsgId ∈ messageIdsOf packet)
    (inContainer : ∀ service, (reached.connections info).serviceQueries firstMsgId = some service →
          service.containerMessageId ≠ 0)
    (environment : Environment) :
    ∃ after,
      Step reached (.newSessionCreated environment firstMsgId) after ∧
        ∀ messageId query, reached.session.sentQueries.find? messageId = some query →
            ((∃ earlier ∈ older, messageId ∈ queryIdsOf earlier) →
              after.session.sentQueries.find? messageId = none ∧
                Resent query.netQuery after.session) ∧
            ((¬ ∃ earlier ∈ older, messageId ∈ queryIdsOf earlier) →
              after.session.sentQueries.find? messageId = some query) := by
  have ordered := ordered_of_run created run
  have belongs := ordered.belongsTo_firstContainer packets
      (ordered.belongsTo_firstMessageId packets isSent inContainer)
  obtain ⟨next, isNext, settled⟩ := onNewSessionCreated_spec
      ((reached.connections info).firstMessageId firstMsgId)
  obtain ⟨now, atPoint, running⟩ := flushing_eq_ok isFlushing
  refine ⟨reached.follow ⟨next, .flushing info now none⟩ {}, ?_, ?_⟩
  · rw [Step, handle, isFlushing]
    have isCalled : Callback.run environment reached.session
            (.onNewSessionCreated ((reached.connections info).firstMessageId firstMsgId)) =
          .ok (next, none) := by
      rw [Callback.run, isNext]
      rfl
    exact perform_callback atPoint running isCalled
  · intro messageId query found
    rw [session_follow]
    have isSettled := settled messageId query found
    have isLess := ordered.container_lt_iff packets belongs found
    constructor
    · intro inOlder
      rw [if_pos (isLess.mpr inOlder)] at isSettled
      exact isSettled
    · intro notInOlder
      rw [if_neg (notInOlder ∘ isLess.mp)] at isSettled
      exact isSettled

end NewSession

/-! ## Three runs -/

instance (before after : LinkedSession) : Decidable (Prompt before after) :=
  -- The queries that wait are looked at, not all identifiers.
  letI : Decidable
        (∀ messageId ∈ before.queue,
          (after.session.sentQueries.find? messageId).isSome → messageId ∈ after.queue) :=
    List.decidableBAll _ _
  decidable_of_iff
    (after.overflowed = false ∧ (after.packets.length ≠ before.packets.length → after.queue = []) ∧
      (after.packets.length = before.packets.length → ∀ messageId ∈ before.queue,
          (after.session.sentQueries.find? messageId).isSome → messageId ∈ after.queue))
    ⟨fun ⟨fits, sends, keeps⟩ => ⟨fits, sends, keeps⟩,
      fun prompt => ⟨prompt.fits, prompt.sends, prompt.keeps⟩⟩

/-- A step that has to leave no query behind. -/
def handlePromptly (before : LinkedSession) (event : LinkedEvent) : Except Fault LinkedSession := do
  let after ← before.handle event
  check (Prompt before after)
  return after

theorem promptStep_of_handlePromptly {event : LinkedEvent}
    (handled : before.handlePromptly event = .ok after) : PromptStep before event after := by
  obtain ⟨next, isNext, handled⟩ := bind_eq_ok handled
  obtain ⟨_, prompt, handled⟩ := bind_eq_ok handled
  cases handled
  exact ⟨isNext, holds_of_check prompt⟩

def anotherQuery : NetQueryPtr :=
  { id := UniqueId.next 0 2, dcId := DcId.main }

def plainFlush : LinkedEvent :=
  .flushPacket (quietInputs false) quietDraws

/-- Two queries are sent, each in a packet of its own. -/
def promptEvents : List LinkedEvent :=
  askingEvents ++ [plainFlush] ++
    quietly
      [.flushed, .advance, .advance, .advance, .advance, .advance,
        .send anotherQuery, .advance, .advance, .advance, .advance, .advance,
        .advance, .advance] ++
    [plainFlush]

def directSession : Session :=
  { boundSession with
    usePfs := false
    authData := { boundSession.authData with usePfs := false, tmpAuthKey := {} } }

/-- The first query was sent in an earlier packet than the second, and is sent again. -/
theorem new_session_resends_first_query : ∃ reached packet earlier after query,
      Session.create directSetup = .ok directSession ∧
        Transition.Run PromptStep (new directSession) promptEvents reached ∧
        reached.packets = [packet, earlier] ∧ 16 ∈ messageIdsOf packet ∧ 8 ∈ queryIdsOf earlier ∧
        Step reached (.newSessionCreated quietEnvironment 16) after ∧
        reached.session.sentQueries.find? 8 = some query ∧
        after.session.sentQueries.find? 8 = none ∧ Resent query.netQuery after.session := by
  have facts :
      (promptEvents.foldlM handlePromptly (new directSession)).toOption.any (fun reached => decide
          (reached.flushing = .ok .main ∧ reached.packets.length = 2 ∧
            (∀ packet ∈ reached.packets.head?, 16 ∈ messageIdsOf packet) ∧
            (∀ earlier ∈ reached.packets.getLast?, 8 ∈ queryIdsOf earlier) ∧
            (reached.session.sentQueries.find? 8).isSome ∧
            (reached.connections .main).serviceQueries 16 = none)) = true := by
    decide +kernel
  obtain ⟨reached, returned, holds⟩ := exists_of_any facts
  have run : Transition.Run PromptStep (new directSession) promptEvents reached :=
    Transition.Run.start.foldlM (fun _ _ _ => promptStep_of_handlePromptly) returned
  obtain ⟨isFlushing, two, sent, sentEarlier, isThere, notService⟩ := of_decide_eq_true holds
  obtain ⟨packet, earlier, packets⟩ := length_eq_two.mp two
  rw [packets] at sent sentEarlier
  have isSent : 16 ∈ messageIdsOf packet := sent packet rfl
  have isEarlier : 8 ∈ queryIdsOf earlier := sentEarlier earlier rfl
  obtain ⟨query, found⟩ := Option.isSome_iff_exists.mp isThere
  obtain ⟨after, step, settled⟩ :=
    @new_session_resends_earlier_packets reached [] [earlier] packet 16
      directSetup directSession promptEvents .main rfl run isFlushing
      packets isSent
      (fun service isService => by
        rw [notService] at isService
        cases isService)
      quietEnvironment
  obtain ⟨taken, resent⟩ := (settled 8 query found).1 ⟨earlier, mem_singleton.mpr rfl, isEarlier⟩
  exact ⟨reached, packet, earlier, after, query, rfl, run, packets, isSent,
    isEarlier, step, found, taken, resent⟩

/-- An answer is requested by a packet with one message. -/
def aloneEvents : List LinkedEvent :=
  askingEvents ++ [plainFlush] ++ quietly [.callback (.onMessageInfo 8 4 1 0)] ++ [plainFlush]

/-- The first query fills a packet, the second comes after it. -/
def largeEvents : List LinkedEvent :=
  quietly
      [.onNetwork true 1, .advance, .advance, .advance, .send plainQuery,
        .advance, .advance, .advance, .send anotherQuery, .advance, .advance,
        .advance, .connectionOpenFinish .main (some ⟨1, false⟩), .loop,
        .advance, .advance] ++
    [.session ⟨quietEnvironment, .advance⟩ { packet := List.replicate (2 ^ 15) 0 }] ++
    quietly [.advance, .advance, .advance, .advance, .advance] ++
    [.flushPacket (quietInputs true) quietDraws, plainFlush]

/--
The server names a message that was sent after the first query as the first of
its new session, and the query is not sent again.
-/
def Misses (events : List LinkedEvent) : Prop :=
  ∃ reached after packet earlier, Reaches directSetup events reached ∧
      Step reached (.newSessionCreated quietEnvironment 16) after ∧
      reached.packets = [packet, earlier] ∧
      16 ∈ messageIdsOf packet ∧
      8 ∈ queryIdsOf earlier ∧
      after.session.sentQueries.find? 8 = reached.session.sentQueries.find? 8 ∧
      (reached.session.sentQueries.find? 8).isSome

/-- The state before and after the new session. -/
def runThenCreate (events : List LinkedEvent) : Except Fault (LinkedSession × LinkedSession) := do
  let reached ← runFrom directSetup events
  let after ← reached.handle (.newSessionCreated quietEnvironment 16)
  return (reached, after)

theorem misses_of_runThenCreate
    (facts :
      (runThenCreate events).toOption.any (fun states =>
        match states.1.packets with
        | [packet, earlier] =>
          decide
            (16 ∈ messageIdsOf packet ∧ 8 ∈ queryIdsOf earlier ∧
              states.2.session.sentQueries.find? 8 = states.1.session.sentQueries.find? 8 ∧
              (states.1.session.sentQueries.find? 8).isSome)
        | _ => false) = true) :
    Misses events := by
  obtain ⟨states, returned, holds⟩ := exists_of_any facts
  obtain ⟨reached, isReached, returned⟩ := bind_eq_ok returned
  obtain ⟨after, step, returned⟩ := bind_eq_ok returned
  cases returned
  split at holds
  case h_1 packet earlier packets =>
    exact ⟨reached, after, packet, earlier, reaches_of_runFrom isReached, step,
      packets, of_decide_eq_true holds⟩
  case h_2 => cases holds

/--
A message that was sent alone is remembered with the container zero, and a query
that waits while another packet is sent has a smaller identifier than that
packet.
-/
theorem new_session_misses_first_query : Misses aloneEvents ∧ Misses largeEvents := by
  constructor
  all_goals exact misses_of_runThenCreate (by decide +kernel)

end LinkedSession

end Autoproto.Net
