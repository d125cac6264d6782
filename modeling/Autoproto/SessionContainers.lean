import Autoproto.SessionRuns

namespace Autoproto.Net

open List

/-!
# The containers of a session

A session remembers for every container how many of its queries have not been
answered.  The counter is right as long as every query is put into at most one
container, and no identifier is used twice.
-/

namespace Session

namespace Delivery

/-- The sent queries that are in a container. -/
def waitingIn (containerMessageId : MessageId) (delivery : Delivery) : Finset MessageId :=
  ((delivery.sentQueries.entries.filter fun entry =>
    entry.2.containerMessageId = containerMessageId).map Prod.fst).toFinset

theorem mem_waitingIn {containerMessageId messageId : MessageId} {delivery : Delivery} :
    messageId ∈ delivery.waitingIn containerMessageId ↔ ∃ query,
        delivery.sentQueries.find? messageId = some query ∧
          query.containerMessageId = containerMessageId := by
  rw [waitingIn, mem_toFinset, mem_map]
  constructor
  · rintro ⟨⟨key, query⟩, isEntry, rfl⟩
    obtain ⟨isEntry, inside⟩ := mem_filter.mp isEntry
    exact ⟨query, OrderedMap.find?_of_mem isEntry, of_decide_eq_true inside⟩
  · rintro ⟨query, found, inside⟩
    exact ⟨(messageId, query),
      mem_filter.mpr ⟨OrderedMap.mem_entries_iff.mpr found, decide_eq_true inside⟩, rfl⟩

/-! ## The counters -/

/-- What holds of every container that is known. -/
structure Counted (delivery : Delivery) : Prop where
  counted : ∀ containerMessageId container,
      delivery.sentContainers containerMessageId = some container →
        container.refCnt = (delivery.waitingIn containerMessageId).card ∧ 0 < container.refCnt
  listed : ∀ containerMessageId container,
      delivery.sentContainers containerMessageId = some container →
        ∀ messageId ∈ delivery.waitingIn containerMessageId, messageId ∈ container.messageIds
  /-- The queries that a container lists are in no other one. -/
  aligned : ∀ containerMessageId container,
      delivery.sentContainers containerMessageId = some container →
        ∀ messageId ∈ container.messageIds, ∀ query,
          delivery.sentQueries.find? messageId = some query →
            query.containerMessageId = containerMessageId
  /-- A container is not a query. -/
  apart : ∀ containerMessageId container,
      delivery.sentContainers containerMessageId = some container →
        delivery.sentQueries.find? containerMessageId = none

variable {first second : Delivery}

theorem Counted.shrink (counted : first.Counted) (containers : ∀ containerMessageId container,
        second.sentContainers containerMessageId = some container →
          first.sentContainers containerMessageId = some container)
    (queries : ∀ messageId query, second.sentQueries.find? messageId = some query → ∃ earlier,
            first.sentQueries.find? messageId = some earlier ∧
              query.containerMessageId = earlier.containerMessageId)
    (kept : ∀ containerMessageId container,
        second.sentContainers containerMessageId = some container →
          ∀ messageId query, first.sentQueries.find? messageId = some query →
              query.containerMessageId = containerMessageId →
                ∃ later, second.sentQueries.find? messageId = some later ∧
                    later.containerMessageId = containerMessageId) : second.Counted := by
  have same (containerMessageId : MessageId) (container : ContainerInfo)
      (known : second.sentContainers containerMessageId = some container) :
      second.waitingIn containerMessageId = first.waitingIn containerMessageId := by
    ext messageId
    grind [mem_waitingIn]
  obtain ⟨counts, listed, aligned, apart⟩ := counted
  constructor
  · grind
  · grind
  · grind
  · intro containerMessageId container known
    cases found : second.sentQueries.find? containerMessageId <;> grind

theorem Counted.release {messageId : MessageId} {query : Query} {container : ContainerInfo}
    (counted : first.Counted) (found : first.sentQueries.find? messageId = some query)
    (known : first.sentContainers query.containerMessageId = some container) :
    ((first.erase messageId).setContainer query.containerMessageId container.release).Counted := by
  have waiting (containerMessageId : MessageId) :
      ((first.erase messageId).setContainer query.containerMessageId
          container.release).waitingIn containerMessageId =
        (first.waitingIn containerMessageId).erase messageId := by
    ext other
    simp only [Finset.mem_erase, mem_waitingIn, sentQueries_setContainer, find?_erase]
    grind
  have inside : messageId ∈ first.waitingIn query.containerMessageId :=
    mem_waitingIn.mpr ⟨query, found, rfl⟩
  have less := Finset.card_erase_of_mem inside
  obtain ⟨counts, listed, aligned, apart⟩ := counted
  -- Only the container of the query has changed, and by one.
  have cases (containerMessageId : MessageId) (info : ContainerInfo)
      (isKnown : ((first.erase messageId).setContainer query.containerMessageId
          container.release).sentContainers containerMessageId = some info) :
      ∃ before, first.sentContainers containerMessageId = some before ∧
          info.messageIds = before.messageIds ∧
          info.refCnt = ((first.waitingIn containerMessageId).erase messageId).card ∧
          0 < info.refCnt := by
    rw [sentContainers_setContainer] at isKnown
    split at isKnown
    case isTrue same => grind [ContainerInfo.release]
    case isFalse differs =>
      have outside : messageId ∉ first.waitingIn containerMessageId := by grind [mem_waitingIn]
      rw [Finset.erase_eq_of_notMem outside]
      exact ⟨info, isKnown, rfl, counts containerMessageId info isKnown⟩
  constructor
  · grind
  · intro containerMessageId info isKnown other isWaiting
    obtain ⟨before, isBefore, sameIds, _⟩ := cases containerMessageId info isKnown
    rw [waiting] at isWaiting
    rw [sameIds]
    exact listed containerMessageId before isBefore other (Finset.mem_of_mem_erase isWaiting)
  · intro containerMessageId info isKnown other isListed stored isStored
    rw [sentQueries_setContainer, find?_erase] at isStored
    grind
  · intro containerMessageId info isKnown
    rw [sentQueries_setContainer, find?_erase]
    grind

end Delivery

open Delivery

theorem Settlement.counted {first second : Delivery} (settlement : Settlement first second)
    (counted : first.Counted) : second.Counted := by
  have queries (messageId : MessageId) (query : Query) :=
    @Settles.find? first second (Settles.single settlement) messageId query
  cases settlement with
  | mark messageId change sameContainer =>
    refine counted.shrink (fun _ _ => id) queries ?_
    intro containerMessageId _ _ other query found inside
    rw [find?_modify]
    split
    · rw [found]
      exact ⟨change query, rfl, (sameContainer query).trans inside⟩
    · exact ⟨query, found, inside⟩
  | forget containerMessageId =>
    refine counted.shrink ?_ queries ?_
    · intro other container known
      rw [sentContainers_setContainer] at known
      split at known
      · cases known
      · exact known
    · intro other _ _ messageId query found inside
      exact ⟨query, found, inside⟩
  | take messageId query found free =>
    refine counted.shrink (fun _ _ => id) queries ?_
    intro containerMessageId container known other stored isStored inside
    rw [find?_erase]
    split
    case isTrue same =>
      -- The query that is taken out is in no container that is known.
      subst same
      rw [found] at isStored
      cases isStored
      rcases free with alone | forgotten
      · have absent := counted.apart containerMessageId container known
        rw [← inside, alone, found] at absent
        cases absent
      · change first.sentContainers containerMessageId = _ at known
        rw [← inside, forgotten] at known
        cases known
    case isFalse => exact ⟨stored, isStored, inside⟩
  | release messageId query container found inside known positive =>
    exact counted.release found known
  | fail failed container known =>
    obtain ⟨erased, containers, _⟩ :=
      eraseAll_spec container.messageIds (first.setContainer failed none)
    have earlier (containerMessageId : MessageId) (info : ContainerInfo)
        (isKnown : ((first.setContainer failed none).eraseAll
            container.messageIds).sentContainers containerMessageId = some info) :
        containerMessageId ≠ failed ∧ first.sentContainers containerMessageId = some info := by
      rw [containers, sentContainers_setContainer] at isKnown
      split at isKnown
      · cases isKnown
      case isFalse differs => exact ⟨differs, isKnown⟩
    refine counted.shrink (fun _ _ isKnown => (earlier _ _ isKnown).2) queries ?_
    intro containerMessageId info isKnown messageId query found inside
    rw [erased]
    split
    case isTrue isListed =>
      have other := counted.aligned failed container known messageId isListed query found
      exact absurd (inside.symm.trans other) (earlier containerMessageId info isKnown).1
    case isFalse => exact ⟨query, found, inside⟩
  | dropTmpAuthKey =>
    exact counted.shrink (fun _ _ => id) queries
      (fun _ _ _ _ query found inside => ⟨query, found, inside⟩)
  | clear => exact counted.shrink nofun queries nofun

theorem Settles.counted {first second : Delivery} (settles : Settles first second)
    (counted : first.Counted) : second.Counted := by
  induction settles with
  | refl => exact counted
  | tail _ settlement ih => exact settlement.counted ih

namespace Delivery

/-! ## The identifiers -/

/--
All identifiers have been issued. The queries that wait for a packet wait once,
and are in no container.
-/
structure Known (issued queue : List MessageId) (delivery : Delivery) : Prop where
  queries : ∀ messageId query, delivery.sentQueries.find? messageId = some query →
        messageId ∈ issued ∧ query.containerMessageId ∈ issued
  containers : ∀ containerMessageId container,
      delivery.sentContainers containerMessageId = some container →
        containerMessageId ∈ issued ∧ ∀ messageId ∈ container.messageIds, messageId ∈ issued
  distinct : queue.Nodup
  queued : ∀ messageId ∈ queue, messageId ∈ issued
  alone : ∀ messageId ∈ queue, ∀ query,
      delivery.sentQueries.find? messageId = some query → query.containerMessageId = messageId

variable {issued more queue rest messageIds : List MessageId} {delivery after : Delivery}
  {messageId containerMessageId : MessageId} {query : Query}

theorem Known.settles (known : delivery.Known issued queue) (settles : Settles delivery after) :
    after.Known issued queue := by
  have queries (messageId : MessageId) (query : Query) :=
    @Settles.find? delivery after settles messageId query
  have containers (containerMessageId : MessageId) (container : ContainerInfo) :=
    @Settles.sentContainers delivery after settles containerMessageId container
  obtain ⟨issuedQueries, issuedContainers, distinct, queued, alone⟩ := known
  refine ⟨?_, ?_, distinct, queued, ?_⟩
  · intro messageId query found
    obtain ⟨earlier, wasFound, sameContainer⟩ := queries messageId query found
    rw [sameContainer]
    exact issuedQueries messageId earlier wasFound
  · intro containerMessageId container isKnown
    obtain ⟨earlier, wasKnown, sameIds⟩ := containers containerMessageId container isKnown
    rw [sameIds]
    exact issuedContainers containerMessageId earlier wasKnown
  · grind

theorem Known.mono (known : delivery.Known issued queue) (included : issued ⊆ more)
    (fewer : rest.Sublist queue) : delivery.Known more rest := by
  obtain ⟨queries, containers, distinct, queued, alone⟩ := known
  refine ⟨?_, ?_, distinct.sublist fewer, ?_, ?_⟩
  · exact fun messageId query found => (queries messageId query found).imp
      (fun isIssued => included isIssued) (fun isIssued => included isIssued)
  · exact fun containerMessageId container isKnown =>
      (containers containerMessageId container isKnown).imp (fun isIssued => included isIssued)
        (fun allIssued messageId isListed => included (allIssued messageId isListed))
  · exact fun messageId isQueued => included (queued messageId (fewer.subset isQueued))
  · exact fun messageId isQueued => alone messageId (fewer.subset isQueued)

/-! ## Sending -/

theorem find?_send (absent : delivery.sentQueries.find? messageId = none) (other : MessageId) :
    (delivery.send messageId query).sentQueries.find? other =
      if other = messageId then some query
      else delivery.sentQueries.find? other :=
  OrderedMap.find?_emplace absent other

theorem Counted.send (counted : delivery.Counted) (known : delivery.Known issued queue)
    (fresh : messageId ∉ issued) (absent : delivery.sentQueries.find? messageId = none)
    (own : query.containerMessageId = messageId) : (delivery.send messageId query).Counted := by
  obtain ⟨counts, listed, aligned, apart⟩ := counted
  have containers := known.containers
  have same (containerMessageId : MessageId) (container : ContainerInfo)
      (isKnown : delivery.sentContainers containerMessageId = some container) :
      (delivery.send messageId query).waitingIn containerMessageId =
        delivery.waitingIn containerMessageId := by
    ext other
    grind [mem_waitingIn, find?_send]
  have others (containerMessageId : MessageId) :
      (delivery.send messageId query).sentContainers containerMessageId =
        delivery.sentContainers containerMessageId :=
    rfl
  constructor <;> grind [find?_send]

theorem Known.send (known : delivery.Known issued queue) (fresh : messageId ∉ issued)
    (absent : delivery.sentQueries.find? messageId = none)
    (own : query.containerMessageId = messageId) :
    (delivery.send messageId query).Known (messageId :: issued) (queue ++ [messageId]) := by
  have before := known.mono (subset_cons_self messageId issued) (List.Sublist.refl queue)
  have isNew : messageId ∉ queue := fun isQueued => fresh (known.queued messageId isQueued)
  have alone := known.alone
  constructor
  · intro other stored found
    have wasIssued := before.queries other stored
    rw [find?_send absent] at found
    grind
  · exact before.containers
  · have distinct := known.distinct
    grind
  · have queued := before.queued
    grind
  · grind [find?_send]

/-! ## Packets -/

theorem Counted.pack (counted : delivery.Counted)
    (known : delivery.Known issued (messageIds ++ rest)) (fresh : containerMessageId ∉ issued) :
    (delivery.pack containerMessageId messageIds).Counted := by
  have queuedAlone (messageId : MessageId) (isMember : messageId ∈ messageIds) :=
    known.alone messageId (mem_append_left rest isMember)
  have isQueued (messageId : MessageId) (isMember : messageId ∈ messageIds) :=
    known.queued messageId (mem_append_left rest isMember)
  have issuedQueries := known.queries
  have issuedContainers := known.containers
  obtain ⟨counts, listed, aligned, apart⟩ := counted
  -- A query of the packet is in no other container.
  have sameWaiting (other : MessageId) (container : ContainerInfo)
      (isKnown : delivery.sentContainers other = some container) :
      (delivery.pack containerMessageId messageIds).waitingIn other = delivery.waitingIn other := by
    ext messageId
    rw [mem_waitingIn, mem_waitingIn, find?_pack]
    cases found : delivery.sentQueries.find? messageId <;> grind
  have packed : (delivery.pack containerMessageId messageIds).waitingIn
      containerMessageId = (delivery.stillSent messageIds).toFinset := by
    ext messageId
    rw [mem_waitingIn, mem_toFinset, stillSent, mem_filter, find?_pack]
    cases found : delivery.sentQueries.find? messageId with
    | none => simp
    | some stored =>
      have isIssued := (issuedQueries messageId stored found).2
      by_cases isMember : messageId ∈ messageIds
      · simp [isMember]
      · grind
  have distinct : (delivery.stillSent messageIds).Nodup :=
    (known.distinct.sublist (sublist_append_left messageIds rest)).filter _
  have size := toFinset_card_of_nodup distinct
  -- What is known of a container after the packet has been sent.
  have cases (other : MessageId) (container : ContainerInfo) (isKnown :
        (delivery.pack containerMessageId messageIds).sentContainers other = some container) :
      delivery.sentContainers other = some container ∨
        other = containerMessageId ∧ delivery.stillSent messageIds ≠ [] ∧
          container = ⟨(delivery.stillSent messageIds).length, delivery.stillSent messageIds⟩ := by
    rw [sentContainers_pack] at isKnown
    grind [Function.update_apply]
  have stillSent (messageId : MessageId) (isMember : messageId ∈ delivery.stillSent messageIds) :
      messageId ∈ messageIds :=
    mem_of_mem_filter isMember
  constructor
  · intro other container isKnown
    rcases cases other container isKnown with isKnown | ⟨rfl, something, rfl⟩
    · rw [sameWaiting other container isKnown]
      exact counts other container isKnown
    · rw [packed, size]
      exact ⟨rfl, length_pos_of_ne_nil something⟩
  · intro other container isKnown
    rcases cases other container isKnown with isKnown | ⟨rfl, _, rfl⟩
    · rw [sameWaiting other container isKnown]
      exact listed other container isKnown
    · rw [packed]
      exact fun messageId => mem_toFinset.mp
  · intro other container isKnown messageId isListed stored found
    rw [find?_pack] at found
    cases wasFound : delivery.sentQueries.find? messageId <;> grind
  · intro other container isKnown
    rw [find?_pack]
    rcases cases other container isKnown with isKnown | ⟨rfl, _, _⟩
    · simp [apart other container isKnown]
    · cases found : delivery.sentQueries.find? other with
      | none => simp
      | some stored => exact absurd (issuedQueries other stored found).1 fresh

theorem Known.pack (known : delivery.Known issued (messageIds ++ rest)) :
    (delivery.pack containerMessageId messageIds).Known (containerMessageId :: issued) rest := by
  have before := known.mono (subset_cons_self containerMessageId issued)
    (sublist_append_right messageIds rest)
  have queries := before.queries
  have containers := before.containers
  have queued := known.queued
  have apart := disjoint_of_nodup_append known.distinct
  have stillSent (messageId : MessageId) (isMember : messageId ∈ delivery.stillSent messageIds) :
      messageId ∈ messageIds :=
    mem_of_mem_filter isMember
  refine ⟨?_, ?_, before.distinct, before.queued, ?_⟩
  · intro messageId stored found
    rw [find?_pack] at found
    split at found
    case isTrue isMember =>
      obtain ⟨earlier, isEarlier, rfl⟩ := Option.map_eq_some_iff.mp found
      exact ⟨(queries messageId earlier isEarlier).1, mem_cons_self⟩
    case isFalse => exact queries messageId stored found
  · intro other container isKnown
    rw [sentContainers_pack] at isKnown
    grind [Function.update_apply]
  · intro messageId isQueued stored found
    have notMember : messageId ∉ messageIds := fun isMember => apart isMember isQueued
    rw [find?_pack, if_neg notMember] at found
    exact before.alone messageId isQueued stored found

theorem Counted.mem_waitingIn_iff_of_find? {container : ContainerInfo} (counted : delivery.Counted)
    (known : delivery.sentContainers containerMessageId = some container)
    (found : delivery.sentQueries.find? messageId = some query) :
    messageId ∈ delivery.waitingIn containerMessageId ↔ messageId ∈ container.messageIds := by
  constructor
  · intro isWaiting
    exact counted.listed containerMessageId container known messageId isWaiting
  · intro isListed
    exact mem_waitingIn.mpr ⟨query, found,
      counted.aligned containerMessageId container known messageId isListed query found⟩

end Delivery

/-! ## What a message about a container does -/

section Containers

variable {session : Session} {environment : Environment} {containerMessageId messageId : MessageId}
  {container : ContainerInfo}

theorem resendQuery_returns (environment : Environment) (netQuery : NetQueryPtr)
    (session : Session) : ∃ after, session.resendQuery environment netQuery = .ok after := by
  simp only [resendQuery]
  split
  · exact ⟨_, rfl⟩
  case isFalse regular =>
    rw [addQuery, check_eq_ok regular]
    exact ⟨_, rfl⟩

theorem failAll_returns (environment : Environment) (messageIds : List MessageId)
    (session : Session) :
    ∃ after, messageIds.foldlM (onMessageFailedInner environment true) session = .ok after := by
  induction messageIds generalizing session with
  | nil => exact ⟨session, rfl⟩
  | cons first rest ih =>
    have failed : ∃ next, session.onMessageFailedInner environment true first = .ok next := by
      rw [onMessageFailedInner]
      split
      · exact ⟨session, rfl⟩
      · exact resendQuery_returns environment _ _
    obtain ⟨next, failed⟩ := failed
    rw [foldlM_cons, failed]
    exact ih next

theorem onMessageFailed_container (counted : session.delivery.Counted)
    (known : session.sentContainers containerMessageId = some container) : ∃ after,
      session.onMessageFailed environment containerMessageId = .ok after ∧
        ∀ messageId, after.sentQueries.find? messageId =
            if messageId ∈ session.delivery.waitingIn containerMessageId then
              none
            else
              session.sentQueries.find? messageId := by
  rw [onMessageFailed, known]
  obtain ⟨after, failed⟩ :=
    failAll_returns environment container.messageIds (session.setContainer containerMessageId none)
  refine ⟨after, failed, ?_⟩
  intro messageId
  have erased :=
    congrArg (fun delivery => delivery.sentQueries.find? messageId) (delivery_of_failAll failed)
  refine (erased.trans ((eraseAll_spec ..).1 messageId)).trans ?_
  change
    (if messageId ∈ container.messageIds then none else session.sentQueries.find? messageId) = _
  cases isSent : session.sentQueries.find? messageId with
  | none => simp
  | some query => simp only [counted.mem_waitingIn_iff_of_find? known isSent]

def Query.acknowledged (query : Query) : Query :=
  { query with isAcknowledged := true, isUnknown := false }

theorem find?_onMessageAckImplInner (acknowledged messageId : MessageId) :
    (session.onMessageAckImplInner true acknowledged).sentQueries.find? messageId =
      if messageId = acknowledged then
        (session.sentQueries.find? messageId).map Query.acknowledged
      else
        session.sentQueries.find? messageId := by
  rw [onMessageAckImplInner]
  split
  case h_1 absent =>
    split
    case isTrue same =>
      rw [same, absent]
      rfl
    case isFalse => rfl
  case h_2 query found =>
    have marked := congrArg (fun delivery => delivery.sentQueries.find? messageId)
        (delivery_markAsKnown acknowledged query ((session.modifySentQuery acknowledged
            (fun query => { query with isAcknowledged := true })).applyIf
              (¬ true = true) (cleanupContainer acknowledged query)))
    refine marked.trans ?_
    change
      OrderedMap.find? messageId
        (Delivery.sentQueries
          (if ¬ query.isUnknown = true then
            session.delivery.modify acknowledged
              (fun query => { query with isAcknowledged := true })
          else
            (session.delivery.modify acknowledged
              (fun query => { query with isAcknowledged := true })).modify
                acknowledged (fun query => { query with isUnknown := false }))) = _
    have stored : session.delivery.sentQueries.find? acknowledged = some query := found
    split
    case isTrue isKnown =>
      rw [Delivery.find?_modify]
      split
      case isTrue same =>
        rw [Bool.not_eq_true] at isKnown
        rw [same, stored, found]
        simp [Query.acknowledged, ← isKnown]
      case isFalse => rfl
    case isFalse =>
      rw [Delivery.find?_modify, Delivery.find?_modify]
      split
      case isTrue same =>
        rw [same, stored, found]
        rfl
      case isFalse => rfl

theorem find?_acknowledgeAll (acknowledged : List MessageId) (messageId : MessageId)
    (session : Session) :
    (acknowledged.foldl (onMessageAckImplInner true) session).sentQueries.find? messageId =
      if messageId ∈ acknowledged then
        (session.sentQueries.find? messageId).map Query.acknowledged
      else
        session.sentQueries.find? messageId := by
  induction acknowledged generalizing session with
  | nil => rfl
  | cons first rest ih =>
    rw [foldl_cons, ih, find?_onMessageAckImplInner]
    by_cases isFirst : messageId = first
    · rw [if_pos isFirst, isFirst, if_pos mem_cons_self, Option.map_map]
      split <;> rfl
    · simp only [if_neg isFirst, mem_cons, or_iff_right isFirst]

theorem onMessageAck_container (counted : session.delivery.Counted)
    (known : session.sentContainers containerMessageId = some container) :
    (session.onMessageAck containerMessageId).sentQueries.find? messageId =
      if messageId ∈ session.delivery.waitingIn containerMessageId then
        (session.sentQueries.find? messageId).map Query.acknowledged
      else
        session.sentQueries.find? messageId := by
  rw [onMessageAck, onMessageAckImpl, known]
  have all := find?_acknowledgeAll container.messageIds messageId
      (session.setContainer containerMessageId none)
  refine all.trans ?_
  change
    (if messageId ∈ container.messageIds then
        (session.sentQueries.find? messageId).map Query.acknowledged
      else session.sentQueries.find? messageId) = _
  cases isSent : session.sentQueries.find? messageId with
  | none => simp
  | some query => simp only [counted.mem_waitingIn_iff_of_find? known isSent]

end Containers

end Session

end Autoproto.Net
