import Autoproto.LinkedMoves

namespace Autoproto.Net

open List

open Mtproto (Draw MtprotoQuery SessionConnection)
open Mtproto.SessionConnection (FlushInputs)
open Net.Session

/-!
# The containers of a session and its connections

A connection puts every query into at most one packet, and the identifier of a
container is issued after those of its queries. So if all identifiers are
different, the session counts the queries of its containers right.
-/

namespace Session

theorem Calms.counted {before after : Delivery} (calms : Calms before after)
    (counted : before.Counted) : after.Counted := by
  obtain ⟨same, queries, containers, settles⟩ := calms
  refine settles.counted (counted.shrink ?_ ?_ ?_)
  · intro containerMessageId container known
    rw [← containers]
    exact known
  · intro messageId query found
    rw [queries] at found
    exact ⟨query, found, rfl⟩
  · intro containerMessageId _ _ messageId query found inside
    rw [queries]
    exact ⟨query, found, inside⟩

theorem Calms.known {before after : Delivery} {issued queue : List MessageId}
    (calms : Calms before after) (known : before.Known issued queue) :
    after.Known issued queue := by
  obtain ⟨same, queries, containers, settles⟩ := calms
  refine Delivery.Known.settles ?_ settles
  constructor
  · rw [queries]
    exact known.queries
  · rw [containers]
    exact known.containers
  · exact known.distinct
  · exact known.queued
  · rw [queries]
    exact known.alone

variable {session : Session}

theorem create_empty {setup : Setup} (created : create setup = .ok session) :
    (∀ messageId, session.delivery.sentQueries.find? messageId = none) ∧
      ∀ containerMessageId, session.delivery.sentContainers containerMessageId = none := by
  obtain ⟨_, _, created⟩ := bind_eq_ok created
  cases created
  exact ⟨fun _ => rfl, fun _ => rfl⟩

variable {delivery : Delivery}

theorem Delivery.counted_of_empty
    (containers : ∀ containerMessageId, delivery.sentContainers containerMessageId = none) :
    delivery.Counted := by
  constructor
  all_goals
    intro containerMessageId container known
    rw [containers] at known
    cases known

theorem Delivery.known_of_empty (queries : ∀ messageId, delivery.sentQueries.find? messageId = none)
    (containers : ∀ containerMessageId, delivery.sentContainers containerMessageId = none) :
    delivery.Known [] [] := by
  constructor
  · intro messageId query found
    rw [queries] at found
    cases found
  · intro containerMessageId container known
    rw [containers] at known
    cases known
  · exact nodup_nil
  · exact nofun
  · exact nofun

theorem decContainer_returns {messageId : MessageId} {query : Query}
    (counted : session.delivery.Counted) :
    ∃ after, session.decContainer messageId query = .ok after := by
  rw [decContainer]
  split
  · exact ⟨session, rfl⟩
  · split
    · exact ⟨session, rfl⟩
    case h_2 container known =>
      have positive := (counted.counted _ container known).2
      rw [check_eq_ok positive]
      exact ⟨_, rfl⟩

end Session

namespace LinkedSession

/-- The queries that wait to be put into a packet. -/
def queue (linked : LinkedSession) : List MessageId :=
  (linked.connections .main).toSend.map MtprotoQuery.messageId

/-- The counters are right; waiting queries are in no container. -/
structure Consistent (linked : LinkedSession) : Prop where
  counted : linked.session.delivery.Counted
  known : linked.session.delivery.Known linked.issued linked.queue
  idle : (linked.connections .longPoll).toSend = []

variable {setup : Setup} {before after : LinkedSession}

theorem sublist_queue_of_keeps {first second : SessionConnection} (keeps : first.Keeps second) :
    (second.toSend.map MtprotoQuery.messageId).Sublist
      (first.toSend.map MtprotoQuery.messageId) := by
  rcases keeps.toSend with same | lost
  · rw [same]
  · rw [lost]
    exact nil_sublist _

theorem idle_of_keeps {first second : SessionConnection} (keeps : first.Keeps second)
    (idle : first.toSend = []) : second.toSend = [] := by
  rcases keeps.toSend with same | lost
  · rw [same, idle]
  · exact lost

theorem Consistent.calm (consistent : before.Consistent) (calm : Calm before after) :
    after.Consistent := by
  constructor
  · exact calm.delivery.counted consistent.counted
  · exact (calm.delivery.known consistent.known).mono calm.issued.messageIds.subset
      (sublist_queue_of_keeps (calm.connections .main))
  · exact idle_of_keeps (calm.connections .longPoll) consistent.idle

theorem queue_of_sends {info : ConnectionId} {packet : SessionConnection.SentPacket}
    {connection : SessionConnection} (idle : (before.connections .longPoll).toSend = [])
    (sends : (before.connections info).Sends packet connection)
    (connections : after.connections = Function.update before.connections info connection) :
    before.queue = packet.contents.toSend.map MtprotoQuery.messageId ++ after.queue ∧
      (after.connections .longPoll).toSend = [] := by
  have toSend := sends.toSend
  simp only [queue, connections]
  cases info with
  | main =>
    rw [Function.update_self, Function.update_of_ne (by decide), toSend, map_append]
    exact ⟨rfl, idle⟩
  | longPoll =>
    rw [Function.update_self, Function.update_of_ne (by decide)]
    rw [idle] at toSend
    obtain ⟨nothing, rest⟩ := append_eq_nil_iff.mp toSend.symm
    rw [nothing, rest]
    exact ⟨rfl, rfl⟩

theorem Consistent.move (consistent : before.Consistent) (move : Move before after)
    (fresh : after.issued.Nodup) : after.Consistent := by
  cases move with
  | calm calm => exact consistent.calm calm
  | sends messageId query waiting kept own absent sent keeps isWaiting
      connections takes _ =>
      have issued : after.issued = messageId :: before.issued := takes.messageIds
      rw [issued, nodup_cons] at fresh
      constructor
      · rw [sent]
        exact consistent.counted.send consistent.known fresh.1 absent own
      · rw [sent, issued]
        refine (consistent.known.send fresh.1 absent own).mono (List.Subset.refl _) ?_
        rw [queue, connections, Function.update_self, SessionConnection.push,
          map_append, map_singleton, isWaiting]
        exact (sublist_queue_of_keeps (keeps .main)).append_right _
      · rw [connections, Function.update_of_ne (by decide)]
        exact idle_of_keeps (keeps .longPoll) consistent.idle
  | flushes info packet connection sends connections packed delivery _ =>
    obtain ⟨waited, idle⟩ := queue_of_sends consistent.idle sends connections
    have lastTaken : Calms before.session.delivery
          (before.session.delivery.setLastMessageId after.issuedIds.lastMessageId) :=
      ⟨before.session.delivery.setLastMessageId after.issuedIds.lastMessageId, rfl, rfl,
        Settles.refl _⟩
    have counted := lastTaken.counted consistent.counted
    have known := lastTaken.known consistent.known
    rw [waited] at known
    rw [Delivery.noteSent] at delivery
    split at delivery
    · refine ⟨delivery ▸ counted, ?_, idle⟩
      rw [delivery]
      exact known.mono packed.later.messageIds.subset (sublist_append_right _ _)
    case isFalse mixed =>
      -- The identifier of the container is the last one that was taken.
      obtain ⟨_, middle, later, takes⟩ := packed.parent.resolve_right (fun only => mixed only.1)
      have issued : after.issued = packet.impl.containerMessageId :: middle.messageIds :=
        takes.messageIds
      rw [issued, nodup_cons] at fresh
      have known := known.mono later.messageIds.subset (List.Sublist.refl _)
      constructor
      · rw [delivery]
        exact counted.pack known fresh.1
      · rw [delivery, issued]
        exact known.pack
      · exact idle

theorem suffix_issued (move : Move before after) : before.issued <:+ after.issued := by
  cases move with
  | calm calm => exact calm.issued.messageIds
  | sends _ _ _ _ _ _ _ _ _ _ takes _ => exact takes.isLater.messageIds
  | flushes _ _ _ _ _ packed _ _ => exact packed.later.messageIds

variable {events : List LinkedEvent} {reached : LinkedSession}

theorem Reaches.consistent (reaches : Reaches setup events reached) (fresh : reached.issued.Nodup) :
    reached.Consistent := by
  obtain ⟨session, created, run⟩ := reaches
  have atFirst : (new session).issued.Nodup → (new session).Consistent := by
    obtain ⟨queries, containers⟩ := create_empty created
    exact fun _ =>
      ⟨Delivery.counted_of_empty containers, Delivery.known_of_empty queries containers, rfl⟩
  have kept : ∀ before event after, (before.issued.Nodup → before.Consistent) →
          Step before event after → after.issued.Nodup → after.Consistent := by
    intro before event after consistent step fresh
    have move := move_of_step step
    exact (consistent (fresh.sublist (suffix_issued move).sublist)).move move fresh
  exact run.invariant atFirst kept fresh

/--
If all issued identifiers are different, the counter of every container is the
positive number of the sent queries in it, which it lists, so its check does not
fail. If a container fails, exactly the queries that wait in it are taken out,
and if it is acknowledged, exactly these are marked.
-/
theorem containers_count_waiting_queries
    {setup : Setup}
    {events : List LinkedEvent}
    {reached : LinkedSession}
    (reaches : Reaches setup events reached)
    (fresh : reached.issued.Nodup) :
    (∀ containerMessageId container,
      reached.session.sentContainers containerMessageId = some container →
        let waiting := reached.session.delivery.waitingIn containerMessageId
        container.refCnt = waiting.card ∧
          0 < container.refCnt ∧
          (∀ messageId ∈ waiting, messageId ∈ container.messageIds) ∧
          (∀ environment, ∃ after,
            reached.session.onMessageFailed environment containerMessageId = .ok after ∧
              ∀ messageId, after.sentQueries.find? messageId =
                  if messageId ∈ waiting then none
                  else reached.session.sentQueries.find? messageId) ∧
          ∀ messageId,
            (reached.session.onMessageAck containerMessageId).sentQueries.find? messageId =
              if messageId ∈ waiting then
                (reached.session.sentQueries.find? messageId).map Query.acknowledged
              else
                reached.session.sentQueries.find? messageId) ∧
    ∀ messageId query, reached.session.sentQueries.find? messageId = some query →
        ∃ after, reached.session.decContainer messageId query = .ok after := by
  have counted := (reaches.consistent fresh).counted
  refine ⟨?_, fun _ _ _ => decContainer_returns counted⟩
  intro containerMessageId container known
  obtain ⟨count, positive⟩ := counted.counted containerMessageId container known
  exact ⟨count, positive, counted.listed containerMessageId container known,
    fun environment => onMessageFailed_container counted known,
    fun messageId => onMessageAck_container counted known⟩

/-! ## A run -/

/-- A session of the main data centre that uses its main key. -/
def directSetup : Setup :=
  { boundSetup with usePfs := false }

/-- There are salts, and the time of the server stands still. -/
def quietInputs (mayPing : Bool) : FlushInputs where
  hasSalt := true
  mayPing := mayPing
  needFutureSalts := false
  pingTimeout := 0
  maxWait := 0
  header := []
  serverTime := 0

def quietDraws : Nat → Draw :=
  fun _ => ⟨0, 0⟩

def quietly (actions : List Action) : List LinkedEvent :=
  actions.map (fun action => .session ⟨quietEnvironment, action⟩ {})

/-- A connection is opened, and a query is handed over. -/
def askingEvents : List LinkedEvent :=
  quietly
    [.onNetwork true 1, .advance, .advance, .advance,
      .connectionOpenFinish .main (some ⟨1, false⟩), .send plainQuery,
      .advance, .advance, .advance, .advance, .advance, .advance, .advance]

/-- The query is sent together with a ping. -/
def packingEvents : List LinkedEvent :=
  askingEvents ++ [.flushPacket (quietInputs true) quietDraws]

/-- Some events from the beginning. -/
def runFrom (setup : Setup) (events : List LinkedEvent) : Except Fault LinkedSession := do
  let session ← Session.create setup
  events.foldlM handle (new session)

theorem reaches_of_runFrom (returned : runFrom setup events = .ok reached) :
    Reaches setup events reached := by
  obtain ⟨session, created, ran⟩ := bind_eq_ok returned
  have isStep : ∀ before event after, before.handle event = .ok after → Step before event after :=
    fun _ _ _ => id
  exact ⟨session, created, Transition.Run.start.foldlM isStep ran⟩

theorem containers_count_waiting_queries_of_ping : ∃ reached container,
      Reaches directSetup packingEvents reached ∧ reached.issued.Nodup ∧
        reached.session.sentContainers 32 = some container ∧
        container.refCnt = (reached.session.delivery.waitingIn 32).card ∧ 0 < container.refCnt := by
  have facts : (runFrom directSetup packingEvents).toOption.any (fun reached =>
        decide (reached.issued.Nodup ∧ (reached.session.sentContainers 32).isSome)) = true := by
    decide +kernel
  obtain ⟨reached, returned, holds⟩ := exists_of_any facts
  obtain ⟨fresh, isThere⟩ := of_decide_eq_true holds
  obtain ⟨container, known⟩ := Option.isSome_iff_exists.mp isThere
  have reaches := reaches_of_runFrom returned
  obtain ⟨count, positive, _⟩ :=
    (containers_count_waiting_queries reaches fresh).1 32 container known
  exact ⟨reached, container, reaches, fresh, known, count, positive⟩

end LinkedSession

end Autoproto.Net
