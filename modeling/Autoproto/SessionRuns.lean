import Autoproto.SessionMoves

namespace Autoproto.Net

open List ByteEncoding

/-!
# Runs of a session

Every step of a session keeps account of its queries.  A query that has been
given to a session is therefore in exactly one place, and has been returned once
the session is closed.
-/

namespace Session

section Steps

variable {given : List Nat} {inHand : Multiset (Nat × Nat)} {session after : Session}
  {environment : Environment} {info : ConnectionId}

/-! ## Sending -/

variable {query : NetQueryPtr}

theorem Holds.connectionSendQuery {messageId : MessageId}
    (holds : Holds given (query.tickets + inHand) session.toQueries)
    (allowed : query.isBindKey = true ∨ session.sentQueries.size < maxInflightQueries)
    (sent : session.connectionSendQuery environment info query messageId = .ok after) :
    Holds given inHand after.toQueries := by
  obtain ⟨ready, tickets, sameType,
    rfl | ⟨unknown, rfl⟩ | ⟨before, used, isBefore, absent, rfl⟩⟩ := connectionSendQuery_eq_ok sent
  all_goals
    have current : Holds given (ready.tickets + inHand) (session.setCurrentInfo info).toQueries :=
      tickets ▸ holds
  · exact current.returnQuery rfl
  · exact current.park unknown
  · obtain rfl | ⟨rfl, _⟩ := isBefore
    all_goals
      refine Holds.emplace current absent rfl (allowed.imp (fun isBindKey => ?_) id)
      exact if_pos (sameType.trans isBindKey)

theorem Holds.connectionSendCheckMainKey (holds : Holds given inHand session.toQueries)
    (sent : session.connectionSendCheckMainKey environment info = .ok after) :
    Holds given inHand after.toQueries := by
  obtain ⟨noTicket, isBindKey⟩ := makeBindKeyQuery_spec environment.uniqueIdCounter
  simp only [Session.connectionSendCheckMainKey] at sent
  split at sent
  · cases sent
    exact holds
  · obtain ⟨_, _, sent⟩ := bind_eq_ok sent
    refine Holds.connectionSendQuery ?_ (.inl isBindKey) sent
    rw [noTicket, zero_add]
    exact holds

theorem Holds.connectionSendBindKey (holds : Holds given inHand session.toQueries)
    (sent : session.connectionSendBindKey environment info = .ok after) :
    Holds given inHand after.toQueries := by
  obtain ⟨noTicket, isBindKey⟩ := makeBindKeyQuery_spec environment.uniqueIdCounter
  obtain ⟨_, _, sent⟩ := bind_eq_ok sent
  dsimp only at sent
  split at sent
  · cases sent
    exact holds
  · refine Holds.connectionSendQuery ?_ (.inl isBindKey) sent
    rw [noTicket, zero_add]
    exact holds

/-! ## Messages -/

theorem Holds.send {result : Session × Bool} (holds : Holds given 0 session.toQueries)
    (sent : session.send environment query = .ok result) :
    Holds (given ++ [query.id]) 0 result.1.toQueries := by
  have received : Holds (given ++ [query.id]) ((session.receive environment query).tickets + 0)
        ((session.setLastActivity environment).addGiven query.id).toQueries := by
    have ticket : (session.receive environment query).tickets = {(query.id, given.length)} := by
      rw [receive, tickets_updateIsReady, ← holds.given_eq]
      rfl
    refine ⟨holds.running, ?_, ?_, holds.unknown, holds.parked, holds.bounded⟩
    · exact congrArg (· ++ [query.id]) holds.given_eq
    · rw [zipIdx_append, ticket, add_zero, ← Multiset.coe_add,
        ← holds.conserved, add_zero, Nat.zero_add]
      rfl
  simp only [Session.send] at sent
  split at sent
  · cases sent
    exact received.returnQuery rfl
  · obtain ⟨added, isAdded, sent⟩ := bind_eq_ok sent
    cases sent
    exact received.addQuery rfl isAdded

theorem toQueries_foldl_returnQuery (queries : List NetQueryPtr) : (queries.foldl
        (fun session query => session.returnQuery environment query.setErrorResend)
        session).toQueries = { session.toQueries with
        returned :=
          session.returned ++
            queries.map fun query => { query.setErrorResend with sessionId := 0 } } := by
  induction queries generalizing session with
  | nil => simp
  | cons query rest ih =>
    rw [foldl_cons, ih, map_cons]
    simp [Session.returnQuery]

theorem ticketsOf_map_setErrorResend (queries : List NetQueryPtr) :
    ticketsOf (queries.map fun query => { query.setErrorResend with sessionId := 0 }) =
      ticketsOf queries := by
  rw [ticketsOf, ticketsOf, map_map]
  rfl

/-- All tickets are returned in the end. -/
theorem Holds.close (holds : Holds given 0 session.toQueries)
    (closed : session.close environment = .ok after) : Finished given after.toQueries := by
  obtain ⟨unconnected, closedConnections, closed⟩ := bind_eq_ok closed
  obtain ⟨_, _, closed⟩ := bind_eq_ok closed
  cases closed
  have flag : Holds given 0 session.setCloseFlag.toQueries := holds
  have before := (keeps_closeConnections closedConnections).holds given 0 flag
  let flushed := unconnected.pushSentQueries.flushPendingInvokeAfterQueries
  have waiting : ticketsOf flushed.pendingQueries.toList =
        ticketsOf unconnected.pendingInvokeAfterQueries +
          (unconnected.sentQueries.sumOver
            (fun query => query.netQuery.tickets) +
            ticketsOf unconnected.pendingQueries.toList) :=
    (ticketsOf_foldl_push id _ _).trans (congrArg _ (ticketsOf_foldl_push _ _ _))
  have returned : (flushed.returnPendingQueries environment).toQueries = { flushed.toQueries with
          pendingQueries := {}
          returned :=
            flushed.returned ++
              flushed.pendingQueries.toList.map fun query =>
                { query.setErrorResend with sessionId := 0 } } :=
    toQueries_foldl_returnQuery ..
  have afterReturn : Finished given
        { (flushed.returnPendingQueries environment).toQueries with
          isStopped := true } := by
    rw [returned]
    refine ⟨rfl, before.given_eq, rfl, rfl, rfl, ?_⟩
    rw [ticketsOf_append, ticketsOf_map_setErrorResend, waiting, ← before.conserved]
    simp only [Queries.tickets, add_zero]
    change ticketsOf unconnected.returned + _ = _
    abel
  exact afterReturn

/-! ## The loop -/

variable {now : Rat} {needFlush : Bool} {system : System}

theorem Holds.stepSendQueries (holds : Holds given inHand session.toQueries)
    (stepped : session.stepSendQueries environment now needFlush = .ok system) :
    Holds given inHand system.session.toQueries := by
  rw [Session.stepSendQueries] at stepped
  split at stepped
  case isTrue room =>
    obtain ⟨⟨query, rest⟩, popped, stepped⟩ := bind_eq_ok stepped
    obtain ⟨sent, isSent, stepped⟩ := bind_eq_ok stepped
    cases stepped
    have taken : Holds given (query.tickets + inHand) (session.setPendingQueries rest).toQueries :=
      holds.pop popped
    exact taken.connectionSendQuery (.inr room.2) isSent
  case isFalse =>
    cases stepped
    exact holds

end Steps

end Session

open Net.Session

variable {given : List Nat} {event : Event}

theorem System.Effect.holds {before after : System} (effect : Effect before event after)
    (holds : Holds given 0 before.session.toQueries) : Holds given 0 after.session.toQueries := by
  cases effect with
  | keeps keeps => exact keeps.holds given 0 holds
  | stepSendQueries now needFlush _ stepped => exact holds.stepSendQueries stepped
  | connectionSendBindKey info sent => exact holds.connectionSendBindKey sent
  | connectionSendCheckMainKey info sent => exact holds.connectionSendCheckMainKey sent
  | nextMessageId messageId same _ => exact holds.frame same
  | onContainerSent containerMessageId messageIds _ sent => exact holds.onContainerSent sent
  | onHandshakeReady handshakeId result _ handled =>
    obtain ⟨withKey, same, _, keeps⟩ := keeps_onHandshakeReady handled
    exact keeps.holds given 0 (holds.frame same)
  | onResult query _ received =>
    have kept := keeps_onResult received
    split at kept
    · exact holds.frame kept.1
    · exact kept.holds given 0 holds

/-- What is known, before and after closing. -/
def Accounted (given : List Nat) (closed : Bool) (session : Session) : Prop :=
  match closed with
  | true => Finished given session.toQueries
  | false => Holds given 0 session.toQueries

theorem accounted_of_step {before after : System} (holds : Holds given 0 before.session.toQueries)
    (step : System.Step before event after) :
    Accounted (given ++ event.action.given) event.action.closes after.session := by
  rcases System.does_of_step step with
    ⟨query, goesOn, isSend, sent⟩ | ⟨closes, noSend, closed⟩ | ⟨noClose, noSend, effect⟩
  · rw [isSend]
    exact holds.send sent
  · rw [closes, noSend, append_nil]
    exact holds.close closed
  · rw [noClose, noSend, append_nil]
    exact effect.holds holds

/-- The queries that have been given to a session in a run. -/
def givenIn (events : List Event) : List Nat :=
  events.flatMap fun event => event.action.given

/-- Whether a session has been closed in a run. -/
def closedIn (events : List Event) : Bool :=
  events.any fun event => event.action.closes

variable {setup : Setup} {session : Session}

theorem holds_of_create (created : Session.create setup = .ok session) :
    Holds [] 0 session.toQueries := by
  obtain ⟨_, _, created⟩ := bind_eq_ok created
  cases created
  refine ⟨rfl, rfl, rfl, ?_, fun some => absurd rfl some, Nat.zero_le _⟩
  intro messageId
  simp

variable {events : List Event} {reached : System}

theorem System.Reaches.accounted (reaches : System.Reaches setup events reached) :
    Accounted (givenIn events) (closedIn events) reached.session := by
  obtain ⟨session, created, run⟩ := reaches
  induction run with
  | start => exact holds_of_create created
  | @extend earlier before after event _ last ih =>
    rw [givenIn, flatMap_append, flatMap_singleton, closedIn,
      any_append, any_cons, any_nil, Bool.or_false]
    -- A closed session takes no step.
    cases closed : earlier.any fun event => event.action.closes with
    | true =>
      rw [closedIn, closed] at ih
      exact absurd (ih.stopped.symm.trans last.1.1) (by decide)
    | false =>
      rw [closedIn, closed] at ih
      exact accounted_of_step ih last

theorem System.Reaches.holds (reaches : System.Reaches setup events reached)
    (running : reached.session.isStopped = false) :
    Holds (givenIn events) 0 reached.session.toQueries := by
  have accounted := reaches.accounted
  cases closed : closedIn events with
  | false =>
    rw [closed] at accounted
    exact accounted
  | true =>
    rw [closed] at accounted
    exact absurd (accounted.stopped.symm.trans running) (by decide)

/-! ## Where a query is -/

/-- The places where a query of a session can be. -/
inductive Place where
  | pendingQueries
  | pendingInvokeAfterQueries
  | sentQueries (messageId : MessageId)
  | returned
  deriving Repr, DecidableEq

def NetQueryPtr.hasTicket (ticket : Nat × Nat) (query : NetQueryPtr) : Bool :=
  decide (query.id = ticket.1) && decide (query.giving = some ticket.2)

/-- The places where the query with a ticket is, with repetitions. -/
def Session.places (ticket : Nat × Nat) (session : Session) : List Place :=
  (session.pendingQueries.toList.filter
      (NetQueryPtr.hasTicket ticket)).map (fun _ => .pendingQueries) ++
    (session.pendingInvokeAfterQueries.filter
      (NetQueryPtr.hasTicket ticket)).map (fun _ => .pendingInvokeAfterQueries) ++
    (session.sentQueries.entries.filter
      (fun entry => entry.2.netQuery.hasTicket ticket)).map (fun entry => .sentQueries entry.1) ++
    (session.returned.filter (NetQueryPtr.hasTicket ticket)).map (fun _ => .returned)

variable (ticket : Nat × Nat)

theorem count_tickets (query : NetQueryPtr) :
    query.tickets.count ticket = if query.hasTicket ticket then 1 else 0 := by
  rw [NetQueryPtr.tickets, NetQueryPtr.hasTicket]
  cases query.giving with
  | none => simp
  | some number =>
    rw [Multiset.count_singleton]
    by_cases same : ticket = (query.id, number)
    · simp [same]
    · rw [if_neg same, if_neg]
      intro isTicket
      simp only [Bool.and_eq_true, decide_eq_true_eq, Option.some.injEq] at isTicket
      exact same (Prod.ext isTicket.1.symm isTicket.2.symm)

theorem count_sum_tickets (toQuery : α → NetQueryPtr) (items : List α) :
    (items.map fun item => (toQuery item).tickets).sum.count ticket =
      (items.filter (fun item => (toQuery item).hasTicket ticket)).length := by
  induction items with
  | nil => simp
  | cons item rest ih =>
    rw [map_cons, sum_cons, Multiset.count_add, ih, count_tickets, filter_cons]
    split
    · rw [length_cons, Nat.add_comm]
    · rw [Nat.zero_add]

theorem length_places (session : Session) :
    (session.places ticket).length = session.tickets.count ticket := by
  have waiting (queries : List NetQueryPtr) :
      (queries.filter (NetQueryPtr.hasTicket ticket)).length = (ticketsOf queries).count ticket :=
    (count_sum_tickets ticket id queries).symm
  have sent :
      (session.sentQueries.entries.filter (fun entry => entry.2.netQuery.hasTicket ticket)).length =
        (session.sentQueries.sumOver (fun query : Query => query.netQuery.tickets)).count ticket :=
    (count_sum_tickets ticket (fun entry : MessageId × Query => entry.2.netQuery) _).symm
  simp only [places, Queries.tickets, length_append, length_map, Multiset.count_add, waiting, sent]

/-- Every ticket is given out once. -/
theorem count_zipIdx {number id : Nat} (isGiven : given[number]? = some id) :
    (given.zipIdx : Multiset (Nat × Nat)).count (id, number) = 1 := by
  have distinct : given.zipIdx.Nodup := List.Nodup.of_map Prod.snd (by
      rw [zipIdx_map_snd]
      exact nodup_range')
  exact Multiset.count_eq_one_of_mem (Multiset.coe_nodup.mpr distinct)
    (Multiset.mem_coe.mpr (mk_mem_zipIdx_iff_getElem?.mpr isGiven))

theorem places_of_count {ticket : Nat × Nat} (once : session.tickets.count ticket = 1) :
    ∃ place, session.places ticket = [place] :=
  length_eq_one_iff.mp ((length_places ticket session).trans once)

/-! ## A session -/

/-- The time stands still, and temporary keys are about to expire. -/
def quietEnvironment : Environment where
  now := 0
  seconds := fun _ => 0
  hasSalt := true
  messageTime := 0
  random := 0
  uniqueIdCounter := 1
  isCanceled := fun _ => false
  referenceMessageId := fun _ => 8
  referenceSessionId := fun _ => 1
  serverTime := 0
  isServerTimeReliable := true
  mainDcId := 1
  checkUtf8 := fun _ => true
  fetchBool := fun _ => .ok true
  fetchNearestDc := fun _ => .ok ()

def plainQuery : NetQueryPtr :=
  { id := UniqueId.next 0 1, dcId := DcId.main }

/-- A session of the main data centre that has both keys. -/
def boundSetup : Setup where
  now := 0
  rawDcId := 2
  isMain := true
  usePfs := true
  persistTmpAuthKey := false
  isCdn := false
  needDestroyAuthKey := false
  mainAuthKey := { id := 1, key := [0], authFlag := true }
  tmpAuthKey := { id := 1, key := [0], authFlag := true }
  sessionId := 1

def boundSession : Session where
  rawDcId := 2
  isMain := true
  persistTmpAuthKey := false
  isCdn := false
  needDestroyAuthKey := false
  lastActivityTimestamp := 0
  lastSuccessTimestamp := 0 - 366 * 86400
  lastBindSuccessTimestamp := 0 - 366 * 86400
  usePfs := true
  authData :=
    { mainAuthKey := { id := 1, key := [0], authFlag := true }
      tmpAuthKey := { id := 1, key := [0], authFlag := true }
      sessionId := 1 }

def openedConnection : RawConnection where
  extra := 1
  isHttp := false

def connectionLost : Status :=
  ⟨0, []⟩

def quietly (actions : List Action) : List Event :=
  actions.map (Event.mk quietEnvironment)

/-- An action that can happen happens. -/
def System.handle (system : System) (event : Event) : Except Fault System := do
  check (system.Enabled event)
  system.perform event

theorem reaches_of_foldlM {events more : List Event} {before after : System}
    (reaches : System.Reaches boundSetup events before)
    (returned : more.foldlM System.handle before = .ok after) :
    System.Reaches boundSetup (events ++ more) after := by
  obtain ⟨session, created, run⟩ := reaches
  refine ⟨session, created, run.foldlM (fun before event after handled => ?_) returned⟩
  obtain ⟨_, enabled, performed⟩ := bind_eq_ok handled
  exact ⟨holds_of_check enabled, performed⟩

/-- A query is sent, and the connection is lost. -/
def losingActions : List Action :=
  [.send plainQuery, .advance, .onNetwork true 1, .advance, .advance, .advance,
    .connectionOpenFinish .main (some openedConnection), .loop, .advance, .advance, .advance,
    .advance, .advance, .advance, .advance, .closed (some connectionLost)]

/-- A query that is to be invoked after the first one. -/
def dependentQuery : NetQueryPtr :=
  { plainQuery with id := UniqueId.next 0 2, invokeAfter := [plainQuery.id] }

/-- A query waits for the fate of the lost one. -/
def parkingActions : List Action :=
  losingActions ++ [.advance, .advance, .connectionOpenFinish .main (some openedConnection),
    .send dependentQuery, .advance, .advance, .advance, .advance, .advance, .advance, .advance,
    .flushed, .advance, .advance, .advance, .advance, .advance]

/-! ## What holds in every run -/

/--
In every run, a query that was given to a session is in exactly one place, under
one message identifier if sent. After the session has been closed it has been
returned, once.
-/
theorem given_query_in_one_place
    {setup : Setup}
    {events : List Event}
    {reached : System}
    (reaches : System.Reaches setup events reached) :
    (∀ number id, (givenIn events)[number]? = some id →
        ∃ place, reached.session.places (id, number) = [place]) ∧
    (closedIn events = true → reached.session.pendingQueries.toList = [] ∧
        reached.session.pendingInvokeAfterQueries = [] ∧ reached.session.sentQueries.entries = [] ∧
        ∀ number id, (givenIn events)[number]? = some id →
            reached.session.places (id, number) = [.returned]) := by
  have accounted := reaches.accounted
  cases closed : closedIn events with
  | false =>
    rw [closed] at accounted
    refine ⟨?_, nofun⟩
    intro number id isGiven
    have conserved := accounted.conserved
    rw [add_zero] at conserved
    exact places_of_count
      ((congrArg (Multiset.count (id, number)) conserved).trans (count_zipIdx isGiven))
  | true =>
    rw [closed] at accounted
    have onlyReturned : reached.session.tickets = ticketsOf reached.session.returned := by
      rw [Queries.tickets, accounted.pendingQueries,
        accounted.pendingInvokeAfterQueries, accounted.sentQueries]
      simp
    have inOnePlace (number id : Nat) (isGiven : (givenIn events)[number]? = some id) :
        ∃ place, reached.session.places (id, number) = [place] := by
      refine places_of_count ?_
      rw [onlyReturned, accounted.returned]
      exact count_zipIdx isGiven
    refine ⟨inOnePlace, fun _ => ⟨accounted.pendingQueries, accounted.pendingInvokeAfterQueries,
        by rw [accounted.sentQueries]; rfl, ?_⟩⟩
    intro number id isGiven
    obtain ⟨place, isPlace⟩ := inOnePlace number id isGiven
    rw [isPlace]
    rw [places, accounted.pendingQueries,
      accounted.pendingInvokeAfterQueries, accounted.sentQueries] at isPlace
    have isReturned : place ∈ (reached.session.returned.filter
          (NetQueryPtr.hasTicket (id, number))).map (fun _ => Place.returned) := by
      have member : place ∈ [place] := mem_singleton.mpr rfl
      rw [← isPlace] at member
      simpa [OrderedMap.empty] using member
    obtain ⟨_, _, rfl⟩ := mem_map.mp isReturned
    rfl

/-- Of two queries one has been sent and the other one waits when the session is closed. -/
theorem given_query_in_one_place_of_close :
    ∃ reached, System.Reaches boundSetup (quietly (parkingActions ++ [.close])) reached ∧
      reached.session.places (plainQuery.id, 0) = [.returned] ∧
      reached.session.places (dependentQuery.id, 1) = [.returned] := by
  have facts : ((quietly (parkingActions ++ [.close])).foldlM System.handle
      ⟨boundSession, .idle⟩).toOption.any (fun _ => true) = true := by
    decide +kernel
  obtain ⟨reached, returned, -⟩ := exists_of_any facts
  have reaches := reaches_of_foldlM ⟨boundSession, rfl, .start⟩ returned
  have closed := ((given_query_in_one_place reaches).2 rfl).2.2.2
  exact ⟨reached, reaches, closed 0 plainQuery.id rfl, closed 1 dependentQuery.id rfl⟩

/--
While a session runs, its unknown queries are the sent ones that are marked so,
and no query waits for the fate of others when none is unknown.
-/
theorem unknown_queries_marked
    {setup : Setup}
    {events : List Event}
    {reached : System}
    (reaches : System.Reaches setup events reached)
    (running : reached.session.isStopped = false) :
    (∀ messageId, messageId ∈ reached.session.unknownQueries ↔ ∃ query,
          reached.session.sentQueries.find? messageId = some query ∧ query.isUnknown = true) ∧
    (reached.session.pendingInvokeAfterQueries ≠ [] → reached.session.unknownQueries ≠ ∅) :=
  ⟨(reaches.holds running).unknown, (reaches.holds running).parked⟩

/-- A query waits for the fate of a sent one. -/
theorem unknown_queries_marked_of_parked :
    ∃ reached, System.Reaches boundSetup (quietly parkingActions) reached ∧
      reached.session.isStopped = false ∧
      reached.session.pendingInvokeAfterQueries ≠ [] ∧ reached.session.unknownQueries ≠ ∅ ∧
      ∃ query, reached.session.sentQueries.find? 8 = some query ∧ query.isUnknown = true := by
  have facts : ((quietly parkingActions).foldlM System.handle ⟨boundSession, .idle⟩).toOption.any
      (fun reached => decide (reached.session.isStopped = false ∧
        reached.session.pendingInvokeAfterQueries ≠ [] ∧
        8 ∈ reached.session.unknownQueries)) = true := by
    decide +kernel
  obtain ⟨reached, returned, holds⟩ := exists_of_any facts
  obtain ⟨running, parked, isUnknown⟩ := of_decide_eq_true holds
  have reaches := reaches_of_foldlM ⟨boundSession, rfl, .start⟩ returned
  obtain ⟨marked, released⟩ := unknown_queries_marked reaches running
  exact ⟨reached, reaches, running, parked, released parked, (marked 8).mp isUnknown⟩

end Autoproto.Net
