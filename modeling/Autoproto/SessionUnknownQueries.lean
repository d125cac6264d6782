import Autoproto.SessionRuns

namespace Autoproto.Net

open OrderedMap ByteEncoding Transition
open Net.Session

/-!
# How many queries of a session can be unknown

Only the loop that sends the waiting queries looks at the limit of sent queries.
The session's own queries, which bind a temporary key or check the main key,
come on top of it, and are unknown like the others when the connection is
closed.
-/

variable {session : Session} {environment : Environment} {info : ConnectionId}
  {status : Option Status}

theorem failed_of_connectionReady (few : session.unknownQueries.card ≤ maxInflightQueries)
    (failed : .onFailed status ∈ (session.connectionReady environment info).outputs) :
    .onFailed status ∈ session.outputs := by
  let told :=
    session.applyIf session.needDestroyAuthKey (emit (.destroyKey info))
  have sameUnknown : told.unknownQueries = session.unknownQueries :=
    congrArg Queries.unknownQueries (toQueries_applyIf fun _ => rfl)
  have ofTold (isOld : .onFailed status ∈ told.outputs) : .onFailed status ∈ session.outputs := by
    simp only [told, applyIf] at isOld
    split at isOld
    · simpa [emit] using isOld
    · exact isOld
  rw [connectionReady, if_neg (by
    change ¬ maxInflightQueries < told.unknownQueries.card
    rw [sameUnknown]
    exact Nat.not_lt.mpr few)] at failed
  split at failed
  · refine ofTold ?_
    simpa [askStateInfo, setConnection, told] using failed
  · exact ofTold failed

theorem failed_of_tooMany (tooMany : maxInflightQueries < session.unknownQueries.card) :
    .onFailed (some tooManyUnknownQueries) ∈
      (session.connectionReady environment info).outputs := by
  have sameUnknown : (session.applyIf session.needDestroyAuthKey
        (emit (.destroyKey info))).unknownQueries = session.unknownQueries :=
    congrArg Queries.unknownQueries (toQueries_applyIf fun _ => rfl)
  rw [← sameUnknown] at tooMany
  rw [connectionReady]
  split
  case isTrue => simp [onSessionFailed, emit]
  case isFalse few => exact absurd tooMany few

theorem failed_of_connectionOpenFinish {result : Option RawConnection}
    (few : session.unknownQueries.card ≤ maxInflightQueries)
    (failed : .onFailed status ∈ (session.connectionOpenFinish environment info result).outputs) :
    .onFailed status ∈ session.outputs := by
  have ready (changed : Session) (sameUnknown : changed.unknownQueries = session.unknownQueries)
      (sameOutputs : changed.outputs = session.outputs)
      (failed : .onFailed status ∈ (changed.connectionReady environment info).outputs) :
      .onFailed status ∈ session.outputs := by
    rw [← sameUnknown] at few
    rw [← sameOutputs]
    exact failed_of_connectionReady few failed
  unfold connectionOpenFinish at failed
  split at failed
  · exact failed
  · cases result with
    | none => exact failed
    | some rawConnection =>
      dsimp only at failed
      split at failed
      · exact failed
      · simp only [connectionUse] at failed
        generalize (if rawConnection.isHttp then Mode.http else Mode.tcp) = mode at failed
        split at failed
        · split at failed
          · exact failed
          · exact ready ((session.setCurrentInfo info).setMode mode) rfl rfl failed
        · exact ready (session.setCurrentInfo info) rfl rfl failed

/-- A query of the session's own is only sent while fewer queries are sent than may be. -/
def OwnQueriesFit (before after : System) : Prop :=
  ∀ messageId query, before.session.sentQueries.find? messageId = none →
    after.session.sentQueries.find? messageId = some query → query.netQuery.isBindKey = true →
    before.session.sentQueries.size < maxInflightQueries

theorem few_of_step {before after : System} {event : Event} (step : System.Step before event after)
    (fits : OwnQueriesFit before after)
    (few : before.session.sentQueries.size ≤ maxInflightQueries) :
    after.session.sentQueries.size ≤ maxInflightQueries := by
  rcases System.found_or_sends_of_step step with found | ⟨messageId, query, unused, emplaced, place⟩
  · exact (size_le_of_find? found).trans few
  · rw [emplaced, size_emplace unused]
    rcases place with own | ⟨_, room⟩
    · refine fits messageId query unused ?_ own
      rw [emplaced, find?_emplace unused, if_pos rfl]
    · exact room

/-- A run of such steps. -/
def ReachesWithRoom (setup : Setup) (events : List Event) (reached : System) : Prop :=
  ∃ session, Session.create setup = .ok session ∧
    Run (fun before event after => System.Step before event after ∧ OwnQueriesFit before after)
      ⟨session, .idle⟩ events reached

theorem few_of_reaches {setup : Setup} {events : List Event} {reached : System}
    (reaches : ReachesWithRoom setup events reached) :
    reached.session.sentQueries.size ≤ maxInflightQueries := by
  obtain ⟨session, created, run⟩ := reaches
  refine run.invariant ?_ fun _ _ _ few taken => few_of_step taken.1 taken.2 few
  obtain ⟨_, _, created⟩ := bind_eq_ok created
  cases created
  exact Nat.zero_le _

/--
In every run, no more queries are unknown than may be sent, and a connection
that is opened does not fail the session because of them, as long as no query of
the session's own is unknown, or each was sent while there was room for it.
-/
theorem unknown_queries_bounded
    {setup : Setup}
    {events : List Event}
    {reached : System}
    (reaches : System.Reaches setup events reached)
    (running : reached.session.isStopped = false)
    (ownQueries : (∀ messageId ∈ reached.session.unknownQueries, ∀ query,
          reached.session.sentQueries.find? messageId = some query →
            query.netQuery.isBindKey = false) ∨
        ReachesWithRoom setup events reached) :
    reached.session.unknownQueries.card ≤ maxInflightQueries ∧
      ∀ environment info result, .onFailed (some tooManyUnknownQueries) ∈
            (reached.session.connectionOpenFinish environment info result).outputs →
          .onFailed (some tooManyUnknownQueries) ∈ reached.session.outputs := by
  have holds := reaches.holds running
  have few : reached.session.unknownQueries.card ≤ maxInflightQueries := by
    rcases ownQueries with noBindKey | withRoom
    · refine Nat.le_trans (card_le_sumOver ?_) holds.bounded
      intro messageId isUnknown
      obtain ⟨query, found, _⟩ := (holds.unknown messageId).mp isUnknown
      refine ⟨query, found, Nat.le_of_eq ?_⟩
      rw [Query.regular, noBindKey messageId isUnknown query found]
      rfl
    · have fewSent := few_of_reaches withRoom
      rw [size_eq_sumOver] at fewSent
      refine Nat.le_trans (card_le_sumOver ?_) fewSent
      intro messageId isUnknown
      obtain ⟨query, found, _⟩ := (holds.unknown messageId).mp isUnknown
      exact ⟨query, found, Nat.le_refl 1⟩
  exact ⟨few, fun _ _ _ failed => failed_of_connectionOpenFinish few failed⟩

/-!
## A run with one unknown query too many

A query is sent and the connection is lost before it is acknowledged, again and
again up to the limit.  Then the temporary key is renewed, and the query that
binds the new key is lost in the same way.
-/

def renewedKey : AuthKey :=
  { id := 2, key := [0] }

/-- A query of the run, as the session holds it. -/
def heldQuery (number : Nat) : NetQueryPtr :=
  { plainQuery with
    realDcId := 2
    mainAuthKeyId := 1
    sessionId := 1
    giving := some number }

theorem unknown_queries_bounded_of_one_lost : ∃ events reached,
      System.Reaches boundSetup events reached ∧ reached.session.unknownQueries.card = 1 ∧
        reached.session.unknownQueries.card ≤ maxInflightQueries ∧
        ∀ environment info result, .onFailed (some tooManyUnknownQueries) ∈
              (reached.session.connectionOpenFinish environment info result).outputs →
            .onFailed (some tooManyUnknownQueries) ∈ reached.session.outputs := by
  have facts : ((quietly losingActions).foldlM System.handle ⟨boundSession, .idle⟩).toOption.any
        (fun reached =>
          decide (reached.session.isStopped = false ∧ reached.session.unknownQueries.card = 1 ∧
            ∀ entry ∈ reached.session.sentQueries.entries,
              entry.2.netQuery.isBindKey = false)) = true := by
    decide +kernel
  obtain ⟨reached, returned, holds⟩ := exists_of_any facts
  obtain ⟨running, card, regular⟩ := of_decide_eq_true holds
  have reaches := reaches_of_foldlM ⟨boundSession, rfl, .start⟩ returned
  refine ⟨_, reached, reaches, card, unknown_queries_bounded reaches running (Or.inl ?_)⟩
  intro messageId _ query found
  exact regular (messageId, query) (mem_entries_iff.mpr found)

theorem disconnectQuery_unknown {messageId : MessageId}
    (unknown : ∀ query, session.sentQueries.find? messageId = some query →
        query.containerMessageId = messageId ∧ query.isUnknown = true) :
    session.disconnectQuery environment (some connectionLost) info messageId = .ok session := by
  unfold disconnectQuery
  cases found : session.sentQueries.find? messageId with
  | none => rfl
  | some query =>
    obtain ⟨alone, isUnknown⟩ := unknown query found
    dsimp only
    split
    · simp [onQueryDisconnected, cleanupContainer, alone, markAsUnknown, isUnknown, connectionLost]
    · rfl

theorem disconnectQueries_newest {newest : MessageId} {query : Query}
    (found : session.sentQueries.find? newest = some query)
    (isSent : query.isAcknowledged = false ∧ query.connectionId = info)
    (isKnown : query.containerMessageId = newest ∧ query.isUnknown = false) (notZero : newest ≠ 0)
    (others : ∀ messageId query, messageId ≠ newest →
        session.sentQueries.find? messageId = some query →
          query.containerMessageId = messageId ∧ query.isUnknown = true)
    {messageIds : List MessageId} (isMember : newest ∈ messageIds) :
    messageIds.foldlM (disconnectQuery environment (some connectionLost) info) session =
      .ok (session.setUnknown newest true (insert newest session.unknownQueries)) := by
  let marked := session.setUnknown newest true (insert newest session.unknownQueries)
  have markedUnknown (messageId : MessageId) (query : Query)
      (found : marked.sentQueries.find? messageId = some query) :
      query.containerMessageId = messageId ∧ query.isUnknown = true := by
    simp only [marked, setUnknown, find?_modify] at found
    split at found
    case isTrue same =>
      obtain ⟨old, isOld, rfl⟩ := Option.map_eq_some_iff.mp found
      simp_all
    case isFalse differs => exact others messageId query differs found
  have turn :
      session.disconnectQuery environment (some connectionLost) info newest = .ok marked := by
    simp [disconnectQuery, found, isSent, onQueryDisconnected, cleanupContainer, isKnown,
      markAsUnknown, notZero, connectionLost, check_eq_ok]
    rfl
  have finished (messageIds : List MessageId) :
      messageIds.foldlM (disconnectQuery environment (some connectionLost) info) marked =
        .ok marked := by
    induction messageIds with
    | nil => rfl
    | cons messageId rest ih =>
      rw [List.foldlM_cons, disconnectQuery_unknown (markedUnknown messageId)]
      exact ih
  induction messageIds with
  | nil => cases isMember
  | cons messageId rest ih =>
    rw [List.foldlM_cons]
    by_cases same : messageId = newest
    · rw [same, turn]
      exact finished rest
    · rw [disconnectQuery_unknown (fun query => others messageId query same)]
      exact ih (List.mem_of_ne_of_mem (Ne.symm same) isMember)

/-- What changes in this run. -/
structure Phase where
  main : ConnectionInfo.State
  keyId : UInt64
  isBound : Bool
  bindingKeyId : UInt64
  lastMessageId : MessageId
  sentQueries : OrderedMap MessageId Query
  unknownQueries : Finset MessageId

namespace Phase

def connections (phase : Phase) : ConnectionId → ConnectionInfo
  | .main => { state := phase.main, askInfo := true }
  | .longPoll => {}

def isAsked : HandshakeId → Bool
  | .tmpAuthKey => true
  | .mainAuthKey => false

/-- The session of the run, with some members of another. -/
def toSession (phase : Phase) (rest : Session) : Session :=
  { rest with
    toQueries :=
      { sentQueries := phase.sentQueries
        unknownQueries := phase.unknownQueries
        given := rest.given }
    rawDcId := 2
    isMain := true
    persistTmpAuthKey := false
    needDestroyAuthKey := false
    wasOnNetwork := true
    networkFlag := true
    mode := .tcp
    networkGeneration := 1
    beingBindedTmpAuthKeyId := phase.bindingKeyId
    cachedConnection := none
    cachedConnectionTimestamp := 0
    needCheckMainKey := false
    closeFlag := false
    connections := phase.connections
    handshakeFlags := isAsked
    authData :=
      { boundSession.authData with
        tmpAuthKey := { id := phase.keyId, key := [0], authFlag := phase.isBound }
        lastMessageId := phase.lastMessageId } }

/-- The run reaches a phase, at a point of the code. -/
def At (phase : Phase) (point : Point) : Prop :=
  ∃ rest events, System.Reaches boundSetup events ⟨phase.toSession rest, point⟩

variable {phase next : Phase} {query : NetQueryPtr} {count : Nat} {point : Point}

theorem at_of_reaches {events : List Event}
    (reaches : System.Reaches boundSetup events ⟨session, point⟩)
    (connections : ∀ info, session.connections info = phase.connections info)
    (flags : ∀ handshakeId, session.handshakeFlags handshakeId = isAsked handshakeId)
    (others : { session with connections := phase.connections, handshakeFlags := isAsked } =
        phase.toSession session) :
    phase.At point := by
  rw [← funext connections, ← funext flags] at others
  have same : session = phase.toSession session := others
  rw [same] at reaches
  exact ⟨session, events, reaches⟩

theorem At.run {nextPoint : Point} (reached : phase.At point) (actions : List Action)
    (moves : ∀ rest, ∃ after, (quietly actions).foldlM System.handle ⟨phase.toSession rest, point⟩ =
            .ok ⟨after, nextPoint⟩ ∧
          (∀ info, after.connections info = next.connections info) ∧
          (∀ handshakeId, after.handshakeFlags handshakeId = isAsked handshakeId) ∧
          { after with connections := next.connections, handshakeFlags := isAsked } =
            next.toSession after) :
    next.At nextPoint := by
  obtain ⟨rest, events, reaches⟩ := reached
  obtain ⟨after, returned, connections, flags, others⟩ := moves rest
  exact at_of_reaches (reaches_of_foldlM reaches returned) connections flags others

theorem at_first : (⟨.connecting, 1, true, 0, 0, .empty, ∅⟩ : Phase).At .idle := by
  have created : System.Reaches boundSetup [] ⟨boundSession, .idle⟩ := ⟨_, rfl, .start⟩
  have opened :=
    @reaches_of_foldlM _ (quietly [.onNetwork true 1, .advance, .advance, .advance]) _ ⟨_, .idle⟩
      created (by with_unfolding_all rfl)
  refine at_of_reaches opened ?_ ?_ (by with_unfolding_all rfl)
  all_goals rintro (_ | _) <;> with_unfolding_all rfl

theorem At.renew (phase : Phase) (reached : ({ phase with main := .connecting } : Phase).At .idle) :
    ({ phase with main := .connecting, keyId := 2, isBound := false } : Phase).At .idle := by
  refine reached.run
    [.onHandshakeReady .tmpAuthKey (.ready renewedKey), .advance, .advance, .advance]
    fun rest => ⟨_, by with_unfolding_all rfl, ?_, ?_, by with_unfolding_all rfl⟩
  all_goals rintro (_ | _) <;> with_unfolding_all rfl

theorem At.opened (phase : Phase) (reached : ({ phase with main := .connecting } : Phase).At .idle)
    (few : phase.unknownQueries.card ≤ maxInflightQueries) :
    ({ phase with main := .ready } : Phase).At .idle := by
  refine reached.run [.connectionOpenFinish .main (some openedConnection)]
    fun rest => ⟨askStateInfo .main (setConnection .main { state := .ready, askInfo := true }
      (({ phase with main := .connecting } : Phase).toSession (rest.setCurrentInfo .main))),
        ?_, ?_, fun _ => rfl, rfl⟩
  · change Except.ok (System.mk
      (if maxInflightQueries < phase.unknownQueries.card then _ else _) _) = _
    rw [if_neg (Nat.not_lt.mpr few)]
    rfl
  · rintro (_ | _) <;> rfl

/-- A query has been sent under the next message identifier. -/
def put (query : NetQueryPtr) (phase : Phase) : Phase :=
  { phase with
    lastMessageId := phase.lastMessageId + 8
    sentQueries :=
      phase.sentQueries.emplace (phase.lastMessageId + 8)
        (sentQuery quietEnvironment (phase.lastMessageId + 8) query) }

theorem nextMessageId_quiet (authData : AuthData) :
    authData.nextMessageId quietEnvironment = authData.lastMessageId + 8 := by
  have isLow : (0 : MessageId) ≤ authData.lastMessageId := Fin.zero_le _
  rw [AuthData.nextMessageId, Mtproto.AuthData.nextMessageId]
  dsimp only
  rw [if_pos (by exact isLow)]
  exact Fin.ext rfl

theorem At.sendQuery (phase : Phase)
    (reached : ({ phase with main := .ready, isBound := true } : Phase).At .idle)
    (notFull : phase.sentQueries.size < maxInflightQueries)
    (absent : phase.sentQueries.find? (phase.lastMessageId + 8) = none) :
    ∃ number, (({ phase with main := .ready, isBound := true } : Phase).put (heldQuery number)).At
        (.sendCheckMainKey 0 true) := by
  obtain ⟨rest, events, reaches⟩ := reached
  let given :=
    ((({ phase with main := .ready, isBound := true } : Phase).toSession rest).setLastActivity
      quietEnvironment).addGiven plainQuery.id
  let after :=
    ((given.setCurrentInfo .main).setLastMessageId (phase.lastMessageId + 8)).emplaceSentQuery
      (phase.lastMessageId + 8)
      (sentQuery quietEnvironment (phase.lastMessageId + 8) (heldQuery rest.given.length))
  have sends : given.connectionSendQuery quietEnvironment .main (heldQuery rest.given.length) 0 =
        .ok after := by
    change connectionSend quietEnvironment 0 (heldQuery _) _ = _
    rw [connectionSend, if_pos rfl, nextMessageId_quiet, putSentQuery,
      check_eq_ok (by exact absent)]
    rfl
  let waiting := given.setPendingQueries { regularQueries := [heldQuery rest.given.length] }
  have isGiven := @reaches_of_foldlM _ (quietly [.send plainQuery]) _ ⟨waiting, .loop⟩ reaches (by
      have regular : check (¬ (heldQuery rest.given.length).isBindKey = true) = .ok () :=
        check_eq_ok (show ¬ plainQuery.isBindKey = true by decide)
      change (check (¬ (heldQuery rest.given.length).isBindKey = true) >>= _ >>= _ >>= _ >>= _) = _
      rw [regular]
      rfl)
  have waits := @reaches_of_foldlM _ (quietly [.advance, .advance]) _ ⟨waiting, .sendQueries 0 true⟩
      isGiven (by with_unfolding_all rfl)
  have leaves := @reaches_of_foldlM _ (quietly [.advance, .advance, .advance]) _
      ⟨after, .sendCheckMainKey 0 true⟩ waits (by
        change ((if ¬ false = true ∧ phase.sentQueries.size < maxInflightQueries then
          given.connectionSendQuery quietEnvironment .main (heldQuery rest.given.length) 0 >>= _
          else _) >>= _) = _
        rw [if_pos ⟨by decide, notFull⟩, sends]
        rfl)
  exact ⟨_, at_of_reaches leaves (fun _ => rfl) (fun _ => rfl) rfl⟩

def bindQuery : NetQueryPtr :=
  makeBindKeyQuery (UniqueId.next UniqueId.bindKeyType 1)

theorem At.bind (phase : Phase)
    (reached :
      ({ phase with main := .ready, keyId := 2, isBound := false, bindingKeyId := 0 } : Phase).At
        .idle)
    (notZero : phase.lastMessageId + 8 ≠ 0)
    (absent : phase.sentQueries.find? (phase.lastMessageId + 8) = none) :
    (({ phase with main := .ready, keyId := 2, isBound := false, bindingKeyId := 2 } : Phase).put
      bindQuery).At (.sendCheckMainKey 0 true) := by
  have turned :
      ({ phase with main := .ready, keyId := 2, isBound := false, bindingKeyId := 0 } : Phase).At
        (.sendBindKey 0 true) := by
    refine reached.run [.loop, .advance, .advance]
      fun rest => ⟨_, by with_unfolding_all rfl, ?_, ?_, by with_unfolding_all rfl⟩
    all_goals rintro (_ | _) <;> with_unfolding_all rfl
  refine turned.run [.advance] fun rest => ?_
  let before :=
    ({ phase with main := .ready, keyId := 2, isBound := false, bindingKeyId := 0 } :
      Phase).toSession rest
  let after :=
    (((before.setBeingBinded 2 bindQuery.id).setLastMessageId
      (phase.lastMessageId + 8)).setCurrentInfo .main).emplaceSentQuery (phase.lastMessageId + 8)
        (sentQuery quietEnvironment (phase.lastMessageId + 8) bindQuery)
  have sends : before.connectionSendBindKey quietEnvironment .main = .ok after := by
    rw [connectionSendBindKey, check_eq_ok nofun, ok_bind]
    refine (if_neg (show ¬ (2 : UInt64) = 0 by decide)).trans ?_
    rw [nextMessageId_quiet]
    refine (if_neg notZero).trans ?_
    rw [putSentQuery, check_eq_ok (by exact absent)]
    rfl
  refine ⟨after, ?_, fun _ => rfl, fun _ => rfl, rfl⟩
  exact congrArg (fun sent => (sent >>= fun session =>
    Except.ok (System.mk session (.sendCheckMainKey 0 true))) >>= pure) sends

/-- The last query is unknown, the connection opens again. -/
def lose (phase : Phase) : Phase :=
  { phase with
    main := .connecting
    sentQueries :=
      phase.sentQueries.modify phase.lastMessageId (fun query => { query with isUnknown := true })
    unknownQueries := insert phase.lastMessageId phase.unknownQueries }

structure Lost (count : Nat) (phase : Phase) : Prop where
  size : phase.sentQueries.size = count
  card : phase.unknownQueries.card = count
  last : phase.lastMessageId.val = 8 * count
  unknown : ∀ messageId ∈ phase.unknownQueries, messageId ≤ phase.lastMessageId
  sent : ∀ messageId query, phase.sentQueries.find? messageId = some query →
      messageId ≤ phase.lastMessageId ∧ query.containerMessageId = messageId ∧
        query.isUnknown = true

theorem At.lose (phase : Phase)
    (reached : (({ phase with main := .ready } : Phase).put query).At (.sendCheckMainKey 0 true))
    (notZero : phase.lastMessageId + 8 ≠ 0)
    (absent : phase.sentQueries.find? (phase.lastMessageId + 8) = none) (lost : phase.Lost count) :
    (phase.put query).lose.At .idle := by
  have sent (messageId : MessageId) : (phase.put query).sentQueries.find? messageId =
        if messageId = phase.lastMessageId + 8 then
          some (sentQuery quietEnvironment (phase.lastMessageId + 8) query)
        else
          phase.sentQueries.find? messageId :=
    find?_emplace absent ..
  have closed :
      ({ (phase.put query).lose with main := .empty } : Phase).At (.mainLoop 0 false) := by
    refine reached.run [.advance, .advance, .closed (some connectionLost)] fun rest => ?_
    let before :=
      ((({ phase with main := .ready } : Phase).put query).toSession rest).setCurrentInfo .main
    have newest : before.sentQueries.find? (phase.lastMessageId + 8) =
        some (sentQuery quietEnvironment (phase.lastMessageId + 8) query) :=
      (sent _).trans (if_pos rfl)
    have disconnected :=
      @disconnectQueries_newest before quietEnvironment .main (phase.lastMessageId + 8) _ newest
        ⟨rfl, rfl⟩ ⟨rfl, rfl⟩ notZero
        (fun messageId query differs found =>
          (lost.sent messageId query (((sent _).trans (if_neg differs)).symm.trans found)).2)
        before.sentQueries.keys (mem_keys_iff.mpr ⟨_, newest⟩)
    let marked := before.setUnknown (phase.lastMessageId + 8) true
      (insert (phase.lastMessageId + 8) before.unknownQueries)
    refine ⟨marked.setConnectionState .main .empty, ?_, ?_, fun _ => rfl, rfl⟩
    · exact congrArg (fun lost => ((lost >>= fun session =>
        Except.ok (session.setConnectionState .main .empty)) >>= fun session =>
          Except.ok (System.mk session (.mainLoop 0 false))) >>= pure) disconnected
    · rintro (_ | _) <;> rfl
  refine closed.run [.advance, .advance]
    fun rest => ⟨_, by with_unfolding_all rfl, ?_, fun _ => rfl, rfl⟩
  rintro (_ | _) <;> rfl

theorem Lost.put (lost : phase.Lost count) (few : count ≤ maxInflightQueries) :
    phase.lastMessageId + 8 ≠ 0 ∧ phase.sentQueries.find? (phase.lastMessageId + 8) = none ∧
      ∀ query, (phase.put query).lose.Lost (count + 1) := by
  have value : (phase.lastMessageId + 8).val = phase.lastMessageId.val + 8 := by
    refine Fin.val_add_eq_of_add_lt (b := 8) ?_
    have last := lost.last
    simp only [maxInflightQueries] at few
    change phase.lastMessageId.val + 8 < 2 ^ 64
    omega
  have later {messageId : MessageId} (isOld : messageId ≤ phase.lastMessageId) :
      messageId < phase.lastMessageId + 8 := by
    exact Nat.lt_of_le_of_lt isOld (by omega)
  have absent : phase.sentQueries.find? (phase.lastMessageId + 8) = none :=
    Option.eq_none_iff_forall_ne_some.mpr fun query found =>
      lt_irrefl _ (later (lost.sent _ query found).1)
  refine ⟨?_, absent, fun query => ⟨?_, ?_, ?_, ?_, ?_⟩⟩
  · intro isZero
    simp [isZero] at value
  · refine (size_modify ..).trans ?_
    exact (size_emplace absent _).trans (congrArg (· + 1) lost.size)
  · refine (Finset.card_insert_of_notMem fun isUnknown => ?_).trans (congrArg (· + 1) lost.card)
    exact lt_irrefl _ (later (lost.unknown _ isUnknown))
  · exact value.trans (by rw [lost.last]; rfl)
  · intro messageId isUnknown
    rcases Finset.mem_insert.mp isUnknown with rfl | isOld
    · exact le_refl _
    · exact (later (lost.unknown messageId isOld)).le
  · intro messageId query found
    simp only [lose, Phase.put, find?_modify, find?_emplace absent] at found
    split at found
    case isTrue same =>
      cases found
      exact ⟨same.le, same.symm, rfl⟩
    case isFalse differs =>
      obtain ⟨isOld, others⟩ := lost.sent messageId query found
      exact ⟨(later isOld).le, others⟩

theorem exists_lost (few : count ≤ maxInflightQueries) : ∃ last sent unknown,
      (⟨.connecting, 1, true, 0, last, sent, unknown⟩ : Phase).At .idle ∧
        (⟨.connecting, 1, true, 0, last, sent, unknown⟩ : Phase).Lost count := by
  induction count with
  | zero => exact ⟨0, .empty, ∅, at_first, rfl, rfl, rfl, by simp, by simp⟩
  | succ count ih =>
    obtain ⟨last, sent, unknown, reached, lost⟩ := ih (Nat.le_of_succ_le few)
    let phase : Phase := ⟨.connecting, 1, true, 0, last, sent, unknown⟩
    obtain ⟨notZero, absent, next⟩ := lost.put (Nat.le_of_succ_le few)
    have opened := reached.opened phase (lost.card ▸ Nat.le_of_succ_le few)
    obtain ⟨number, leaves⟩ := opened.sendQuery phase (lost.size ▸ few) absent
    exact ⟨_, _, _, leaves.lose phase notZero absent lost, next _⟩

end Phase

/--
A session can have more unknown queries than may be sent, and fails when its
connection is opened again.
-/
theorem unknown_queries_not_bounded : ∃ setup events reached, System.Reaches setup events reached ∧
        reached.session.isStopped = false ∧
        maxInflightQueries < reached.session.unknownQueries.card ∧
        .onFailed (some tooManyUnknownQueries) ∈
          (reached.session.connectionOpenFinish quietEnvironment .main
            (some openedConnection)).outputs := by
  obtain ⟨last, sent, unknown, reached, lost⟩ := Phase.exists_lost (le_refl maxInflightQueries)
  let phase : Phase := ⟨.connecting, 2, false, 0, last, sent, unknown⟩
  obtain ⟨notZero, absent, next⟩ := lost.put (le_refl maxInflightQueries)
  have renewed :=
    (reached.renew { phase with keyId := 1, isBound := true }).opened phase lost.card.le
  have bound := renewed.bind phase notZero absent
  obtain ⟨rest, events, reaches⟩ := bound.lose { phase with bindingKeyId := 2 } notZero absent
      ⟨lost.size, lost.card, lost.last, lost.unknown, lost.sent⟩
  have tooMany : maxInflightQueries < (insert (last + 8) unknown).card :=
    (next Phase.bindQuery).card ▸ Nat.lt_succ_self _
  exact ⟨boundSetup, events, _, reaches, rfl, tooMany, failed_of_tooMany tooMany⟩

end Autoproto.Net
