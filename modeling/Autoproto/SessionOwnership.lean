import Autoproto.SessionLoop
import Mathlib.Algebra.Order.Group.Multiset
import Mathlib.Tactic.Abel

namespace Autoproto.Net

open OrderedMap ByteEncoding

/-!
# Who holds the queries of a session

A query that is given to a session gets a ticket, its identifier with the number
of the call of `Session::send`. At every moment, the tickets that were given out
are those of the queries that wait, that have been sent, that have been
returned, or that a function has in its hand.
-/

def NetQueryPtr.tickets (query : NetQueryPtr) : Multiset (Nat × Nat) :=
  match query.giving with
  | some number => {(query.id, number)}
  | none => 0

/-- One for a query that counts against the limit of sent queries. -/
def Session.Query.regular (query : Session.Query) : Nat :=
  if query.netQuery.isBindKey then 0 else 1

namespace Session

def ticketsOf (queries : List NetQueryPtr) : Multiset (Nat × Nat) :=
  (queries.map NetQueryPtr.tickets).sum

/-- The tickets of all queries, returned ones included. -/
def Queries.tickets (queries : Queries) : Multiset (Nat × Nat) :=
  ticketsOf queries.pendingQueries.toList +
    ticketsOf queries.pendingInvokeAfterQueries +
    queries.sentQueries.sumOver (fun query => query.netQuery.tickets) +
    ticketsOf queries.returned

/-- What holds between calls, with some tickets in hand. -/
structure Holds (given : List Nat) (inHand : Multiset (Nat × Nat)) (queries : Queries) : Prop where
  running : queries.isStopped = false
  given_eq : queries.given = given
  conserved : queries.tickets + inHand = (given.zipIdx : Multiset (Nat × Nat))
  /-- The unknown queries are the sent queries that are marked so. -/
  unknown : ∀ messageId, messageId ∈ queries.unknownQueries ↔
        ∃ query, queries.sentQueries.find? messageId = some query ∧ query.isUnknown = true
  /-- A query only waits for the fate of others if that of some is unknown. -/
  parked : queries.pendingInvokeAfterQueries ≠ [] → queries.unknownQueries ≠ ∅
  bounded : queries.sentQueries.sumOver Query.regular ≤ maxInflightQueries

/-- What holds after a session has been closed. -/
structure Finished (given : List Nat) (queries : Queries) : Prop where
  stopped : queries.isStopped = true
  given_eq : queries.given = given
  pendingQueries : queries.pendingQueries.toList = []
  pendingInvokeAfterQueries : queries.pendingInvokeAfterQueries = []
  sentQueries : queries.sentQueries = .empty
  returned : ticketsOf queries.returned = (given.zipIdx : Multiset (Nat × Nat))

/-! ## Tickets -/

@[simp] theorem ticketsOf_nil : ticketsOf [] = 0 :=
  rfl

@[simp] theorem ticketsOf_cons (query : NetQueryPtr) (queries : List NetQueryPtr) :
    ticketsOf (query :: queries) = query.tickets + ticketsOf queries :=
  List.sum_cons

@[simp] theorem ticketsOf_append (first second : List NetQueryPtr) :
    ticketsOf (first ++ second) = ticketsOf first + ticketsOf second := by
  simp [ticketsOf]

@[simp] theorem tickets_setMessageId (messageId : MessageId) (query : NetQueryPtr) :
    (query.setMessageId messageId).tickets = query.tickets :=
  rfl

@[simp] theorem tickets_setError (status : Status) (query : NetQueryPtr) :
    (query.setError status).tickets = query.tickets := by
  have sameId : (query.setError status).id = query.id :=
    NetQuery.id_setError status query.toNetQuery
  rw [NetQueryPtr.tickets, NetQueryPtr.tickets, sameId]
  rfl

@[simp] theorem tickets_updateIsReady (environment : Environment) (query : NetQueryPtr) :
    (query.updateIsReady environment).tickets = query.tickets := by
  rw [NetQueryPtr.updateIsReady]
  split <;> rfl

theorem tickets_of_setOk {answer : Bytes} {query answered : NetQueryPtr}
    (set : query.setOk answer = .ok answered) : answered.tickets = query.tickets := by
  obtain ⟨_, _, set⟩ := bind_eq_ok set
  cases set
  rfl

theorem ticketsOf_push (query : NetQueryPtr) (pending : PendingQueries) :
    ticketsOf (pending.push query).toList = query.tickets + ticketsOf pending.toList := by
  rw [PendingQueries.push]
  split <;>
    simp only [PendingQueries.toList, ticketsOf_append, ticketsOf_cons, ticketsOf_nil] <;>
    abel

theorem ticketsOf_pop {query : NetQueryPtr} {pending rest : PendingQueries}
    (popped : pending.pop = .ok (query, rest)) :
    ticketsOf pending.toList = query.tickets + ticketsOf rest.toList := by
  obtain ⟨regular, highPriority⟩ := pending
  cases highPriority with
  | cons first others =>
    cases popped
    simp [PendingQueries.toList]
  | nil =>
    cases regular with
    | cons first others =>
      cases popped
      exact ticketsOf_cons _ _
    | nil => cases popped

theorem ticketsOf_foldl_push (change : α → NetQueryPtr) (items : List α)
    (pending : PendingQueries) :
    ticketsOf (items.foldl (fun pending item => pending.push (change item)) pending).toList =
      (items.map fun item => (change item).tickets).sum + ticketsOf pending.toList := by
  induction items generalizing pending with
  | nil => simp
  | cons item rest ih =>
    rw [List.foldl_cons, ih, ticketsOf_push, List.map_cons, List.sum_cons]
    abel

/-! ## What the queries go through -/

section Moves

variable {given : List Nat} {inHand : Multiset (Nat × Nat)} {queries : Queries}
  {messageId : MessageId} {query : NetQueryPtr}

theorem Holds.returnOne (holds : Holds given (query.tickets + inHand) queries) :
    Holds given inHand { queries with returned := queries.returned ++ [query] } :=
  { holds with
    conserved := by
      rw [← holds.conserved]
      simp only [Queries.tickets, ticketsOf_append, ticketsOf_cons, ticketsOf_nil]
      abel }

/-- A query starts to wait. -/
theorem Holds.push (holds : Holds given (query.tickets + inHand) queries) : Holds given inHand
      { queries with
        pendingQueries := queries.pendingQueries.push query } :=
  { holds with
    conserved := by
      rw [← holds.conserved]
      simp only [Queries.tickets, ticketsOf_push]
      abel }

/-- A query no longer waits. -/
theorem Holds.pop {rest : PendingQueries} (holds : Holds given inHand queries)
    (popped : queries.pendingQueries.pop = .ok (query, rest)) :
    Holds given (query.tickets + inHand) { queries with pendingQueries := rest } :=
  { holds with
    conserved := by
      rw [← holds.conserved]
      simp only [Queries.tickets, ticketsOf_pop popped]
      abel }

theorem Holds.park (holds : Holds given (query.tickets + inHand) queries)
    (someUnknown : queries.unknownQueries ≠ ∅) : Holds given inHand
      { queries with
        pendingInvokeAfterQueries := queries.pendingInvokeAfterQueries ++ [query] } :=
  { holds with
    conserved := by
      rw [← holds.conserved]
      simp only [Queries.tickets, ticketsOf_append, ticketsOf_cons, ticketsOf_nil]
      abel
    parked := fun _ => someUnknown }

theorem Holds.emplace {query : Query}
    (holds : Holds given (query.netQuery.tickets + inHand) queries)
    (absent : queries.sentQueries.find? messageId = none) (known : query.isUnknown = false)
    (allowed : query.regular = 0 ∨ queries.sentQueries.size < maxInflightQueries) :
    Holds given inHand
      { queries with
        sentQueries := queries.sentQueries.emplace messageId query } :=
  { holds with
    conserved := by
      rw [← holds.conserved]
      simp only [Queries.tickets, sumOver_emplace _ absent]
      abel
    unknown := by
      intro other
      rw [holds.unknown other, find?_emplace absent]
      by_cases same : other = messageId
      · simp [same, absent, known]
      · simp [same]
    bounded := by
      rw [sumOver_emplace _ absent]
      rcases allowed with free | room
      · rw [free, zero_add]
        exact holds.bounded
      · have each : queries.sentQueries.sumOver Query.regular ≤ queries.sentQueries.size := by
          rw [size_eq_sumOver]
          refine List.sum_le_sum fun entry _ => ?_
          rw [Query.regular]
          split
          · exact Nat.zero_le 1
          · exact Nat.le_refl 1
        have one : query.regular ≤ 1 := by
          rw [Query.regular]
          split <;> omega
        omega }

section

variable (holds : Holds given inHand queries)
include holds

theorem Holds.erase {query : Query} (found : queries.sentQueries.find? messageId = some query)
    (known : query.isUnknown = false) : Holds given (query.netQuery.tickets + inHand)
      { queries with
        sentQueries := queries.sentQueries.erase messageId } :=
  { holds with
    conserved := by
      rw [← holds.conserved]
      simp only [Queries.tickets, sumOver_erase _ found]
      abel
    unknown := by
      intro other
      rw [holds.unknown other, find?_erase]
      by_cases same : other = messageId
      · simp [same, found, known]
      · simp [same]
    bounded := by
      have before := holds.bounded
      rw [sumOver_erase _ found] at before
      exact Nat.le_trans (Nat.le_add_left ..) before }

theorem Holds.flush : Holds given inHand
      { queries with
        pendingQueries :=
          queries.pendingInvokeAfterQueries.foldl
            (fun pending query => pending.push query) queries.pendingQueries
        pendingInvokeAfterQueries := [] } :=
  { holds with
    conserved := by
      have flushed : ticketsOf (queries.pendingInvokeAfterQueries.foldl
                (fun pending query => pending.push query)
                queries.pendingQueries).toList =
            ticketsOf queries.pendingInvokeAfterQueries + ticketsOf queries.pendingQueries.toList :=
        ticketsOf_foldl_push id _ _
      rw [← holds.conserved]
      simp only [Queries.tickets, ticketsOf_nil]
      rw [flushed]
      abel
    parked := fun some => absurd rfl some }

variable {unknownQueries : Finset MessageId}

theorem Holds.change {change : Query → Query}
    (sameQuery : ∀ query, (change query).netQuery = query.netQuery)
    (unknown : ∀ other, other ∈ unknownQueries ↔ ∃ query,
            (queries.sentQueries.modify messageId change).find? other =
              some query ∧ query.isUnknown = true)
    (parked : queries.pendingInvokeAfterQueries ≠ [] → unknownQueries ≠ ∅) : Holds given inHand
      { queries with
        sentQueries := queries.sentQueries.modify messageId change
        unknownQueries := unknownQueries } :=
  { holds with
    conserved := by
      rw [← holds.conserved]
      simp only [Queries.tickets]
      rw [sumOver_modify _ (fun query => by simp only [sameQuery])]
    unknown := unknown
    parked := parked
    bounded := by
      rw [sumOver_modify _ (fun query => by simp only [Query.regular, sameQuery])]
      exact holds.bounded }

theorem Holds.modify {change : Query → Query}
    (sameQuery : ∀ query, (change query).netQuery = query.netQuery)
    (sameUnknown : ∀ query, (change query).isUnknown = query.isUnknown) : Holds given inHand
      { queries with
        sentQueries := queries.sentQueries.modify messageId change } := by
  refine holds.change sameQuery ?_ holds.parked
  intro other
  rw [holds.unknown other, find?_modify]
  by_cases same : other = messageId
  · simp [same, sameUnknown]
  · simp [same]

theorem Holds.mark {isUnknown : Bool} (isSent : (queries.sentQueries.find? messageId).isSome)
    (marked : ∀ other, other ∈ unknownQueries ↔
          if other = messageId then isUnknown = true
          else other ∈ queries.unknownQueries)
    (parked : queries.pendingInvokeAfterQueries ≠ [] → unknownQueries ≠ ∅) : Holds given inHand
      { queries with
        sentQueries :=
          queries.sentQueries.modify messageId (fun query => { query with isUnknown := isUnknown })
        unknownQueries := unknownQueries } := by
  refine holds.change (fun _ => rfl) ?_ parked
  intro other
  rw [marked other, find?_modify]
  by_cases same : other = messageId
  · obtain ⟨query, found⟩ := Option.isSome_iff_exists.mp isSent
    simp [same, found]
  · simp [same, holds.unknown other]

end

end Moves

/-! ## The functions of a session -/

section Functions

variable {given : List Nat} {inHand : Multiset (Nat × Nat)} {session after : Session}
  {environment : Environment} {messageId : MessageId} {query : Query}

theorem Holds.frame (holds : Holds given inHand session.toQueries)
    (same : after.toQueries = session.toQueries) : Holds given inHand after.toQueries := by
  rw [same]
  exact holds

theorem toQueries_applyIf {condition : Prop} [Decidable condition] {change : Session → Session}
    (same : ∀ session, (change session).toQueries = session.toQueries) :
    (session.applyIf condition change).toQueries = session.toQueries := by
  rw [applyIf]
  split
  · exact same session
  · rfl

section

variable (holds : Holds given inHand session.toQueries)
include holds

theorem Holds.markAsKnown {stored : Query}
    (found : session.sentQueries.find? messageId = some stored)
    (sameUnknown : stored.isUnknown = query.isUnknown) :
    Holds given inHand (session.markAsKnown messageId query).toQueries ∧
      ∃ known, (session.markAsKnown messageId query).sentQueries.find? messageId = some known ∧
          known.netQuery = stored.netQuery ∧ known.isUnknown = false := by
  have isSent : (session.sentQueries.find? messageId).isSome := by
    rw [found]
    rfl
  have marked : ∀ other, other ∈ session.unknownQueries.erase messageId ↔
          if other = messageId then false = true
          else other ∈ session.unknownQueries := by
    intro other
    by_cases same : other = messageId <;> simp [same]
  have knownFound : (session.sentQueries.modify messageId
          (fun query => { query with isUnknown := false })).find? messageId =
        some { stored with isUnknown := false } := by
    rw [find?_modify, if_pos rfl, found]
    rfl
  rw [Session.markAsKnown]
  split
  case isTrue known => exact ⟨holds, stored, found, rfl, by simpa [sameUnknown] using known⟩
  case isFalse =>
    rw [applyIf]
    split
    · -- Nobody is left whom the waiting queries could wait for.
      exact ⟨holds.flush.mark isSent marked (fun some => absurd rfl some),
        { stored with isUnknown := false }, knownFound, rfl, rfl⟩
    case isFalse someUnknown =>
      exact ⟨holds.mark isSent marked (fun _ => someUnknown),
        { stored with isUnknown := false }, knownFound, rfl, rfl⟩

theorem Holds.takeSentQuery (found : session.sentQueries.find? messageId = some query) :
    Holds given (query.netQuery.tickets + inHand)
      (session.takeSentQuery messageId query).toQueries := by
  obtain ⟨marked, known, knownFound, sameQuery, isKnown⟩ := holds.markAsKnown found rfl
  have erased := marked.erase knownFound isKnown
  rw [sameQuery] at erased
  exact erased

theorem Holds.takeSentQueryOf (found : session.sentQueries.find? messageId = some query)
    (same : after.toQueries = session.toQueries) : Holds given (query.netQuery.tickets + inHand)
      (after.takeSentQuery messageId query).toQueries := by
  refine (holds.frame same).takeSentQuery ?_
  rw [same]
  exact found

end

theorem Holds.returnQuery {toReturn returned : NetQueryPtr}
    (holds : Holds given (toReturn.tickets + inHand) session.toQueries)
    (sameTickets : returned.tickets = toReturn.tickets) :
    Holds given inHand (session.returnQuery environment returned).toQueries := by
  have withReturned : Holds given
        (({ returned with sessionId := 0 } : NetQueryPtr).tickets + inHand)
        session.toQueries := by
    rw [← sameTickets] at holds
    exact holds
  exact withReturned.returnOne

theorem Holds.addQuery {toAdd added : NetQueryPtr}
    (holds : Holds given (toAdd.tickets + inHand) session.toQueries)
    (sameTickets : added.tickets = toAdd.tickets) (done : session.addQuery added = .ok after) :
    Holds given inHand after.toQueries := by
  obtain ⟨_, _, done⟩ := bind_eq_ok done
  cases done
  rw [← sameTickets] at holds
  exact holds.push

theorem Holds.resendQuery {toResend : NetQueryPtr}
    (holds : Holds given (toResend.tickets + inHand) session.toQueries)
    (resent : session.resendQuery environment toResend = .ok after) :
    Holds given inHand after.toQueries := by
  simp only [Session.resendQuery] at resent
  split at resent
  · cases resent
    exact holds.returnQuery rfl
  · exact holds.addQuery (tickets_setMessageId 0 toResend) resent

theorem Holds.markAsUnknown (holds : Holds given inHand session.toQueries)
    (found : session.sentQueries.find? messageId = some query)
    (marked : session.markAsUnknown messageId query = .ok after) :
    Holds given inHand after.toQueries := by
  rw [Session.markAsUnknown] at marked
  split at marked
  · cases marked
    exact holds
  · obtain ⟨_, _, marked⟩ := bind_eq_ok marked
    cases marked
    have isSent : (session.sentQueries.find? messageId).isSome := by
      rw [found]
      rfl
    have inserted : ∀ other, other ∈ insert messageId session.unknownQueries ↔
            if other = messageId then true = true
            else other ∈ session.unknownQueries := by
      intro other
      by_cases same : other = messageId <;> simp [same]
    exact holds.mark isSent inserted
      (fun _ => Finset.insert_ne_empty messageId session.unknownQueries)

/-! ### Functions that leave the queries alone -/

@[simp] theorem toQueries_emit (output : Output) :
    (session.emit output).toQueries = session.toQueries :=
  rfl

@[simp] theorem toQueries_onSessionFailed (status : Option Status) :
    (session.onSessionFailed status).toQueries = session.toQueries :=
  rfl

@[simp] theorem toQueries_setContainer (container : Option ContainerInfo) :
    (session.setContainer messageId container).toQueries = session.toQueries :=
  rfl

@[simp] theorem toQueries_modifyAuthData (change : AuthData → AuthData) :
    (session.modifyAuthData change).toQueries = session.toQueries :=
  rfl

@[simp] theorem toQueries_onAuthKeyUpdated :
    session.onAuthKeyUpdated.toQueries = session.toQueries :=
  rfl

@[simp] theorem toQueries_dropMainAuthKey :
    session.dropMainAuthKey.toQueries = session.toQueries := by
  simp [dropMainAuthKey]

@[simp] theorem toQueries_cleanupContainer :
    (session.cleanupContainer messageId query).toQueries = session.toQueries := by
  rw [cleanupContainer]
  split <;> simp

theorem toQueries_of_decContainer (decreased : session.decContainer messageId query = .ok after) :
    after.toQueries = session.toQueries := by
  rw [decContainer] at decreased
  split at decreased
  · cases decreased
    rfl
  · split at decreased
    · cases decreased
      rfl
    · obtain ⟨_, _, decreased⟩ := bind_eq_ok decreased
      cases decreased
      rfl

@[simp] theorem toQueries_stealAuthorization (packet : Bytes) :
    (session.stealAuthorization packet query).toQueries = session.toQueries := by
  rw [stealAuthorization]
  split
  · rfl
  · split
    · exact toQueries_applyIf fun _ => rfl
    · rfl

theorem makeBindKeyQuery_spec (counter : Nat) :
    (makeBindKeyQuery (UniqueId.next UniqueId.bindKeyType counter)).tickets = 0 ∧
      (makeBindKeyQuery (UniqueId.next UniqueId.bindKeyType counter)).isBindKey = true := by
  refine ⟨rfl, decide_eq_true ?_⟩
  change ((counter % 2 ^ 48) * 2 ^ 16 + 3 * 2 ^ 8) / 2 ^ 8 % 2 ^ 8 = 3
  omega

theorem Holds.onContainerSent {messageIds : List MessageId}
    (holds : Holds given inHand session.toQueries)
    (sent : session.onContainerSent messageId messageIds = .ok after) :
    Holds given inHand after.toQueries := by
  obtain ⟨_, _, sent⟩ := bind_eq_ok sent
  have stored (kept : List MessageId) :
      Holds given inHand (kept.foldl (setContainerMessageId messageId) session).toQueries :=
    List.foldlRecOn
      (motive := fun session : Session => Holds given inHand session.toQueries) kept _ holds
      (fun _ before _ _ => Holds.modify before (fun _ => rfl) (fun _ => rfl))
  dsimp only at sent
  split at sent <;> cases sent
  · exact stored _
  · exact stored _

theorem Holds.onMessageFailedInner {inContainer : Bool}
    (holds : Holds given inHand session.toQueries)
    (failed : session.onMessageFailedInner environment inContainer messageId = .ok after) :
    Holds given inHand after.toQueries := by
  rw [Session.onMessageFailedInner] at failed
  split at failed
  case h_1 =>
    cases failed
    exact holds
  case h_2 query found =>
    exact (holds.takeSentQueryOf found
      (toQueries_applyIf fun _ => toQueries_cleanupContainer ..)).resendQuery failed

end Functions

end Session

end Autoproto.Net
