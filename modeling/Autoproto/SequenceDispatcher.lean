import Mathlib.Data.List.Destutter
import Autoproto.NetQueryDispatcher

namespace Autoproto

open List Text

/-!
# Queries that wait for their turn

A query with chains is to be sent after the earlier queries of these chains. For
that, `dispatch` gives it to the sequence dispatcher. The one of this library
puts nothing in order: it calls `dispatch` again, and does not say that the
query comes from it.
-/

namespace NetQuery

def unique (ids : List Nat) : List Nat :=
  ids.mergeSort.destutter (· ≠ ·)

def newChainIds (chainIds : List Nat) : List Nat :=
  unique (chainIds.map (fun chainId => if chainId = 0 then 1 else chainId))

def create (id : Nat) (chainIds : List Nat) (dcId : DcId) (type : QueryType) : NetQuery where
  id := id
  type := type
  dcId := dcId
  chainIds := newChainIds chainIds
  hasCallback := false

theorem newChainIds_eq_nil_iff {chainIds : List Nat} :
    newChainIds chainIds = [] ↔ chainIds = [] := by
  unfold newChainIds unique
  rw [destutter_eq_nil, ← length_eq_zero_iff, length_mergeSort, length_map, length_eq_zero_iff]

@[simp] theorem id_spendTtl (query : NetQuery) : query.spendTtl.id = query.id := by
  unfold spendTtl
  split_ifs <;> rfl

@[simp] theorem id_resend (newDcId : DcId) (query : NetQuery) :
    (query.resend newDcId).id = query.id :=
  rfl

end NetQuery

def Message.HandsOn (id : Nat) : Message → Prop
  | onResult query => query.id = id
  | onResultCallback query => query.id = id
  | delay query => query.id = id
  | session _ _ query => query.id = id
  | _ => False

namespace NetQueryDispatcher

variable {traits : TableTraits Bytes} {clock : Clock} {dispatcher after : NetQueryDispatcher traits}
  {query : NetQuery}

def multiSequenceSend (clock : Clock) (query : NetQuery) (dispatcher : NetQueryDispatcher traits) :
    Except Fault (NetQueryDispatcher traits) :=
  dispatcher.dispatch clock query

/-- What has become of a query after `dispatch` and some turns of the sequence dispatcher. -/
def dispatchTurns (clock : Clock) :
    Nat → NetQuery → NetQueryDispatcher traits →
      Except Fault (NetQueryDispatcher traits × Option Message)
  | 0, query, dispatcher =>
    .ok (dispatcher.sendClosureLater (.sequence query), none)
  | turns + 1, query, dispatcher => do
      let dispatcher ← dispatcher.multiSequenceSend clock query
      match dispatcher.sent.getLast? with
      | some (.sequence query) =>
        dispatchTurns clock turns query { dispatcher with sent := dispatcher.sent.dropLast }
      | outcome => return (dispatcher, outcome)

/-! ## One turn -/

def HandedOn (id : Nat) (before after : NetQueryDispatcher traits) : Prop :=
  ∃ outcome, outcome.HandsOn id ∧ Delivers before after outcome

theorem handedOn_completeNetQuery (query : NetQuery) (dispatcher : NetQueryDispatcher traits) :
    HandedOn query.id dispatcher (dispatcher.completeNetQuery query) := by
  unfold completeNetQuery
  split_ifs
  · exact ⟨.onResultCallback { query with hasCallback := false }, rfl, Delivers.send _ _⟩
  · exact ⟨.onResult query, rfl, Delivers.send _ _⟩

theorem Notifies.handedOn {between : NetQueryDispatcher traits} {id : Nat}
    (notified : Notifies dispatcher between) (handedOn : HandedOn id between after) :
    HandedOn id dispatcher after := by
  obtain ⟨outcome, handsOn, delivers⟩ := handedOn
  exact ⟨outcome, handsOn, notified.delivers delivers⟩

theorem handedOn_unlessStopped {next : Except Fault (NetQueryDispatcher traits)}
    (goesOn : next = .ok after → HandedOn query.id dispatcher after)
    (returned : dispatcher.unlessStopped query next = .ok after) :
    HandedOn query.id dispatcher after := by
  unfold unlessStopped at returned
  split_ifs at returned
  · cases returned
    have completed :=
      handedOn_completeNetQuery (query.setError ⟨500, ascii "Request aborted"⟩) dispatcher
    rwa [NetQuery.id_setError] at completed
  · exact goesOn returned

variable {dcId : DcId} {failure : Option Bytes}

theorem notifies_of_initDc {position : Nat} {opened : NetQueryDispatcher traits}
    (returned : dispatcher.initDc clock dcId position = .ok (opened, failure)) :
    Notifies dispatcher opened := by
  rcases initDc_eq_ok returned with ⟨_, rfl⟩ | ⟨_, rfl⟩
  · exact Notifies.refl dispatcher
  · exact (addPublicRsaKey_spec dcId).1.trans (addDc_spec dcId).1

theorem notifies_of_waitDcInit {force : Bool} {waited : NetQueryDispatcher traits}
    (returned : dispatcher.waitDcInit clock dcId force = .ok (waited, failure)) :
    Notifies dispatcher waited := by
  have unchanged
      {failure other : Option Bytes}
      (returned : (.ok (dispatcher, other) : Except Fault _) = .ok (waited, failure)) :
      Notifies dispatcher waited := by
    cases returned
    exact Notifies.refl dispatcher
  unfold waitDcInit at returned
  split at returned
  · exact unchanged returned
  · dsimp only at returned
    split at returned
    · exact unchanged returned
    · split at returned
      · split at returned
        · exact unchanged returned
        · split at returned
          · exact unchanged returned
          · cases returned
      · split at returned
        · exact notifies_of_initDc returned
        · exact unchanged returned

theorem handedOn_of_sendToSession {destDcId : DcId}
    (returned : dispatcher.sendToSession clock destDcId query = .ok after) :
    HandedOn query.id dispatcher after := by
  obtain ⟨⟨waited, failure⟩, waitedFor, returned⟩ := bind_eq_ok returned
  refine (notifies_of_waitDcInit waitedFor).handedOn ?_
  cases failure with
  | some text =>
    cases returned
    have completed :=
      handedOn_completeNetQuery (query.setError ⟨0, ascii "No such dc " ++ destDcId.print⟩) waited
    rwa [NetQuery.id_setError] at completed
  | none =>
    obtain ⟨rawDcId, _, returned⟩ := bind_eq_ok returned
    obtain ⟨_, _, returned⟩ := bind_eq_ok returned
    rw [← NetQuery.id_spendTtl]
    refine handedOn_unlessStopped ?_ returned
    intro sent
    cases sent
    exact ⟨.session rawDcId query.type query.spendTtl, rfl, Delivers.send _ _⟩

theorem handedOn_of_forward (returned : dispatcher.forward clock query = .ok after) :
    HandedOn query.id dispatcher after := by
  have sameId : (checkTtl query).id = query.id := by
    unfold checkTtl
    split_ifs <;> simp
  obtain ⟨destDcId, _, returned⟩ := bind_eq_ok returned
  rw [← sameId]
  split_ifs at returned
  · cases returned
    exact handedOn_completeNetQuery _ _
  · exact handedOn_of_sendToSession returned

theorem notifies_of_updateMainFlag {rawDcId : Int} {isMain : Bool}
    (returned : dispatcher.updateMainFlag rawDcId isMain = .ok after) :
    Notifies dispatcher after := by
  obtain ⟨isInited, _, returned⟩ := bind_eq_ok returned
  split_ifs at returned
  · cases returned
    exact Notifies.send trivial
  · cases returned
    exact Notifies.refl _

variable {newMainDcId : Int}

theorem notifies_of_setMainDcId (returned : dispatcher.setMainDcId newMainDcId = .ok after) :
    Notifies dispatcher after := by
  unfold setMainDcId at returned
  split at returned
  · cases returned
    exact Notifies.refl _
  · split at returned
    · cases returned
      exact Notifies.refl _
    · obtain ⟨told, toldOld, returned⟩ := bind_eq_ok returned
      obtain ⟨client, _, returned⟩ := bind_eq_ok returned
      obtain ⟨toldBoth, toldNew, returned⟩ := bind_eq_ok returned
      obtain ⟨mainDcId, _, returned⟩ := bind_eq_ok returned
      cases returned
      have first := notifies_of_updateMainFlag toldOld
      have second := notifies_of_updateMainFlag toldNew
      exact (first.trans second).trans (Notifies.send trivial)

variable {resent : NetQuery}

theorem id_of_resendMigrated (returned : resendMigrated newMainDcId query = .ok resent) :
    resent.id = query.id := by
  unfold resendMigrated at returned
  split_ifs at returned
  · cases returned
    rfl
  · obtain ⟨dcId, _, returned⟩ := bind_eq_ok returned
    cases returned
    rfl

theorem notifies_of_tryFixMigrate {message : Bytes} {fixed : NetQueryDispatcher traits}
    (returned : dispatcher.tryFixMigrate message query = .ok (fixed, resent)) :
    Notifies dispatcher fixed ∧ resent.id = query.id := by
  unfold tryFixMigrate at returned
  split at returned
  · obtain ⟨migrated, isMigrated, returned⟩ := bind_eq_ok returned
    obtain ⟨asked, isAsked, returned⟩ := bind_eq_ok returned
    cases returned
    exact ⟨notifies_of_setMainDcId isMigrated, id_of_resendMigrated isAsked⟩
  · cases returned
    exact ⟨Notifies.refl _, rfl⟩

theorem handedOn_of_handleError {status : Status}
    (returned : dispatcher.handleError clock status query = .ok after) :
    HandedOn query.id dispatcher after := by
  unfold handleError at returned
  split_ifs at returned
  · obtain ⟨⟨fixed, resent⟩, isFixed, returned⟩ := bind_eq_ok returned
    obtain ⟨notified, sameId⟩ := notifies_of_tryFixMigrate isFixed
    rw [← sameId]
    exact notified.handedOn (handedOn_of_forward returned)
  · have handedOn := handedOn_of_forward returned
    rwa [NetQuery.id_resend] at handedOn
  · have handedOn := handedOn_of_forward returned
    rwa [NetQuery.id_setError] at handedOn
  · refine handedOn_unlessStopped ?_ returned
    intro sent
    cases sent
    exact ⟨.delay query, rfl, Delivers.send _ _⟩
  · exact handedOn_of_forward returned

theorem handedOn_of_dispatch (unchained : query.chainIds = [])
    (returned : dispatcher.dispatch clock query = .ok after) :
    HandedOn query.id dispatcher after := by
  refine handedOn_unlessStopped ?_ returned
  intro returned
  rw [if_neg (fun chained => chained.2 unchained)] at returned
  split at returned
  · exact handedOn_of_handleError returned
  · exact handedOn_of_forward returned

/-! ## All turns -/

theorem dispatchTurns_chained (running : dispatcher.stopFlag = false)
    (chained : query.chainIds ≠ []) (isNew : query.inSequenceDispatcher = false) (turns : Nat) :
    dispatchTurns clock turns query dispatcher =
      .ok (dispatcher.sendClosureLater (.sequence query), none) := by
  induction turns with
  | zero => rfl
  | succ turns ih =>
    -- The message that this turn sends is the one that the next turn takes.
    have sent :
        dispatcher.dispatch clock query = .ok (dispatcher.sendClosureLater (.sequence query)) := by
      simp [dispatch, unlessStopped, running, chained, isNew]
    rw [dispatchTurns, multiSequenceSend, sent, ok_bind]
    simpa [sendClosureLater] using ih

theorem dispatchTurns_of_handedOn (returned : dispatcher.dispatch clock query = .ok after)
    (handedOn : HandedOn query.id dispatcher after) (turns : Nat) : ∃ outcome,
      outcome.HandsOn query.id ∧
        dispatchTurns clock (turns + 1) query dispatcher = .ok (after, some outcome) := by
  obtain ⟨outcome, handsOn, notices, sent, _⟩ := handedOn
  refine ⟨outcome, handsOn, ?_⟩
  have isLast : after.sent.getLast? = some outcome := by
    rw [sent]
    exact getLast?_concat
  rw [dispatchTurns, multiSequenceSend, returned, ok_bind, isLast]
  cases outcome with
  | sequence query => cases handsOn
  | _ => rfl

/--
A query without chains is handed on by one `dispatch`, which returns as long as
the dispatcher can be used and no other data center is announced. A query with
chains goes around until the dispatcher is stopped.
-/
theorem handed_on_without_chains
    (clock : Clock)
    (id : Nat)
    (chainIds : List Nat)
    (dcId : DcId)
    (type : NetQuery.QueryType)
    (state : NetQuery.State)
    (dispatchTtl : Int)
    (hasCallback : Bool)
    (query : NetQuery)
    (isCreated : query = { NetQuery.create id chainIds dcId type with
          state := state
          dispatchTtl := dispatchTtl
          hasCallback := hasCallback })
    (dispatcher : NetQueryDispatcher traits)
    (running : dispatcher.stopFlag = false) :
    (chainIds = [] → (∀ after, dispatcher.dispatch clock query = .ok after → ∀ turns, ∃ outcome,
              outcome.HandsOn id ∧
                dispatchTurns clock (turns + 1) query dispatcher = .ok (after, some outcome)) ∧
          (dispatcher.Operational clock →
            (∀ rest, ¬ Announces query rest) → Returns (dispatcher.dispatch clock query))) ∧
      (chainIds ≠ [] → ∀ turns, ∃ after,
          dispatchTurns clock turns query dispatcher = .ok (after, none) ∧
            Message.sequence query ∈ after.sent) := by
  subst isCreated
  refine ⟨?_, ?_⟩
  · intro unchained
    refine ⟨?_, ?_⟩
    · intro after returned turns
      refine dispatchTurns_of_handedOn returned ?_ turns
      exact handedOn_of_dispatch (NetQuery.newChainIds_eq_nil_iff.mpr unchained) returned
    · intro operational silent
      obtain ⟨after, _, returned, _⟩ := dispatch_silent operational silent
      exact ⟨after, returned⟩
  · intro chained turns
    have hasChains : NetQuery.newChainIds chainIds ≠ [] := by
      rwa [Ne, NetQuery.newChainIds_eq_nil_iff]
    refine ⟨_, dispatchTurns_chained running hasChains rfl turns, ?_⟩
    exact mem_append_right _ (mem_singleton_self _)

section Example

/-- A query for the main data center, possibly with chains. -/
def chainedQuery (chainIds : List Nat) : NetQuery :=
  NetQuery.create 1 chainIds DcId.main .common

/-- Without a chain, the query is handed on in one turn. -/
theorem unchained_query_handed_on : ∃ after outcome, Message.HandsOn 1 outcome ∧
        dispatchTurns MtprotoClient.exampleClock 1 (chainedQuery [])
          exampleDispatcher = .ok (after, some outcome) := by
  obtain ⟨handedOn, returns⟩ :=
    (handed_on_without_chains MtprotoClient.exampleClock 1 [] DcId.main .common
      .query (-1) false (chainedQuery []) rfl exampleDispatcher rfl).1 rfl
  obtain ⟨after, returned⟩ := returns operational_exampleDispatcher (fun rest announces => by
        obtain ⟨_, _, isError⟩ := announces
        cases isError)
  exact ⟨after, handedOn after returned 0⟩

/-- With the chain five, the query goes around however long one waits. -/
theorem chained_query_goes_around : exampleDispatcher.stopFlag = false ∧
      ∀ turns, ∃ after, dispatchTurns MtprotoClient.exampleClock turns (chainedQuery [5])
          exampleDispatcher = .ok (after, none) := by
  refine ⟨rfl, fun turns => ⟨_, dispatchTurns_chained rfl ?_ rfl turns⟩⟩
  exact fun isEmpty => absurd (NetQuery.newChainIds_eq_nil_iff.mp isEmpty) (cons_ne_nil _ _)

end Example

end NetQueryDispatcher

end Autoproto
