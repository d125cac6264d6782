import Mathlib.Data.Multiset.Bind
import Mathlib.Data.Multiset.Range
import Mathlib.Data.Rat.Defs
import Mathlib.Tactic.Abel
import Autoproto.Status
import Autoproto.Transition

namespace Autoproto

open List Text Function
open Transition (Run)

/-!
# Names of hosts

`GetHostByNameActor` asks its resolvers for the address of a host, one after the
other, and remembers the answer for a while. Runs for a host that is asked for
wait for the same answer. A resolver is an actor that answers once, possibly
with the error of a lost promise.
-/

namespace GetHostByNameActor

inductive ResolverType where
  | native
  | google
  deriving DecidableEq

/-- The options, and the functions of addresses that are used. -/
structure Options (Address : Type) where
  resolverTypes : List ResolverType := [.native]
  okTimeout : Int := 60 * 29
  errorTimeout : Int := 60 * 5
  setPort : Int → Address → Address
  idnToAscii : Bytes → Except Status Bytes
  /-- The constructor checks that there is a resolver. -/
  nonempty : resolverTypes ≠ []

/-- What is remembered of a host. -/
structure Value (Address : Type) where
  ip : Except Status Address
  expiresAt : Rat

/-- What a query is for. -/
structure Key where
  preferIpv6 : Bool
  host : Bytes
  deriving DecidableEq

/-- A query, the resolvers asked, and the errors. -/
structure Query where
  query : Option ResolverType := none
  pos : Nat := 0
  realHost : Bytes := []
  beginTime : Rat := 0
  promises : List (Int × Nat) := []
  tried : List ResolverType := []
  errors : Nat := 0

end GetHostByNameActor

open GetHostByNameActor

/--
The actor. A promise is the number of its run. Resolvers at work, completed
promises and queries that are over are recorded.
-/
structure GetHostByNameActor (Address : Type) where
  cache : Key → Option (Value Address) := fun _ => none
  activeQueries : Key → Option Query := fun _ => none
  resolvers : Multiset Key := 0
  runs : Nat := 0
  completed : List (Nat × Except Status Address) := []
  finished : List (Query × Bool) := []

namespace GetHostByNameActor

variable {Address : Type}

def Value.getIpPort (options : Options Address) (port : Int) (value : Value Address) :
    Except Status Address :=
  value.ip.map (options.setPort port)

def setResult (promise : Nat) (result : Except Status Address)
    (actor : GetHostByNameActor Address) : GetHostByNameActor Address :=
  { actor with completed := actor.completed ++ [(promise, result)] }

/-- The function `run_query`, which asks the next resolver. -/
def runQuery (options : Options Address) (key : Key) (query : Query)
    (actor : GetHostByNameActor Address) : Except Fault (GetHostByNameActor Address) := do
  check (query.query = none)
  match options.resolverTypes[query.pos]? with
  | none => .error .check
  | some type =>
    let query :=
      { query with
        query := some type
        pos := query.pos + 1
        tried := query.tried ++ [type] }
    return { actor with
      activeQueries := update actor.activeQueries key (some query)
      resolvers := key ::ₘ actor.resolvers }

/-- The part of `run` for a host that is not remembered. -/
def joinQuery (options : Options Address) (now : Rat) (host : Bytes) (port : Int) (key : Key)
    (promise : Nat) (actor : GetHostByNameActor Address) :
    Except Fault (GetHostByNameActor Address) := do
  let query := (actor.activeQueries key).getD {}
  let query := { query with promises := query.promises ++ [(port, promise)] }
  if query.query = none then
    check (query.promises.length = 1)
    actor.runQuery options key { query with realHost := host, beginTime := now }
  else
    return { actor with activeQueries := update actor.activeQueries key (some query) }

def run (options : Options Address) (now : Rat) (host : Bytes) (port : Int) (preferIpv6 : Bool)
    (actor : GetHostByNameActor Address) : Except Fault (GetHostByNameActor Address) :=
  let promise := actor.runs
  let actor := { actor with runs := actor.runs + 1 }
  match options.idnToAscii host with
  | .error status => .ok (actor.setResult promise (.error status))
  | .ok asciiHost =>
    if asciiHost = [] then
      .ok (actor.setResult promise (.error ⟨0, ascii "Host is empty"⟩))
    else
      let key := ⟨preferIpv6, asciiHost⟩
      let value := (actor.cache key).getD ⟨.error ⟨-1, []⟩, now - 1⟩
      let actor := { actor with cache := update actor.cache key (some value) }
      if now < value.expiresAt then
        .ok (actor.setResult promise (value.getIpPort options port))
      else
        actor.joinQuery options now host port key promise

/-- The end of a query, which completes its promises. -/
def finish (options : Options Address) (now : Rat) (key : Key) (result : Except Status Address)
    (query : Query) (actor : GetHostByNameActor Address) : GetHostByNameActor Address :=
  let timeout := if result.isOk then options.okTimeout else options.errorTimeout
  let value : Value Address := ⟨result, now + timeout⟩
  { actor with
    cache := update actor.cache key (some value)
    activeQueries := update actor.activeQueries key none
    completed :=
      actor.completed ++
        query.promises.map (fun promise => (promise.2, value.getIpPort options promise.1))
    finished := actor.finished ++ [(query, result.isOk)] }

def onQueryResult (options : Options Address) (now : Rat) (key : Key)
    (result : Except Status Address) (actor : GetHostByNameActor Address) :
    Except Fault (GetHostByNameActor Address) := do
  match actor.activeQueries key with
  | none => .error .check
  | some query =>
    check (query.promises ≠ [])
    check (query.query ≠ none)
    let query := { query with errors := query.errors + if result.isOk then 0 else 1 }
    if result.isOk = false ∧ query.pos < options.resolverTypes.length then
      actor.runQuery options key { query with query := none }
    else
      check ((actor.cache key).isSome = true)
      return actor.finish options now key result query

/-- A run, or the answer of a resolver. -/
inductive Event (Address : Type) where
  | run (now : Rat) (host : Bytes) (port : Int) (preferIpv6 : Bool)
  | result (now : Rat) (key : Key) (result : Except Status Address)

/-- Whether a promise is made. -/
def Event.isRun : Event Address → Bool
  | .run .. => true
  | .result .. => false

def handle (options : Options Address) (actor : GetHostByNameActor Address) :
    Event Address → Except Fault (GetHostByNameActor Address)
  | .run now host port preferIpv6 => actor.run options now host port preferIpv6
  | .result now key result =>
    onQueryResult options now key result { actor with resolvers := actor.resolvers.erase key }

/-- Only a resolver that is at work answers. -/
def Admissible (actor : GetHostByNameActor Address) : Event Address → Prop
  | .run .. => True
  | .result _ key _ => key ∈ actor.resolvers

def Step (options : Options Address) (actor : GetHostByNameActor Address) (event : Event Address)
    (after : GetHostByNameActor Address) : Prop :=
  actor.Admissible event ∧ actor.handle options event = .ok after

/-! ## Queries -/

/-- The promises that wait for the answer about a host. -/
def waiting (activeQueries : Key → Option Query) (key : Key) : Multiset Nat :=
  ((activeQueries key).map (fun query => query.promises.map Prod.snd)).getD 0

def promises (actor : GetHostByNameActor Address) : Multiset Nat :=
  actor.completed.map Prod.fst + actor.resolvers.bind (waiting actor.activeQueries)

/-- The resolvers have been asked in order. -/
def Query.InOrder (options : Options Address) (query : Query) : Prop :=
  query.tried = options.resolverTypes.take query.pos ∧ query.pos ≤ options.resolverTypes.length

/-- A resolver is at work, after all before it failed. -/
structure Query.Asks (options : Options Address) (query : Query) : Prop where
  isAsked : query.query ≠ none
  waits : query.promises ≠ []
  inOrder : query.InOrder options
  failed : query.pos = query.errors + 1

/-- One resolver has succeeded, or all have failed. -/
def Query.Over (options : Options Address) (query : Query) (isOk : Bool) : Prop :=
  query.InOrder options ∧
    if isOk then
      query.pos = query.errors + 1
    else
      query.pos = query.errors ∧ query.pos = options.resolverTypes.length

structure Consistent (options : Options Address) (actor : GetHostByNameActor Address) : Prop where
  asks : ∀ key query, actor.activeQueries key = some query →
      query.Asks options ∧ (actor.cache key).isSome = true
  distinct : actor.resolvers.Nodup
  atWork : ∀ key, key ∈ actor.resolvers ↔ (actor.activeQueries key).isSome = true
  isOver : ∀ entry ∈ actor.finished, entry.1.Over options entry.2
  once : actor.promises = Multiset.range actor.runs

variable {options : Options Address} {actor after : GetHostByNameActor Address} {key : Key}
  {query : Query}

theorem runQuery_spec (actor : GetHostByNameActor Address) (key : Key) (query : Query)
    (inOrder : query.InOrder options) (left : query.pos < options.resolverTypes.length)
    (failed : query.pos = query.errors) (idle : query.query = none) (waits : query.promises ≠ []) :
    ∃ asked : Query,
      actor.runQuery options key query = .ok { actor with
            activeQueries := update actor.activeQueries key (some asked)
            resolvers := key ::ₘ actor.resolvers } ∧
        asked.Asks options ∧ asked.promises = query.promises := by
  have isType := getElem?_eq_getElem left
  rw [runQuery, isType, idle]
  refine ⟨_, rfl, ⟨Option.some_ne_none _, waits, ⟨?_, Nat.succ_le_of_lt left⟩,
    congrArg (· + 1) failed⟩, rfl⟩
  rw [take_add_one, isType, ← inOrder.1]
  rfl

/-- What holds apart from one host, which is not counted. -/
structure Apart (options : Options Address) (key : Key) (actor : GetHostByNameActor Address) :
    Prop where
  asks : ∀ other ≠ key, ∀ query, actor.activeQueries other = some query →
      query.Asks options ∧ (actor.cache other).isSome = true
  distinct : (key ::ₘ actor.resolvers).Nodup
  atWork : ∀ other ≠ key, other ∈ actor.resolvers ↔ (actor.activeQueries other).isSome = true
  isOver : ∀ entry ∈ actor.finished, entry.1.Over options entry.2

section

variable (apart : actor.Apart options key)
include apart

theorem Apart.bind_waiting (query : Option Query) :
    actor.resolvers.bind (waiting (update actor.activeQueries key query)) =
      actor.resolvers.bind (waiting actor.activeQueries) := by
  have notKey := (Multiset.nodup_cons.mp apart.distinct).1
  refine Multiset.bind_congr fun other isOther => ?_
  have different : other ≠ key := fun isKey => notKey (isKey ▸ isOther)
  simp [waiting, different]

theorem Apart.set (isAsked : query.Asks options) (cached : (actor.cache key).isSome = true)
    (once : actor.promises + (query.promises.map Prod.snd : List Nat) = Multiset.range actor.runs) :
    Consistent options
      { actor with
        activeQueries := update actor.activeQueries key (some query)
        resolvers := key ::ₘ actor.resolvers } := by
  refine ⟨fun other asked active => ?_, apart.distinct, fun other => ?_, apart.isOver, ?_⟩
  · rcases eq_or_ne other key with rfl | different
    · simp_all
    · exact apart.asks other different asked (by simpa [different] using active)
  · rcases eq_or_ne other key with rfl | different
    · simp
    · simpa [different] using apart.atWork other different
  · have own : waiting (update actor.activeQueries key (some query)) key =
          (query.promises.map Prod.snd : List Nat) := by
      simp [waiting]
    rw [← once]
    simp only [promises, Multiset.cons_bind, apart.bind_waiting, own]
    abel

theorem Apart.finish {result : Except Status Address} (isOver : query.Over options result.isOk)
    (now : Rat)
    (once : actor.promises + (query.promises.map Prod.snd : List Nat) = Multiset.range actor.runs) :
    Consistent options (actor.finish options now key result query) := by
  obtain ⟨notKey, distinct⟩ := Multiset.nodup_cons.mp apart.distinct
  refine ⟨fun other asked active => ?_, distinct, fun other => ?_, ?_, ?_⟩
  · rcases eq_or_ne other key with rfl | different
    · simp [GetHostByNameActor.finish] at active
    · simpa [GetHostByNameActor.finish, different] using
        apart.asks other different asked
          (by simpa [GetHostByNameActor.finish, different] using active)
  · rcases eq_or_ne other key with rfl | different
    · simpa [GetHostByNameActor.finish] using notKey
    · simpa [GetHostByNameActor.finish, different] using apart.atWork other different
  · intro entry isEntry
    rcases mem_append.mp isEntry with earlier | last
    · exact apart.isOver entry earlier
    · rw [mem_singleton.mp last]
      exact isOver
  · refine Eq.trans ?_ once
    simp only [promises, GetHostByNameActor.finish, map_append, map_map,
      ← Multiset.coe_add, apart.bind_waiting, comp_def]
    abel

end

section

variable (consistent : actor.Consistent options)
include consistent

/-- One host is set apart. -/
theorem Consistent.apart (key : Key) : ∃ others,
      Apart options key { actor with resolvers := others } ∧
        GetHostByNameActor.promises { actor with resolvers := others } +
          waiting actor.activeQueries key = Multiset.range actor.runs ∧
        (if (actor.activeQueries key).isSome = true then actor.resolvers = key ::ₘ others
          else actor.resolvers = others) := by
  obtain ⟨asks, distinct, atWork, isOver, once⟩ := consistent
  by_cases active : (actor.activeQueries key).isSome = true
  · obtain ⟨others, isResolvers⟩ := Multiset.exists_cons_of_mem ((atWork key).mpr active)
    refine ⟨others, ⟨fun other _ => asks other, isResolvers ▸ distinct, fun other different => ?_,
      isOver⟩, ?_, by simp [active, isResolvers]⟩
    · simpa [isResolvers, different] using atWork other
    · rw [← once]
      simp only [promises, isResolvers, Multiset.cons_bind]
      abel
  · refine ⟨actor.resolvers,
      ⟨fun other _ => asks other, ?_, fun other _ => atWork other, isOver⟩, ?_, by simp [active]⟩
    · exact Multiset.nodup_cons.mpr ⟨fun isMember => active ((atWork key).mp isMember), distinct⟩
    · simpa [waiting, Option.not_isSome_iff_eq_none.mp active] using once

theorem Consistent.setResult (result : Except Status Address) : Consistent options
      (GetHostByNameActor.setResult actor.runs result { actor with runs := actor.runs + 1 }) := by
  obtain ⟨asks, distinct, atWork, isOver, once⟩ := consistent
  refine ⟨asks, distinct, atWork, isOver, ?_⟩
  simp only [promises, GetHostByNameActor.setResult, map_append, ← Multiset.coe_add,
    Multiset.range_succ, ← once, ← Multiset.singleton_add]
  simp only [map_cons, map_nil, Multiset.coe_singleton]
  abel

theorem Consistent.remember (key : Key) (value : Value Address) :
    Consistent options { actor with cache := update actor.cache key (some value) } := by
  obtain ⟨asks, distinct, atWork, isOver, once⟩ := consistent
  refine ⟨fun other query active => ?_, distinct, atWork, isOver, once⟩
  obtain ⟨isAsked, cached⟩ := asks other query active
  refine ⟨isAsked, ?_⟩
  rcases eq_or_ne other key with rfl | different <;> simp_all

theorem Consistent.joinQuery (cached : (actor.cache key).isSome = true) (now : Rat) (host : Bytes)
    (port : Int) : ∃ after, GetHostByNameActor.joinQuery options now host port key actor.runs
          { actor with runs := actor.runs + 1 } = .ok after ∧
        after.Consistent options ∧ after.runs = actor.runs + 1 := by
  obtain ⟨others, apart, once, isResolvers⟩ := consistent.apart key
  have apart : Apart options key { actor with resolvers := others, runs := actor.runs + 1 } :=
    ⟨apart.asks, apart.distinct, apart.atWork, apart.isOver⟩
  have onceMore {asked : Query} (waits : (asked.promises.map Prod.snd : Multiset Nat) =
        waiting actor.activeQueries key + {actor.runs}) :
      GetHostByNameActor.promises { actor with resolvers := others, runs := actor.runs + 1 } +
        (asked.promises.map Prod.snd : Multiset Nat) = Multiset.range (actor.runs + 1) := by
    rw [waits, Multiset.range_succ, ← once, ← Multiset.singleton_add]
    simp only [promises]
    abel
  unfold GetHostByNameActor.joinQuery
  cases active : actor.activeQueries key with
  | none =>
    rw [active] at isResolvers
    obtain ⟨asked, isAsked, asks, promises⟩ :=
      runQuery_spec { actor with runs := actor.runs + 1 } key
        { realHost := host, beginTime := now, promises := [(port, actor.runs)] }
        ⟨rfl, Nat.zero_le _⟩ (length_pos_iff.mpr options.nonempty) rfl rfl nofun
    refine ⟨_, isAsked, ?_, rfl⟩
    have set := apart.set asks cached (onceMore (by simp [promises, waiting, active]))
    simp at isResolvers
    rw [isResolvers]
    exact set
  | some query =>
    rw [active] at isResolvers
    obtain ⟨⟨isAsked, waits, inOrder, failed⟩, _⟩ := consistent.asks key query active
    have set := @Apart.set _ _ _ _ { query with promises := query.promises ++ [(port, actor.runs)] }
      apart ⟨isAsked, by simp, inOrder, failed⟩ cached
      (onceMore (by simp [waiting, active, ← Multiset.coe_add]))
    simp at isResolvers
    refine ⟨_, if_neg isAsked, ?_, rfl⟩
    simpa [← isResolvers] using set

theorem Consistent.run (now : Rat) (host : Bytes) (port : Int) (preferIpv6 : Bool) :
    ∃ after, actor.run options now host port preferIpv6 = .ok after ∧
      after.Consistent options ∧ after.runs = actor.runs + 1 := by
  unfold GetHostByNameActor.run
  cases options.idnToAscii host with
  | error status => exact ⟨_, rfl, consistent.setResult _, rfl⟩
  | ok asciiHost =>
    dsimp only
    split
    · exact ⟨_, rfl, consistent.setResult _, rfl⟩
    have remembered := consistent.remember ⟨preferIpv6, asciiHost⟩
      ((actor.cache ⟨preferIpv6, asciiHost⟩).getD ⟨.error ⟨-1, []⟩, now - 1⟩)
    split
    · exact ⟨_, rfl, remembered.setResult _, rfl⟩
    · exact remembered.joinQuery (by simp) now host port

theorem Consistent.onQueryResult (isResolver : key ∈ actor.resolvers) (now : Rat)
    (result : Except Status Address) : ∃ after,
      GetHostByNameActor.onQueryResult options now key result
          { actor with resolvers := actor.resolvers.erase key } = .ok after ∧
        after.Consistent options ∧ after.runs = actor.runs := by
  obtain ⟨others, apart, once, isResolvers⟩ := consistent.apart key
  have isActive := (consistent.atWork key).mp isResolver
  obtain ⟨query, active⟩ := Option.isSome_iff_exists.mp isActive
  obtain ⟨⟨isAsked, waits, inOrder, failed⟩, cached⟩ := consistent.asks key query active
  rw [if_pos isActive] at isResolvers
  rw [isResolvers, Multiset.erase_cons_head]
  have once : GetHostByNameActor.promises { actor with resolvers := others } +
        (query.promises.map Prod.snd : List Nat) = Multiset.range actor.runs := by
    simpa [waiting, active] using once
  unfold GetHostByNameActor.onQueryResult
  simp only [active, waits, isAsked, cached, check_eq_ok, ok_bind, ne_eq, not_false_eq_true]
  cases result with
  | ok address =>
    refine ⟨_, if_neg (by simp [Except.isOk, Except.toBool]), ?_, rfl⟩
    refine apart.finish ?_ now once
    exact ⟨inOrder, failed⟩
  | error status =>
    by_cases left : query.pos < options.resolverTypes.length
    · obtain ⟨asked, isAsked, asks, promises⟩ :=
        runQuery_spec { actor with resolvers := others } key
          { query with errors := query.errors + 1, query := none }
          inOrder left failed rfl waits
      refine ⟨_, (if_pos ⟨rfl, left⟩).trans isAsked, ?_, rfl⟩
      exact apart.set asks cached (by rw [promises]; exact once)
    · refine ⟨_, if_neg (by simp [left]), ?_, rfl⟩
      refine apart.finish ?_ now once
      exact ⟨inOrder, failed, inOrder.2.antisymm (Nat.not_lt.mp left)⟩

theorem Consistent.handle {event : Event Address} (admissible : actor.Admissible event) :
    ∃ after, actor.handle options event = .ok after ∧ after.Consistent options ∧
      after.runs = actor.runs + [event].countP Event.isRun := by
  cases event with
  | run now host port preferIpv6 => exact consistent.run now host port preferIpv6
  | result now key result => exact consistent.onQueryResult admissible now result

end

/--
In every run, no check fails; each promise is completed once or waits for the
one resolver that works for its host; and the resolvers are asked in order, each
once, until one succeeds.
-/
theorem hosts_resolved_once
    {events : List (Event Address)}
    (reached : Run (Step options) {} events actor) :
    (∀ event, actor.Admissible event → ∃ after, actor.handle options event = .ok after) ∧
      actor.runs = events.countP Event.isRun ∧
      actor.promises = Multiset.range actor.runs ∧ actor.resolvers.Nodup ∧
      (∀ key, key ∈ actor.resolvers ↔ (actor.activeQueries key).isSome = true) ∧
      (∀ key query, actor.activeQueries key = some query → query.Asks options) ∧
      ∀ entry ∈ actor.finished, entry.1.Over options entry.2 := by
  have kept : actor.Consistent options ∧ actor.runs = events.countP Event.isRun := by
    induction reached with
    | start => exact ⟨⟨nofun, Multiset.nodup_zero, by simp, nofun, rfl⟩, rfl⟩
    | extend _ step ih =>
      obtain ⟨next, returned, consistent, runs⟩ := ih.1.handle step.1
      cases step.2.symm.trans returned
      exact ⟨consistent, by rw [runs, ih.2, countP_append]⟩
  obtain ⟨consistent, runs⟩ := kept
  refine ⟨fun event admissible => ?_, runs, consistent.once, consistent.distinct,
    consistent.atWork, fun key query active => (consistent.asks key query active).1,
    consistent.isOver⟩
  obtain ⟨after, returned, _⟩ := consistent.handle admissible
  exact ⟨after, returned⟩

def exampleOptions : Options Bytes where
  resolverTypes := [.native, .google]
  setPort _ address := address
  idnToAscii host := .ok host
  nonempty := nofun

/-- A run joins another one, and the first of two resolvers fails. -/
def exampleEvents : List (Event Bytes) :=
  [.run 0 [1] 80 false, .run 1 [1] 443 false, .result 2 ⟨false, [1]⟩ (.error ⟨0, []⟩),
    .result 3 ⟨false, [1]⟩ (.ok [9])]

instance (actor : GetHostByNameActor Address) : DecidablePred actor.Admissible
  | .run .. => .isTrue trivial
  | .result _ key _ => inferInstanceAs (Decidable (key ∈ actor.resolvers))

/-- Two runs for one host get the address that the second resolver has found. -/
theorem joined_runs_resolved :
    ∃ actor : GetHostByNameActor Bytes, Run (Step exampleOptions) {} exampleEvents actor ∧
      actor.completed.map (fun entry => (entry.1, entry.2.toOption)) =
        [(0, some [9]), (1, some [9])] ∧
      actor.promises = Multiset.range 2 := by
  let handleAdmissible (actor : GetHostByNameActor Bytes) (event : Event Bytes) := do
    check (actor.Admissible event)
    actor.handle exampleOptions event
  have facts : (exampleEvents.foldlM handleAdmissible {}).toOption.any (fun actor =>
      actor.completed.map (fun entry => (entry.1, entry.2.toOption)) ==
        [(0, some [9]), (1, some [9])]) = true := by
    decide +kernel
  obtain ⟨actor, returned, completed⟩ := exists_of_any facts
  have isStep (before : GetHostByNameActor Bytes) (event : Event Bytes)
      (after : GetHostByNameActor Bytes) (handled : handleAdmissible before event = .ok after) :
      Step exampleOptions before event after := by
    obtain ⟨_, admissible, handled⟩ := bind_eq_ok handled
    exact ⟨holds_of_check admissible, handled⟩
  have run := Run.foldlM isStep .start returned
  obtain ⟨_, runs, promises, _⟩ := hosts_resolved_once run
  exact ⟨actor, run, beq_iff_eq.mp completed, promises.trans (congrArg _ runs)⟩

end GetHostByNameActor

end Autoproto
