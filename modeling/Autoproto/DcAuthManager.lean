import Autoproto.DataCenters

namespace Autoproto

open List

/-!
# Authorization in the other data centers

A client logs in to its main data center. `DcAuthManager` asks it to export the
authorization to the other ones. After every key and every answer it looks at
all data centers again. Nothing sets `close_flag_`, so it is left out.
-/

namespace DcAuthManager

/-- The enumeration `DcInfo::State`. -/
inductive State where
  | waiting
  | toExport
  | toImport
  | beforeOk
  | ok
  deriving Repr, DecidableEq

/-- A data center, with what is known about its key and its authorization. -/
structure DcInfo where
  dcId : DcId
  authKeyState : AuthKeyState := .empty
  state : State := .waiting
  waitId : Nat := 0
  exportId : Int64 := 0
  exportBytes : Bytes := []
  deriving DecidableEq

/-- The two queries of the manager. -/
inductive Request where
  | exportAuthorization (dcId : Int)
  | importAuthorization (id : Int64) (bytes : Bytes)
  deriving DecidableEq

structure AuthQuery where
  id : Nat
  linkToken : Int
  destination : DcId
  request : Request
  deriving DecidableEq

/-- What the callback fetches from an answer. -/
inductive Answer where
  | exported (id : Int64) (bytes : Bytes)
  | authorized
  | error
  deriving DecidableEq

def noWaitId : Nat :=
  2 ^ 64 - 1

/-- The function `dc_loop`, with the query that it sends. -/
def dcLoop (id : Nat) (dc : DcInfo) : DcInfo × Option AuthQuery :=
  if dc.authKeyState = .ok then
    (dc, none)
  else
    let dc := if dc.state = .ok then { dc with state := .waiting } else dc
    match dc.state with
    | .waiting | .toExport =>
      ({ dc with waitId := id, exportId := -1, state := .toImport },
        some ⟨id, dc.dcId.value, DcId.main, .exportAuthorization dc.dcId.value⟩)
    | .toImport =>
      if dc.exportId = -1 then
        (dc, none)
      else
        ({ dc with waitId := id, exportBytes := [], state := .beforeOk },
          some ⟨id, dc.dcId.value, dc.dcId, .importAuthorization dc.exportId dc.exportBytes⟩)
    | .beforeOk | .ok => (dc, none)

/-- The loop over all data centers, and the queries that it sends. -/
def dcLoops : Nat → List DcInfo → List DcInfo × List AuthQuery
  | _, [] => ([], [])
  | nextId, dc :: dcs =>
    let (dc, query) := dcLoop nextId dc
    let (dcs, queries) := dcLoops (nextId + query.toList.length) dcs
    (dc :: dcs, query.toList ++ queries)

def findDc (rawDcId : Int) (dcs : List DcInfo) : Option DcInfo :=
  dcs.find? (fun dc => dc.dcId.value = rawDcId)

/-- A data center changes. -/
def setDc (dc : DcInfo) : List DcInfo → List DcInfo
  | [] => []
  | first :: rest =>
    if first.dcId.value = dc.dcId.value then dc :: rest
    else first :: setDc dc rest

end DcAuthManager

open DcAuthManager in
/-- The manager, the queries in flight, and the last authorization that was exported for each. -/
structure DcAuthManager where
  dcs : List DcInfo := []
  mainDcId : DcId := {}
  needCheckAuthorizationIsOk : Bool := false
  needDestroyAuthKey : Bool := false
  nextId : Nat := 1
  inFlight : List AuthQuery := []
  exported : Int → Option (Int64 × Bytes) := fun _ => none
  isLoggedOut : Bool := false
  isDestroyed : Bool := false

namespace DcAuthManager

def destroyLoop (manager : DcAuthManager) : DcAuthManager :=
  if manager.needDestroyAuthKey ∧
      ∀ dc ∈ manager.dcs, dc.authKeyState = .empty then
    { manager with isDestroyed := true, needDestroyAuthKey := false }
  else
    manager

def loop (manager : DcAuthManager) : DcAuthManager :=
  let manager := manager.destroyLoop
  if ¬ manager.mainDcId.isExact then
    manager
  else
    match findDc manager.mainDcId.value manager.dcs with
    | none => manager
    | some mainDc =>
      if mainDc.authKeyState = .ok then
        let (dcs, queries) := dcLoops manager.nextId manager.dcs
        { manager with
          needCheckAuthorizationIsOk := false
          dcs := dcs
          nextId := manager.nextId + queries.length
          inFlight := manager.inFlight ++ queries }
      else
        { manager with
          isLoggedOut := manager.isLoggedOut || manager.needCheckAuthorizationIsOk }

/-- The function `get_dc`, which aborts if there is none. -/
def getDc (rawDcId : Int) (manager : DcAuthManager) : Except Fault DcInfo :=
  match findDc rawDcId manager.dcs with
  | some dc => .ok dc
  | none => .error .check

def addDc (dcId : DcId) (authKeyState : AuthKeyState)
    (manager : DcAuthManager) : Except Fault DcAuthManager := do
  check dcId.isExact
  let mainDcId := if manager.mainDcId.isExact then manager.mainDcId else dcId
  return loop
    { manager with
      mainDcId := mainDcId
      dcs := manager.dcs ++ [{ dcId := dcId, authKeyState := authKeyState }] }

def updateMainDc (newMainDcId : DcId) (manager : DcAuthManager) : DcAuthManager :=
  loop { manager with mainDcId := newMainDcId }

def updateAuthKeyState (linkToken : Int) (authKeyState : AuthKeyState)
    (manager : DcAuthManager) : Except Fault DcAuthManager := do
  let dc ← manager.getDc linkToken
  return loop
    { manager with
      dcs := setDc { dc with authKeyState := authKeyState } manager.dcs }

def readAnswer (answer : Answer) (dc : DcInfo) : Except Fault DcInfo :=
  match dc.state with
  | .toImport =>
    match answer with
    | .exported id bytes =>
      .ok { dc with exportId := id, exportBytes := bytes }
    | _ => .ok { dc with state := .toExport }
  | .beforeOk =>
    match answer with
    | .authorized => .ok { dc with state := .ok }
    | _ => .ok { dc with state := .toExport }
  | _ => .error .check

/-- The authorization that an answer brings. -/
def noteExported (dc : DcInfo) (answer : Answer) (exported : Int → Option (Int64 × Bytes)) :
    Int → Option (Int64 × Bytes) :=
  match dc.state, answer with
  | .toImport, .exported id bytes => Function.update exported dc.dcId.value (some (id, bytes))
  | _, _ => exported

def onResult (query : AuthQuery) (answer : Answer)
    (manager : DcAuthManager) : Except Fault DcAuthManager := do
  let dc ← manager.getDc query.linkToken
  check (dc.waitId = query.id)
  let read ← readAnswer answer { dc with waitId := noWaitId }
  return loop
    { manager with
      dcs := setDc read manager.dcs
      inFlight := manager.inFlight.erase query
      exported := noteExported dc answer manager.exported }

/-- What is sent to the manager. -/
inductive Event where
  | addDc (dcId : DcId) (authKeyState : AuthKeyState)
  | updateMainDc (dcId : DcId)
  | updateAuthKeyState (linkToken : Int) (authKeyState : AuthKeyState)
  | onResult (query : AuthQuery) (answer : Answer)
  | checkAuthorizationIsOk
  | destroy

def handle (manager : DcAuthManager) : Event → Except Fault DcAuthManager
  | .addDc dcId authKeyState => manager.addDc dcId authKeyState
  | .updateMainDc dcId => .ok (manager.updateMainDc dcId)
  | .updateAuthKeyState linkToken authKeyState => manager.updateAuthKeyState linkToken authKeyState
  | .onResult query answer => manager.onResult query answer
  | .checkAuthorizationIsOk =>
    .ok { manager with needCheckAuthorizationIsOk := true }
  | .destroy => .ok (loop { manager with needDestroyAuthKey := true })

/-- Data centers are added once, with their listeners, and answers come to queries in flight. -/
def Admissible (manager : DcAuthManager) : Event → Prop
  | .addDc dcId _ => dcId.isExact ∧ findDc dcId.value manager.dcs = none
  | .updateAuthKeyState linkToken _ => findDc linkToken manager.dcs ≠ none
  | .onResult query _ => query ∈ manager.inFlight
  | _ => True

def Step (before : DcAuthManager) (event : Event) (after : DcAuthManager) : Prop :=
  before.handle event = .ok after

/-- A manager that has found its main data center. -/
def new (mainDcId : DcId) : DcAuthManager :=
  { mainDcId := mainDcId }

def Reaches (mainDcId : DcId) (events : List Event) (reached : DcAuthManager) : Prop :=
  Transition.Run (Transition.Guarded Admissible Step) (new mainDcId) events reached

/-- The queries in flight for a data center. -/
def flying (rawDcId : Int) (manager : DcAuthManager) : List AuthQuery :=
  manager.inFlight.filter (fun query => query.linkToken = rawDcId)

/-! ## One data center -/

/-- The number of a data center, its link token. -/
def DcInfo.rawId (dc : DcInfo) : Int :=
  dc.dcId.value

/-- A data center waits for nothing, an export, the chance to import it, or the import. -/
inductive Waits (dc : DcInfo) (exported : Option (Int64 × Bytes)) : List AuthQuery → Prop where
  | idle : dc.state ≠ .toImport → dc.state ≠ .beforeOk → Waits dc exported []
  | exporting :
      dc.state = .toImport →
      dc.exportId = -1 →
      Waits dc exported [⟨dc.waitId, dc.rawId, DcId.main, .exportAuthorization dc.rawId⟩]
  | hasExported :
      dc.state = .toImport →
      exported = some (dc.exportId, dc.exportBytes) →
      Waits dc exported []
  | importing (id : Int64) (bytes : Bytes) :
      dc.state = .beforeOk →
      exported = some (id, bytes) →
      Waits dc exported [⟨dc.waitId, dc.rawId, dc.dcId, .importAuthorization id bytes⟩]

variable {dc : DcInfo} {exported : Option (Int64 × Bytes)} {queries : List AuthQuery}
  {query : AuthQuery} {dcs : List DcInfo} {manager : DcAuthManager}

theorem Waits.length_le_one (waits : Waits dc exported queries) : queries.length ≤ 1 := by
  cases waits <;> simp

theorem Waits.imports (waits : Waits dc exported queries) (isMember : query ∈ queries) {id : Int64}
    {bytes : Bytes} (isImport : query.request = .importAuthorization id bytes) :
    exported = some (id, bytes) := by
  cases waits <;> simp_all

theorem dcLoop_cases (id : Nat) (dc : DcInfo) : (dcLoop id dc = (dc, none) ∧
        (dc.authKeyState = .ok ∨ dc.state = .toImport ∧ dc.exportId = -1 ∨ dc.state = .beforeOk)) ∨
      (dc.state ≠ .toImport ∧ dc.state ≠ .beforeOk ∧ dcLoop id dc =
          ({ dc with waitId := id, exportId := -1, state := .toImport },
            some ⟨id, dc.rawId, DcId.main, .exportAuthorization dc.rawId⟩)) ∨
      (dc.state = .toImport ∧ dc.exportId ≠ -1 ∧ dcLoop id dc =
          ({ dc with waitId := id, exportBytes := [], state := .beforeOk },
            some ⟨id, dc.rawId, dc.dcId, .importAuthorization dc.exportId dc.exportBytes⟩)) := by
  unfold dcLoop
  split
  case isTrue isOk => exact Or.inl ⟨rfl, Or.inl isOk⟩
  case isFalse =>
    cases isState : dc.state with
    | waiting | toExport => simp [isState, DcInfo.rawId]
    | toImport =>
      by_cases isNone : dc.exportId = -1
      · simp [isState, isNone]
      · simp [isState, isNone, DcInfo.rawId]
    | beforeOk => simp [isState]
    | ok => simp [DcInfo.rawId]

theorem rawId_dcLoop (id : Nat) : (dcLoop id dc).1.rawId = dc.rawId := by
  rcases dcLoop_cases id dc with ⟨same, _⟩ | ⟨_, _, same⟩ | ⟨_, _, same⟩ <;> rw [same] <;> rfl

theorem authKeyState_dcLoop (id : Nat) : (dcLoop id dc).1.authKeyState = dc.authKeyState := by
  rcases dcLoop_cases id dc with ⟨same, _⟩ | ⟨_, _, same⟩ | ⟨_, _, same⟩ <;> rw [same]

theorem Waits.dcLoop (waits : Waits dc exported queries) (id : Nat) :
    Waits (DcAuthManager.dcLoop id dc).1 exported
      (queries ++ (DcAuthManager.dcLoop id dc).2.toList) := by
  rcases dcLoop_cases id dc with
    ⟨same, _⟩ | ⟨notImport, notBefore, same⟩ | ⟨isImport, notNone, same⟩ <;> rw [same]
  · simpa using waits
  · cases waits with
    | idle => exact .exporting rfl rfl
    | _ => contradiction
  · cases waits with
    | hasExported _ isExported => exact .importing _ _ rfl isExported
    | _ => simp_all

theorem Waits.length_dcLoop (waits : Waits dc exported queries) (notOk : dc.authKeyState ≠ .ok)
    (usable : ∀ bytes, exported ≠ some (-1, bytes)) (id : Nat) :
    (queries ++ (DcAuthManager.dcLoop id dc).2.toList).length = 1 := by
  rcases dcLoop_cases id dc with
    ⟨same, reason⟩ | ⟨notImport, notBefore, same⟩ | ⟨isImport, notNone, same⟩ <;> rw [same]
  all_goals cases waits <;> simp_all

theorem Waits.readAnswer {exported : Int → Option (Int64 × Bytes)}
    (waits : Waits dc (exported dc.rawId) [query]) (answer : Answer) : dc.waitId = query.id ∧
      ∃ read, DcAuthManager.readAnswer answer { dc with waitId := noWaitId } = .ok read ∧
          read.rawId = dc.rawId ∧
          Waits read (noteExported dc answer exported dc.rawId) [] := by
  obtain ⟨dcId, authKeyState, state, waitId, exportId, exportBytes⟩ := dc
  cases waits with
  | exporting isImport isNone =>
    cases isImport
    cases answer with
    | exported id bytes =>
      refine ⟨rfl, _, rfl, rfl, .hasExported rfl ?_⟩
      simp [noteExported, DcInfo.rawId]
    | _ => exact ⟨rfl, _, rfl, rfl, .idle nofun nofun⟩
  | importing id bytes isBefore isExported =>
    cases isBefore
    cases answer <;> exact ⟨rfl, _, rfl, rfl, .idle nofun nofun⟩

/-! ## All data centers -/

/-- Every data center waits for its own queries. -/
structure Sound (manager : DcAuthManager) : Prop where
  distinct : manager.dcs.Pairwise (fun first second => first.rawId ≠ second.rawId)
  known : ∀ query ∈ manager.inFlight, ∃ dc ∈ manager.dcs, dc.rawId = query.linkToken
  waits : ∀ dc ∈ manager.dcs, Waits dc (manager.exported dc.rawId) (manager.flying dc.rawId)

theorem dcLoops_spec (distinct : dcs.Pairwise (fun first second => first.rawId ≠ second.rawId))
    (nextId : Nat) : (dcLoops nextId dcs).1.map DcInfo.rawId = dcs.map DcInfo.rawId ∧
      (∀ query ∈ (dcLoops nextId dcs).2, ∃ dc ∈ dcs, dc.rawId = query.linkToken) ∧
      ∀ looped ∈ (dcLoops nextId dcs).1,
        ∃ dc ∈ dcs, ∃ id, looped = (dcLoop id dc).1 ∧
            (dcLoops nextId dcs).2.filter (fun query => query.linkToken = dc.rawId) =
              (dcLoop id dc).2.toList := by
  induction dcs generalizing nextId with
  | nil => exact ⟨rfl, nofun, nofun⟩
  | cons dc dcs ih =>
    rw [pairwise_cons] at distinct
    obtain ⟨sameIds, known, turns⟩ :=
      ih distinct.2 (nextId + (dcLoop nextId dc).2.toList.length)
    have own (query : AuthQuery) (isSent : query ∈ (dcLoop nextId dc).2.toList) :
        query.linkToken = dc.rawId := by
      rcases dcLoop_cases nextId dc with ⟨same, _⟩ | ⟨_, _, same⟩ | ⟨_, _, same⟩ <;> simp_all
    simp only [dcLoops]
    refine ⟨?_, ?_, ?_⟩
    · rw [map_cons, map_cons, rawId_dcLoop, sameIds]
    · grind
    · intro looped isLooped
      rcases mem_cons.mp isLooped with rfl | isOther
      · refine ⟨dc, mem_cons_self, nextId, rfl, ?_⟩
        rw [filter_append, filter_eq_self.mpr, filter_eq_nil_iff.mpr, append_nil] <;> grind
      · obtain ⟨other, isMember, id, isTurn, sent⟩ := turns looped isOther
        refine ⟨other, mem_cons_of_mem _ isMember, id, isTurn, ?_⟩
        rw [filter_append, sent, filter_eq_nil_iff.mpr, nil_append]
        grind

/-- Every data center without a good key waits for one query if the main one has a good key. -/
def Served (manager : DcAuthManager) : Prop :=
  manager.mainDcId.isExact → ∀ mainDc, findDc manager.mainDcId.value manager.dcs = some mainDc →
      mainDc.authKeyState = .ok →
        ∀ dc ∈ manager.dcs, dc.authKeyState ≠ .ok → (manager.flying dc.rawId).length = 1

/-- No export has the identifier that stands for none. -/
def Usable (manager : DcAuthManager) : Prop :=
  ∀ rawDcId bytes, manager.exported rawDcId ≠ some (-1, bytes)

/-- The part of a manager that the queries depend on. -/
structure Same (before after : DcAuthManager) : Prop where
  dcs : after.dcs = before.dcs
  mainDcId : after.mainDcId = before.mainDcId
  inFlight : after.inFlight = before.inFlight
  exported : after.exported = before.exported

theorem Sound.same {before after : DcAuthManager} (sound : before.Sound)
    (same : Same before after) : after.Sound := by
  obtain ⟨distinct, known, waits⟩ := sound
  constructor <;> simp_all [flying, same.dcs, same.inFlight, same.exported]

theorem loop_cases : Same manager manager.loop ∧
        (manager.mainDcId.isExact → ∀ mainDc,
            findDc manager.mainDcId.value manager.dcs = some mainDc → mainDc.authKeyState ≠ .ok) ∨
      manager.loop.dcs = (dcLoops manager.nextId manager.dcs).1 ∧
        manager.loop.mainDcId = manager.mainDcId ∧
        manager.loop.inFlight = manager.inFlight ++ (dcLoops manager.nextId manager.dcs).2 ∧
        manager.loop.exported = manager.exported := by
  have same : Same manager manager.destroyLoop := by
    unfold destroyLoop
    split <;> exact ⟨rfl, rfl, rfl, rfl⟩
  have nextId : manager.destroyLoop.nextId = manager.nextId := by
    unfold destroyLoop
    split <;> rfl
  unfold loop
  dsimp only
  split
  case isTrue notExact => exact Or.inl ⟨same, by simp_all [same.mainDcId]⟩
  case isFalse =>
    split
    case h_1 notFound => exact Or.inl ⟨same, by simp_all [same.mainDcId, same.dcs]⟩
    case h_2 mainDc found =>
      split
      case isTrue =>
        exact Or.inr (by simp [nextId, same.dcs, same.mainDcId, same.inFlight, same.exported])
      case isFalse notOk =>
        refine Or.inl ⟨⟨same.dcs, same.mainDcId, same.inFlight, same.exported⟩, ?_⟩
        simp_all [same.mainDcId, same.dcs]

theorem Sound.loop (sound : manager.Sound) : manager.loop.Sound := by
  rcases loop_cases with ⟨same, _⟩ | ⟨dcs, _, inFlight, exported⟩
  · exact sound.same same
  · obtain ⟨sameIds, known, turns⟩ := dcLoops_spec sound.distinct manager.nextId
    have ids (rawDcId : Int) :
        (∃ dc ∈ manager.loop.dcs, dc.rawId = rawDcId) ↔ ∃ dc ∈ manager.dcs, dc.rawId = rawDcId := by
      rw [← mem_map, ← mem_map, dcs, sameIds]
    constructor
    · have distinct := sound.distinct
      rw [← pairwise_map, ← sameIds, pairwise_map] at distinct
      rw [dcs]
      exact distinct
    · intro query isFlying
      rw [inFlight] at isFlying
      rw [ids]
      rcases mem_append.mp isFlying with isOld | isSent
      · exact sound.known query isOld
      · exact known query isSent
    · intro looped isLooped
      rw [dcs] at isLooped
      obtain ⟨dc, isMember, id, rfl, sent⟩ := turns looped isLooped
      unfold flying
      rw [exported, inFlight, rawId_dcLoop, filter_append, sent]
      exact (sound.waits dc isMember).dcLoop id

theorem Sound.served_loop (sound : manager.Sound) (usable : manager.Usable) :
    manager.loop.Served := by
  rcases loop_cases with
    ⟨same, notOk⟩ | ⟨dcs, mainDcId, inFlight, exported⟩
  · intro isExact mainDc found isOk
    rw [same.mainDcId] at isExact
    rw [same.mainDcId, same.dcs] at found
    exact absurd isOk (notOk isExact mainDc found)
  · obtain ⟨sameIds, known, turns⟩ := dcLoops_spec sound.distinct manager.nextId
    intro _ mainDc _ _ looped isLooped notOk
    rw [dcs] at isLooped
    obtain ⟨dc, isMember, id, rfl, sent⟩ := turns looped isLooped
    rw [authKeyState_dcLoop] at notOk
    unfold flying
    rw [inFlight, rawId_dcLoop, filter_append, sent]
    exact (sound.waits dc isMember).length_dcLoop notOk (usable dc.rawId) id

/-! ## Runs -/

theorem findDc_eq_none_iff {rawDcId : Int} {dcs : List DcInfo} :
    findDc rawDcId dcs = none ↔ ∀ dc ∈ dcs, dc.rawId ≠ rawDcId := by
  simp [findDc, find?_eq_none, DcInfo.rawId]

theorem mem_of_findDc {rawDcId : Int} (found : findDc rawDcId dcs = some dc) :
    dc ∈ dcs ∧ dc.rawId = rawDcId := by
  have isId := find?_some found
  rw [decide_eq_true_eq] at isId
  exact ⟨mem_of_find?_eq_some found, isId⟩

theorem setDc_spec (distinct : dcs.Pairwise (fun first second => first.rawId ≠ second.rawId)) :
    (setDc dc dcs).map DcInfo.rawId = dcs.map DcInfo.rawId ∧
      ∀ other ∈ setDc dc dcs, other = dc ∨ other ∈ dcs ∧ other.rawId ≠ dc.rawId := by
  induction dcs with
  | nil => exact ⟨rfl, nofun⟩
  | cons first rest ih =>
    rw [pairwise_cons] at distinct
    obtain ⟨sameIds, members⟩ := ih distinct.2
    rw [setDc]
    split
    case isTrue isFirst =>
      refine ⟨?_, ?_⟩
      · rw [map_cons, map_cons, DcInfo.rawId, ← isFirst]
        rfl
      · grind [DcInfo.rawId]
    case isFalse notFirst =>
      refine ⟨?_, ?_⟩
      · rw [map_cons, map_cons, sameIds]
      · grind [DcInfo.rawId]

theorem Sound.setDc {dc : DcInfo} {inFlight : List AuthQuery}
    {exported : Int → Option (Int64 × Bytes)} (sound : manager.Sound)
    (subset : ∀ query ∈ inFlight, query ∈ manager.inFlight)
    (own : Waits dc (exported dc.rawId) (inFlight.filter (fun query => query.linkToken = dc.rawId)))
    (others : ∀ rawDcId, rawDcId ≠ dc.rawId → exported rawDcId = manager.exported rawDcId ∧
          inFlight.filter (fun query => query.linkToken = rawDcId) = manager.flying rawDcId) : Sound
      { manager with
        dcs := DcAuthManager.setDc dc manager.dcs
        inFlight := inFlight
        exported := exported } := by
  obtain ⟨sameIds, members⟩ := setDc_spec sound.distinct
  constructor
  · have distinct := sound.distinct
    rw [← pairwise_map, ← sameIds, pairwise_map] at distinct
    exact distinct
  · intro query isFlying
    have known := sound.known query (subset query isFlying)
    rw [← mem_map, ← sameIds, mem_map] at known
    exact known
  · intro other isMember
    rcases members other isMember with rfl | ⟨isOther, differs⟩
    · exact own
    · obtain ⟨sameExport, sameQueries⟩ := others other.rawId differs
      unfold flying
      dsimp only
      rw [sameExport, sameQueries]
      exact sound.waits other isOther

theorem Sound.addDc {dcId : DcId} (sound : manager.Sound)
    (isNew : findDc dcId.value manager.dcs = none) (mainDcId : DcId) (authKeyState : AuthKeyState) :
    Sound
      { manager with
        mainDcId := mainDcId
        dcs := manager.dcs ++ [{ dcId := dcId, authKeyState := authKeyState }] } := by
  rw [findDc_eq_none_iff] at isNew
  have known := sound.known
  constructor
  · refine pairwise_append.mpr ⟨sound.distinct, pairwise_singleton _ _, ?_⟩
    simpa [DcInfo.rawId] using isNew
  · grind
  · intro dc isMember
    rcases mem_append.mp isMember with isOld | isNewDc
    · exact sound.waits dc isOld
    · cases mem_singleton.mp isNewDc
      have nothing : manager.inFlight.filter (fun query => query.linkToken = dcId.value) = [] := by
        rw [filter_eq_nil_iff]
        grind
      unfold flying DcInfo.rawId
      rw [nothing]
      exact .idle nofun nofun

theorem Waits.setAuthKeyState (waits : Waits dc exported queries) (authKeyState : AuthKeyState) :
    Waits { dc with authKeyState := authKeyState } exported queries := by
  cases waits with
  | idle notImport notBefore => exact .idle notImport notBefore
  | exporting isImport isNone => exact .exporting isImport isNone
  | hasExported isImport isExported => exact .hasExported isImport isExported
  | importing id bytes isBefore isExported => exact .importing id bytes isBefore isExported

theorem Sound.flying_of_mem (sound : manager.Sound) (isFlying : query ∈ manager.inFlight) : ∃ dc,
      findDc query.linkToken manager.dcs = some dc ∧ dc ∈ manager.dcs ∧ dc.rawId = query.linkToken ∧
        manager.flying query.linkToken = [query] := by
  cases found : findDc query.linkToken manager.dcs with
  | none =>
    obtain ⟨dc, isMember, same⟩ := sound.known query isFlying
    exact absurd same (findDc_eq_none_iff.mp found dc isMember)
  | some dc =>
    obtain ⟨isMember, isId⟩ := mem_of_findDc found
    refine ⟨dc, rfl, isMember, isId, ?_⟩
    have isOwn : query ∈ manager.flying query.linkToken :=
      mem_filter.mpr ⟨isFlying, decide_eq_true rfl⟩
    have atMost := (sound.waits dc isMember).length_le_one
    rw [isId] at atMost
    obtain ⟨only, isOnly⟩ := length_eq_one_iff.mp (Nat.le_antisymm atMost (length_pos_of_mem isOwn))
    rw [isOnly] at isOwn ⊢
    rw [mem_singleton.mp isOwn]

/-- The answer to an export has the identifier that stands for none. -/
def Event.isUnusable : Event → Bool
  | .onResult _ (.exported id _) => decide (id = -1)
  | _ => false

theorem noteExported_cases (answer : Answer) (exported : Int → Option (Int64 × Bytes)) :
    noteExported dc answer exported = exported ∨
      ∃ id bytes, answer = .exported id bytes ∧ noteExported dc answer exported =
            Function.update exported dc.rawId (some (id, bytes)) := by
  unfold noteExported
  split
  case h_1 id bytes _ => exact Or.inr ⟨id, bytes, rfl, rfl⟩
  case h_2 => exact Or.inl rfl

theorem usable_noteExported {exported : Int → Option (Int64 × Bytes)} {answer : Answer}
    (usable : ∀ rawDcId bytes, exported rawDcId ≠ some (-1, bytes))
    (isUsable : (Event.onResult query answer).isUnusable = false) (rawDcId : Int) (bytes : Bytes) :
    noteExported dc answer exported rawDcId ≠ some (-1, bytes) := by
  rcases noteExported_cases answer exported with
    same | ⟨id, exportedBytes, rfl, same⟩
  · rw [same]
    exact usable rawDcId bytes
  · rw [Event.isUnusable, decide_eq_false_iff_not] at isUsable
    rw [same, Function.update_apply]
    split
    · intro isNone
      cases isNone
      exact isUsable rfl
    · exact usable rawDcId bytes

theorem onResult_spec (sound : manager.Sound) (isFlying : query ∈ manager.inFlight)
    (answer : Answer) : ∃ middle : DcAuthManager, manager.onResult query answer = .ok middle.loop ∧
        middle.Sound ∧
        ((Event.onResult query answer).isUnusable = false → manager.Usable → middle.Usable) := by
  obtain ⟨dc, found, isMember, isId, only⟩ := sound.flying_of_mem isFlying
  have waits := sound.waits dc isMember
  rw [← isId] at only
  rw [only] at waits
  obtain ⟨isWaiting, read, isRead, sameId, idle⟩ := waits.readAnswer answer
  refine ⟨{ manager with
        dcs := setDc read manager.dcs
        inFlight := manager.inFlight.erase query
        exported := noteExported dc answer manager.exported }, ?_, ?_, ?_⟩
  · rw [onResult, getDc, found]
    simp only [ok_bind, check_eq_ok isWaiting, isRead]
    rfl
  · refine @Sound.setDc manager read (manager.inFlight.erase query)
        (noteExported dc answer manager.exported) sound
        (fun other => mem_of_mem_erase) ?_ ?_
    · rw [sameId, ← erase_filter]
      have gone : (manager.flying dc.rawId).erase query = [] := by
        rw [only]
        exact erase_cons_head query []
      unfold flying at gone
      rw [gone]
      exact idle
    · intro rawDcId differs
      rw [sameId] at differs
      constructor
      · rcases noteExported_cases answer manager.exported with
          same | ⟨id, bytes, _, same⟩
        · rw [same]
        · rw [same, Function.update_of_ne differs]
      · rw [← erase_filter, erase_of_not_mem]
        · rfl
        · intro isOther
          have isOther := of_decide_eq_true (mem_filter.mp isOther).2
          exact differs (isOther.symm.trans isId.symm)
  · intro isUsable usable
    exact usable_noteExported usable isUsable

theorem handle_spec {event : Event} (sound : manager.Sound)
    (admissible : manager.Admissible event) : ∃ middle : DcAuthManager, middle.Sound ∧
        (event.isUnusable = false → manager.Usable → middle.Usable) ∧
        (manager.handle event = .ok middle.loop ∨
          manager.handle event = .ok middle ∧ Same manager middle) := by
  cases event with
  | addDc dcId authKeyState =>
    refine ⟨_, sound.addDc admissible.2
        (if manager.mainDcId.isExact then manager.mainDcId else dcId)
        authKeyState, fun _ => id, Or.inl ?_⟩
    rw [handle, DcAuthManager.addDc, check_eq_ok admissible.1]
    rfl
  | updateMainDc dcId =>
    refine ⟨{ manager with mainDcId := dcId }, ?_, fun _ => id, Or.inl rfl⟩
    exact ⟨sound.distinct, sound.known, sound.waits⟩
  | updateAuthKeyState linkToken authKeyState =>
    cases found : findDc linkToken manager.dcs with
    | none => exact absurd found admissible
    | some dc =>
      obtain ⟨isMember, isId⟩ := mem_of_findDc found
      refine ⟨_, @Sound.setDc manager { dc with authKeyState := authKeyState } manager.inFlight
          manager.exported sound (fun _ => id)
          ((sound.waits dc isMember).setAuthKeyState authKeyState)
          (fun _ _ => ⟨rfl, rfl⟩), fun _ => id, Or.inl ?_⟩
      rw [handle, DcAuthManager.updateAuthKeyState, getDc, found]
      rfl
  | onResult query answer =>
    obtain ⟨middle, returned, isSound, usable⟩ := onResult_spec sound admissible answer
    exact ⟨middle, isSound, usable, Or.inl returned⟩
  | checkAuthorizationIsOk =>
    have same : Same manager { manager with needCheckAuthorizationIsOk := true } :=
      ⟨rfl, rfl, rfl, rfl⟩
    exact ⟨_, sound.same same, fun _ => id, Or.inr ⟨rfl, same⟩⟩
  | destroy =>
    have same : Same manager { manager with needDestroyAuthKey := true } := ⟨rfl, rfl, rfl, rfl⟩
    exact ⟨_, sound.same same, fun _ => id, Or.inl rfl⟩

variable {events : List Event} {reached : DcAuthManager}

theorem sound_of_reaches {mainDcId : DcId} (reaches : Reaches mainDcId events reached) :
    reached.Sound ∧
      ((∀ event ∈ events, event.isUnusable = false) → reached.Usable ∧ reached.Served) := by
  induction reaches with
  | start =>
    refine ⟨⟨List.Pairwise.nil, nofun, nofun⟩, fun _ => ⟨nofun, ?_⟩⟩
    intro _ mainDc found
    cases found
  | @extend events before after event _ last ih =>
    obtain ⟨sound, good⟩ := ih
    obtain ⟨middle, isSound, usable, returned⟩ := handle_spec sound last.1
    have isAfter := last.2
    unfold Step at isAfter
    have goodBefore (all : ∀ other ∈ events ++ [event], other.isUnusable = false) :
        before.Usable ∧ before.Served ∧ middle.Usable := by
      obtain ⟨wasUsable, wasServed⟩ :=
        good (fun other isMember => all other (mem_append_left _ isMember))
      exact ⟨wasUsable, wasServed,
        usable (all event (mem_append_right _ (mem_singleton_self _))) wasUsable⟩
    rcases returned with looped | ⟨noLoop, same⟩
    · rw [looped] at isAfter
      cases isAfter
      refine ⟨isSound.loop, ?_⟩
      intro all
      obtain ⟨_, _, isUsable⟩ := goodBefore all
      refine ⟨?_, isSound.served_loop isUsable⟩
      unfold Usable
      rcases loop_cases with ⟨same, _⟩ | ⟨_, _, _, exported⟩
      · rw [same.exported]
        exact isUsable
      · rw [exported]
        exact isUsable
    · rw [noLoop] at isAfter
      cases isAfter
      refine ⟨isSound, ?_⟩
      intro all
      obtain ⟨_, wasServed, isUsable⟩ := goodBefore all
      refine ⟨isUsable, ?_⟩
      unfold Served flying
      rw [same.mainDcId, same.dcs, same.inFlight]
      exact wasServed

/--
In every run, nothing aborts, at most one query is in flight for each data
center, and what was exported last is imported. If no answer exports the
identifier `-1`, every run of the loop with a good main key leaves one query in
flight for each data center that has none.
-/
theorem authorizes_data_centers
    (mainDcId : DcId)
    (events : List Event)
    (reached : DcAuthManager)
    (reaches : Reaches mainDcId events reached) :
    (∀ event, reached.Admissible event → Returns (reached.handle event)) ∧
      (∀ rawDcId, (reached.flying rawDcId).length ≤ 1) ∧
      (∀ query ∈ reached.inFlight, ∀ id bytes, query.request = .importAuthorization id bytes →
          reached.exported query.linkToken = some (id, bytes)) ∧
      ((∀ event ∈ events, event.isUnusable = false) → reached.Served) := by
  obtain ⟨sound, good⟩ := sound_of_reaches reaches
  refine ⟨?_, ?_, ?_, fun all => (good all).2⟩
  · intro event admissible
    obtain ⟨middle, _, _, looped | ⟨noLoop, _⟩⟩ := handle_spec sound admissible
    · exact ⟨_, looped⟩
    · exact ⟨_, noLoop⟩
  · intro rawDcId
    cases found : findDc rawDcId reached.dcs with
    | some dc =>
      obtain ⟨isMember, rfl⟩ := mem_of_findDc found
      exact (sound.waits dc isMember).length_le_one
    | none =>
      have nothing : reached.flying rawDcId = [] := by
        unfold flying
        rw [filter_eq_nil_iff]
        intro query isFlying isOwn
        obtain ⟨dc, isMember, same⟩ := sound.known query isFlying
        exact findDc_eq_none_iff.mp found dc isMember (same.trans (of_decide_eq_true isOwn))
      simp [nothing]
  · intro query isFlying id bytes isImport
    obtain ⟨dc, _, isMember, isId, only⟩ := sound.flying_of_mem isFlying
    have waits := sound.waits dc isMember
    rw [isId, only] at waits
    exact waits.imports (mem_singleton_self _) isImport

instance (manager : DcAuthManager) (event : Event) : Decidable (manager.Admissible event) :=
  match event with
  | .addDc dcId _ =>
    inferInstanceAs (Decidable (dcId.isExact ∧ findDc dcId.value manager.dcs = none))
  | .updateMainDc _ => inferInstanceAs (Decidable True)
  | .updateAuthKeyState linkToken _ =>
    inferInstanceAs (Decidable (findDc linkToken manager.dcs ≠ none))
  | .onResult query _ => inferInstanceAs (Decidable (query ∈ manager.inFlight))
  | .checkAuthorizationIsOk => inferInstanceAs (Decidable True)
  | .destroy => inferInstanceAs (Decidable True)

/-- An event is handled if it can happen. -/
def handleAdmissible (manager : DcAuthManager) (event : Event) : Except Fault DcAuthManager := do
  check (manager.Admissible event)
  manager.handle event

theorem reaches_of_foldlM {mainDcId : DcId}
    (returned : events.foldlM handleAdmissible (new mainDcId) = .ok reached) :
    Reaches mainDcId events reached := by
  refine Transition.Run.start.foldlM ?_ returned
  intro before event after handled
  obtain ⟨_, admissible, handled⟩ := bind_eq_ok handled
  exact ⟨holds_of_check admissible, handled⟩

/-- The main data center has a good key, and the export for another one is answered. -/
def exportEvents (id : Int64) : List Event :=
  [.addDc ⟨1, false⟩ .ok, .addDc ⟨2, false⟩ .noAuth,
    .onResult ⟨1, 2, DcId.main, .exportAuthorization 2⟩ (.exported id [1])]

/-- What was exported with the identifier seven is imported. -/
theorem seven_imported : ∃ reached, Reaches ⟨1, false⟩ (exportEvents 7) reached ∧
        reached.inFlight = [⟨2, 2, ⟨2, false⟩, .importAuthorization 7 [1]⟩] ∧
        (reached.flying 2).length = 1 ∧ reached.exported 2 = some (7, [1]) := by
  have facts : ((exportEvents 7).foldlM handleAdmissible
        (new ⟨1, false⟩)).toOption.any (fun reached =>
          decide
            (reached.inFlight = [⟨2, 2, ⟨2, false⟩, .importAuthorization 7 [1]⟩] ∧
              findDc 1 reached.dcs = some ⟨⟨1, false⟩, .ok, .waiting, 0, 0, []⟩ ∧
              reached.mainDcId = ⟨1, false⟩ ∧
              reached.dcs.any (fun dc =>
                decide (dc.authKeyState ≠ .ok ∧ dc.rawId = 2)))) = true := by
    decide +kernel
  obtain ⟨reached, returned, holds⟩ := exists_of_any facts
  obtain ⟨inFlight, found, isMain, isOther⟩ := of_decide_eq_true holds
  obtain ⟨dc, isMember, isOther⟩ := any_eq_true.mp isOther
  obtain ⟨notOk, isId⟩ := of_decide_eq_true isOther
  have reaches := reaches_of_foldlM returned
  obtain ⟨_, _, imports, served⟩ :=
    authorizes_data_centers ⟨1, false⟩ (exportEvents 7) reached reaches
  have usable : ∀ event ∈ exportEvents 7, event.isUnusable = false := by decide
  have exact : reached.mainDcId.isExact := by
    rw [isMain]
    decide
  have found :
      findDc reached.mainDcId.value reached.dcs = some ⟨⟨1, false⟩, .ok, .waiting, 0, 0, []⟩ := by
    rw [isMain]
    exact found
  have one := served usable exact _ found rfl dc isMember notOk
  rw [isId] at one
  refine ⟨reached, reaches, inFlight, one, ?_⟩
  have isFlying :
      (⟨2, 2, ⟨2, false⟩, .importAuthorization 7 [1]⟩ : AuthQuery) ∈ reached.inFlight := by
    rw [inFlight]
    exact mem_singleton_self _
  exact imports _ isFlying 7 [1] rfl

/-- After an export with the identifier `-1`, nothing is in flight for the data center. -/
theorem minus_one_stuck : ∃ reached,
      Reaches ⟨1, false⟩ (exportEvents (-1)) reached ∧ reached.inFlight = [] ∧ ¬reached.Served := by
  have facts : ((exportEvents (-1)).foldlM handleAdmissible
        (new ⟨1, false⟩)).toOption.any (fun reached =>
          decide
            (reached.inFlight = [] ∧
              findDc 1 reached.dcs = some ⟨⟨1, false⟩, .ok, .waiting, 0, 0, []⟩ ∧
              reached.mainDcId = ⟨1, false⟩ ∧
              reached.dcs.any (fun dc => decide (dc.authKeyState ≠ .ok)))) = true := by
    decide +kernel
  obtain ⟨reached, returned, holds⟩ := exists_of_any facts
  obtain ⟨nothing, found, isMain, isOther⟩ := of_decide_eq_true holds
  obtain ⟨dc, isMember, notOk⟩ := any_eq_true.mp isOther
  refine ⟨reached, reaches_of_foldlM returned, nothing, ?_⟩
  intro served
  unfold Served at served
  rw [isMain] at served
  have one := served (by decide) _ found rfl dc isMember (of_decide_eq_true notOk)
  rw [flying, nothing] at one
  cases one

end DcAuthManager

end Autoproto
