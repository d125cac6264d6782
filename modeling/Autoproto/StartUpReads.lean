import Autoproto.SessionResumption
import Autoproto.StoredFormats

namespace Autoproto

open List Text LengthPrefixed InMemoryKeyValue AuthDataShared Function

/-!
# What is read from the store when a client starts

Several components read the store of a new client.  Some of them take a value
that has not the right format for a missing one; the others abort.
-/

variable {traits : TableTraits Bytes}

namespace AuthDataShared

def getFutureSaltsBinlogKey (dcId : Int) : Bytes :=
  ascii "salt" ++ decimal dcId

/-- The stored salts of a data center. -/
def getFutureSalts (dcId : Int)
    (store : InMemoryKeyValue traits) : Except Fault (List ServerSalt) := do
  let futureSalts ← store.get (getFutureSaltsBinlogKey dcId)
  if futureSalts = [] then
    return []
  else
    ensure (Tl.unserialize (Tl.fetchVector ServerSalt.parse) futureSalts)

/-- The constructor, which reads the key and the salts for a line in the log. -/
def create (clock : Clock) (dcId : Int) (store : InMemoryKeyValue traits) :
    Except Fault (AuthKey × List ServerSalt) := do
  let authKey ← getAuthKeyForDc clock dcId store
  let salts ← getFutureSalts dcId store
  return (authKey, salts)

end AuthDataShared

/-- The constructor of `DcAuthManager`, which takes a wrong number for none. -/
def DcAuthManager.create (store : InMemoryKeyValue traits) : Except Fault DcId := do
  let stored ← store.get mainDcIdKey
  if stored ≠ [] ∧ DcId.isValid (toInteger stored) then do
    let mainDcId ← DcId.internal (toInteger stored)
    return ⟨mainDcId, false⟩
  else
    return {}

namespace SessionProxy

def tmpAuthKeyKey (name : Bytes) : Bytes :=
  ascii "tmp_auth" ++ name

/-- The function `start_up`. A temporary key is read only if it is to be kept. -/
def startUp (clock : Clock) (isPast : UInt64 → Bool) (persistTmpAuthKey : Bool) (rawDcId : RawDcId)
    (name : Bytes) (store : InMemoryKeyValue traits) :
    Except Fault (InMemoryKeyValue traits × AuthKeyState × AuthKey) := do
  let authKey ← getAuthKeyForDc clock rawDcId.val store
  let authKeyState := authKey.getAuthKeyState
  let savedAuthKey ← store.get (tmpAuthKeyKey name)
  if savedAuthKey = [] then
    return (store, authKeyState, {})
  else if persistTmpAuthKey then do
    let tmpAuthKey ← ensure (AuthKey.unserialize clock savedAuthKey)
    return (store, authKeyState,
      if isPast tmpAuthKey.expiresAt then {} else tmpAuthKey)
  else do
    let store ← (Operation.erase (tmpAuthKeyKey name)).apply store
    return (store, authKeyState, {})

end SessionProxy

namespace ConfigManager

def dcOptionsUpdateKey : Bytes :=
  ascii "dc_options_update"

/-- The stored addresses that the server has not confirmed. -/
def loadDcOptionsUpdate (store : InMemoryKeyValue traits) : Except Fault DcOptions := do
  let logEventDcOptions ← store.get dcOptionsUpdateKey
  if logEventDcOptions = [] then
    return []
  else do
    let parsed ← logEventParse (fun bytes => .ok (DcOptions.parse bytes)) logEventDcOptions
    ensure parsed

/-- The function `start_up`, with the addresses and the time of expiration. -/
def startUp (store : InMemoryKeyValue traits) : Except Fault (DcOptions × Int) := do
  let dcOptionsUpdate ← loadDcOptionsUpdate store
  let expire ← store.get (ascii "config_expire")
  return (dcOptionsUpdate, toInteger expire)

end ConfigManager

/-- An order in which the elements of an `unordered_map` are visited. -/
abbrev IterationOrder :=
  { arrange : List (Bytes × Bytes) → List (Bytes × Bytes) //
    ∀ entries, (arrange entries).Perm entries }

structure ConnectionCreator (traits : TableTraits Bytes) where
  binlogPmc : InMemoryKeyValue traits
  maxProxyId : Int := 0
  activeProxyId : Int := 0
  proxies : List (Int × Proxy) := []

namespace ConnectionCreator

def dcOptionsKey : Bytes :=
  ascii "dc_options"

def proxyMaxIdKey : Bytes :=
  ascii "proxy_max_id"

def proxyActiveIdKey : Bytes :=
  ascii "proxy_active_id"

/-- The function `to_integer_safe`, which reads only what is written back. -/
def toIntegerSafe (text : Bytes) : Option Int :=
  if decimal (toInteger text) = text then
    some (toInteger text)
  else
    none

def getProxyDatabaseKey (proxyId : Int) : Except Fault Bytes := do
  check (0 < proxyId)
  return if proxyId = 1 then ascii "proxy" else ascii "proxy" ++ decimal proxyId

def getProxyUsedDatabaseKey (proxyId : Int) : Except Fault Bytes := do
  check (0 < proxyId)
  return ascii "proxy_used" ++ decimal proxyId

/-- A write to the store. -/
def withBinlog (operation : Operation) (creator : ConnectionCreator traits) :
    Except Fault (ConnectionCreator traits) := do
  let binlogPmc ← operation.apply creator.binlogPmc
  return { creator with binlogPmc := binlogPmc }

/-- Another proxy is in use from now on, or none. -/
def setActiveProxyId (proxyId : Int) (fromBinlog : Bool) (creator : ConnectionCreator traits) :
    Except Fault (ConnectionCreator traits) :=
  let creator := { creator with activeProxyId := proxyId }
  if fromBinlog then
    .ok creator
  else if proxyId = 0 then
    creator.withBinlog (.erase proxyActiveIdKey)
  else
    creator.withBinlog (.set proxyActiveIdKey (decimal proxyId))

/-- When a proxy was used last, as a number. -/
def readLastUsed (key value : Bytes) (creator : ConnectionCreator traits) :
    Except Fault (ConnectionCreator traits) := do
  let proxyId ← ensure (toIntegerSafe (key.drop 5))
  let _lastUsed ← ensure (toIntegerSafe value)
  check (0 < proxyId)
  return creator

/-- A proxy that is none is forgotten. -/
def forgetEmptyProxy (proxyId : Int) (creator : ConnectionCreator traits) :
    Except Fault (ConnectionCreator traits) := do
  let databaseKey ← getProxyDatabaseKey proxyId
  let creator ← creator.withBinlog (.erase databaseKey)
  let usedKey ← getProxyUsedDatabaseKey proxyId
  let creator ← creator.withBinlog (.erase usedKey)
  if creator.activeProxyId = proxyId then
    creator.setActiveProxyId 0 false
  else
    return creator

/-- The number of a proxy; an empty key is that of the first one. -/
def parseProxyId (key : Bytes) : Except Fault Int :=
  if key = [] then .ok 1 else ensure (toIntegerSafe key)

def readProxy (key value : Bytes) (creator : ConnectionCreator traits) :
    Except Fault (ConnectionCreator traits) := do
  check (¬ (ascii "_max_id").isSuffixOf key)
  let proxyId ← parseProxyId key
  check (0 < proxyId)
  check (proxyId ∉ creator.proxies.map Prod.fst)
  let parsed ← logEventParse Proxy.parse value
  let proxy ← ensure parsed
  if proxy.type = .none then
    creator.forgetEmptyProxy proxyId
  else
    return { creator with proxies := (proxyId, proxy) :: creator.proxies }

/-- One of the stored pairs is read. -/
def readProxyInfo (creator : ConnectionCreator traits) (info : Bytes × Bytes) :
    Except Fault (ConnectionCreator traits) :=
  if (ascii "_used").isPrefixOf info.1 then
    creator.readLastUsed info.1 info.2
  else
    creator.readProxy info.1 info.2

def useLegacyProxy (creator : ConnectionCreator traits) : Except Fault (ConnectionCreator traits) :=
  match (creator.proxies.map Prod.fst).min? with
  | none => .ok creator
  | some first => do
      check (first = 1)
      creator.setActiveProxyId 1 false

/-- A store from before there were several proxies is brought up to date. -/
def updateMaxProxyId (creator : ConnectionCreator traits) :
    Except Fault (ConnectionCreator traits) :=
  if creator.maxProxyId = 0 then do
    let creator ← useLegacyProxy { creator with maxProxyId := 2 }
    creator.withBinlog (.set proxyMaxIdKey (ascii "2"))
  else if creator.maxProxyId < 2 then
    .ok { creator with maxProxyId := 2 }
  else
    .ok creator

/-- The two numbers that stand beside the proxies. -/
def readProxyIds (proxyInfo : List (Bytes × Bytes)) (creator : ConnectionCreator traits) :
    Except Fault (ConnectionCreator traits) :=
  let creator :=
    match proxyInfo.lookup (ascii "_max_id") with
    | some value => { creator with maxProxyId := toInteger value }
    | none => creator
  match proxyInfo.lookup (ascii "_active_id") with
  | some value => creator.setActiveProxyId (toInteger value) true
  | none => .ok creator

/--
The function `init_proxies`, without the notices at its end. `prefix_get`
returns whole keys, so none of them is one of the two that are looked up.
-/
def initProxies (random : UInt32) (order : IterationOrder) (creator : ConnectionCreator traits) :
    Except Fault (ConnectionCreator traits) := do
  let (binlogPmc, proxyInfo) ← creator.binlogPmc.prefixGet random (ascii "proxy")
  let creator ← readProxyIds proxyInfo { creator with binlogPmc := binlogPmc }
  let proxyInfo :=
    proxyInfo.filter (fun info => info.1 ≠ ascii "_max_id" ∧ info.1 ≠ ascii "_active_id")
  let creator ← (order.val proxyInfo).foldlM readProxyInfo creator
  creator.updateMaxProxyId

/-- The stored addresses are replaced if they cannot be read. -/
def readDcOptions (creator : ConnectionCreator traits) :
    Except Fault (ConnectionCreator traits) := do
  let serializedDcOptions ← creator.binlogPmc.get dcOptionsKey
  match Tl.unserialize DcOptions.parse serializedDcOptions with
  | some _ => return creator
  | none => creator.withBinlog (.set dcOptionsKey [0, 0, 0, 0])

def startUp (random : UInt32) (order : IterationOrder) (store : InMemoryKeyValue traits) :
    Except Fault (ConnectionCreator traits) := do
  let creator ← readDcOptions { binlogPmc := store }
  let proxyMaxId ← creator.binlogPmc.get proxyMaxIdKey
  let databaseKey ← getProxyDatabaseKey 1
  let firstProxy ← creator.binlogPmc.get databaseKey
  if proxyMaxId ≠ ascii "2" ∨ firstProxy ≠ [] then
    creator.initProxies random order
  else
    return { creator with maxProxyId := 2 }

end ConnectionCreator

/-- The components that read the store of a client that starts. -/
inductive Reader where
  | dcAuthManager
  | authDataShared (rawDcId : RawDcId)
  | sessionProxy (rawDcId : RawDcId) (name : Bytes)
  | configManager
  | connectionCreator (random : UInt32) (order : IterationOrder)

/-- The times, and which temporary keys are kept. -/
structure StartUpContext where
  clock : Clock
  isPast : UInt64 → Bool
  persistsTmpAuthKey : Bytes → Bool

namespace Reader

open List

def start (context : StartUpContext) (store : InMemoryKeyValue traits) :
    Reader → Except Fault (InMemoryKeyValue traits)
  | dcAuthManager => do
      let _mainDcId ← DcAuthManager.create store
      return store
  | authDataShared rawDcId => do
      let _read ← create context.clock rawDcId.val store
      return store
  | sessionProxy rawDcId name => do
      let (store, _read) ←
        SessionProxy.startUp context.clock context.isPast
          (context.persistsTmpAuthKey name) rawDcId name store
      return store
  | configManager => do
      let _read ← ConfigManager.startUp store
      return store
  | connectionCreator random order => do
      let creator ← ConnectionCreator.startUp random order store
      return creator.binlogPmc

def startAll (context : StartUpContext) (readers : List Reader) (store : InMemoryKeyValue traits) :
    Except Fault (InMemoryKeyValue traits) :=
  readers.foldlM (fun store reader => reader.start context store) store

end Reader

def valueAt (map : Bytes → Option Bytes) (key : Bytes) : Bytes :=
  (map key).getD []

/-- Nothing is stored under a key, or something that can be parsed. -/
def ParsesAt {Value : Type} (parse : Bytes → Option Value) (map : Bytes → Option Bytes)
    (key : Bytes) : Prop :=
  valueAt map key = [] ∨ (parse (valueAt map key)).isSome

/-- The stored key of a data center can be parsed. -/
def KeyReadable (clock : Clock) (map : Bytes → Option Bytes) (dcId : Int) : Prop :=
  ParsesAt (AuthKey.unserialize clock) map (getAuthKeyBinlogKey dcId)

/-- The stored salts of a data center can be parsed. -/
def SaltsReadable (map : Bytes → Option Bytes) (dcId : Int) : Prop :=
  ParsesAt (Tl.unserialize (Tl.fetchVector ServerSalt.parse)) map
    (getFutureSaltsBinlogKey dcId)

/-- The stored addresses have a known version and can be parsed. -/
def DcOptionsUpdateReadable (map : Bytes → Option Bytes) : Prop :=
  valueAt map ConfigManager.dcOptionsUpdateKey = [] ∨
    ∃ dcOptions,
      logEventParse (fun bytes => .ok (DcOptions.parse bytes))
          (valueAt map ConfigManager.dcOptionsUpdateKey) =
        .ok (some dcOptions)

/-- There is nothing about proxies, or what a start leaves behind. -/
def ProxiesReadable (map : Bytes → Option Bytes) : Prop :=
  (valueAt map ConnectionCreator.proxyMaxIdKey = ascii "2" ∧ valueAt map (ascii "proxy") = []) ∨
    ∀ key, ascii "proxy" <+: key → map key = none

/-- What a component can read. -/
def Reader.Readable (context : StartUpContext) (map : Bytes → Option Bytes) : Reader → Prop
  | dcAuthManager => True
  | authDataShared rawDcId =>
    KeyReadable context.clock map rawDcId.val ∧ SaltsReadable map rawDcId.val
  | sessionProxy rawDcId name =>
    KeyReadable context.clock map rawDcId.val ∧
      (context.persistsTmpAuthKey name = true →
        ParsesAt (AuthKey.unserialize context.clock) map (SessionProxy.tmpAuthKeyKey name))
  | configManager => DcOptionsUpdateReadable map
  | connectionCreator _ _ => ProxiesReadable map

theorem returns_ensure_iff {Value : Type} {result : Option Value} :
    Returns (ensure result) ↔ result.isSome := by
  cases result with
  | none => simp [ensure, not_returns_error]
  | some value => simp [ensure, returns_ok]

variable {clock : Clock} {store after : InMemoryKeyValue traits}

theorem returns_getAuthKeyForDc_iff {dcId : Int} :
    Returns (getAuthKeyForDc clock dcId store) ↔
      KeyReadable clock store.contents dcId := by
  rw [getAuthKeyForDc, get_spec, ok_bind, KeyReadable, ParsesAt, valueAt]
  split
  · rename_i empty
    exact iff_of_true (returns_ok _) (.inl empty)
  · rename_i nonempty
    rw [or_iff_right nonempty]
    cases AuthKey.unserialize clock _ with
    | none => simp [not_returns_error]
    | some authKey => simp [returns_ok]

theorem returns_getFutureSalts_iff {dcId : Int} :
    Returns (getFutureSalts dcId store) ↔ SaltsReadable store.contents dcId := by
  rw [getFutureSalts, get_spec, ok_bind, SaltsReadable, ParsesAt, valueAt]
  split
  · rename_i empty
    exact iff_of_true (returns_ok _) (.inl empty)
  · rename_i nonempty
    rw [or_iff_right nonempty, returns_ensure_iff]

theorem returns_loadDcOptionsUpdate_iff :
    Returns (ConfigManager.loadDcOptionsUpdate store) ↔ DcOptionsUpdateReadable store.contents := by
  rw [ConfigManager.loadDcOptionsUpdate, get_spec, ok_bind, DcOptionsUpdateReadable, valueAt]
  split
  · rename_i empty
    exact iff_of_true (returns_ok _) (.inl empty)
  · rename_i nonempty
    rw [or_iff_right nonempty]
    cases logEventParse _ _ with
    | error fault => simp [not_returns_error]
    | ok parsed => cases parsed with
      | none => simp [ensure, not_returns_error]
      | some dcOptions => simp [ensure, returns_ok]

namespace ConnectionCreator

open List

variable {creator : ConnectionCreator traits}

theorem toIntegerSafe_proxy (rest : Bytes) : toIntegerSafe (ascii "proxy" ++ rest) = none := by
  have zero : toInteger (ascii "proxy" ++ rest) = 0 := by
    simp [toInteger, accumulateDigits, ascii, isDigit]
  rw [toIntegerSafe, zero, if_neg]
  intro same
  have heads := congrArg head? same
  exact absurd (Option.some.inj heads) (by decide)

theorem not_returns_readProxyInfo {info : Bytes × Bytes} (leads : ascii "proxy" <+: info.1) :
    ¬ Returns (creator.readProxyInfo info) := by
  obtain ⟨rest, same⟩ := leads
  have notUsed : ¬ (ascii "_used").isPrefixOf info.1 = true := by
    rw [← same]
    simp [ascii]
  have notEmpty : info.1 ≠ [] := by
    rw [← same]
    simp [ascii]
  rw [readProxyInfo, if_neg notUsed, readProxy]
  rintro ⟨result, returned⟩
  obtain ⟨_, _, returned⟩ := bind_eq_ok returned
  obtain ⟨proxyId, parsed, _⟩ := bind_eq_ok returned
  rw [parseProxyId, if_neg notEmpty, ← same, toIntegerSafe_proxy] at parsed
  cases parsed

variable {proxyInfo : List (Bytes × Bytes)}

section

variable (leads : ∀ info ∈ proxyInfo, ascii "proxy" <+: info.1)
include leads

theorem readProxyIds_of_proxy : creator.readProxyIds proxyInfo = .ok creator := by
  have absent (key : Bytes) (other : ¬ ascii "proxy" <+: key) : proxyInfo.lookup key = none := by
    rw [lookup_eq_none_iff]
    intro info member
    rw [bne_iff_ne]
    intro same
    exact other (same ▸ leads info member)
  rw [readProxyIds, absent (ascii "_max_id") (by decide), absent (ascii "_active_id") (by decide)]

theorem filter_of_proxy :
    proxyInfo.filter (fun info => info.1 ≠ ascii "_max_id" ∧ info.1 ≠ ascii "_active_id") =
      proxyInfo := by
  rw [filter_eq_self]
  intro info member
  have other (key : Bytes) (notProxy : ¬ ascii "proxy" <+: key) : info.1 ≠ key := by
    intro same
    exact notProxy (same ▸ leads info member)
  exact decide_eq_true ⟨other (ascii "_max_id") (by decide), other (ascii "_active_id") (by decide)⟩

theorem returns_foldlM_readProxyInfo_iff (order : IterationOrder) :
    Returns ((order.val proxyInfo).foldlM readProxyInfo creator) ↔ proxyInfo = [] := by
  have same := order.property proxyInfo
  cases arranged : order.val proxyInfo with
  | nil =>
    rw [arranged] at same
    exact iff_of_true (returns_ok creator) same.symm.eq_nil
  | cons first rest =>
    rw [arranged] at same
    have firstLeads := leads first (same.mem_iff.mp mem_cons_self)
    refine iff_of_false ?_ ?_
    · rintro ⟨result, returned⟩
      obtain ⟨next, read, _⟩ := bind_eq_ok returned
      exact not_returns_readProxyInfo firstLeads ⟨next, read⟩
    · intro empty
      rw [empty] at same
      exact absurd same.eq_nil (cons_ne_nil first rest)

end

theorem updateMaxProxyId_spec (fresh : creator.maxProxyId = 0 ∧ creator.proxies = [])
    (fits : Operation.Fits (.set proxyMaxIdKey (ascii "2")) creator.binlogPmc) :
    ∃ written,
      creator.updateMaxProxyId = .ok { creator with maxProxyId := 2, binlogPmc := written } ∧
        written.contents =
          update creator.binlogPmc.contents proxyMaxIdKey (some (ascii "2")) := by
  obtain ⟨written, done, contents⟩ := Operation.apply_refines _ _ fits
  refine ⟨written, ?_, contents⟩
  have legacy :
      useLegacyProxy { creator with maxProxyId := 2 } = .ok { creator with maxProxyId := 2 } := by
    rw [useLegacyProxy, fresh.2]
    rfl
  rw [updateMaxProxyId, if_pos fresh.1, legacy, ok_bind, withBinlog, done, ok_bind]
  rfl

theorem fits_set_of_contents_eq {other : InMemoryKeyValue traits}
    (same : other.contents = store.contents) {key value : Bytes}
    (fits : Operation.Fits (.set key value) store) : Operation.Fits (.set key value) other := by
  have sameKeys : other.map.keys = store.map.keys := by
    ext key
    rw [FlatHashMap.mem_keys, FlatHashMap.mem_keys]
    change other.contents key ≠ none ↔ store.contents key ≠ none
    rw [same]
  rw [Operation.Fits, sameKeys]
  exact fits

theorem initProxies_spec (random : UInt32) (order : IterationOrder)
    (fresh : creator.maxProxyId = 0 ∧ creator.proxies = [])
    (fits : Operation.Fits (.set proxyMaxIdKey (ascii "2")) creator.binlogPmc) :
    ReturnsIff (∀ key, ascii "proxy" <+: key → creator.binlogPmc.contents key = none)
      (fun initialized =>
        initialized = { creator with maxProxyId := 2, binlogPmc := initialized.binlogPmc } ∧
          initialized.binlogPmc.contents =
            update creator.binlogPmc.contents proxyMaxIdKey (some (ascii "2")))
      (creator.initProxies random order) := by
  obtain ⟨begun, proxyInfo, done, contents, matching⟩ :=
    creator.binlogPmc.prefixGet_spec random (ascii "proxy")
  have leads : ∀ info ∈ proxyInfo, ascii "proxy" <+: info.1 :=
    fun info member => ((matching info.1 info.2).mp member).1
  have noneStored :
      proxyInfo = [] ↔ ∀ key, ascii "proxy" <+: key → creator.binlogPmc.contents key = none := by
    rw [eq_nil_iff_forall_not_mem]
    constructor
    · intro empty key isProxy
      cases mapped : creator.binlogPmc.contents key with
      | none => rfl
      | some value => exact absurd ((matching key value).mpr ⟨isProxy, mapped⟩) (empty (key, value))
    · intro absent info member
      obtain ⟨isProxy, mapped⟩ := (matching info.1 info.2).mp member
      rw [absent info.1 isProxy] at mapped
      cases mapped
  have shape : creator.initProxies random order =
        (order.val proxyInfo).foldlM readProxyInfo { creator with binlogPmc := begun } >>=
          updateMaxProxyId := by
    rw [initProxies, done, ok_bind]
    change (readProxyIds proxyInfo _ >>= _) = _
    rw [readProxyIds_of_proxy leads, ok_bind, filter_of_proxy leads]
  have reads := @returns_foldlM_readProxyInfo_iff traits { creator with binlogPmc := begun } _ leads
    order
  rw [shape, ← noneStored]
  by_cases empty : proxyInfo = []
  · -- Without proxies the loop changes nothing, and the last step writes.
    obtain ⟨written, updated, updatedContents⟩ :=
      @updateMaxProxyId_spec traits { creator with binlogPmc := begun } fresh
        (fits_set_of_contents_eq contents fits)
    have arranged : order.val proxyInfo = [] := by
      rw [empty]
      exact (order.property []).eq_nil
    rw [arranged, foldlM_nil, pure_eq_ok, ok_bind, updated]
    exact ⟨empty, rfl, updatedContents.trans (by rw [contents])⟩
  · cases run : (order.val proxyInfo).foldlM readProxyInfo { creator with binlogPmc := begun } with
    | error fault => exact empty
    | ok next => exact absurd (reads.mp ⟨next, run⟩) empty

/-- A store with room for what a start may add. -/
def Roomy (store : InMemoryKeyValue traits) : Prop :=
  (store.map.keys ∪ {dcOptionsKey, proxyMaxIdKey}).card ≤ FlatHashTable.maxNodeCount traits

theorem Roomy.fits (roomy : Roomy store) {key : Bytes}
    (added : key = dcOptionsKey ∨ key = proxyMaxIdKey) (value : Bytes) :
    Operation.Fits (.set key value) store := by
  refine ⟨?_, ?_⟩
  · rcases added with isOptions | isProxy
    · rw [isOptions]
      decide
    · rw [isProxy]
      decide
  · by_cases present : key ∈ store.map.keys
    · exact .inl present
    · right
      refine Nat.lt_of_lt_of_le ?_ roomy
      refine Finset.card_lt_card (Finset.ssubset_iff.mpr ⟨key, present, ?_⟩)
      rw [Finset.insert_subset_iff, Finset.mem_union, Finset.mem_insert, Finset.mem_singleton]
      exact ⟨.inr added, Finset.subset_union_left⟩

theorem Roomy.of_contents (roomy : Roomy store)
    (kept : ∀ key, key ≠ dcOptionsKey → key ≠ proxyMaxIdKey →
        after.contents key ≠ none → store.contents key ≠ none) : Roomy after := by
  refine le_trans (Finset.card_le_card ?_) roomy
  intro key member
  rw [Finset.mem_union, Finset.mem_insert, Finset.mem_singleton] at member ⊢
  rcases member with present | added
  · by_cases isNew : key = dcOptionsKey ∨ key = proxyMaxIdKey
    · exact .inr isNew
    · obtain ⟨notOptions, notProxy⟩ := not_or.mp isNew
      rw [FlatHashMap.mem_keys] at present ⊢
      exact .inl (kept key notOptions notProxy present)
  · exact .inr added

theorem readDcOptions_spec (roomy : Roomy creator.binlogPmc) : ∃ written,
      creator.readDcOptions = .ok { creator with binlogPmc := written } ∧
        ∀ key, key ≠ dcOptionsKey → written.contents key = creator.binlogPmc.contents key := by
  rw [readDcOptions, get_spec, ok_bind]
  cases Tl.unserialize DcOptions.parse _ with
  | some dcOptions => exact ⟨creator.binlogPmc, rfl, fun _ _ => rfl⟩
  | none =>
    obtain ⟨written, done, contents⟩ :=
      Operation.apply_refines _ _ (roomy.fits (.inl rfl) [0, 0, 0, 0])
    refine ⟨written, ?_, ?_⟩
    · rw [withBinlog, done, ok_bind]
      rfl
    · intro key other
      exact (congrFun contents key).trans (update_of_ne other _ _)

theorem startUp_spec (random : UInt32) (order : IterationOrder) (roomy : Roomy store) :
    ReturnsIff (ProxiesReadable store.contents)
      (fun started => started = { binlogPmc := started.binlogPmc, maxProxyId := 2 } ∧
        valueAt started.binlogPmc.contents proxyMaxIdKey = ascii "2" ∧
        (∀ key, key ≠ dcOptionsKey → key ≠ proxyMaxIdKey →
          started.binlogPmc.contents key = store.contents key) ∧
        (started.binlogPmc.contents proxyMaxIdKey = store.contents proxyMaxIdKey ∨
          (started.binlogPmc.contents proxyMaxIdKey = some (ascii "2") ∧
            ∀ key, ascii "proxy" <+: key → store.contents key = none)))
      (startUp random order store) := by
  obtain ⟨read, readDone, readContents⟩ := @readDcOptions_spec traits { binlogPmc := store } roomy
  have isProxyKey (key : Bytes) (isProxy : ascii "proxy" <+: key) :
      read.contents key = store.contents key := by
    refine readContents key ?_
    intro same
    rw [same] at isProxy
    exact absurd isProxy (by decide)
  have maxIdSame := isProxyKey proxyMaxIdKey (by decide)
  have firstSame := isProxyKey (ascii "proxy") (prefix_refl _)
  have readRoomy : Roomy read := by
    refine roomy.of_contents ?_
    intro key notOptions _ present
    rw [← readContents key notOptions]
    exact present
  have firstKey : getProxyDatabaseKey 1 = .ok (ascii "proxy") := rfl
  have noProxies :
      (∀ key, ascii "proxy" <+: key → read.contents key = none) ↔
        ∀ key, ascii "proxy" <+: key → store.contents key = none := by
    refine forall_congr' (fun key => forall_congr' (fun isProxy => ?_))
    rw [isProxyKey key isProxy]
  rw [startUp, readDone, ok_bind, get_spec, ok_bind, firstKey, ok_bind, get_spec, ok_bind,
    maxIdSame, firstSame]
  split
  · rename_i needed
    have notLeft :
        ¬ (valueAt store.contents proxyMaxIdKey = ascii "2" ∧
          valueAt store.contents (ascii "proxy") = []) := by
      rintro ⟨isTwo, noFirst⟩
      exact needed.elim (absurd isTwo) (absurd noFirst)
    refine (@initProxies_spec traits { binlogPmc := read } random order ⟨rfl, rfl⟩
      (readRoomy.fits (.inr rfl) (ascii "2"))).imp (noProxies.trans (or_iff_right notLeft).symm) ?_
    rintro started noneRead ⟨same, contents⟩
    have written : started.binlogPmc.contents proxyMaxIdKey = some (ascii "2") := by
      rw [contents, update_self]
    refine ⟨same, by rw [valueAt, written]; rfl, ?_, .inr ⟨written, noProxies.mp noneRead⟩⟩
    intro key notOptions notProxy
    rw [contents, update_of_ne notProxy, readContents key notOptions]
  · rename_i notNeeded
    rw [not_or, not_not, not_not] at notNeeded
    refine ⟨.inl notNeeded, rfl, ?_, fun key notOptions _ => readContents key notOptions,
      .inl maxIdSame⟩
    rw [← notNeeded.1, valueAt, ← maxIdSame]

end ConnectionCreator

namespace Reader

open List ConnectionCreator

variable {context : StartUpContext}

/-- What the start of components may do to the store. -/
structure Rewrites (context : StartUpContext) (before after : Bytes → Option Bytes) : Prop where
  other : ∀ key, key ≠ dcOptionsKey → key ≠ proxyMaxIdKey →
      after key = before key ∨
        (after key = none ∧
          ∃ name, context.persistsTmpAuthKey name = false ∧ key = SessionProxy.tmpAuthKeyKey name)
  proxyMaxId : after proxyMaxIdKey = before proxyMaxIdKey ∨
      (after proxyMaxIdKey = some (ascii "2") ∧ ∀ key, ascii "proxy" <+: key → before key = none)

theorem Rewrites.refl (map : Bytes → Option Bytes) : Rewrites context map map where
  other := fun _ _ _ => .inl rfl
  proxyMaxId := .inl rfl

variable {before : Bytes → Option Bytes} {key : Bytes}

section

variable {after : Bytes → Option Bytes} (rewrites : Rewrites context before after)
include rewrites

theorem Rewrites.same (notOptions : key ≠ dcOptionsKey) (notProxy : key ≠ proxyMaxIdKey)
    (notTemporary :
      ∀ name, context.persistsTmpAuthKey name = false → key ≠ SessionProxy.tmpAuthKeyKey name) :
    after key = before key := by
  rcases rewrites.other key notOptions notProxy with same | ⟨_, erased⟩
  · exact same
  · obtain ⟨name, notKept, isTemporary⟩ := erased
    exact absurd isTemporary (notTemporary name notKept)

theorem Rewrites.same_of_head {first : UInt8} {rest : Bytes}
    (other : first ≠ 100 ∧ first ≠ 112 ∧ first ≠ 116) :
    after (first :: rest) = before (first :: rest) := by
  refine rewrites.same ?_ ?_ ?_
  · intro same
    exact other.1 (cons.inj same).1
  · intro same
    exact other.2.1 (cons.inj same).1
  · intro name _ same
    exact other.2.2 (cons.inj same).1

theorem Rewrites.same_of_proxy (isProxy : ascii "proxy" <+: key) (notMaxId : key ≠ proxyMaxIdKey) :
    after key = before key := by
  obtain ⟨rest, same⟩ := isProxy
  refine rewrites.same ?_ notMaxId ?_
  · intro isOptions
    rw [isOptions] at same
    exact absurd (cons.inj same).1 (by decide)
  · intro name _ isTemporary
    rw [isTemporary] at same
    exact absurd (cons.inj same).1 (by decide)

end

theorem Rewrites.roomy (rewrites : Rewrites context store.contents after.contents)
    (roomy : Roomy store) : Roomy after := by
  refine roomy.of_contents ?_
  intro key notOptions notProxy present
  rcases rewrites.other key notOptions notProxy with same | ⟨erased, _⟩
  · rw [← same]
    exact present
  · exact absurd erased present

theorem parsesAt_congr {Value : Type} {parse : Bytes → Option Value} {after : Bytes → Option Bytes}
    (same : after key = before key) : ParsesAt parse after key ↔ ParsesAt parse before key := by
  rw [ParsesAt, ParsesAt, valueAt, valueAt, same]

theorem Rewrites.readable_iff {after : Bytes → Option Bytes}
    (rewrites : Rewrites context before after) (reader : Reader) :
    reader.Readable context after ↔ reader.Readable context before := by
  have sameKey (dcId : Int) :
      KeyReadable context.clock after dcId ↔ KeyReadable context.clock before dcId :=
    parsesAt_congr (rewrites.same_of_head (by decide))
  cases reader with
  | dcAuthManager => exact Iff.rfl
  | authDataShared rawDcId =>
    exact and_congr (sameKey rawDcId.val) (parsesAt_congr (rewrites.same_of_head (by decide)))
  | sessionProxy rawDcId name =>
    refine and_congr (sameKey rawDcId.val) (forall_congr' (fun kept => parsesAt_congr ?_))
    refine rewrites.same ?_ ?_ ?_
    · intro same
      exact absurd (cons.inj same).1 (by decide)
    · intro same
      exact absurd (cons.inj same).1 (by decide)
    · intro other notKept same
      rw [append_cancel_left same, notKept] at kept
      cases kept
  | configManager =>
    have same :
        after ConfigManager.dcOptionsUpdateKey = before ConfigManager.dcOptionsUpdateKey := by
      refine rewrites.same (by decide) (by decide) ?_
      intro name _ isTemporary
      exact absurd (cons.inj isTemporary).1 (by decide)
    rw [Readable, Readable, DcOptionsUpdateReadable,
      DcOptionsUpdateReadable, valueAt, valueAt, same]
  | connectionCreator random order =>
    have firstSame := rewrites.same_of_proxy (prefix_refl (ascii "proxy")) (by decide)
    rw [Readable, Readable, ProxiesReadable, ProxiesReadable, valueAt,
      valueAt, valueAt, valueAt, firstSame]
    rcases rewrites.proxyMaxId with same | ⟨written, noneBefore⟩
    · rw [same]
      refine or_congr_right (forall_congr' (fun key => forall_congr' (fun isProxy => ?_)))
      by_cases isMaxId : key = proxyMaxIdKey
      · rw [isMaxId, same]
      · rw [rewrites.same_of_proxy isProxy isMaxId]
    · refine iff_of_true (.inl ⟨?_, ?_⟩) (.inr noneBefore)
      · rw [written]
        rfl
      · rw [noneBefore _ (prefix_refl _)]
        rfl

theorem sessionProxy_spec (isPast : UInt64 → Bool) (persistTmpAuthKey : Bool) (rawDcId : RawDcId)
    (name : Bytes) : ReturnsIff
      (KeyReadable clock store.contents rawDcId.val ∧ (persistTmpAuthKey = true →
          ParsesAt (AuthKey.unserialize clock) store.contents (SessionProxy.tmpAuthKeyKey name)))
      (fun started => started.1.contents = store.contents ∨ (persistTmpAuthKey = false ∧
            started.1.contents =
              update store.contents (SessionProxy.tmpAuthKeyKey name) none))
      (SessionProxy.startUp clock isPast persistTmpAuthKey rawDcId name store) := by
  rw [← returns_getAuthKeyForDc_iff, SessionProxy.startUp]
  cases getAuthKeyForDc clock rawDcId.val store with
  | error fault => exact fun both => not_returns_error fault both.1
  | ok authKey =>
    rw [ok_bind, get_spec, ok_bind, and_iff_right (returns_ok authKey), ParsesAt, valueAt]
    split
    · rename_i empty
      exact ⟨fun _ => .inl empty, .inl rfl⟩
    · rename_i nonempty
      rw [or_iff_right nonempty]
      cases persistTmpAuthKey with
      | true =>
        rw [if_pos rfl, forall_prop_of_true rfl]
        cases AuthKey.unserialize clock _ with
        | none => exact Bool.false_ne_true
        | some tmpAuthKey => exact ⟨rfl, .inl rfl⟩
      | false =>
        obtain ⟨written, erased, contents⟩ :=
          Operation.apply_refines (.erase (SessionProxy.tmpAuthKeyKey name)) store trivial
        rw [if_neg Bool.false_ne_true, erased, ok_bind]
        exact ⟨nofun, .inr ⟨rfl, contents⟩⟩

theorem start_spec (roomy : Roomy store) (reader : Reader) :
    ReturnsIff (reader.Readable context store.contents)
      (fun after => Rewrites context store.contents after.contents)
      (reader.start context store) := by
  -- Most components only read.
  have onlyReads
      {Value : Type}
      {read : Except Fault Value}
      {readable : Prop}
      (reads : Returns read ↔ readable) :
      ReturnsIff readable
        (fun after : InMemoryKeyValue traits => Rewrites context store.contents after.contents)
        (read >>= fun _ => .ok store) := by
    rw [← reads]
    cases read with
    | error fault => exact not_returns_error fault
    | ok value => exact ⟨returns_ok value, .refl _⟩
  cases reader with
  | dcAuthManager =>
    refine onlyReads (iff_of_true ?_ trivial)
    rw [DcAuthManager.create, get_spec, ok_bind]
    split
    · rename_i stored
      rw [DcId.internal, check_eq_ok stored.2]
      exact returns_ok _
    · exact returns_ok _
  | authDataShared rawDcId =>
    refine onlyReads ((returns_bind_iff ?_).trans (and_congr_left' returns_getAuthKeyForDc_iff))
    intro authKey _
    exact returns_bind_pure_iff.trans returns_getFutureSalts_iff
  | sessionProxy rawDcId name =>
    refine ReturnsIff.bind_pure ((sessionProxy_spec ..).imp Iff.rfl ?_)
    rintro started _ (kept | ⟨notKept, erased⟩)
    · rw [kept]
      exact .refl _
    · rw [erased]
      refine ⟨?_, .inl ?_⟩
      · intro key _ _
        by_cases isTemporary : key = SessionProxy.tmpAuthKeyKey name
        · refine .inr ⟨?_, name, notKept, isTemporary⟩
          rw [isTemporary, update_self]
        · exact .inl (update_of_ne isTemporary _ _)
      · refine update_of_ne ?_ _ _
        intro same
        exact absurd (cons.inj same).1 (by decide)
  | configManager =>
    refine onlyReads ?_
    rw [Readable, ← returns_loadDcOptionsUpdate_iff]
    refine (returns_bind_iff ?_).trans (and_iff_left trivial)
    intro dcOptions _
    rw [get_spec, ok_bind]
    exact iff_of_true (returns_ok _) trivial
  | connectionCreator random order =>
    refine ReturnsIff.bind_pure ((startUp_spec random order roomy).imp Iff.rfl ?_)
    rintro started _ ⟨_, _, other, proxyMaxId⟩
    exact ⟨fun key notOptions notProxy => .inl (other key notOptions notProxy), proxyMaxId⟩

theorem returns_startAll_iff (roomy : Roomy store) (readers : List Reader) :
    Returns (startAll context readers store) ↔
      ∀ reader ∈ readers, reader.Readable context store.contents := by
  induction readers generalizing store with
  | nil => exact iff_of_true (returns_ok store) (fun _ member => absurd member not_mem_nil)
  | cons reader readers ih =>
    have starts := @start_spec _ _ context roomy reader
    rw [startAll, foldlM_cons, forall_mem_cons, ← starts.returns_iff]
    refine returns_bind_iff ?_
    intro after started
    have rewritten := starts.result started
    refine (ih (rewritten.roomy roomy)).trans ?_
    exact forall₂_congr (fun other _ => rewritten.readable_iff other)

end Reader

namespace MtprotoClient

open List

/--
The store of an accepted session is read without an abort: the data center, the
key, and what each component reads can be parsed.
-/
def StartsUp (traits : TableTraits Bytes) (build : Build) (environment : AuthManager.Environment)
    (context : StartUpContext) (options : Options) (readers : List Reader) : Prop :=
  ∃ (started : Started traits) (store : InMemoryKeyValue traits),
    startUp build environment context.clock options = .ok started ∧
      Reader.startAll context readers started.client.db.binlogPmc = .ok store

/-- The client itself can read what it looks for. -/
def InitReadable (clock : Clock) (options : Options) (map : Bytes → Option Bytes) : Prop :=
  DcId.isValid (storedOr options.dcId (valueAt map mainDcIdKey)) ∧
    KeyReadable clock map (storedOr options.dcId (valueAt map mainDcIdKey))

/-- A client starts with an accepted session if everything can be parsed. -/
theorem startsUp_iff
    (build : Build)
    (environment : AuthManager.Environment)
    (context : StartUpContext)
    (options : Options)
    (readers : List Reader)
    (db : TdDb traits)
    (accepted : TdDb.fresh.importSession options.sessionData = .ok (db, true))
    (roomy : ConnectionCreator.Roomy db.binlogPmc) :
    StartsUp traits build environment context options readers ↔
      InitReadable context.clock options db.binlogPmc.contents ∧
        ∀ reader ∈ readers, reader.Readable context db.binlogPmc.contents := by
  have nonempty : options.sessionData.bytes ≠ [] := by
    intro empty
    rw [TdDb.importSession, empty, if_pos (by decide)] at accepted
    cases accepted
  have imported : importedDb options = .ok db := by
    rw [importedDb, if_neg nonempty, accepted]
    rfl
  have shape := startUp_eq imported build environment context.clock
  have starts :
      (∃ started : Started traits, startUp build environment context.clock options = .ok started) ↔
        InitReadable context.clock options db.binlogPmc.contents := by
    rw [shape, InitReadable, ← returns_getAuthKeyForDc_iff]
    change
      Returns
        (DcId.internal
            (storedOr options.dcId (valueAt db.binlogPmc.contents mainDcIdKey)) >>= _) ↔ _
    rw [DcId.internal]
    by_cases isDc : DcId.isValid (storedOr options.dcId (valueAt db.binlogPmc.contents mainDcIdKey))
    · rw [check_eq_ok isDc, and_iff_right isDc]
      exact returns_bind_pure_iff
    · rw [check_eq_error isDc]
      exact iff_of_false (not_returns_error .check) (fun both => isDc both.1)
  rw [← starts, ← Reader.returns_startAll_iff roomy]
  constructor
  · rintro ⟨started, store, startDone, readersDone⟩
    rw [(startUp_spec imported startDone).1] at readersDone
    exact ⟨⟨started, startDone⟩, ⟨store, readersDone⟩⟩
  · rintro ⟨⟨started, startDone⟩, ⟨store, readersDone⟩⟩
    rw [← (startUp_spec imported startDone).1] at readersDone
    exact ⟨started, store, startDone, readersDone⟩

section Example

/-- The records of a session that has only a main data center. -/
def mainDcIdRecords (digit : UInt8) : List Record :=
  [(mainDcIdKey, [digit])]

def mainDcIdSession (digit : UInt8) : Buffer :=
  ⟨[19, 0, 0, 0] ++ encode (mainDcIdRecords digit), by
    change 23 < 2 ^ 63
    decide⟩

/-- The elements of a map in the order in which they were inserted. -/
def insertionOrder : IterationOrder :=
  ⟨id, fun _ => List.Perm.refl _⟩

def exampleContext : StartUpContext :=
  ⟨exampleClock, fun _ => false, fun _ => false⟩

theorem startsUp_iff_dataCenterOne : StartsUp collidingTraits .native AuthManager.exampleEnvironment
      exampleContext { exampleOptions 2 with sessionData := mainDcIdSession 49 }
      [.authDataShared dataCenterOne, .sessionProxy dataCenterOne [49],
        .configManager, .connectionCreator 3 insertionOrder] := by
  have facts : (TdDb.fresh.importSession (mainDcIdSession 49) :
          Except Fault (TdDb collidingTraits × Bool)).toOption.any
        (fun (db, accepted) => decide (accepted = true ∧ db.binlogPmc.map.keys = {mainDcIdKey} ∧
              valueAt db.binlogPmc.contents mainDcIdKey = [49])) = true := by
    decide +kernel
  obtain ⟨⟨db, accepted⟩, imported, holds⟩ := exists_of_any facts
  obtain ⟨rfl, keys, main⟩ := of_decide_eq_true holds
  have roomy : ConnectionCreator.Roomy db.binlogPmc := by
    rw [ConnectionCreator.Roomy, keys]
    decide
  have absent (key : Bytes) (other : key ≠ mainDcIdKey) : db.binlogPmc.contents key = none := by
    by_contra present
    have stored := FlatHashMap.mem_keys.mpr present
    rw [keys, Finset.mem_singleton] at stored
    exact other stored
  have noValue (key : Bytes) (other : key ≠ mainDcIdKey) :
      valueAt db.binlogPmc.contents key = [] := by
    rw [valueAt, absent key other]
    rfl
  have noKey : KeyReadable exampleClock db.binlogPmc.contents 1 := .inl (noValue _ (by decide))
  refine (startsUp_iff .native AuthManager.exampleEnvironment exampleContext
    { exampleOptions 2 with sessionData := mainDcIdSession 49 } _ db imported
    roomy).mpr ⟨?_, ?_⟩
  · rw [InitReadable, main]
    change DcId.isValid (storedOr 2 [49]) ∧ KeyReadable _ _ (storedOr 2 [49])
    exact ⟨by decide, noKey⟩
  · intro reader member
    simp only [mem_cons, not_mem_nil, or_false] at member
    rcases member with rfl | rfl | rfl | rfl
    · exact ⟨noKey, .inl (noValue _ (by decide))⟩
    · exact ⟨noKey, fun kept => absurd kept Bool.false_ne_true⟩
    · exact .inl (noValue _ (by decide))
    · refine .inr ?_
      intro key isProxy
      refine absent key ?_
      rintro rfl
      exact absurd isProxy (by decide)

/-- A session whose main data center is zero is accepted, and the client aborts. -/
theorem accepted_session_aborts : ∃ db : TdDb collidingTraits,
      TdDb.fresh.importSession (mainDcIdSession 48) = .ok (db, true) ∧
        (startUp .native AuthManager.exampleEnvironment exampleClock
            { exampleOptions 2 with sessionData := mainDcIdSession 48 } :
          Except Fault (Started collidingTraits)) =
          .error .check := by
  have facts : (TdDb.fresh.importSession (mainDcIdSession 48) :
          Except Fault (TdDb collidingTraits × Bool)).toOption.any
        (fun (db, accepted) =>
          decide (accepted = true ∧ db.binlogPmc.contents mainDcIdKey = some [48])) = true := by
    decide +kernel
  obtain ⟨⟨db, accepted⟩, imported, holds⟩ := exists_of_any facts
  obtain ⟨rfl, main⟩ := of_decide_eq_true holds
  refine ⟨db, imported, ?_⟩
  rfl

end Example

end MtprotoClient

end Autoproto
