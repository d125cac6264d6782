import Autoproto.StartUpReads

namespace Autoproto

open Text ByteEncoding InMemoryKeyValue Function
open MtprotoClient (insertionOrder)
open ConnectionCreator (getProxyDatabaseKey getProxyUsedDatabaseKey proxyMaxIdKey
  setActiveProxyId withBinlog)

/-!
# Proxies over a restart

A connection creator writes its proxies to the store when they change, and the
next start reads them back. It looks for the ends of the keys, but `prefix_get`
returns whole keys, so a start fails as soon as a proxy has been added.
-/

variable {traits : TableTraits Bytes} {checkUtf8 : Bytes → Bool}

/-- The number of a kind of proxies. -/
def ProxyType.number : ProxyType → Nat
  | none => 0
  | socks5 => 1
  | mtproto => 2
  | httpTcp => 3
  | httpCaching => 4

def hexEncode (bytes : Bytes) : Bytes :=
  let digit := fun value => (ascii "0123456789abcdef").getD value 0
  bytes.flatMap (fun byte => [digit (byte.toNat / 16), digit (byte.toNat % 16)])

def Base64.urlEncode : Bytes → Bytes :=
  let character := fun group place => (characters true).getD (group / 64 ^ place % 64) 0
  let rec encodeGroups : Bytes → Bytes
    | [] => []
    | [first] => [3, 2].map (character (first.toNat * 2 ^ 16))
    | [first, second] => [3, 2, 1].map (character (first.toNat * 2 ^ 16 + second.toNat * 2 ^ 8))
    | first :: second :: third :: rest =>
        [3, 2, 1, 0].map (character (first.toNat * 2 ^ 16 + second.toNat * 2 ^ 8 + third.toNat)) ++
          encodeGroups rest
  encodeGroups

namespace ProxySecret

/-- The function `from_link` of a text that may not be cut off. -/
def checkLink (link : Bytes) : Except String Bytes :=
  match hexDecode link <|> Base64.decode true link <|> Base64.decode false link with
  | none => .error "Wrong proxy secret"
  | some decoded =>
    if 17 + 182 < decoded.length then
      .error "Too long secret"
    else
      match fromBinary decoded with
      | some secret => .ok secret
      | none =>
        .error (if decoded.length < 16 then "Wrong proxy secret" else "Unsupported proxy secret")

def getEncodedSecret (secret : Bytes) : Bytes :=
  if 17 ≤ secret.length ∧ secret.head? = some 0xee then
    Base64.urlEncode secret
  else
    hexEncode secret

end ProxySecret

/-- The kinds of proxies of the interface. -/
inductive ProxyTypeObject where
  | socks5 (username password : Bytes)
  | http (username password : Bytes) (httpOnly : Bool)
  | mtproto (secret : Bytes)

structure ProxyObject where
  server : Bytes
  port : Int
  type : Option ProxyTypeObject

namespace Proxy

def createProxy (checkUtf8 : Bytes → Bool) : Option ProxyObject → Except String Proxy
  | none => .error "Proxy must be non-empty"
  | some { server, port, type } =>
    match type with
    | none => .error "Proxy type must be non-empty"
    | some type =>
      if server = [] then
        .error "Server name must be non-empty"
      else if 255 < server.length then
        .error "Server name is too long"
      else if checkUtf8 server = false then
        .error "Server name must be encoded in UTF-8"
      else if port ≤ 0 ∨ 65535 < port then
        .error "Wrong port number"
      else
        match type with
        | .socks5 user password => .ok { type := .socks5, server, port, user, password }
        | .http user password httpOnly =>
          let type := if httpOnly then .httpCaching else .httpTcp
          .ok { type, server, port, user, password }
        | .mtproto link => do
            let secret ← ProxySecret.checkLink link
            return { type := .mtproto, server, port, secret }

def store (proxy : Proxy) : Except Fault Bytes :=
  let type := leOfNat 4 proxy.type.number
  let port := leOfNat 4 (proxy.port % 2 ^ 32).toNat
  match proxy.type with
  | .none => .ok type
  | .mtproto => do
      let secret := ProxySecret.getEncodedSecret proxy.secret
      return type ++ (← Tl.storeString proxy.server) ++ port ++ (← Tl.storeString secret)
  | _ => do
      return type ++ (← Tl.storeString proxy.server) ++ port ++ (← Tl.storeString proxy.user) ++
        (← Tl.storeString proxy.password)

def logEventStore (proxy : Proxy) : Except Fault Bytes := do
  return leOfNat 4 (Version.next - 1).toNat ++ (← proxy.store)

end Proxy

structure ProxyManager (traits : TableTraits Bytes) extends ConnectionCreator traits where
  proxyLastUsedDate : Int → Int := fun _ => 0
  proxyLastUsedSavedDate : Int → Int := fun _ => 0

/-- What a request about proxies is answered. -/
inductive ProxyAnswer where
  | error (message : String)
  | added (proxyId lastUsedDate : Int) (isEnabled : Bool) (proxy : Proxy)
  | done

namespace ProxyManager

/-- The numbers of the proxies. -/
def ids (manager : ProxyManager traits) : List Int :=
  manager.proxies.map Prod.fst

def within (change : ConnectionCreator traits → Except Fault (ConnectionCreator traits))
    (manager : ProxyManager traits) :
    Except Fault (ProxyManager traits) := do
  let creator ← change manager.toConnectionCreator
  return { manager with toConnectionCreator := creator }

def saveProxyLastUsedDate (delay : Int) (manager : ProxyManager traits) :
    Except Fault (ProxyManager traits) :=
  let active := manager.activeProxyId
  let date := manager.proxyLastUsedDate active
  if active = 0 ∨ date ≤ manager.proxyLastUsedSavedDate active + delay then
    .ok manager
  else do
    let key ← getProxyUsedDatabaseKey active
    within (withBinlog (.set key (decimal date)))
      { manager with
        proxyLastUsedSavedDate := update manager.proxyLastUsedSavedDate active date }

/-- The date of an answer of a server, which is saved once a minute. -/
def onPong (now : Int) (manager : ProxyManager traits) : Except Fault (ProxyManager traits) :=
  let active := manager.activeProxyId
  if active ≠ 0 ∧ manager.proxyLastUsedDate active < now then
    saveProxyLastUsedDate 60
      { manager with proxyLastUsedDate := update manager.proxyLastUsedDate active now }
  else
    .ok manager

def enableProxyImpl (proxyId : Int) (manager : ProxyManager traits) :
    Except Fault (ProxyManager traits) := do
  check (proxyId ∈ manager.ids)
  if proxyId = manager.activeProxyId then
    return manager
  else
    let manager ← manager.saveProxyLastUsedDate 0
    manager.within (setActiveProxyId proxyId false)

def disableProxyImpl (manager : ProxyManager traits) : Except Fault (ProxyManager traits) :=
  if manager.activeProxyId = 0 then
    .ok manager
  else do
    check (manager.activeProxyId ∈ manager.ids)
    manager.within (setActiveProxyId 0 false)

/-- A proxy leaves the map, and its date the store. -/
def eraseProxy (proxyId : Int) (manager : ProxyManager traits) :
    Except Fault (ProxyManager traits) := do
  let key ← getProxyUsedDatabaseKey proxyId
  within (withBinlog (.erase key))
    { manager with proxies := manager.proxies.filter (fun entry => entry.1 ≠ proxyId) }

def getAddedProxyObject (proxyId : Int) (manager : ProxyManager traits) :
    Except Fault (ProxyAnswer × ProxyManager traits) := do
  let proxy ← ensure (manager.proxies.lookup proxyId)
  let isEnabled := decide (proxyId = manager.activeProxyId)
  return (.added proxyId (manager.proxyLastUsedDate proxyId) isEnabled proxy, manager)

/-- The number of a proxy that is no longer, or not yet, in the map. -/
def takeProxyId (oldProxyId : Int) (manager : ProxyManager traits) :
    Except Fault (Int × ProxyManager traits) :=
  if oldProxyId < 0 then do
    check (2 ≤ manager.maxProxyId)
    let next := manager.maxProxyId + 1
    let creator := { manager.toConnectionCreator with maxProxyId := next }
    let creator ← creator.withBinlog (.set proxyMaxIdKey (decimal next))
    return (manager.maxProxyId, { manager with toConnectionCreator := creator })
  else
    .ok (oldProxyId, manager)

/-- A proxy is added unless there is one like it. -/
def insertProxy (oldProxyId : Int) (newProxy : Proxy) (manager : ProxyManager traits) :
    Except Fault (Int × ProxyManager traits) :=
  match ((manager.proxies.filter (fun entry => entry.2 = newProxy)).map Prod.fst).min? with
  | some proxyId => .ok (proxyId, manager)
  | none => do
      let (proxyId, manager) ← manager.takeProxyId oldProxyId
      check (proxyId ∉ manager.ids)
      let key ← getProxyDatabaseKey proxyId
      let value ← newProxy.logEventStore
      let manager ←
        within (withBinlog (.set key value))
          { manager with proxies := (proxyId, newProxy) :: manager.proxies }
      return (proxyId, manager)

/-- The end of `add_proxy`. -/
def storeProxy (oldProxyId : Int) (newProxy : Proxy) (enable : Bool)
    (manager : ProxyManager traits) :
    Except Fault (ProxyAnswer × ProxyManager traits) := do
  let (proxyId, manager) ← manager.insertProxy oldProxyId newProxy
  let manager ← if enable then manager.enableProxyImpl proxyId else .ok manager
  manager.getAddedProxyObject proxyId

def addProxy (checkUtf8 : Bytes → Bool) (oldProxyId : Int) (proxy : Option ProxyObject)
    (enable : Bool) (manager : ProxyManager traits) :
    Except Fault (ProxyAnswer × ProxyManager traits) :=
  match Proxy.createProxy checkUtf8 proxy with
  | .error message => .ok (.error message, manager)
  | .ok newProxy =>
    if 0 ≤ oldProxyId then
      match manager.proxies.lookup oldProxyId with
      | none => .ok (.error "Proxy not found", manager)
      | some oldProxy =>
        if oldProxy = newProxy then do
          let manager ← if enable then manager.enableProxyImpl oldProxyId else .ok manager
          manager.getAddedProxyObject oldProxyId
        else do
          let isActive := decide (oldProxyId = manager.activeProxyId)
          let manager ← if isActive then manager.disableProxyImpl else .ok manager
          let manager ← manager.eraseProxy oldProxyId
          storeProxy oldProxyId newProxy (enable || isActive)
            { manager with
              proxyLastUsedDate := update manager.proxyLastUsedDate oldProxyId 0
              proxyLastUsedSavedDate :=
                update manager.proxyLastUsedSavedDate oldProxyId 0 }
    else
      manager.storeProxy oldProxyId newProxy enable

def enableProxy (proxyId : Int) (manager : ProxyManager traits) :
    Except Fault (ProxyAnswer × ProxyManager traits) :=
  if proxyId ∉ manager.ids then
    .ok (.error "Unknown proxy identifier", manager)
  else do
    return (.done, ← manager.enableProxyImpl proxyId)

def disableProxy (manager : ProxyManager traits) :
    Except Fault (ProxyAnswer × ProxyManager traits) := do
  let manager ← manager.saveProxyLastUsedDate 0
  return (.done, ← manager.disableProxyImpl)

def removeProxy (proxyId : Int) (manager : ProxyManager traits) :
    Except Fault (ProxyAnswer × ProxyManager traits) :=
  if proxyId ∉ manager.ids then
    .ok (.error "Unknown proxy identifier", manager)
  else do
    let manager ←
      if proxyId = manager.activeProxyId then manager.disableProxyImpl else .ok manager
    let key ← getProxyDatabaseKey proxyId
    let manager ← manager.within (withBinlog (.erase key))
    return (.done, ← manager.eraseProxy proxyId)

end ProxyManager

/-- Requests about proxies, and answers that date them. -/
inductive ProxyRequest where
  | addProxy (oldProxyId : Int) (proxy : Option ProxyObject) (enable : Bool)
  | enableProxy (proxyId : Int)
  | disableProxy
  | removeProxy (proxyId : Int)
  | pong (now : Int)

namespace ProxyRequest

/-- What becomes of a connection creator when it gets a request. -/
def apply (checkUtf8 : Bytes → Bool) (manager : ProxyManager traits) :
    ProxyRequest → Except Fault (ProxyAnswer × ProxyManager traits)
  | addProxy oldProxyId proxy enable => manager.addProxy checkUtf8 oldProxyId proxy enable
  | enableProxy proxyId => manager.enableProxy proxyId
  | disableProxy => manager.disableProxy
  | removeProxy proxyId => manager.removeProxy proxyId
  | pong now => do
      return (.done, ← manager.onPong now)

def run (checkUtf8 : Bytes → Bool) (requests : List ProxyRequest) (manager : ProxyManager traits) :
    Except Fault (ProxyManager traits) :=
  requests.foldlM (fun manager request => Prod.snd <$> request.apply checkUtf8 manager) manager

def Adds (checkUtf8 : Bytes → Bool) : ProxyRequest → Prop
  | addProxy oldProxyId proxy _ =>
      oldProxyId < 0 ∧ ∃ newProxy, Proxy.createProxy checkUtf8 proxy = .ok newProxy
  | _ => False

variable {manager : ProxyManager traits}

theorem apply_of_no_proxies {request : ProxyRequest} (noProxies : manager.proxies = [])
    (inactive : manager.activeProxyId = 0) (addsNone : ¬ request.Adds checkUtf8) :
    ∃ answer, request.apply checkUtf8 manager = .ok (answer, manager) := by
  have noIds : manager.ids = [] := by simp [ProxyManager.ids, noProxies]
  cases request with
  | addProxy oldProxyId proxy enable =>
    simp only [apply, ProxyManager.addProxy, noProxies, List.lookup_nil]
    cases created : Proxy.createProxy checkUtf8 proxy with
    | error message => exact ⟨_, rfl⟩
    | ok newProxy =>
      have replaces : 0 ≤ oldProxyId := by
        by_contra negative
        exact addsNone ⟨Int.not_le.mp negative, newProxy, created⟩
      simp [replaces]
  | enableProxy proxyId => simp [apply, ProxyManager.enableProxy, noIds]
  | disableProxy =>
    simp [apply, ProxyManager.disableProxy, ProxyManager.saveProxyLastUsedDate,
      ProxyManager.disableProxyImpl, inactive, ok_bind]
  | removeProxy proxyId => simp [apply, ProxyManager.removeProxy, noIds]
  | pong now => simp [apply, ProxyManager.onPong, inactive, ok_bind]

theorem run_of_no_proxies (noProxies : manager.proxies = []) (inactive : manager.activeProxyId = 0)
    {requests : List ProxyRequest} (addsNone : ∀ request ∈ requests, ¬ request.Adds checkUtf8) :
    run checkUtf8 requests manager = .ok manager := by
  induction requests with
  | nil => rfl
  | cons request rest ih =>
    obtain ⟨answer, applied⟩ :=
      apply_of_no_proxies noProxies inactive (addsNone request List.mem_cons_self)
    rw [run, List.foldlM_cons, applied]
    exact ih (fun later member => addsNone later (List.mem_cons_of_mem _ member))

end ProxyRequest

/-! ## What an addition leaves in the store -/

theorem decimal_ne_two {number : Int} (three : 3 ≤ number) : decimal number ≠ ascii "2" := by
  obtain ⟨number, rfl⟩ := Int.eq_ofNat_of_zero_le (Int.le_trans (by decide) three)
  rw [decimal_eq]
  have three : 3 ≤ number := by omega
  split
  · interval_cases number <;> decide
  · intro isTwo
    have shorter := congrArg List.length isTwo
    have notEmpty := List.length_pos_of_ne_nil (decimal_ne_nil (number / 10))
    rw [List.length_append] at shorter
    change _ + 1 = 1 at shorter
    omega

namespace ProxyManager

variable {manager after : ProxyManager traits} {proxyId oldProxyId : Int} {key : Bytes}
  {newProxy : Proxy} {answer : ProxyAnswer}

theorem proxyKey_ne_maxId (returned : getProxyDatabaseKey proxyId = .ok key) :
    key ≠ proxyMaxIdKey := by
  obtain ⟨_, positive, isKey⟩ := bind_eq_ok returned
  obtain ⟨number, rfl⟩ := Int.eq_ofNat_of_zero_le (holds_of_check positive).le
  rw [pure_eq_ok, Except.ok.injEq] at isKey
  subst isKey
  split
  · decide
  · intro isMaxId
    have isRest : decimal number = ascii "_max_id" := List.append_cancel_left isMaxId
    have digits := isDigit_of_mem_decimal number
    rw [isRest] at digits
    exact absurd (digits 95 (by decide)) (by decide)

theorem usedKey_ne_maxId (returned : getProxyUsedDatabaseKey proxyId = .ok key) :
    key ≠ proxyMaxIdKey := by
  obtain ⟨_, _, isKey⟩ := bind_eq_ok returned
  cases isKey
  intro isMaxId
  have leads : ascii "proxy_used" <+: proxyMaxIdKey := isMaxId ▸ List.prefix_append _ _
  exact absurd leads (by decide)

/-- The stored number stays as it is, and no proxy is added. -/
def Keeps (before after : ProxyManager traits) : Prop :=
  after.binlogPmc.contents proxyMaxIdKey = before.binlogPmc.contents proxyMaxIdKey ∧
    (before.proxies = [] → after.proxies = [])

theorem Keeps.refl (manager : ProxyManager traits) : Keeps manager manager :=
  ⟨rfl, id⟩

theorem Keeps.trans {before : ProxyManager traits} (first : Keeps before manager)
    (second : Keeps manager after) : Keeps before after :=
  ⟨second.1.trans first.1, second.2 ∘ first.2⟩

/-- A write of another key. -/
theorem keeps_withBinlog {operation : Operation} {value : Option Bytes}
    (other : key ≠ proxyMaxIdKey)
    (isWrite : ∀ map, operation.effect map = update map key value)
    (done : manager.within (withBinlog operation) = .ok after) : Keeps manager after := by
  obtain ⟨_, written, isAfter⟩ := bind_eq_ok done
  obtain ⟨_, applied, isCreator⟩ := bind_eq_ok written
  cases isAfter
  cases isCreator
  refine ⟨?_, id⟩
  rw [Operation.contents_of_apply applied, isWrite, update_of_ne other.symm]

theorem keeps_setActiveProxyId
    (done : manager.within (setActiveProxyId proxyId false) = .ok after) : Keeps manager after := by
  have written : ∃ operation value,
      (∀ map, Operation.effect operation map =
        update map ConnectionCreator.proxyActiveIdKey value) ∧
      within (withBinlog operation)
        { manager with activeProxyId := proxyId } = .ok after := by
    rw [within, setActiveProxyId, if_neg (by decide)] at done
    split at done
    · exact ⟨_, _, fun _ => rfl, done⟩
    · exact ⟨_, _, fun _ => rfl, done⟩
  obtain ⟨_, _, isWrite, written⟩ := written
  have keeps := keeps_withBinlog (by decide) isWrite written
  exact keeps

theorem keeps_saveProxyLastUsedDate {delay : Int}
    (done : manager.saveProxyLastUsedDate delay = .ok after) : Keeps manager after := by
  rw [saveProxyLastUsedDate] at done
  split at done
  · cases done
    exact .refl _
  · obtain ⟨key, isKey, done⟩ := bind_eq_ok done
    have keeps := keeps_withBinlog (usedKey_ne_maxId isKey) (fun _ => rfl) done
    exact keeps

theorem keeps_enableProxyImpl (done : manager.enableProxyImpl proxyId = .ok after) :
    Keeps manager after := by
  obtain ⟨_, _, done⟩ := bind_eq_ok done
  split at done
  · cases done
    exact .refl _
  · obtain ⟨saved, isSaved, done⟩ := bind_eq_ok done
    exact (keeps_saveProxyLastUsedDate isSaved).trans (keeps_setActiveProxyId done)

theorem keeps_disableProxyImpl (done : manager.disableProxyImpl = .ok after) :
    Keeps manager after := by
  rw [disableProxyImpl] at done
  split at done
  · cases done
    exact .refl _
  · obtain ⟨_, _, done⟩ := bind_eq_ok done
    exact keeps_setActiveProxyId done

theorem keeps_branch {α : Type} {result : α} {needed : Prop} [Decidable needed]
    {change : Except Fault (ProxyManager traits)} {rest : ProxyManager traits → Except Fault α}
    (keeps : ∀ middle, change = .ok middle → Keeps manager middle)
    (done : (if needed then change >>= rest else .ok manager >>= rest) = .ok result) :
    ∃ middle, Keeps manager middle ∧ rest middle = .ok result := by
  split at done
  · obtain ⟨middle, changed, done⟩ := bind_eq_ok done
    exact ⟨middle, keeps middle changed, done⟩
  · exact ⟨manager, .refl _, done⟩

theorem keeps_eraseProxy (done : manager.eraseProxy proxyId = .ok after) : Keeps manager after := by
  obtain ⟨key, isKey, done⟩ := bind_eq_ok done
  have keeps := keeps_withBinlog (usedKey_ne_maxId isKey) (fun _ => rfl) done
  exact ⟨keeps.1, fun none => keeps.2 (by simp [none])⟩

theorem keeps_removeProxy (done : manager.removeProxy proxyId = .ok (answer, after)) :
    Keeps manager after := by
  rw [removeProxy] at done
  split at done
  · cases done
    exact .refl _
  · obtain ⟨disabled, keeps, done⟩ := keeps_branch (fun _ => keeps_disableProxyImpl) done
    obtain ⟨key, isKey, done⟩ := bind_eq_ok done
    obtain ⟨forgotten, isForgotten, done⟩ := bind_eq_ok done
    obtain ⟨erased, isErased, done⟩ := bind_eq_ok done
    cases done
    have forgets := keeps_withBinlog (proxyKey_ne_maxId isKey) (fun _ => rfl) isForgotten
    exact keeps.trans (forgets.trans (keeps_eraseProxy isErased))

/-- The store says that a proxy has been added. -/
def Marked (manager : ProxyManager traits) : Prop :=
  ∃ number, 3 ≤ number ∧ manager.binlogPmc.contents proxyMaxIdKey = some (decimal number)

theorem Keeps.marked (keeps : Keeps manager after) (marked : Marked manager) : Marked after := by
  rw [Marked, keeps.1]
  exact marked

theorem eq_of_getAddedProxyObject
    (done : manager.getAddedProxyObject proxyId = .ok (answer, after)) : after = manager := by
  obtain ⟨proxy, _, done⟩ := bind_eq_ok done
  cases done
  rfl

theorem marked_insertProxy (ifSome : manager.proxies = [] ∨ Marked manager)
    (numbered : oldProxyId < 0 ∨ Marked manager)
    (done : manager.insertProxy oldProxyId newProxy = .ok (proxyId, after)) : Marked after := by
  rw [insertProxy] at done
  split at done
  · rename_i found
    cases done
    refine ifSome.resolve_left fun none => ?_
    rw [none] at found
    cases found
  · obtain ⟨⟨number, taken⟩, isTaken, done⟩ := bind_eq_ok done
    obtain ⟨_, _, done⟩ := bind_eq_ok done
    obtain ⟨key, isKey, done⟩ := bind_eq_ok done
    obtain ⟨value, _, done⟩ := bind_eq_ok done
    obtain ⟨inserted, isInserted, done⟩ := bind_eq_ok done
    cases done
    have keeps := keeps_withBinlog (proxyKey_ne_maxId isKey) (fun _ => rfl) isInserted
    refine keeps.marked ?_
    -- A new number is written before it is given to the proxy.
    rw [takeProxyId] at isTaken
    split at isTaken
    · obtain ⟨_, enough, isTaken⟩ := bind_eq_ok isTaken
      obtain ⟨creator, written, isTaken⟩ := bind_eq_ok isTaken
      obtain ⟨store, applied, isCreator⟩ := bind_eq_ok written
      cases isTaken
      cases isCreator
      refine ⟨manager.maxProxyId + 1, Int.add_le_add_right (holds_of_check enough) 1, ?_⟩
      rw [Operation.contents_of_apply applied]
      simp only [Operation.effect, update_self]
    · rename_i replaces
      cases isTaken
      exact numbered.resolve_left replaces

theorem marked_storeProxy {enable : Bool} (ifSome : manager.proxies = [] ∨ Marked manager)
    (numbered : oldProxyId < 0 ∨ Marked manager)
    (done : manager.storeProxy oldProxyId newProxy enable = .ok (answer, after)) :
    Marked after := by
  obtain ⟨⟨number, inserted⟩, isInserted, done⟩ := bind_eq_ok done
  obtain ⟨enabled, keeps, done⟩ := keeps_branch (fun _ => keeps_enableProxyImpl) done
  cases eq_of_getAddedProxyObject done
  exact keeps.marked (marked_insertProxy ifSome numbered isInserted)

end ProxyManager

namespace ProxyRequest

open ProxyManager

variable {manager after : ProxyManager traits} {request : ProxyRequest} {answer : ProxyAnswer}

theorem keeps_or_marked (ifSome : manager.proxies = [] ∨ Marked manager)
    (done : request.apply checkUtf8 manager = .ok (answer, after)) :
    Keeps manager after ∧ ¬ request.Adds checkUtf8 ∨ Marked after := by
  cases request with
  | addProxy oldProxyId proxy enable =>
    rw [apply, ProxyManager.addProxy] at done
    split at done
    · rename_i refused
      cases done
      exact .inl ⟨.refl _, by simp [Adds, refused]⟩
    split at done
    · rename_i replaces
      have addsNone : ¬ (addProxy oldProxyId proxy enable).Adds checkUtf8 := fun adds =>
        absurd replaces (Int.not_le.mpr adds.1)
      split at done
      · cases done
        exact .inl ⟨.refl _, addsNone⟩
      rename_i found
      have marked : Marked manager := ifSome.resolve_left fun none => by
        rw [none] at found
        cases found
      split at done
      · obtain ⟨enabled, keeps, done⟩ := keeps_branch (fun _ => keeps_enableProxyImpl) done
        cases eq_of_getAddedProxyObject done
        exact .inl ⟨keeps, addsNone⟩
      · obtain ⟨disabled, keeps, done⟩ := keeps_branch (fun _ => keeps_disableProxyImpl) done
        obtain ⟨erased, isErased, done⟩ := bind_eq_ok done
        have erasedMarked := (keeps_eraseProxy isErased).marked (keeps.marked marked)
        refine .inr (marked_storeProxy (.inr ?_) (.inr ?_) done) <;> exact erasedMarked
    · rename_i isNew
      exact .inr (marked_storeProxy ifSome (.inl (Int.not_le.mp isNew)) done)
  | enableProxy proxyId =>
    refine .inl ⟨?_, id⟩
    rw [apply, ProxyManager.enableProxy] at done
    split at done
    · cases done
      exact .refl _
    · obtain ⟨enabled, isEnabled, done⟩ := bind_eq_ok done
      cases done
      exact keeps_enableProxyImpl isEnabled
  | disableProxy =>
    obtain ⟨saved, isSaved, done⟩ := bind_eq_ok done
    obtain ⟨disabled, isDisabled, done⟩ := bind_eq_ok done
    cases done
    exact .inl ⟨(keeps_saveProxyLastUsedDate isSaved).trans (keeps_disableProxyImpl isDisabled), id⟩
  | removeProxy proxyId => exact .inl ⟨keeps_removeProxy done, id⟩
  | pong now =>
    obtain ⟨dated, isDated, done⟩ := bind_eq_ok done
    cases done
    refine .inl ⟨?_, id⟩
    rw [ProxyManager.onPong] at isDated
    split at isDated
    · have keeps := keeps_saveProxyLastUsedDate isDated
      exact keeps
    · cases isDated
      exact .refl _

/-- The mark of an addition stays. -/
theorem run_marked {requests : List ProxyRequest} {last : ProxyManager traits}
    (ifSome : manager.proxies = [] ∨ Marked manager)
    (added : (∃ request ∈ requests, request.Adds checkUtf8) ∨ Marked manager)
    (done : run checkUtf8 requests manager = .ok last) : Marked last := by
  induction requests generalizing manager with
  | nil =>
    cases done
    exact added.resolve_left (by simp)
  | cons request rest ih =>
    obtain ⟨next, turned, done⟩ := bind_eq_ok done
    obtain ⟨answer, applied⟩ : ∃ answer, request.apply checkUtf8 manager = .ok (answer, next) := by
      cases applied : request.apply checkUtf8 manager with
      | error fault => simp [applied] at turned
      | ok result =>
        simp only [applied] at turned
        cases turned
        exact ⟨result.1, rfl⟩
    rcases keeps_or_marked ifSome applied with ⟨keeps, addsNone⟩ | marked
    · refine ih (ifSome.imp keeps.2 keeps.marked) ?_ done
      refine added.imp ?_ keeps.marked
      rintro ⟨adding, member, adds⟩
      refine ⟨adding, (List.mem_cons.mp member).resolve_left ?_, adds⟩
      rintro rfl
      exact addsNone adds
    · exact ih (.inr marked) (.inr marked) done

end ProxyRequest

namespace ConnectionCreator

variable {store : InMemoryKeyValue traits}

theorem roomy_of_empty (empty : ∀ key, store.contents key = none) : Roomy store := by
  have noKeys : store.map.keys = ∅ := by
    refine Finset.eq_empty_of_forall_notMem (fun key member => ?_)
    exact (FlatHashMap.mem_keys).mp member (empty key)
  rw [Roomy, noKeys, Finset.empty_union]
  exact Finset.card_le_two.trans
    (Nat.le_trans (by decide) (FlatHashTable.five_le_maxNodeCount))

theorem startUp_of_empty (empty : ∀ key, store.contents key = none) (random again : UInt32)
    (order orderAgain : IterationOrder) : ∃ first second,
      startUp random order store = .ok { binlogPmc := first, maxProxyId := 2 } ∧
        startUp again orderAgain first = .ok { binlogPmc := second, maxProxyId := 2 } := by
  have roomy := roomy_of_empty empty
  have starts := startUp_spec random order roomy
  obtain ⟨started, done⟩ := starts.returns_iff.mpr (.inr (fun key _ => empty key))
  obtain ⟨shape, maxId, others, _⟩ := starts.result done
  have startedRoomy : Roomy started.binlogPmc := by
    refine roomy.of_contents (fun key notOptions notMaxId => ?_)
    rw [others key notOptions notMaxId]
    exact id
  have noFirst : valueAt started.binlogPmc.contents (ascii "proxy") = [] := by
    rw [valueAt, others _ (by decide) (by decide), empty]
    rfl
  have restarts := startUp_spec again orderAgain startedRoomy
  obtain ⟨restarted, doneAgain⟩ := restarts.returns_iff.mpr (.inl ⟨maxId, noFirst⟩)
  refine ⟨started.binlogPmc, restarted.binlogPmc, ?_, ?_⟩
  · rw [done, ← shape]
  · rw [doneAgain, ← (restarts.result doneAgain).1]

theorem not_returns_startUp {manager : ProxyManager traits} (marked : manager.Marked)
    (random : UInt32) (order : IterationOrder) :
    ¬ Returns (startUp random order manager.binlogPmc) := by
  rintro ⟨started, returned⟩
  obtain ⟨number, three, isStored⟩ := marked
  obtain ⟨read, readDone, returned⟩ := bind_eq_ok returned
  obtain ⟨stored, fresh⟩ : read.binlogPmc.contents proxyMaxIdKey = some (decimal number) ∧
      read.maxProxyId = 0 ∧ read.proxies = [] := by
    rw [readDcOptions, get_spec, ok_bind] at readDone
    split at readDone
    · cases readDone
      exact ⟨isStored, rfl, rfl⟩
    · obtain ⟨store, applied, isRead⟩ := bind_eq_ok readDone
      cases isRead
      rw [Operation.contents_of_apply applied]
      exact ⟨(update_of_ne (by decide) _ _).trans isStored, rfl, rfl⟩
  have differs : valueAt read.binlogPmc.contents proxyMaxIdKey ≠ ascii "2" := by
    rw [valueAt, stored]
    exact decimal_ne_two three
  rw [get_spec, ok_bind] at returned
  obtain ⟨_, _, returned⟩ := bind_eq_ok returned
  rw [get_spec, ok_bind, if_pos (.inl differs)] at returned
  have present : proxyMaxIdKey ∈ read.binlogPmc.map.keys :=
    FlatHashMap.mem_keys.mpr (stored.trans_ne (Option.some_ne_none _))
  have empty := (initProxies_spec random order fresh ⟨by decide, .inl present⟩).returns_iff.mp
    ⟨_, returned⟩
  cases stored.symm.trans (empty proxyMaxIdKey (by decide))

/--
A client finds after a restart what it left, if no proxy has been added. After
the first addition that is accepted, no start returns.
-/
theorem proxies_survive_restart
    {store : InMemoryKeyValue traits}
    (empty : ∀ key, store.contents key = none)
    (checkUtf8 : Bytes → Bool)
    (requests : List ProxyRequest)
    (random again : UInt32)
    (order orderAgain : IterationOrder) :
    ∃ first : ConnectionCreator traits, startUp random order store = .ok first ∧
      ((∀ request ∈ requests, ¬ request.Adds checkUtf8) →
        ∃ (last : ProxyManager traits) (restarted : ConnectionCreator traits),
          ProxyRequest.run checkUtf8 requests { toConnectionCreator := first } = .ok last ∧
            startUp again orderAgain last.binlogPmc = .ok restarted ∧
            restarted.proxies = last.proxies ∧
            restarted.activeProxyId = last.activeProxyId ∧
            ∀ proxyId ∈ last.ids, proxyId < restarted.maxProxyId) ∧
      ((∃ request ∈ requests, request.Adds checkUtf8) → ∀ last : ProxyManager traits,
          ProxyRequest.run checkUtf8 requests { toConnectionCreator := first } = .ok last →
            ¬ Returns (startUp again orderAgain last.binlogPmc)) := by
  obtain ⟨first, second, started, restarted⟩ :=
    startUp_of_empty empty random again order orderAgain
  refine ⟨_, started, ?_, ?_⟩
  · intro addsNone
    refine ⟨_, _, ProxyRequest.run_of_no_proxies rfl rfl addsNone, restarted, rfl, rfl, ?_⟩
    simp [ProxyManager.ids]
  · intro adds last done
    exact not_returns_startUp (ProxyRequest.run_marked (.inl rfl) (.inl adds) done) again orderAgain

section Example

def exampleProxy : ProxyObject where
  server := ascii "proxy.example"
  port := 1080
  type := some (.socks5 [] [])

theorem no_proxies_survive_restart :
    ∃ (first restarted : ConnectionCreator collidingTraits) (last : ProxyManager collidingTraits),
      startUp 3 insertionOrder .fresh = .ok first ∧
        ProxyRequest.run (fun _ => true)
            [.addProxy 2 (some exampleProxy) true, .enableProxy 2, .disableProxy, .removeProxy 2]
            { toConnectionCreator := first } = .ok last ∧
        startUp 5 insertionOrder last.binlogPmc = .ok restarted ∧
        restarted.proxies = last.proxies ∧
        restarted.activeProxyId = last.activeProxyId ∧
        ∀ proxyId ∈ last.ids, proxyId < restarted.maxProxyId := by
  have empty : ∀ key, (fresh : InMemoryKeyValue collidingTraits).contents key = none :=
    fun _ => rfl
  obtain ⟨first, started, survives, _⟩ := proxies_survive_restart empty (fun _ => true)
    [.addProxy 2 (some exampleProxy) true, .enableProxy 2, .disableProxy, .removeProxy 2]
    3 5 insertionOrder insertionOrder
  obtain ⟨last, restarted, survived⟩ := survives (by simp [ProxyRequest.Adds])
  exact ⟨first, restarted, last, started, survived⟩

/-- A client to which one proxy has been added does not start again. -/
theorem added_proxy_aborts_restart :
    ∃ (first : ConnectionCreator collidingTraits) (last : ProxyManager collidingTraits),
      startUp 3 insertionOrder .fresh = .ok first ∧
        ProxyRequest.run (fun _ => true) [.addProxy (-1) (some exampleProxy) true]
            { toConnectionCreator := first } = .ok last ∧
        last.ids = [2] ∧
        last.activeProxyId = 2 ∧
        startUp 3 insertionOrder last.binlogPmc = .error .check := by
  have tested : (startUp 3 insertionOrder .fresh : Except Fault (ConnectionCreator collidingTraits)
          ).toOption.any (fun first =>
        (ProxyRequest.run (fun _ => true) [.addProxy (-1) (some exampleProxy) true]
          { toConnectionCreator := first }).toOption.any (fun last =>
            decide (last.ids = [2] ∧ last.activeProxyId = 2) &&
              match startUp 3 insertionOrder last.binlogPmc with
              | .error .check => true
              | _ => false)) = true := by
    decide +kernel
  obtain ⟨first, started, tested⟩ := exists_of_any tested
  obtain ⟨last, ran, tested⟩ := exists_of_any tested
  obtain ⟨state, aborts⟩ := Bool.and_eq_true_iff.mp tested
  obtain ⟨ids, active⟩ := of_decide_eq_true state
  refine ⟨first, last, started, ran, ids, active, ?_⟩
  split at aborts
  · assumption
  · cases aborts

end Example

end ConnectionCreator

end Autoproto
