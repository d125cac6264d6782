import Autoproto.ConnectionConservation
import Mathlib.Algebra.Order.Ring.Rat
import Mathlib.Tactic.Linarith
import Mathlib.Tactic.Positivity

namespace Autoproto.Mtproto

open List SessionConnection

/-!
# The loop that writes packets

Before a connection writes, it sends packets for as long as one must be sent.
Every packet must take away a reason to send one, or the loop never ends. The
time is read from a cache and stands still.
-/

open SessionConnection (FlushInputs Flushed SentPacket)

/-! ## Salts -/

/-- The time for which a salt can be used. -/
structure ServerSalt where
  validSince : Rat
  validUntil : Rat
  deriving Repr, DecidableEq

/-- The salts of an `AuthData`, in the order of their use. -/
structure Salts where
  serverTimeDifference : Rat := 0
  serverSalt : ServerSalt
  futureSalts : List ServerSalt := []
  deriving Repr, DecidableEq

namespace Salts

def getServerTime (now : Rat) (salts : Salts) : Rat :=
  salts.serverTimeDifference + now

/-- The loop of `update_salt`: the salt that is used, and the ones that are left. -/
def popValid (serverTime : Rat)
    (serverSalt : ServerSalt) : List ServerSalt → ServerSalt × List ServerSalt
  | [] => (serverSalt, [])
  | next :: rest =>
    if next.validSince < serverTime then
      popValid serverTime next rest
    else
      (serverSalt, next :: rest)

def updateSalt (now : Rat) (salts : Salts) : Salts :=
  let (serverSalt, futureSalts) :=
    popValid (salts.getServerTime now) salts.serverSalt salts.futureSalts
  { salts with
    serverSalt := serverSalt
    futureSalts := futureSalts }

def isServerSaltValid (now : Rat) (salts : Salts) : Bool :=
  decide (salts.getServerTime now + 60 < salts.serverSalt.validUntil)

/-- The function `has_salt`, which also updates the salts. -/
def hasSalt (now : Rat) (salts : Salts) : Bool :=
  (salts.updateSalt now).isServerSaltValid now

/-- The function `need_future_salts`, which also updates the salts. -/
def needFutureSalts (now : Rat) (salts : Salts) : Bool :=
  (salts.updateSalt now).futureSalts.isEmpty || !(salts.updateSalt now).isServerSaltValid now

theorem popValid_popValid (serverTime : Rat) (serverSalt : ServerSalt)
    (futureSalts : List ServerSalt) :
    popValid serverTime (popValid serverTime serverSalt futureSalts).1
        (popValid serverTime serverSalt futureSalts).2 =
      popValid serverTime serverSalt futureSalts := by
  induction futureSalts generalizing serverSalt with
  | nil => rfl
  | cons next rest ih =>
    by_cases isValid : next.validSince < serverTime
    · simp only [popValid, if_pos isValid]
      exact ih next
    · simp only [popValid, if_neg isValid]

theorem updateSalt_updateSalt (now : Rat) (salts : Salts) :
    (salts.updateSalt now).updateSalt now = salts.updateSalt now := by
  have again := popValid_popValid (salts.getServerTime now) salts.serverSalt salts.futureSalts
  have sameTime : (salts.updateSalt now).getServerTime now = salts.getServerTime now := rfl
  unfold updateSalt at sameTime ⊢
  rw [sameTime, again]

end Salts

/-! ## Times -/

/-- What does not change while the connection writes. -/
structure WriteInputs where
  now : Rat
  hasAuthKey : Bool
  canSend : Bool
  onlineFlag : Bool
  isMain : Bool
  /-- The round-trip time of the raw connection. -/
  extraRtt : Rat
  /-- What has been drawn for `random_delay_`, in microseconds. -/
  randomDelay : Nat
  lastPongAt : Rat
  lastReadAt : Rat
  header : Bytes

namespace WriteInputs

def rtt (inputs : WriteInputs) : Rat :=
  max 2 (inputs.extraRtt * (3 / 2) + 1)

def randomSeconds (inputs : WriteInputs) : Rat :=
  inputs.randomDelay / 1000000

def readDisconnectDelay (inputs : WriteInputs) : Rat :=
  if inputs.onlineFlag then inputs.rtt * (7 / 2)
  else 135 + inputs.randomSeconds

def pingDisconnectDelay (inputs : WriteInputs) : Rat :=
  if inputs.onlineFlag && inputs.isMain then inputs.rtt * (5 / 2)
  else 135 + inputs.randomSeconds

def pingMayDelay (inputs : WriteInputs) : Rat :=
  if inputs.onlineFlag then inputs.rtt * (1 / 2)
  else 30 + inputs.randomSeconds

def pingMustDelay (inputs : WriteInputs) : Rat :=
  if inputs.onlineFlag then inputs.rtt
  else 60 + inputs.randomSeconds

/-- How long the server may hold a request, in milliseconds. -/
def maxWait (inputs : WriteInputs) : Int32 :=
  let timeToDisconnect :=
    min (inputs.pingDisconnectDelay + inputs.lastPongAt)
      (inputs.readDisconnectDelay + inputs.lastReadAt) - inputs.now
  let wait := max (1 / 10) (min (timeToDisconnect - inputs.rtt) 25)
  Int32.ofInt (1000 * wait).floor

variable (inputs : WriteInputs)

theorem two_le_rtt : 2 ≤ inputs.rtt :=
  le_max_left _ _

theorem randomSeconds_nonneg : 0 ≤ inputs.randomSeconds := by
  unfold randomSeconds
  positivity

theorem pingMustDelay_nonneg : 0 ≤ inputs.pingMustDelay := by
  have rtt := inputs.two_le_rtt
  have random := inputs.randomSeconds_nonneg
  unfold pingMustDelay
  split <;> linarith

theorem pingMayDelay_le_pingMustDelay : inputs.pingMayDelay ≤ inputs.pingMustDelay := by
  have rtt := inputs.two_le_rtt
  unfold pingMayDelay pingMustDelay
  split <;> linarith

end WriteInputs

structure TimedConnection where
  connection : SessionConnection
  salts : Salts
  forceSendAt : Rat := 0
  lastPingAt : Rat := 0
  lastGetFutureSaltAt : Rat := 0
  flushPacketAt : Rat := 0

def relaxTimeoutAt (timeout newTimeout : Rat) : Rat :=
  if newTimeout = 0 then timeout
  else if timeout = 0 ∨ newTimeout < timeout then newTimeout
  else timeout

namespace TimedConnection

def mayPing (inputs : WriteInputs) (timed : TimedConnection) : Bool :=
  decide (timed.lastPingAt = 0 ∨
    timed.connection.mode ≠ .httpLongPoll ∧ timed.lastPingAt + inputs.pingMayDelay < inputs.now)

def mustPing (inputs : WriteInputs) (timed : TimedConnection) : Bool :=
  decide (timed.lastPingAt = 0 ∨
    timed.connection.mode ≠ .httpLongPoll ∧ timed.lastPingAt + inputs.pingMustDelay < inputs.now)

/-- Salts have not been asked for within a minute. -/
def mayGetSalts (inputs : WriteInputs) (timed : TimedConnection) : Bool :=
  decide (timed.lastGetFutureSaltAt = 0 ∨ timed.lastGetFutureSaltAt + 60 < inputs.now)

/-- Something that waits is due. -/
def mustSend (inputs : WriteInputs) (timed : TimedConnection) : Bool :=
  decide (timed.forceSendAt ≠ 0 ∧ timed.forceSendAt < inputs.now)

/-- The key is to be destroyed, and nobody has asked for it. -/
def mustDestroy (timed : TimedConnection) : Bool :=
  timed.connection.needDestroyAuthKey && !timed.connection.sentDestroyAuthKey

def sendTimeout (timed : TimedConnection) : Rat :=
  if timed.forceSendAt ≠ 0 then relaxTimeoutAt 0 timed.forceSendAt else 0

/-- The timeout for a packet that must not be sent yet. -/
def nextFlushAt (inputs : WriteInputs) (timed : TimedConnection) : Rat :=
  if timed.salts.hasSalt inputs.now then
    relaxTimeoutAt timed.sendTimeout (timed.lastPingAt + inputs.pingMustDelay)
  else
    relaxTimeoutAt 0 (timed.lastGetFutureSaltAt + 60)

def mustFlushPacket (inputs : WriteInputs) (timed : TimedConnection) : Bool × TimedConnection :=
  let timed := { timed with flushPacketAt := 0 }
  if !inputs.hasAuthKey then
    (false, timed)
  else if !inputs.canSend then
    (false, timed)
  else
    let hasSalt := timed.salts.hasSalt inputs.now
    let timed := { timed with salts := timed.salts.updateSalt inputs.now }
    if timed.connection.mode = .httpLongPoll then
      (hasSalt, timed)
    else if hasSalt && timed.mustSend inputs then
      (true, timed)
    else if hasSalt && timed.mustPing inputs then
      (true, { timed with flushPacketAt := timed.sendTimeout })
    else if !hasSalt && timed.mayGetSalts inputs then
      (true, timed)
    else
      (hasSalt && timed.mustDestroy, { timed with flushPacketAt := timed.nextFlushAt inputs })

/-- What a call of `flush_packet` finds. -/
def flushInputs (inputs : WriteInputs) (timed : TimedConnection) : FlushInputs where
  hasSalt := timed.salts.hasSalt inputs.now
  mayPing := timed.mayPing inputs
  needFutureSalts := timed.salts.needFutureSalts inputs.now && timed.mayGetSalts inputs
  pingTimeout := Int32.ofInt (inputs.pingDisconnectDelay + 2).floor
  maxWait := inputs.maxWait
  header := inputs.header
  serverTime := timed.salts.getServerTime inputs.now

/-- The number of queries and identifiers that wait. -/
def backlog (connection : SessionConnection) : Nat :=
  connection.toSend.length + connection.toAckMessageIds.length +
    connection.toResendAnswerMessageIds.length +
    connection.toCancelAnswerMessageIds.length +
    connection.toGetStateInfoMessageIds.length

def flushPacket (inputs : WriteInputs) (authData : AuthData) (timed : TimedConnection) :
    Except Fault (AuthData × TimedConnection) := do
  let found := timed.flushInputs inputs
  let flushed ← timed.connection.flushPacket found authData
  return (flushed.authData, { timed with
      connection := flushed.connection
      salts := timed.salts.updateSalt inputs.now
      lastPingAt :=
        if found.hasSalt && found.mayPing then inputs.now
        else timed.lastPingAt
      lastGetFutureSaltAt :=
        if timed.connection.mode ≠ .httpLongPoll ∧ found.needFutureSalts then
          inputs.now
        else
          timed.lastGetFutureSaltAt
      forceSendAt :=
        if flushed.sent.isNone ∨ backlog flushed.connection = 0 then 0
        else timed.forceSendAt })

/-- The loop of `before_write`, with a number of turns. -/
def beforeWrite (inputs : WriteInputs) :
    Nat → AuthData → TimedConnection → Except Fault (Option (AuthData × TimedConnection))
  | 0, _, _ => .ok none
  | turns + 1, authData, timed =>
    match timed.mustFlushPacket inputs with
    | (false, timed) => .ok (some (authData, timed))
    | (true, timed) => do
        let (authData, timed) ← timed.flushPacket inputs authData
        beforeWrite inputs turns authData timed

/-! ## What a packet takes away -/

/-- The number of queries and identifiers that a packet takes. -/
def taken (contents : PacketContents) : Nat :=
  contents.toSend.length + contents.toAck.length + contents.resend.length +
    contents.cancel.length + contents.getInfo.length

variable {contents : PacketContents}

theorem backlog_of_splits {before after : SessionConnection}
    (splits : before.Splits contents after) : backlog before = taken contents + backlog after := by
  have toSend := congrArg length splits.toSend
  have toAck := splits.toAck.length_eq
  have resend := splits.resend.length_eq
  have cancel := splits.cancel.length_eq
  have getInfo := splits.getInfo.length_eq
  simp only [length_append] at toSend toAck resend cancel getInfo
  unfold backlog taken
  omega

variable {size : Nat} {messageIds : List MessageId}

/-- Of a list, something is taken. -/
theorem length_cutTail_pos (positive : 0 < size) (waits : 0 < messageIds.length) :
    0 < (SessionConnection.cutTail size messageIds).1.length := by
  unfold cutTail
  split
  · exact waits
  · simp only [length_drop]
    omega

variable {found : FlushInputs} {connection : SessionConnection} {inputs : WriteInputs}
  {timed : TimedConnection}

/-- With a salt, the first query is taken. -/
theorem length_toSend_pos (hasSalt : found.hasSalt = true) (waits : 0 < connection.toSend.length)
    (pingId : MessageId) : 0 < (connection.packetContents found pingId).toSend.length := by
  have count : 0 < connection.sendCount found := by
    unfold sendCount
    rw [if_pos hasSalt]
    cases isToSend : connection.toSend with
    | nil => simp [isToSend] at waits
    | cons query rest =>
      unfold sendTill
      simp [maxQueryCount]
  simp only [packetContents, length_take]
  omega

theorem taken_pos (hasSalt : found.hasSalt = true) (waits : 0 < backlog connection)
    (pingId : MessageId) : 0 < taken (connection.packetContents found pingId) := by
  unfold taken
  by_cases queries : 0 < connection.toSend.length
  · have first := length_toSend_pos hasSalt queries pingId
    omega
  · have noQueries : connection.toSend = [] := length_eq_zero_iff.mp (by omega)
    have size : 0 < maxMessageIds := by decide
    have cancels : 0 < maxQueryCount := by decide
    unfold backlog at waits
    simp only [packetContents, noQueries, take_nil,
      length_nil, Nat.sub_zero, Nat.zero_add] at waits ⊢
    rcases Nat.eq_zero_or_pos connection.toAckMessageIds.length with
      _ | toAck
    · rcases Nat.eq_zero_or_pos connection.toResendAnswerMessageIds.length with _ | resend
      · rcases Nat.eq_zero_or_pos connection.toCancelAnswerMessageIds.length with _ | cancel
        · have getInfo :=
            length_cutTail_pos size (show 0 < connection.toGetStateInfoMessageIds.length by omega)
          omega
        · have cancel := length_cutTail_pos cancels cancel
          omega
      · have resend := length_cutTail_pos size resend
        omega
    · have toAck := length_cutTail_pos size toAck
      omega

variable {authData : AuthData} {flushed : Flushed}

theorem isEmptyPacket_of_none (returned : connection.flushPacket found authData = .ok flushed)
    (nothing : flushed.sent = none) : flushed.connection = connection ∧ connection.isEmptyPacket
        (connection.packetContents found
          (SessionConnection.nextPingId found authData).1) = true := by
  rw [SessionConnection.flushPacket] at returned
  dsimp only at returned
  split at returned
  case isTrue isEmpty =>
    cases returned
    exact ⟨rfl, isEmpty⟩
  case isFalse =>
    obtain ⟨_, _, returned⟩ := bind_eq_ok returned
    obtain ⟨⟨impl, after⟩, _, returned⟩ := bind_eq_ok returned
    cases returned
    cases nothing

variable {pingId : MessageId}

theorem backlog_of_isEmptyPacket (hasSalt : found.hasSalt = true)
    (isEmpty : connection.isEmptyPacket (connection.packetContents found pingId) = true) :
    backlog connection = 0 := by
  simp only [isEmptyPacket, Bool.and_eq_true, List.isEmpty_iff] at isEmpty
  obtain ⟨⟨⟨⟨⟨⟨⟨⟨queries, toAck⟩, _⟩, _⟩, _⟩, resend⟩, cancel⟩, getInfo⟩, _⟩ := isEmpty
  have noQueries : connection.toSend.length = 0 := by
    by_contra waits
    have first := length_toSend_pos hasSalt (Nat.pos_of_ne_zero waits) pingId
    rw [queries] at first
    exact absurd first (Nat.lt_irrefl 0)
  simp [backlog, noQueries, toAck, resend, cancel, getInfo]

/-- What a call of `flush_packet` leaves to be done. -/
structure Drains (found : FlushInputs) (before : SessionConnection) (flushed : Flushed) : Prop where
  mode : flushed.connection.mode = before.mode
  needDestroyAuthKey : flushed.connection.needDestroyAuthKey = before.needDestroyAuthKey
  destroys : before.needDestroyAuthKey = true → flushed.connection.sentDestroyAuthKey = true
  backlog_le : backlog flushed.connection ≤ backlog before
  backlog_lt :
    found.hasSalt = true → 0 < backlog before → backlog flushed.connection < backlog before
  toSend : flushed.connection.toSend <:+ before.toSend

theorem drains_flushPacket (returned : connection.flushPacket found authData = .ok flushed) :
    Drains found connection flushed := by
  cases isSent : flushed.sent with
  | none =>
    obtain ⟨same, isEmpty⟩ := isEmptyPacket_of_none returned isSent
    constructor
    · rw [same]
    · rw [same]
    · intro needed
      simp only [isEmptyPacket, packetContents, needed, Bool.and_eq_true,
        Bool.true_and, Bool.not_not] at isEmpty
      rw [same]
      exact isEmpty.2
    · rw [same]
    · intro hasSalt waits
      rw [backlog_of_isEmptyPacket hasSalt isEmpty] at waits
      exact absurd waits (Nat.lt_irrefl 0)
    · rw [same]
  | some packet =>
    rcases flushPacket_eq_ok returned with
      rfl | ⟨contents, impl, after, rfl, made, rfl⟩
    · cases isSent
    · have same := sameTasks_noteSent
          (connection.packetContents found (nextPingId found authData).1) impl
          (connection.afterCut
            (connection.packetContents found (nextPingId found authData).1) found)
      have splits := (splits_afterCut found (nextPingId found authData).1 connection).sameTasks same
      have length := backlog_of_splits splits
      constructor
      · exact same.mode
      · exact same.needDestroyAuthKey
      · intro needed
        rw [same.sentDestroyAuthKey]
        simp [afterCut, packetContents, needed]
      · dsimp only
        omega
      · intro hasSalt waits
        have some := taken_pos hasSalt waits (nextPingId found authData).1
        dsimp only
        omega
      · exact ⟨_, splits.toSend.symm⟩

/-! ## The loop ends -/

/-- How many turns the loop needs, apart from the last. -/
def rank (inputs : WriteInputs) (timed : TimedConnection) : Nat :=
  backlog timed.connection + (timed.mustSend inputs).toNat +
    (timed.mustPing inputs).toNat + timed.mustDestroy.toNat +
    (timed.mayGetSalts inputs).toNat

/-- Why a packet must be sent. -/
def Reason (inputs : WriteInputs) (timed : TimedConnection) : Prop :=
  timed.salts.hasSalt inputs.now = true ∧
      (timed.mustSend inputs = true ∨ timed.mustPing inputs = true ∨ timed.mustDestroy = true) ∨
    timed.salts.hasSalt inputs.now = false ∧ timed.mayGetSalts inputs = true

theorem reason_updateSalt (reason : timed.Reason inputs) (flushPacketAt : Rat) : Reason inputs
      { timed with
        salts := timed.salts.updateSalt inputs.now
        flushPacketAt := flushPacketAt } := by
  unfold Reason at reason ⊢
  simp only [Salts.hasSalt, Salts.updateSalt_updateSalt]
  exact reason

theorem mustFlushPacket_eq_true {ready : TimedConnection} (isTcp : timed.connection.mode = .tcp)
    (must : timed.mustFlushPacket inputs = (true, ready)) : ready.connection = timed.connection ∧
      ready.rank inputs = timed.rank inputs ∧ ready.Reason inputs := by
  unfold mustFlushPacket at must
  simp only [isTcp, reduceCtorEq, if_false] at must
  split at must
  · cases must
  split at must
  · cases must
  split at must
  case isTrue due =>
    rw [Bool.and_eq_true] at due
    cases must
    refine ⟨rfl, rfl, reason_updateSalt ?_ _⟩
    exact Or.inl ⟨due.1, Or.inl due.2⟩
  split at must
  case isTrue due =>
    rw [Bool.and_eq_true] at due
    cases must
    refine ⟨rfl, rfl, reason_updateSalt ?_ _⟩
    exact Or.inl ⟨due.1, Or.inr (Or.inl due.2)⟩
  split at must
  case isTrue due =>
    rw [Bool.and_eq_true, Bool.not_eq_true'] at due
    cases must
    refine ⟨rfl, rfl, reason_updateSalt ?_ _⟩
    exact Or.inr due
  case isFalse =>
    obtain ⟨due, same⟩ := Prod.ext_iff.mp must
    simp only [Bool.and_eq_true] at due same
    cases same
    refine ⟨rfl, rfl, reason_updateSalt ?_ _⟩
    exact Or.inl ⟨due.1, Or.inr (Or.inr due.2)⟩

theorem toNat_le_of_imp {first second : Bool} (implies : first = true → second = true) :
    first.toNat ≤ second.toNat := by
  cases first with
  | false => exact Nat.zero_le _
  | true => rw [implies rfl]

section Turn

variable {inputs : WriteInputs} {timed after : TimedConnection} {authData numbered : AuthData}

/-- What one turn of the loop does to the reasons for another one. -/
structure Turns (inputs : WriteInputs) (before after : TimedConnection) : Prop where
  mode : after.connection.mode = before.connection.mode
  toSend : after.connection.toSend <:+ before.connection.toSend
  backlog_le : backlog after.connection ≤ backlog before.connection
  backlog_lt :
    before.salts.hasSalt inputs.now = true →
      0 < backlog before.connection → backlog after.connection < backlog before.connection
  mustSend : after.mustSend inputs = true → before.mustSend inputs = true
  sent : backlog after.connection = 0 → after.mustSend inputs = false
  mustPing : after.mustPing inputs = true → before.mustPing inputs = true
  pinged : before.salts.hasSalt inputs.now = true → after.mustPing inputs = false
  destroyed : after.mustDestroy = false
  mayGetSalts : after.mayGetSalts inputs = true → before.mayGetSalts inputs = true
  asked : before.salts.hasSalt inputs.now = false → after.mayGetSalts inputs = false

theorem mustPing_of_flushed (isTcp : timed.connection.mode = .tcp)
    (isTcpAfter : after.connection.mode = .tcp) (positive : 0 < inputs.now)
    (lastPingAt : after.lastPingAt =
        if timed.mayPing inputs then inputs.now else timed.lastPingAt) :
    after.mustPing inputs = false := by
  have must := inputs.pingMustDelay_nonneg
  have order := inputs.pingMayDelay_le_pingMustDelay
  unfold mustPing
  rw [decide_eq_false_iff_not, lastPingAt, isTcpAfter]
  split
  case isTrue =>
    rintro (isZero | ⟨_, late⟩)
    · exact positive.ne' isZero
    · linarith
  case isFalse early =>
    unfold mayPing at early
    rw [decide_eq_true_eq, isTcp] at early
    rintro (isZero | ⟨notPoll, late⟩)
    · exact early (Or.inl isZero)
    · exact early (Or.inr ⟨notPoll, by linarith⟩)

theorem mayGetSalts_of_flushed {asks : Prop} [Decidable asks] (positive : 0 < inputs.now)
    (lastGetFutureSaltAt : after.lastGetFutureSaltAt =
        if asks then inputs.now else timed.lastGetFutureSaltAt) :
    after.mayGetSalts inputs = true → ¬asks ∧ timed.mayGetSalts inputs = true := by
  unfold mayGetSalts
  simp only [decide_eq_true_eq, lastGetFutureSaltAt]
  split
  case isTrue =>
    rintro (isZero | late)
    · exact absurd isZero positive.ne'
    · linarith
  case isFalse notAsked =>
    intro may
    exact ⟨notAsked, may⟩

theorem flushPacket_fields (returned : timed.flushPacket inputs authData = .ok (numbered, after)) :
    ∃ flushed, timed.connection.flushPacket (timed.flushInputs inputs) authData = .ok flushed ∧
        after.connection = flushed.connection ∧
        after.lastPingAt =
          (if timed.salts.hasSalt inputs.now && timed.mayPing inputs then
            inputs.now
          else
            timed.lastPingAt) ∧
        after.lastGetFutureSaltAt =
          (if timed.connection.mode ≠ .httpLongPoll ∧
              (timed.flushInputs inputs).needFutureSalts then
            inputs.now
          else
            timed.lastGetFutureSaltAt) ∧
        after.forceSendAt =
          (if flushed.sent.isNone ∨ backlog flushed.connection = 0 then 0
          else timed.forceSendAt) := by
  obtain ⟨flushed, flushes, same⟩ := bind_eq_ok returned
  cases same
  exact ⟨flushed, flushes, rfl, rfl, rfl, rfl⟩

theorem turns_of_flushPacket (isTcp : timed.connection.mode = .tcp) (positive : 0 < inputs.now)
    (returned : timed.flushPacket inputs authData = .ok (numbered, after)) :
    Turns inputs timed after := by
  obtain ⟨flushed, flushes, connection, lastPingAt, lastGetFutureSaltAt, forceSendAt⟩ :=
    flushPacket_fields returned
  have drains := drains_flushPacket flushes
  rw [← connection] at forceSendAt
  have isTcpAfter : after.connection.mode = .tcp := by rw [connection, drains.mode, isTcp]
  have pinged (hasSalt : timed.salts.hasSalt inputs.now = true) :
      after.mustPing inputs = false := by
    rw [hasSalt, Bool.true_and] at lastPingAt
    exact mustPing_of_flushed isTcp isTcpAfter positive lastPingAt
  have salts := mayGetSalts_of_flushed positive lastGetFutureSaltAt
  constructor
  · rw [connection]
    exact drains.mode
  · rw [connection]
    exact drains.toSend
  · rw [connection]
    exact drains.backlog_le
  · rw [connection]
    exact drains.backlog_lt
  · unfold mustSend
    rw [decide_eq_true_eq, decide_eq_true_eq, forceSendAt]
    split
    · intro due
      exact absurd rfl due.1
    · exact id
  · intro nothing
    rw [if_pos (Or.inr nothing)] at forceSendAt
    simp [mustSend, forceSendAt]
  · cases hasSalt : timed.salts.hasSalt inputs.now with
    | true =>
      rw [pinged hasSalt]
      nofun
    | false =>
      rw [hasSalt, Bool.false_and, if_neg Bool.false_ne_true] at lastPingAt
      simp only [mustPing, lastPingAt, isTcp, isTcpAfter]
      exact id
  · exact pinged
  · unfold mustDestroy
    rw [connection]
    cases needed : timed.connection.needDestroyAuthKey with
    | true => simp [drains.destroys needed]
    | false => simp [drains.needDestroyAuthKey, needed]
  · intro may
    exact (salts may).2
  · intro noSalt
    rw [Bool.eq_false_iff]
    intro may
    obtain ⟨notAsked, mayBefore⟩ := salts may
    refine notAsked ⟨by simp [isTcp], ?_⟩
    have needed : timed.salts.needFutureSalts inputs.now = true := by
      unfold Salts.needFutureSalts
      unfold Salts.hasSalt at noSalt
      simp [noSalt]
    simp [flushInputs, needed, mayBefore]

theorem rank_lt (turns : Turns inputs timed after) (reason : timed.Reason inputs) :
    after.rank inputs < timed.rank inputs := by
  have backlogs := turns.backlog_le
  have sends := toNat_le_of_imp turns.mustSend
  have pings := toNat_le_of_imp turns.mustPing
  have salts := toNat_le_of_imp turns.mayGetSalts
  unfold rank
  rw [turns.destroyed, Bool.toNat_false]
  rcases reason with ⟨hasSalt, due⟩ | ⟨noSalt, due⟩
  · have fewer := turns.backlog_lt hasSalt
    rw [turns.pinged hasSalt, Bool.toNat_false]
    rcases Nat.eq_zero_or_pos (backlog timed.connection) with none | some
    · -- Nothing waits, so that the packet was due for another reason, or is the last one.
      rw [turns.sent (by omega), Bool.toNat_false]
      rcases due with due | due | due
      all_goals
        rw [due, Bool.toNat_true]
        omega
    · have fewer := fewer some
      omega
  · rw [turns.asked noSalt, due, Bool.toNat_true, Bool.toNat_false]
    omega

end Turn

theorem beforeWrite_succ (isTcp : timed.connection.mode = .tcp) (positive : 0 < inputs.now)
    (turns : Nat) :
    (∃ ready, beforeWrite inputs (turns + 1) authData timed = .ok (some (authData, ready))) ∨
      ∃ ready : TimedConnection,
        ready.connection = timed.connection ∧
          beforeWrite inputs (turns + 1) authData timed =
            (ready.flushPacket inputs authData >>= fun next =>
              beforeWrite inputs turns next.1 next.2) ∧
          ∀ numbered after, ready.flushPacket inputs authData = .ok (numbered, after) →
              after.rank inputs < timed.rank inputs ∧
                after.connection.mode = .tcp ∧
                after.connection.toSend <:+ timed.connection.toSend := by
  cases isFlush : timed.mustFlushPacket inputs with
  | mk must ready =>
    cases must with
    | false =>
      refine Or.inl ⟨ready, ?_⟩
      simp only [beforeWrite, isFlush]
    | true =>
      obtain ⟨same, sameRank, reason⟩ := mustFlushPacket_eq_true isTcp isFlush
      rw [← same] at isTcp
      refine Or.inr ⟨ready, same, ?_, ?_⟩
      · simp only [beforeWrite, isFlush]
      · intro numbered after returned
        have turns := turns_of_flushPacket isTcp positive returned
        rw [← sameRank, ← same]
        exact ⟨rank_lt turns reason, turns.mode.trans isTcp, turns.toSend⟩

/-! ## Packets that can be stored -/

theorem returns_queryVector {header : Bytes} {queries : List MtprotoQuery}
    (storable : ∀ query ∈ queries, Returns (query.storer header)) :
    Returns (queryVector header queries) := by
  induction queries with
  | nil => exact returns_ok _
  | cons query queries ih =>
    obtain ⟨first, isFirst⟩ := storable query mem_cons_self
    obtain ⟨others, isOthers⟩ :=
      ih (fun other isMember => storable other (mem_cons_of_mem _ isMember))
    refine ⟨first.concat others, ?_⟩
    rw [queryVector, isFirst, ok_bind, isOthers]
    rfl

theorem returns_new (limited : SessionConnection.Limited contents)
    (storable : ∀ query ∈ contents.toSend, Returns (query.storer contents.header))
    (some : 0 < contents.toSend.length + contents.serviceObjects.length)
    (few : contents.toSend.length + contents.serviceObjects.length < 2 ^ 31) (serverTime : Rat)
    (authData : AuthData) : Returns (CryptoImpl.new contents serverTime authData) := by
  have short {messageIds : List MessageId} (bound : messageIds.length ≤ maxMessageIds) :
      checkVector messageIds = .ok () := by
    refine check_eq_ok (bound.trans_lt ?_)
    decide
  have vectors : contents.checkVectors = .ok () := by
    rw [PacketContents.checkVectors, short limited.toAck, ok_bind,
      short limited.getInfo, ok_bind, short limited.resend]
  obtain ⟨queries, isQueries⟩ := returns_queryVector storable
  have sameLength := congrArg length (issueAll_objects contents.serviceObjects authData)
  rw [length_map] at sameLength
  rw [← sameLength] at some few
  have notZero : Int32.ofNat
          (contents.toSend.length + (issueAll contents.serviceObjects authData).1.length) ≠ 0 := by
    intro isZero
    have isZero := congrArg Int32.toInt isZero
    rw [Int32.toInt_ofNat_of_lt few, Int32.toInt_zero] at isZero
    omega
  rw [CryptoImpl.new, vectors, ok_bind, isQueries, ok_bind]
  dsimp only
  rw [check_eq_ok notZero, ok_bind]
  split
  · exact returns_ok _
  case isFalse notMany =>
    rw [CryptoImpl.needsContainer_iff few serverTime, not_or] at notMany
    have one := Nat.le_antisymm (Nat.le_of_not_lt notMany.1) some
    obtain ⟨only, isOnly⟩ : Returns (CryptoImpl.onlyType contents.toSend
        (issueAll contents.serviceObjects authData).1) := by
      cases isToSend : contents.toSend with
      | nil =>
        rw [isToSend, length_nil, Nat.zero_add, length_eq_one_iff] at one
        obtain ⟨message, isMessage⟩ := one
        rw [isMessage, CryptoImpl.onlyType_service]
        exact returns_ok _
      | cons query rest =>
        rw [isToSend, length_cons] at one
        have noRest : rest = [] := length_eq_zero_iff.mp (by omega)
        rw [CryptoImpl.onlyType, check_eq_ok noRest]
        exact returns_ok _
    rw [isOnly]
    exact returns_ok _

theorem objectImpl_eq_nil_iff {notEmpty : Bool} {kind : ServiceKind} {object : Bytes} :
    objectImpl notEmpty kind object = [] ↔ notEmpty = false := by
  cases notEmpty <;> simp [objectImpl]

theorem eq_nil_of_cutTail (positive : 0 < size)
    (nothing : (SessionConnection.cutTail size messageIds).1 = []) : messageIds = [] := by
  by_contra notEmpty
  have some := length_cutTail_pos positive (length_pos_iff.mpr notEmpty)
  simp [nothing] at some

theorem nonempty_of_packet
    (isPacket : ¬connection.isEmptyPacket (connection.packetContents found pingId) = true) : 0 <
      (connection.packetContents found pingId).toSend.length +
        (connection.packetContents found pingId).serviceObjects.length := by
  have size : 0 < maxMessageIds := by decide
  have cancels : 0 < maxQueryCount := by decide
  by_contra isEmpty
  refine isPacket ?_
  have noQueries : (connection.packetContents found pingId).toSend = [] :=
    length_eq_zero_iff.mp (by omega)
  have noService : (connection.packetContents found pingId).serviceObjects = [] :=
    length_eq_zero_iff.mp (by omega)
  simp only [PacketContents.serviceObjects, append_eq_nil_iff,
    objectImpl_eq_nil_iff, Bool.not_eq_false', List.isEmpty_iff,
    decide_eq_false_iff_not, List.flatMap_eq_nil_iff, not_not] at noService
  obtain ⟨⟨⟨⟨⟨⟨⟨toAck, wait⟩, salts⟩, getInfo⟩, resend⟩, cancel⟩, destroy⟩, ping⟩ := noService
  have noAcks : connection.toAckMessageIds = [] := eq_nil_of_cutTail size toAck
  have noResends : connection.toResendAnswerMessageIds = [] := eq_nil_of_cutTail size resend
  have noInfo : connection.toGetStateInfoMessageIds = [] := eq_nil_of_cutTail size getInfo
  have noCancels : connection.toCancelAnswerMessageIds = [] := by
    have none : (connection.packetContents found pingId).cancel = [] :=
      List.eq_nil_iff_forall_not_mem.mpr fun messageId isMember =>
        Bool.noConfusion (cancel messageId isMember)
    refine eq_nil_of_cutTail cancels (?_ : (cutTail
      (maxQueryCount - ([] : List MtprotoQuery).length)
        connection.toCancelAnswerMessageIds).1 = [])
    rw [← noQueries]
    exact none
  have noSalts : (connection.packetContents found pingId).futureSaltN = 0 := by
    simp only [packetContents] at salts ⊢
    split
    case isTrue asks =>
      rw [if_pos asks] at salts
      exact absurd (by decide) salts
    case isFalse => rfl
  simp [isEmptyPacket, noQueries, noAcks, noResends,
    noInfo, noCancels, noSalts, destroy, ping, Int32.not_le.mp wait]

theorem returns_flushPacket
    (storable : ∀ query ∈ timed.connection.toSend, Returns (query.storer inputs.header)) :
    Returns (timed.flushPacket inputs authData) := by
  obtain ⟨flushed, isFlushed⟩ :
      Returns (timed.connection.flushPacket (timed.flushInputs inputs) authData) := by
    have limited := limited_packetContents (timed.flushInputs inputs)
        (nextPingId (timed.flushInputs inputs) authData).1
        timed.connection
    rw [SessionConnection.flushPacket]
    dsimp only
    split
    · exact returns_ok _
    case isFalse isPacket =>
      obtain ⟨made, isMade⟩ := returns_new limited
          (fun query isMember => storable query (mem_of_mem_take isMember))
          (nonempty_of_packet isPacket)
          (packetContents_few _ _ _)
          (timed.flushInputs inputs).serverTime
          (nextPingId (timed.flushInputs inputs) authData).2
      rw [check_eq_ok (le_trans (Nat.le_add_right _ _) limited.queries), ok_bind, isMade]
      exact returns_ok _
  rw [flushPacket, isFlushed]
  exact returns_ok _

/--
The loop of `before_write` ends, whatever waits, after as many turns as there
are reasons to send a packet and queries and identifiers that wait. It does not
abort if the queries can be stored.
-/
theorem beforeWrite_terminates
    (inputs : WriteInputs)
    (authData : AuthData)
    (timed : TimedConnection)
    (isTcp : timed.connection.mode = .tcp)
    (positive : 0 < inputs.now)
    (turns : Nat)
    (enough : timed.rank inputs < turns) :
    beforeWrite inputs turns authData timed ≠ .ok none ∧
      ((∀ query ∈ timed.connection.toSend, Returns (query.storer inputs.header)) →
        ∃ result, beforeWrite inputs turns authData timed = .ok (some result)) := by
  induction turns generalizing authData timed with
  | zero => exact absurd enough (Nat.not_lt_zero _)
  | succ turns ih =>
    rcases beforeWrite_succ isTcp positive turns with
      ⟨ready, ended⟩ | ⟨ready, same, goesOn, lower⟩
    · rw [ended]
      exact ⟨nofun, fun _ => ⟨_, rfl⟩⟩
    · rw [goesOn]
      cases returned : ready.flushPacket inputs authData with
      | error fault =>
        refine ⟨nofun, ?_⟩
        intro storable
        rw [← same] at storable
        obtain ⟨_, returns⟩ := returns_flushPacket storable
        rw [returned] at returns
        cases returns
      | ok next =>
        obtain ⟨lowers, isTcp, toSend⟩ := lower next.1 next.2 returned
        obtain ⟨notNone, ends⟩ := ih next.1 next.2 isTcp
            (Nat.lt_of_lt_of_le lowers (Nat.le_of_lt_succ enough))
        refine ⟨notNone, ?_⟩
        intro storable
        exact ends (fun query isMember => storable query (toSend.subset isMember))

/-- Online, ten seconds after the start of the clock. -/
def writingInputs : WriteInputs where
  now := 10
  hasAuthKey := true
  canSend := true
  onlineFlag := true
  isMain := true
  extraRtt := 0
  randomDelay := 0
  lastPongAt := 9
  lastReadAt := 9
  header := []

/-- Everything is due: a query, a ping, the end of the key. -/
def busyConnection : TimedConnection where
  connection :=
    { mode := .tcp
      toSend := [⟨4, 1, [1, 2, 3, 4], false, [], false⟩]
      toAckMessageIds := [5]
      needDestroyAuthKey := true }
  salts := { serverSalt := ⟨0, 1000⟩ }
  forceSendAt := 1
  lastPingAt := 2

/-- All of it is sent before the connection writes. -/
theorem busyConnection_written : ∃ result,
      beforeWrite writingInputs (busyConnection.rank writingInputs + 1)
        CryptoImpl.zeroDraws busyConnection = .ok (some result) :=
  (beforeWrite_terminates writingInputs CryptoImpl.zeroDraws busyConnection rfl
    (by decide) _ (Nat.lt_succ_self _)).2
      (fun query isMember => by
        cases mem_singleton.mp isMember
        exact ⟨_, rfl⟩)

end TimedConnection

end Autoproto.Mtproto
