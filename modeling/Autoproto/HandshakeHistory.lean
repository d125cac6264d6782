import Autoproto.HandshakeAnswers
import Autoproto.Transition

namespace Autoproto.Mtproto

open ByteEncoding

/-!
# The history of a handshake

A finished handshake owes its key to three answers. Beside the handshake its
history is kept: the nonce that the last `on_start` has drawn, and the answers
accepted since. The invariant says, for each state, which fields belong to the
attempt that is going on, as those of an earlier one are not cleared.
-/

structure HandshakeCall where
  context : HandshakeContext
  draws : HandshakeDraws
  message : Bytes

/-- The last nonce, and the answers accepted since. -/
structure HandshakeAttempt where
  nonce : FixedBytes 16
  accepted : List HandshakeCall

structure TrackedHandshake where
  handshake : AuthKeyHandshake
  attempt : Option HandshakeAttempt := none

inductive HandshakeEvent where
  | resume (nonce : FixedBytes 16)
  | onMessage (call : HandshakeCall)
  | clear
  | onFinish

namespace TrackedHandshake

def new (dcId expiresIn : Int32) : TrackedHandshake :=
  { handshake := .new dcId expiresIn }

def extend (attempt : Option HandshakeAttempt) (call : HandshakeCall) : Option HandshakeAttempt :=
  attempt.map fun attempt => { attempt with accepted := attempt.accepted ++ [call] }

/-- What a call does to a handshake and its history. -/
def handle (tracked : TrackedHandshake) :
    HandshakeEvent → Except Fault TrackedHandshake
  | .resume nonce =>
    .ok {
      handshake := (tracked.handshake.resume nonce).1
      attempt :=
        -- only a handshake at its start calls `on_start`
        if tracked.handshake.state = .start then
          some ⟨nonce, []⟩
        else
          tracked.attempt }
  | .onMessage call => do
      let handled ← tracked.handshake.onMessage call.context call.draws call.message
      return {
        handshake := handled.handshake
        attempt :=
          match handled.status with
          | .ok _ => extend tracked.attempt call
          | .error _ => tracked.attempt }
  | .clear => .ok { tracked with handshake := tracked.handshake.clear }
  | .onFinish => .ok { tracked with handshake := tracked.handshake.onFinish }

/-- A call that returns. -/
def Step (before : TrackedHandshake) (event : HandshakeEvent) (after : TrackedHandshake) : Prop :=
  before.handle event = .ok after

end TrackedHandshake

namespace AuthKeyHandshake

/-- The call has accepted a `resPQ` with the nonce, and brought the two other nonces. -/
def AnsweredResPq (handshake : AuthKeyHandshake) (call : HandshakeCall) : Prop :=
  ∃ answer, fetchResPq call.message = some answer ∧
      answer.nonce = handshake.nonce ∧
      answer.serverNonce = handshake.serverNonce ∧
      call.draws.newNonce = handshake.newNonce

/-- The call has accepted parameters with both nonces, under the new nonce, and brought the key. -/
def AnsweredDhParams (handshake : AuthKeyHandshake) (call : HandshakeCall) : Prop :=
  ∃ answer innerData,
    OpensServerDhParams call.context.primitives handshake call.message answer innerData ∧
      ExchangesKey call.context call.draws innerData handshake.authKey.key

/-- The call has accepted a `dh_gen_ok` with both nonces and the hash of the third and the key. -/
def AnsweredDhGen (handshake : AuthKeyHandshake) (call : HandshakeCall) : Prop :=
  ∃ hash : FixedBytes 16,
    fetchDhGenAnswer call.message = some (.ok handshake.nonce handshake.serverNonce hash) ∧
      hash.val = newNonceHash1 call.context.primitives handshake.newNonce handshake.authKey.key

/-- The answers that have been accepted in a state. -/
def HasAnswers (handshake : AuthKeyHandshake) (attempt : Option HandshakeAttempt) : Prop :=
  match handshake.state with
  | .start => True
  | .resPq => attempt = some ⟨handshake.nonce, []⟩
  | .serverDhParams =>
    ∃ resPq, attempt = some ⟨handshake.nonce, [resPq]⟩ ∧ handshake.AnsweredResPq resPq
  | .dhGenResponse =>
    ∃ resPq dhParams, attempt = some ⟨handshake.nonce, [resPq, dhParams]⟩ ∧
        handshake.AnsweredResPq resPq ∧
        handshake.AnsweredDhParams dhParams
  | .finish =>
    ∃ resPq dhParams dhGen, attempt = some ⟨handshake.nonce, [resPq, dhParams, dhGen]⟩ ∧
        handshake.AnsweredResPq resPq ∧
        handshake.AnsweredDhParams dhParams ∧
        handshake.AnsweredDhGen dhGen

variable {before after : AuthKeyHandshake}

theorem AnsweredResPq.congr {call : HandshakeCall} (answered : before.AnsweredResPq call)
    (nonce : after.nonce = before.nonce) (serverNonce : after.serverNonce = before.serverNonce)
    (newNonce : after.newNonce = before.newNonce) : after.AnsweredResPq call := by
  rw [AnsweredResPq, nonce, serverNonce, newNonce]
  exact answered

theorem OpensServerDhParams.congr {primitives : Primitives} {message : Bytes}
    {answer : ServerDhParams} {innerData : ServerDhInnerData}
    (opens : OpensServerDhParams primitives before message answer innerData)
    (nonce : after.nonce = before.nonce) (serverNonce : after.serverNonce = before.serverNonce)
    (newNonce : after.newNonce = before.newNonce) :
    OpensServerDhParams primitives after message answer innerData := by
  have sameKey : after.tmpKdf primitives = before.tmpKdf primitives := by
    rw [tmpKdf, tmpKdf, serverNonce, newNonce]
  exact ⟨opens.fetched, opens.nonce.trans nonce.symm, opens.serverNonce.trans serverNonce.symm,
    by rw [sameKey]; exact opens.hash,
    opens.innerNonce.trans nonce.symm,
    opens.innerServerNonce.trans serverNonce.symm⟩

theorem Accepts.hasAnswers {attempt : Option HandshakeAttempt} {call : HandshakeCall}
    (accepts : Accepts call.context call.draws before call.message after)
    (has : before.HasAnswers attempt) :
    after.HasAnswers (TrackedHandshake.extend attempt call) := by
  cases accepts with
  | resPq answer state accepted =>
    simp only [HasAnswers, state] at has
    simp only [HasAnswers, accepted.state]
    refine ⟨call, ?_, answer, accepted.fetched, ?_, ?_, ?_⟩
    · rw [has, accepted.sameNonce]
      rfl
    · rw [accepted.nonce, accepted.sameNonce]
    · rw [accepted.serverNonce]
    · rw [accepted.newNonce]
  | serverDhParams answer innerData state accepted =>
    simp only [HasAnswers, state] at has
    obtain ⟨resPq, isAttempt, answered⟩ := has
    simp only [HasAnswers, accepted.state]
    refine ⟨resPq, call, ?_, ?_, answer, innerData, ?_, accepted.key⟩
    · rw [isAttempt, accepted.sameNonce]
      rfl
    · exact answered.congr accepted.sameNonce accepted.sameServerNonce accepted.sameNewNonce
    · exact accepted.opens.congr accepted.sameNonce accepted.sameServerNonce accepted.sameNewNonce
  | dhGenOk state accepted =>
    simp only [HasAnswers, state] at has
    obtain ⟨resPq, dhParams, isAttempt, answered, exchanged⟩ := has
    rw [accepted.after]
    refine ⟨resPq, dhParams, call, ?_, answered, ?_, accepted.fetched⟩
    · rw [isAttempt]
      rfl
    · obtain ⟨answer, innerData, opens, key⟩ := exchanged
      exact ⟨answer, innerData, opens.congr rfl rfl rfl, key⟩

end AuthKeyHandshake

open AuthKeyHandshake

/-- What holds of a handshake and its history between the calls. -/
structure TrackedHandshake.Consistent (tracked : TrackedHandshake) : Prop where
  awaits : tracked.handshake.AwaitsAnswer
  answers : tracked.handshake.HasAnswers tracked.attempt

theorem TrackedHandshake.consistent_clear (tracked : TrackedHandshake) :
    TrackedHandshake.Consistent { tracked with handshake := tracked.handshake.clear } :=
  ⟨rfl, trivial⟩

theorem TrackedHandshake.Consistent.resume {tracked : TrackedHandshake}
    (consistent : tracked.Consistent) (nonce : FixedBytes 16) : TrackedHandshake.Consistent {
      handshake := (tracked.handshake.resume nonce).1
      attempt :=
        if tracked.handshake.state = .start then
          some ⟨nonce, []⟩
        else
          tracked.attempt } := by
  by_cases start : tracked.handshake.state = .start
  · simp only [AuthKeyHandshake.resume, start]
    exact ⟨rfl, rfl⟩
  · rw [if_neg start]
    by_cases finish : tracked.handshake.state = .finish
    · simp only [AuthKeyHandshake.resume, finish]
      exact tracked.consistent_clear
    · rw [consistent.awaits.resume_eq start finish]
      exact consistent

theorem TrackedHandshake.Step.consistent {before after : TrackedHandshake} {event : HandshakeEvent}
    (consistent : before.Consistent) (step : TrackedHandshake.Step before event after) :
    after.Consistent := by
  cases event with
  | resume nonce =>
    cases step
    exact consistent.resume nonce
  | onMessage call =>
    obtain ⟨handled, returned, isAfter⟩ := bind_eq_ok step
    cases isAfter
    rcases refuses_or_accepts returned with refuses | ⟨ok, accepts⟩
    · refine ⟨?_, ?_⟩
      · simp only [AwaitsAnswer, refuses.state]
        exact refuses.lastQuery
      · simp only [HasAnswers, refuses.state]
    · simp only [ok]
      exact ⟨accepts.awaitsAnswer, accepts.hasAnswers consistent.answers⟩
  | clear | onFinish =>
    cases step
    exact before.consistent_clear

/--
A finished handshake has accepted, since its last start, one answer of each kind
with the nonces of that attempt; after an error it is at its start; and in
between it remembers the request whose answer it awaits.
-/
theorem finished_handshake_authentic
    (dcId expiresIn : Int32)
    (events : List HandshakeEvent)
    (reached : TrackedHandshake)
    (run : Transition.Run TrackedHandshake.Step (.new dcId expiresIn) events reached) :
    (reached.handshake.state = .finish → ∃ resPq dhParams dhGen,
          reached.attempt = some ⟨reached.handshake.nonce, [resPq, dhParams, dhGen]⟩ ∧
            reached.handshake.AnsweredResPq resPq ∧ reached.handshake.AnsweredDhParams dhParams ∧
            reached.handshake.AnsweredDhGen dhGen) ∧
      (∀ (call : HandshakeCall) (handled : Handled) (error : HandshakeError),
        reached.handshake.onMessage call.context call.draws call.message = .ok handled →
          handled.status = .error error →
            handled.handshake.state = .start ∧ handled.handshake.lastQuery = []) ∧
      reached.handshake.AwaitsAnswer ∧ (reached.handshake.state ≠ .start →
        reached.handshake.state ≠ .finish → reached.handshake.lastQuery ≠ []) := by
  have consistent : reached.Consistent := by
    induction run with
    | start => exact ⟨rfl, trivial⟩
    | extend _ last ih => exact last.consistent ih
  refine ⟨?_, ?_, consistent.awaits, consistent.awaits.lastQuery_ne⟩
  · intro finish
    have answers := consistent.answers
    simp only [HasAnswers, finish] at answers
    exact answers
  · intro call handled error returned failed
    rcases refuses_or_accepts returned with refuses | ⟨ok, _⟩
    · exact ⟨refuses.state, refuses.lastQuery⟩
    · cases failed.symm.trans ok

/-! ## A handshake that finishes -/

def zeros (size : Nat) : FixedBytes size :=
  ⟨List.replicate size 0, List.length_replicate⟩

/-- All fingerprints are known, all numbers are primes. -/
def simpleContext : HandshakeContext where
  primitives := default
  getRsaKey := fun _ => some ⟨2 ^ 2047, 1, 0, by decide +kernel, by decide +kernel⟩
  isPrime := fun _ => true
  dhCallback := none

def simpleDraws : HandshakeDraws where
  timeoutExpired := false
  factor := fun _ => 1
  bigFactors := fun _ => none
  newNonce := zeros 32
  secureBytes := zeros
  aesKeys := [zeros 32]
  b := 1000
  expiresAt := 0
  serverTimeDiff := fun _ => 0
  createdAt := fun _ => 0

/-- An answer `resPQ` with a number to factorize. -/
def resPqMessage (pq : Bytes) : Bytes :=
  leOfNat 4 0x05162463 ++ List.replicate 32 0 ++
    (UInt8.ofNat pq.length :: pq ++ Tl.padding (pq.length + 1)) ++
    leOfNat 4 0x1cb5c415 ++ leOfNat 4 1 ++ leOfNat 8 0

def storedNumber (number : Nat) : Bytes :=
  [254, 0, 1, 0] ++ beOfNat 256 number

def serverDhParamsMessage (dhPrime gA : Nat) : Bytes :=
  leOfNat 4 0xd0e8075c ++ List.replicate 32 0 ++ (254 :: leOfNat 3 592) ++
    (List.replicate 20 0 ++ leOfNat 4 0xb5890dba ++ List.replicate 32 0 ++
      leOfNat 4 4 ++ storedNumber dhPrime ++ storedNumber gA ++
      List.replicate 12 0)

def dhGenOkMessage : Bytes :=
  leOfNat 4 0x3bcbf734 ++ List.replicate 48 0

def finishingEvents : List HandshakeEvent :=
  [.resume (zeros 16), .onMessage ⟨simpleContext, simpleDraws, resPqMessage [21]⟩,
    .onMessage ⟨simpleContext, simpleDraws, serverDhParamsMessage (2 ^ 2048 - 1) (2 ^ 2000)⟩,
    .onMessage ⟨simpleContext, simpleDraws, dhGenOkMessage⟩]

theorem finishingEvents_state : (finishingEvents.foldlM TrackedHandshake.handle
      (.new 2 0)).toOption.map (fun tracked => tracked.handshake.state) =
      some .finish := by
  decide +kernel

/-- The handshake that finishes has accepted three answers. -/
theorem finishing_handshake_authentic : ∃ reached,
      finishingEvents.foldlM TrackedHandshake.handle (.new 2 0) = .ok reached ∧
        reached.handshake.state = .finish ∧ ∃ resPq dhParams dhGen,
          reached.attempt = some ⟨reached.handshake.nonce, [resPq, dhParams, dhGen]⟩ ∧
            reached.handshake.AnsweredResPq resPq ∧ reached.handshake.AnsweredDhParams dhParams ∧
            reached.handshake.AnsweredDhGen dhGen := by
  have state := finishingEvents_state
  cases returned : finishingEvents.foldlM TrackedHandshake.handle (.new 2 0) with
  | error failure =>
    rw [returned] at state
    cases state
  | ok reached =>
    rw [returned] at state
    have finish : reached.handshake.state = .finish := Option.some.inj state
    have run : Transition.Run TrackedHandshake.Step (.new 2 0) finishingEvents reached :=
      Transition.Run.start.foldlM (fun _ _ _ handled => handled) returned
    exact ⟨reached, rfl, finish,
      (finished_handshake_authentic 2 0 finishingEvents reached run).1 finish⟩

end Autoproto.Mtproto
