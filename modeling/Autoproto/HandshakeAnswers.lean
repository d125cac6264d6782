import Autoproto.Handshake

namespace Autoproto.Mtproto

open ByteEncoding

/-!
# What an accepted answer says

`on_message` accepts an answer or refuses it.  A refused answer brings the handshake back to its
start.
-/

namespace AuthKeyHandshake

structure AcceptsResPq (draws : HandshakeDraws) (before : AuthKeyHandshake) (message : Bytes)
    (after : AuthKeyHandshake) (answer : ResPq) : Prop where
  fetched : fetchResPq message = some answer
  nonce : answer.nonce = before.nonce
  sameNonce : after.nonce = before.nonce
  serverNonce : after.serverNonce = answer.serverNonce
  newNonce : after.newNonce = draws.newNonce
  lastQuery : ∃ p q fingerprint encryptedData,
      reqDhParams after.nonce after.serverNonce p q fingerprint encryptedData = .ok after.lastQuery
  state : after.state = .serverDhParams

/-- The numbers of an answer pass the checks, and give a key. -/
def ExchangesKey (context : HandshakeContext) (draws : HandshakeDraws)
    (innerData : ServerDhInnerData) (key : Bytes) : Prop :=
  ∃ configured dh checked keyId,
    DhHandshake.setConfig {} draws.b innerData.g innerData.dhPrime = .ok configured ∧
      configured.setGA context.primitives innerData.gA = .ok dh ∧
      dh.runChecks context.isPrime false context.dhCallback = .ok checked ∧
      checked.status = .ok () ∧
      dh.genKey context.primitives = .ok (keyId, key)

/-- The inner data has the right hash and nonces. -/
structure OpensServerDhParams (primitives : Primitives) (before : AuthKeyHandshake)
    (message : Bytes) (answer : ServerDhParams) (innerData : ServerDhInnerData) : Prop where
  fetched : fetchServerDhParams message = some answer
  nonce : answer.nonce = before.nonce
  serverNonce : answer.serverNonce = before.serverNonce
  hash : ∃ decrypted answerSha1 rest, decrypted =
          primitives.igeDecrypt (before.tmpKdf primitives).key
            (before.tmpKdf primitives).iv answer.encryptedAnswer ∧
        fetchAnswerWithHash decrypted = some (answerSha1, innerData, rest) ∧
        rest.length < 16 ∧
        answerSha1 = primitives.sha1 (part decrypted 20 (decrypted.length - rest.length - 20))
  innerNonce : innerData.nonce = before.nonce
  innerServerNonce : innerData.serverNonce = before.serverNonce

structure AcceptsServerDhParams (context : HandshakeContext) (draws : HandshakeDraws)
    (before : AuthKeyHandshake) (message : Bytes) (after : AuthKeyHandshake)
    (answer : ServerDhParams) (innerData : ServerDhInnerData) : Prop where
  opens : OpensServerDhParams context.primitives before message answer innerData
  key : ExchangesKey context draws innerData after.authKey.key
  sameNonce : after.nonce = before.nonce
  sameServerNonce : after.serverNonce = before.serverNonce
  sameNewNonce : after.newNonce = before.newNonce
  lastQuery : ∃ encryptedData,
      setClientDhParams after.nonce after.serverNonce encryptedData = .ok after.lastQuery
  state : after.state = .dhGenResponse

structure AcceptsDhGenOk (primitives : Primitives) (before : AuthKeyHandshake) (message : Bytes)
    (after : AuthKeyHandshake) : Prop where
  fetched : ∃ hash : FixedBytes 16,
      fetchDhGenAnswer message = some (.ok before.nonce before.serverNonce hash) ∧
        hash.val = newNonceHash1 primitives before.newNonce before.authKey.key
  after : after = { before with state := .finish }

/-- A call of `on_message` that refuses the answer. -/
structure Refuses (handled : Handled) : Prop where
  error : ∃ error, handled.status = .error error
  state : handled.handshake.state = .start
  lastQuery : handled.handshake.lastQuery = []

inductive Accepts (context : HandshakeContext) (draws : HandshakeDraws) (before : AuthKeyHandshake)
    (message : Bytes) (after : AuthKeyHandshake) : Prop where
  | resPq (answer : ResPq) (state : before.state = .resPq)
      (accepted : AcceptsResPq draws before message after answer)
  | serverDhParams (answer : ServerDhParams) (innerData : ServerDhInnerData)
      (state : before.state = .serverDhParams)
      (accepted : AcceptsServerDhParams context draws before message after answer innerData)
  | dhGenOk (state : before.state = .dhGenResponse)
      (accepted : AcceptsDhGenOk context.primitives before message after)

section Inversion

variable {context : HandshakeContext} {draws : HandshakeDraws} {before : AuthKeyHandshake}
  {message : Bytes} {handled : Handled}

theorem status_of_refuse {handshake : AuthKeyHandshake} {error : HandshakeError}
    (refused : refuse handshake error = .ok handled) : handled.status ≠ .ok () := by
  cases refused
  simp

theorem accepted_of_sendReqDhParams {rsaKey : RsaKey} {pq p q : Bytes}
    (ok : handled.status = .ok ())
    (returned : sendReqDhParams context draws before rsaKey pq p q = .ok handled) :
    handled.handshake.nonce = before.nonce ∧ handled.handshake.serverNonce = before.serverNonce ∧
      handled.handshake.newNonce = draws.newNonce ∧
      (∃ p q fingerprint encryptedData, reqDhParams before.nonce before.serverNonce p q fingerprint
          encryptedData = .ok handled.handshake.lastQuery) ∧
      handled.handshake.state = .serverDhParams := by
  have kept : ∀ handshake : AuthKeyHandshake, ∀ expiresAt,
        (handshake.noteExpiresAt expiresAt).nonce = handshake.nonce ∧
          (handshake.noteExpiresAt expiresAt).serverNonce = handshake.serverNonce ∧
          (handshake.noteExpiresAt expiresAt).newNonce = handshake.newNonce := by
    intro handshake expiresAt
    rw [noteExpiresAt]
    cases handshake.mode <;> exact ⟨rfl, rfl, rfl⟩
  obtain ⟨data, stored, returned⟩ := bind_eq_ok returned
  split at returned
  · exact absurd ok (status_of_refuse returned)
  · obtain ⟨encryptedData, _, returned⟩ := bind_eq_ok returned
    obtain ⟨query, request, returned⟩ := bind_eq_ok returned
    cases returned
    have sent := kept { before with newNonce := draws.newNonce } draws.expiresAt
    rw [sent.1, sent.2.1] at request
    exact ⟨sent.1, sent.2.1, sent.2.2, ⟨p, q, _, _, request⟩, rfl⟩

theorem accepts_of_onResPq (ok : handled.status = .ok ())
    (returned : onResPq context draws before message = .ok handled) :
    ∃ answer, AcceptsResPq draws before message handled.handshake answer := by
  rw [onResPq] at returned
  split at returned
  · exact absurd ok (status_of_refuse returned)
  split at returned
  · exact absurd ok (status_of_refuse returned)
  rename_i answer fetched
  split at returned
  · exact absurd ok (status_of_refuse returned)
  rename_i nonce
  split at returned
  · exact absurd ok (status_of_refuse returned)
  obtain ⟨factors, _, returned⟩ := bind_eq_ok returned
  split at returned
  · exact absurd ok (status_of_refuse returned)
  · obtain ⟨sameNonce, serverNonce, newNonce, lastQuery, state⟩ :=
      accepted_of_sendReqDhParams ok returned
    refine ⟨answer, fetched, Decidable.not_not.mp nonce, sameNonce,
      serverNonce, newNonce, ?_, state⟩
    rw [sameNonce, serverNonce]
    exact lastQuery

theorem opens_of_openServerDhParams {primitives : Primitives} {innerData : ServerDhInnerData}
    (opened : openServerDhParams primitives before message = .ok (.ok innerData)) :
    ∃ answer, OpensServerDhParams primitives before message answer innerData := by
  rw [openServerDhParams] at opened
  split at opened
  · cases opened
  rename_i answer fetched
  split at opened
  · cases opened
  rename_i nonce
  split at opened
  · cases opened
  rename_i serverNonce
  split at opened
  · cases opened
  obtain ⟨decrypted, decryption, opened⟩ := bind_eq_ok opened
  obtain ⟨_, _, decryption⟩ := bind_eq_ok decryption
  cases decryption
  split at opened
  · cases opened
  rename_i answerSha1 found rest fetchedInner
  dsimp only at opened
  split at opened
  · cases opened
  rename_i pad
  obtain ⟨innerBytes, isPart, opened⟩ := bind_eq_ok opened
  obtain ⟨_, _, isPart⟩ := bind_eq_ok isPart
  cases isPart
  split at opened
  · cases opened
  rename_i sha1
  split at opened
  · cases opened
  rename_i innerNonce
  split at opened
  · cases opened
  rename_i innerServerNonce
  cases opened
  exact ⟨answer, fetched, Decidable.not_not.mp nonce, Decidable.not_not.mp serverNonce,
    ⟨_, answerSha1, rest, rfl, fetchedInner, Nat.lt_of_not_le pad, Decidable.not_not.mp sha1⟩,
    Decidable.not_not.mp innerNonce, Decidable.not_not.mp innerServerNonce⟩

theorem accepts_of_onServerDhParams (ok : handled.status = .ok ())
    (returned : onServerDhParams context draws before message = .ok handled) : ∃ answer innerData,
      AcceptsServerDhParams context draws before message handled.handshake answer innerData := by
  rw [onServerDhParams] at returned
  split at returned
  · exact absurd ok (status_of_refuse returned)
  obtain ⟨opened, opens, returned⟩ := bind_eq_ok returned
  split at returned
  · exact absurd ok (status_of_refuse returned)
  rename_i innerData
  obtain ⟨answer, isOpened⟩ := opens_of_openServerDhParams opens
  obtain ⟨configured, isConfigured, returned⟩ := bind_eq_ok returned
  obtain ⟨dh, hasGA, returned⟩ := bind_eq_ok returned
  obtain ⟨checked, isChecked, returned⟩ := bind_eq_ok returned
  split at returned
  · exact absurd ok (status_of_refuse returned)
  rename_i _ status
  obtain ⟨gB, _, returned⟩ := bind_eq_ok returned
  obtain ⟨⟨keyId, key⟩, isKey, returned⟩ := bind_eq_ok returned
  obtain ⟨encryptedData, _, returned⟩ := bind_eq_ok returned
  obtain ⟨query, request, returned⟩ := bind_eq_ok returned
  cases returned
  exact ⟨answer, innerData, isOpened,
    ⟨configured, dh, checked, keyId, isConfigured, hasGA, isChecked, status, isKey⟩,
    rfl, rfl, rfl, ⟨encryptedData, request⟩, rfl⟩

theorem accepts_of_onDhGenResponse (ok : handled.status = .ok ())
    (returned : onDhGenResponse context before message = .ok handled) :
    AcceptsDhGenOk context.primitives before message handled.handshake := by
  rw [onDhGenResponse] at returned
  split at returned
  · exact absurd ok (status_of_refuse returned)
  · rename_i nonce serverNonce hash fetched
    split at returned
    · exact absurd ok (status_of_refuse returned)
    rename_i sameNonce
    split at returned
    · exact absurd ok (status_of_refuse returned)
    rename_i sameServerNonce
    split at returned
    · exact absurd ok (status_of_refuse returned)
    rename_i sameHash
    cases returned
    rw [Decidable.not_not.mp sameNonce, Decidable.not_not.mp sameServerNonce] at fetched
    exact ⟨⟨hash, fetched, Decidable.not_not.mp sameHash⟩, rfl⟩
  all_goals exact absurd ok (status_of_refuse returned)

theorem refuses_or_accepts (returned : before.onMessage context draws message = .ok handled) :
    Refuses handled ∨
      (handled.status = .ok () ∧ Accepts context draws before message handled.handshake) := by
  obtain ⟨dispatched, isDispatched, returned⟩ := bind_eq_ok returned
  split at returned
  · rename_i _ ok
    cases returned
    refine Or.inr ⟨ok, ?_⟩
    rw [dispatch] at isDispatched
    split at isDispatched
    · rename_i state
      obtain ⟨answer, accepted⟩ := accepts_of_onResPq ok isDispatched
      exact .resPq answer state accepted
    · rename_i state
      obtain ⟨answer, innerData, accepted⟩ := accepts_of_onServerDhParams ok isDispatched
      exact .serverDhParams answer innerData state accepted
    · rename_i state
      exact .dhGenOk state (accepts_of_onDhGenResponse ok isDispatched)
    · cases isDispatched
    · cases isDispatched
  · rename_i error failed
    cases returned
    exact Or.inl ⟨⟨error, failed⟩, rfl, rfl⟩

end Inversion

/-! ## The request that is awaited -/

/-- The request whose answer is awaited in a state. -/
def AwaitsAnswer (handshake : AuthKeyHandshake) : Prop :=
  match handshake.state with
  | .start => handshake.lastQuery = []
  | .resPq => handshake.lastQuery = reqPqMulti handshake.nonce
  | .serverDhParams =>
    ∃ p q fingerprint encryptedData,
      reqDhParams handshake.nonce handshake.serverNonce p q fingerprint
        encryptedData = .ok handshake.lastQuery
  | .dhGenResponse =>
    ∃ encryptedData, setClientDhParams handshake.nonce handshake.serverNonce
        encryptedData = .ok handshake.lastQuery
  | .finish => True

theorem Accepts.awaitsAnswer {context : HandshakeContext} {draws : HandshakeDraws}
    {before after : AuthKeyHandshake} {message : Bytes}
    (accepts : Accepts context draws before message after) : after.AwaitsAnswer := by
  cases accepts with
  | resPq answer state accepted | serverDhParams answer innerData state accepted =>
    simp only [AwaitsAnswer, accepted.state]
    exact accepted.lastQuery
  | dhGenOk state accepted =>
    rw [accepted.after]
    trivial

theorem leOfNat_append_ne (width number : Nat) (rest : Bytes) :
    leOfNat (width + 1) number ++ rest ≠ [] := by
  simp [leOfNat]

/-- A request is never empty. -/
theorem AwaitsAnswer.lastQuery_ne {handshake : AuthKeyHandshake} (awaits : handshake.AwaitsAnswer)
    (notStart : handshake.state ≠ .start) (notFinish : handshake.state ≠ .finish) :
    handshake.lastQuery ≠ [] := by
  rw [AwaitsAnswer] at awaits
  split at awaits
  · contradiction
  · rw [awaits]
    exact leOfNat_append_ne 3 _ _
  · obtain ⟨p, q, fingerprint, encryptedData, request⟩ := awaits
    obtain ⟨_, _, request⟩ := bind_eq_ok request
    obtain ⟨_, _, request⟩ := bind_eq_ok request
    obtain ⟨_, _, request⟩ := bind_eq_ok request
    rw [← Except.ok.inj request]
    exact leOfNat_append_ne 3 _ _
  · obtain ⟨encryptedData, request⟩ := awaits
    obtain ⟨_, _, request⟩ := bind_eq_ok request
    rw [← Except.ok.inj request]
    exact leOfNat_append_ne 3 _ _
  · contradiction

theorem AwaitsAnswer.resume_eq {handshake : AuthKeyHandshake} (awaits : handshake.AwaitsAnswer)
    (notStart : handshake.state ≠ .start) (notFinish : handshake.state ≠ .finish)
    (nonce : FixedBytes 16) : (handshake.resume nonce).1 = handshake := by
  have notEmpty := awaits.lastQuery_ne notStart notFinish
  rw [AuthKeyHandshake.resume]
  split
  · contradiction
  · contradiction
  · rw [if_neg notEmpty]

end AuthKeyHandshake

end Autoproto.Mtproto
