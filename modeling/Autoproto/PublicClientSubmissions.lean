import Autoproto.PublicClientMutex

namespace Autoproto.PublicClient

open List Function

/-!
# The submitted codes and passwords

A submission is pending until the loop picks it up, or a later one of its kind
replaces it.  It then goes to the `AuthManager` at once, or through the mailbox of
the `MtprotoClient`, which is dropped with the actor.
-/

/-! ## The way of a submission -/

@[ext] structure Submissions where
  pending : Credential → Option Nat
  mailbox : List Nat
  passed : List Nat
  replaced : List (Nat × Nat)
  dropped : List Nat
  submitted : Nat

/-- What can become of a submission. -/
inductive SubmissionStep (submissions : Submissions) : Submissions → Prop where
  | submit (credential : Credential) :
      SubmissionStep submissions
        { submissions with
          pending := update submissions.pending credential (some submissions.submitted)
          replaced :=
            submissions.replaced ++
              ((submissions.pending credential).map fun old => (old, submissions.submitted)).toList
          submitted := submissions.submitted + 1 }
  | pass {credential : Credential} {number : Nat} :
      submissions.pending credential = some number →
      SubmissionStep submissions
        { submissions with
          pending := update submissions.pending credential none
          passed := submissions.passed ++ [number] }
  | post {credential : Credential} {number : Nat} :
      submissions.pending credential = some number →
      SubmissionStep submissions
        { submissions with
          pending := update submissions.pending credential none
          mailbox := submissions.mailbox ++ [number] }
  | deliver {number : Nat} {rest : List Nat} :
      submissions.mailbox = number :: rest →
      SubmissionStep submissions
        { submissions with
          mailbox := rest
          passed := submissions.passed ++ [number] }
  | drop :
      SubmissionStep submissions
        { submissions with
          mailbox := []
          dropped := submissions.dropped ++ submissions.mailbox }

theorem SubmissionStep.congr {submissions result after : Submissions}
    (step : SubmissionStep submissions result) (same : after = result) :
    SubmissionStep submissions after :=
  same ▸ step

namespace Submissions

/-- How often a submission is pending. -/
def timesPending (pending : Credential → Option Nat) (number : Nat) : Nat :=
  (pending .code).toList.count number + (pending .password).toList.count number

def places (submissions : Submissions) (number : Nat) : Nat :=
  timesPending submissions.pending number +
    submissions.mailbox.count number +
    submissions.passed.count number +
    (submissions.replaced.map Prod.fst).count number +
    submissions.dropped.count number

structure Accounted (submissions : Submissions) : Prop where
  once : ∀ number, submissions.places number =
        if number < submissions.submitted then 1 else 0
  later : ∀ pair ∈ submissions.replaced, pair.1 < pair.2

/-- A slot gets something else. -/
theorem timesPending_update (pending : Credential → Option Nat) (credential : Credential)
    (new : Option Nat) (number : Nat) :
    timesPending (update pending credential new) number +
        (pending credential).toList.count number =
      timesPending pending number + new.toList.count number := by
  cases credential <;> simp [timesPending] <;> omega

variable {submissions after : Submissions}

section

variable (accounted : submissions.Accounted)
include accounted

theorem Accounted.lt_submitted {credential : Credential} {number : Nat}
    (isPending : submissions.pending credential = some number) :
    number < submissions.submitted := by
  have once := accounted.once number
  have isCounted : 1 ≤ timesPending submissions.pending number := by
    cases credential <;> simp [timesPending, isPending]
  rw [places] at once
  split at once
  · assumption
  · omega

theorem Accounted.once_step (step : SubmissionStep submissions after) (number : Nat) :
    after.places number = if number < after.submitted then 1 else 0 := by
  have once := accounted.once number
  unfold places at once ⊢
  cases step with
  | submit credential =>
    have updated :=
      timesPending_update submissions.pending credential (some submissions.submitted) number
    have replaced : ((((submissions.pending credential).map
            fun old => (old, submissions.submitted)).toList).map
            Prod.fst).count number =
          (submissions.pending credential).toList.count number := by
      cases submissions.pending credential <;> rfl
    simp only [map_append, count_append, replaced,
      Option.toList_some, count_singleton, beq_iff_eq] at updated ⊢
    split at updated <;> split at once <;> split <;> omega
  | @pass credential passed isPending | @post credential passed isPending =>
    have updated := timesPending_update submissions.pending credential none number
    rw [isPending, Option.toList_some, Option.toList_none, count_nil] at updated
    simp only [count_append]
    omega
  | deliver isMailbox =>
    rw [isMailbox, count_cons] at once
    simp only [count_append, count_singleton]
    omega
  | drop =>
    simp only [count_append, count_nil]
    omega

theorem Accounted.step (step : SubmissionStep submissions after) : after.Accounted := by
  refine ⟨accounted.once_step step, ?_⟩
  cases step with
  | submit credential =>
    intro pair isPair
    rcases mem_append.mp isPair with isOld | isNew
    · exact accounted.later pair isOld
    · obtain ⟨old, isPending, rfl⟩ := Option.map_eq_some_iff.mp (Option.mem_toList.mp isNew)
      exact accounted.lt_submitted isPending
  | _ => exact accounted.later

end

end Submissions

/-! ## The actor and its start -/

/-- The actor is started before anything else, and once. -/
def Actor.StartsFirst (actor : Actor) : Prop :=
  match actor.authManager with
  | none => ∃ rest, actor.mailbox = .start :: rest ∧ .start ∉ rest
  | some _ => .start ∉ actor.mailbox

namespace Actor.StartsFirst

variable {actor : Actor} {manager : AuthManager} {message : ClientMessage}
  {rest : List ClientMessage}

section

variable (starts : actor.StartsFirst)
include starts

theorem of_manager (isManager : actor.authManager = some manager) : .start ∉ actor.mailbox := by
  rw [Actor.StartsFirst, isManager] at starts
  exact starts

theorem exists_manager (notStart : actor.mailbox.head? ≠ some .start) :
    ∃ manager, actor.authManager = some manager := by
  rw [Actor.StartsFirst] at starts
  split at starts
  case h_1 =>
    obtain ⟨rest, isMailbox, _⟩ := starts
    rw [isMailbox] at notStart
    exact absurd rfl notStart
  case h_2 manager isManager => exact ⟨manager, isManager⟩

theorem notMem_rest (isMailbox : actor.mailbox = message :: rest) : .start ∉ rest := by
  rw [Actor.StartsFirst] at starts
  split at starts
  case h_1 =>
    obtain ⟨others, sameMailbox, notMem⟩ := starts
    rw [isMailbox] at sameMailbox
    cases sameMailbox
    exact notMem
  case h_2 =>
    rw [isMailbox] at starts
    exact fun isRest => starts (mem_cons_of_mem _ isRest)

theorem next {after : Actor} (isMailbox : actor.mailbox = message :: rest)
    (sameMailbox : after.mailbox = rest) (isManager : after.authManager = some manager) :
    after.StartsFirst := by
  rw [Actor.StartsFirst, isManager, sameMailbox]
  exact starts.notMem_rest isMailbox

/-- Another message has come. -/
theorem post (notStart : message ≠ .start) :
    Actor.StartsFirst { actor with mailbox := actor.mailbox ++ [message] } := by
  rw [Actor.StartsFirst] at starts ⊢
  dsimp only
  split at starts
  case h_1 =>
    obtain ⟨rest, isMailbox, notMem⟩ := starts
    refine ⟨rest ++ [message], by rw [isMailbox]; rfl, ?_⟩
    simp [notMem, notStart.symm]
  case h_2 => simp [starts, notStart.symm]

end

end Actor.StartsFirst

/-- Where there can be an `MtprotoClient`. -/
def RunPoint.canHaveActor : RunPoint → Bool
  | createActor | atFinish | reset => false
  | _ => true

structure Submitting (state : State) : Prop where
  starts : ∀ actor, state.actor = some actor → actor.StartsFirst
  noActor :
    (∀ frame, state.run = some frame → frame.point.canHaveActor = false) → state.actor = none

section Steps

variable {state after : State} {thread : ThreadId} {event : Event}

theorem Submitting.of_sameRun (submitting : Submitting state) (same : SameRun state after) :
    Submitting after := by
  refine ⟨fun actor isActor => ?_, fun noActor => ?_⟩
  · rw [same.actor] at isActor
    exact submitting.starts actor isActor
  · rw [same.actor]
    rw [same.run] at noActor
    exact submitting.noActor noActor

theorem noActor_of_canHaveActor {frame : RunFrame} (runs : after.run = some frame)
    (canHave : frame.point.canHaveActor = true)
    (noActor : ∀ frame, after.run = some frame → frame.point.canHaveActor = false) :
    after.actor = none := by
  rw [noActor frame runs] at canHave
  cases canHave

section

variable (submitting : Submitting state)
include submitting

theorem Submitting.starts_point {point : RunPoint} (step : PointStep state point after) :
    ∀ actor, after.actor = some actor → actor.StartsFirst := by
  have before := submitting.starts
  intro actor isActor
  cases step with
  | createActor =>
    cases isActor
    exact ⟨[], rfl, not_mem_nil⟩
  | setHandlers =>
    obtain ⟨old, isOld, rfl⟩ := Option.map_eq_some_iff.mp isActor
    exact before old isOld
  | @passNow credential submission old manager _ isOld isMailbox isManager =>
    cases isActor
    have notMem := (before old isOld).of_manager isManager
    exact notMem
  | passLater _ isOld _ =>
    cases isActor
    exact (before _ isOld).post fun isStart => nomatch isStart
  | stopClient => cases isActor
  | _ => exact before actor isActor

theorem Submitting.starts_event {left : Nat} (step : EventStep state left after) :
    ∀ actor, after.actor = some actor → actor.StartsFirst := by
  have before := submitting.starts
  intro actor isActor
  cases step with
  | start _ _ isOld isMailbox | check isOld isMailbox =>
    cases isActor
    exact (before _ isOld).next isMailbox rfl rfl
  | onUpdate isOld isMailbox | other isOld isMailbox =>
    cases isActor
    have starts := before _ isOld
    obtain ⟨manager, isManager⟩ := starts.exists_manager (by
      rw [isMailbox]
      exact fun isStart => nomatch isStart)
    exact starts.next isMailbox rfl isManager
  | authManager _ _ isOld isManager _ _ =>
    cases isActor
    have notMem := (before _ isOld).of_manager isManager
    exact notMem
  | _ => exact before actor isActor

theorem Submitting.noActor_own (step : OwnStep state after)
    (noActor : ∀ frame, after.run = some frame → frame.point.canHaveActor = false) :
    after.actor = none := by
  have before := submitting.noActor
  cases step with
  | point runs step =>
    cases step with
    | @nothingPending credential | @passNow credential
    | @passLater credential => cases credential <;> exact noActor_of_canHaveActor rfl rfl noActor
    | passAborts | leftInPool => exact before noActor
    | stopClient => rfl
    | stopped isNone _ => exact isNone
    | atFinish | reset =>
      refine before fun frame isFrame => ?_
      cases runs.symm.trans isFrame
      rfl
    | _ => exact noActor_of_canHaveActor rfl rfl noActor
  | event runs step =>
    cases step with
    | checkAborts | authManagerAborts => exact before noActor
    | _ => exact noActor_of_canHaveActor rfl rfl noActor
  | activity runs step =>
    cases step with
    | dispatchAborts => exact before noActor
    | _ =>
      have staysOutside := noActor _ rfl
      refine before fun frame isFrame => ?_
      cases runs.symm.trans isFrame
      exact staysOutside

theorem Submitting.step (step : Step state event after) : Submitting after := by
  cases step with
  | beginRun _ notRunning _ =>
    refine ⟨submitting.starts, fun _ => submitting.noActor ?_⟩
    exact fun frame runs => nomatch notRunning.symm.trans runs
  | user _ step | call _ step => exact submitting.of_sameRun step.sameRun
  | own _ _ step =>
    refine ⟨?_, submitting.noActor_own step⟩
    cases step with
    | point _ step => exact submitting.starts_point step
    | event _ step => exact submitting.starts_event step
    | activity _ step => cases step <;> exact submitting.starts
  | network _ runs workersRun step =>
    cases step with
    | @message actor message isActor isMessage =>
      refine ⟨fun changed isChanged => ?_, fun noActor => ?_⟩
      · cases isChanged
        refine (submitting.starts actor isActor).post ?_
        rcases isMessage with rfl | rfl <;> exact fun isStart => nomatch isStart
      · have isNone := submitting.noActor noActor
        rw [isActor] at isNone
        cases isNone
    | _ => exact ⟨submitting.starts, submitting.noActor⟩

end

end Steps

/-! ## The submissions of a client -/

/-- The mailbox of the `MtprotoClient`, which is empty if there is none. -/
def mailboxOf (actor : Option Actor) : List ClientMessage :=
  (actor.map Actor.mailbox).getD []

def State.submissionPlaces (state : State) : Submissions where
  pending credential := (state.pending credential).map Submission.number
  mailbox := State.submissionsIn (mailboxOf state.actor)
  passed := state.passed
  replaced := state.replaced
  dropped := state.dropped
  submitted := state.submissions

section Steps

variable {state after : State} {thread : ThreadId} {event : Event}

theorem submissionPlaces_eq {actor changed : Actor} (isActor : state.actor = some actor)
    (sameMailbox : State.submissionsIn changed.mailbox = State.submissionsIn actor.mailbox) :
    State.submissionsIn (mailboxOf (some changed)) =
      State.submissionsIn (mailboxOf state.actor) := by
  rw [isActor]
  exact sameMailbox

theorem pending_update (credential : Credential) (submission : Option Submission) :
    (fun other =>
      (update state.pending credential submission other).map Submission.number) =
      update state.submissionPlaces.pending credential
        (submission.map Submission.number) := by
  funext other
  rw [update_apply, update_apply]
  split <;> rfl

theorem CallStep.submissions (step : CallStep state thread after) :
    after.submissionPlaces = state.submissionPlaces ∨
      SubmissionStep state.submissionPlaces after.submissionPlaces := by
  cases step with
  | @store credential text =>
    refine .inr ((SubmissionStep.submit credential).congr
      (Submissions.ext (pending_update credential _) rfl rfl ?_ rfl rfl))
    dsimp only [State.submissionPlaces]
    rw [State.replacing]
    cases state.pending credential <;> rfl
  | _ => exact .inl rfl

theorem PointStep.submissions {point : RunPoint} (submitting : Submitting state)
    (runs : state.run = some { point := point }) (step : PointStep state point after) :
    after.submissionPlaces = state.submissionPlaces ∨
      SubmissionStep state.submissionPlaces after.submissionPlaces := by
  have isNumber {credential : Credential} {submission : Submission}
      (isPending : state.pending credential = some submission) :
      state.submissionPlaces.pending credential = some submission.number :=
    congrArg (Option.map Submission.number) isPending
  cases step with
  | createActor =>
    have noActor := submitting.noActor fun frame isFrame => by
      cases runs.symm.trans isFrame
      rfl
    refine .inl (Submissions.ext rfl ?_ rfl rfl rfl rfl)
    dsimp only [State.submissionPlaces]
    rw [noActor]
    rfl
  | setHandlers =>
    refine .inl (Submissions.ext rfl ?_ rfl rfl rfl rfl)
    dsimp only [State.submissionPlaces]
    cases state.actor <;> rfl
  | @passNow credential submission actor manager isPending isActor =>
    refine .inr ((SubmissionStep.pass (isNumber isPending)).congr
      (Submissions.ext (pending_update credential none) ?_ rfl rfl rfl rfl))
    exact submissionPlaces_eq isActor rfl
  | @passLater credential submission actor isPending isActor =>
    refine .inr ((SubmissionStep.post (isNumber isPending)).congr
      (Submissions.ext (pending_update credential none) ?_ rfl rfl rfl rfl))
    dsimp only [State.submissionPlaces]
    rw [isActor]
    exact filterMap_append
  | @stopClient actor isActor =>
    refine .inr (SubmissionStep.drop.congr (Submissions.ext rfl rfl rfl rfl ?_ rfl))
    dsimp only [State.submissionPlaces]
    rw [isActor]
    rfl
  | _ => exact .inl rfl

theorem EventStep.submissions {left : Nat} (step : EventStep state left after) :
    after.submissionPlaces = state.submissionPlaces ∨
      SubmissionStep state.submissionPlaces after.submissionPlaces := by
  cases step with
  | start _ _ isActor isMailbox | onUpdate isActor isMailbox
  | other isActor isMailbox =>
    refine .inl (Submissions.ext rfl (submissionPlaces_eq isActor ?_) rfl rfl rfl rfl)
    rw [isMailbox]
    rfl
  | authManager _ _ isActor =>
    exact .inl (Submissions.ext rfl (submissionPlaces_eq isActor rfl) rfl rfl rfl rfl)
  | @check actor credential submission rest manager isActor isMailbox =>
    have isFirst :
        state.submissionPlaces.mailbox = submission.number :: State.submissionsIn rest := by
      change State.submissionsIn (mailboxOf state.actor) = _
      rw [isActor]
      change State.submissionsIn actor.mailbox = _
      rw [isMailbox]
      rfl
    exact .inr ((SubmissionStep.deliver isFirst).congr rfl)
  | _ => exact .inl rfl

theorem Step.submissions (submitting : Submitting state) (step : Step state event after) :
    after.submissionPlaces = state.submissionPlaces ∨
      SubmissionStep state.submissionPlaces after.submissionPlaces := by
  cases step with
  | beginRun => exact .inl rfl
  | user _ step => cases step <;> exact .inl rfl
  | call _ step => exact step.submissions
  | own _ _ step =>
    cases step with
    | point runs step => exact step.submissions submitting runs
    | event _ step => exact step.submissions
    | activity _ step => cases step <;> exact .inl rfl
  | network _ _ _ step =>
    cases step with
    | @message actor message isActor isMessage =>
      refine .inl (Submissions.ext rfl (submissionPlaces_eq isActor ?_) rfl rfl rfl rfl)
      rw [State.submissionsIn, filterMap_append]
      rcases isMessage with rfl | rfl <;> exact append_nil _
    | _ => exact .inl rfl

theorem Step.replaced (step : Step state event after) : after.replaced = state.replaced ∨
      ∃ credential old new, state.pending credential = some old ∧
          after.pending credential = some new ∧
          after.replaced = state.replaced ++ [(old.number, new.number)] := by
  cases step with
  | beginRun => exact .inl rfl
  | user _ step | network _ _ _ step => cases step <;> exact .inl rfl
  | call _ step =>
    cases step with
    | @store credential text =>
      rw [State.replacing]
      cases isPending : state.pending credential with
      | none => exact .inl (append_nil _)
      | some old => exact .inr ⟨credential, old, _, isPending, update_self .., rfl⟩
    | _ => exact .inl rfl
  | own _ _ step =>
    cases step with
    | point _ step | event _ step | activity _ step => cases step <;> exact .inl rfl

theorem Step.dropped (step : Step state event after) :
    after.dropped = state.dropped ∨ state.run = some { point := .stopActors } := by
  cases step with
  | beginRun => exact .inl rfl
  | user _ step | call _ step | network _ _ _ step => cases step <;> exact .inl rfl
  | own _ _ step =>
    cases step with
    | point runs step =>
      cases step with
      | stopClient => exact .inr runs
      | _ => exact .inl rfl
    | event _ step | activity _ step => cases step <;> exact .inl rfl

theorem Step.mailbox {number : Nat} (submitting : Submitting state) (step : Step state event after)
    (inMailbox : number ∈ state.submissionPlaces.mailbox) :
    number ∈ after.submissionPlaces.mailbox ∨ number ∈ after.passed ∨
      state.run = some { point := .stopActors } := by
  rcases step.submissions submitting with same | changed
  · rw [same]
    exact .inl inMailbox
  · generalize isPlaces : after.submissionPlaces = places at changed
    have isPassed : after.passed = places.passed := congrArg Submissions.passed isPlaces
    rw [isPassed]
    cases changed with
    | submit | pass => exact .inl inMailbox
    | post => exact .inl (mem_append_left _ inMailbox)
    | deliver isMailbox =>
      rw [isMailbox] at inMailbox
      rcases mem_cons.mp inMailbox with rfl | later
      · exact .inr (.inl (mem_append_right _ (mem_singleton.mpr rfl)))
      · exact .inl later
    | drop =>
      refine step.dropped.elim (fun kept => ?_) fun stops => .inr (.inr stops)
      have nothing := append_right_eq_self.mp
        ((congrArg Submissions.dropped isPlaces).symm.trans kept)
      rw [nothing] at inMailbox
      cases inMailbox

end Steps

/-! ## The pick-up -/

/-- Where the loop has not yet looked for a submission of a kind in its iteration. -/
def RunPoint.beforePicking (credential : Credential) : RunPoint → Bool
  | runMain _ | lock | picking .code => true
  | picking .password => decide (credential = .password)
  | _ => false

/--
A submission of an iteration or before is pending only until the loop looks for
it in the next one.
-/
structure Awaits (credential : Credential) (number iteration : Nat) (state : State) : Prop where
  submitted : number < state.submissions
  waits : (state.pending credential).map Submission.number = some number →
    state.iterations ≤ iteration ∨ state.iterations = iteration + 1 ∧
      ∃ frame, state.run = some frame ∧ frame.point.beforePicking credential = true

section Steps

variable {state after : State} {thread : ThreadId} {event : Event}
  {credential : Credential} {number iteration : Nat}

theorem pending_of_update {pending : Credential → Option Submission} {changed : Credential}
    {submission : Option Submission}
    (isPending : (update pending changed submission credential).map Submission.number =
      some number)
    (isNew : submission.map Submission.number ≠ some number) :
    credential ≠ changed ∧ (pending credential).map Submission.number = some number := by
  by_cases same : credential = changed
  · rw [same, update_self] at isPending
    exact absurd isPending isNew
  · rw [update_of_ne same] at isPending
    exact ⟨same, isPending⟩

section

variable (awaits : Awaits credential number iteration state)
include awaits

theorem Awaits.point {point : RunPoint} (runs : state.run = some { point := point })
    (step : PointStep state point after) : Awaits credential number iteration after := by
  obtain ⟨submitted, waits⟩ := awaits
  -- Where the loop has looked for it in this iteration, the iteration is not the next one.
  have early (isPending : (state.pending credential).map Submission.number = some number)
      (notBefore : point.beforePicking credential = false) : state.iterations ≤ iteration := by
    rcases waits isPending with isEarly | ⟨_, frame, isFrame, isBefore⟩
    · exact isEarly
    · cases runs.symm.trans isFrame
      cases notBefore.symm.trans isBefore
  have other {picked : Credential} (isPoint : point = .picking picked)
      (different : credential ≠ picked)
      (isPending : (state.pending credential).map Submission.number = some number) :
      state.iterations ≤ iteration ∨ state.iterations = iteration + 1 ∧
        (RunPoint.afterPicking picked).beforePicking credential = true := by
    cases credential <;> cases picked
    case code.password => exact .inl (early isPending (isPoint ▸ rfl))
    case password.code => exact (waits isPending).imp_right fun next => ⟨next.1, rfl⟩
    all_goals exact absurd rfl different
  cases step with
  | enterLoop left =>
    refine ⟨submitted, fun isPending => ?_⟩
    rcases Nat.lt_or_eq_of_le (early isPending rfl) with isLess | isSame
    · exact .inl isLess
    · exact .inr ⟨congrArg (· + 1) isSame, _, rfl, rfl⟩
  | returnRunMain | lock =>
    refine ⟨submitted, fun isPending => (waits isPending).imp_right ?_⟩
    exact fun ⟨isNext, _⟩ => ⟨isNext, _, rfl, rfl⟩
  | passAborts | leftInPool | stopClient => exact ⟨submitted, waits⟩
  | @nothingPending picked nothing =>
    refine ⟨submitted, fun isPending => ?_⟩
    have different : credential ≠ picked := by
      rintro rfl
      cases (congrArg (Option.map Submission.number) nothing).symm.trans isPending
    exact (other rfl different isPending).imp_right fun next => ⟨next.1, _, rfl, next.2⟩
  | @passNow picked | @passLater picked =>
    refine ⟨submitted, fun isPending => ?_⟩
    obtain ⟨different, isPending⟩ := pending_of_update isPending nofun
    exact (other rfl different isPending).imp_right fun next => ⟨next.1, _, rfl, next.2⟩
  | _ => exact ⟨submitted, fun isPending => .inl (early isPending rfl)⟩

theorem Awaits.step (step : Step state event after) : Awaits credential number iteration after := by
  obtain ⟨submitted, waits⟩ := awaits
  cases step with
  | beginRun _ notRunning _ =>
    refine ⟨submitted, fun isPending => (waits isPending).imp_right ?_⟩
    exact fun ⟨_, frame, isFrame, _⟩ => nomatch notRunning.symm.trans isFrame
  | user _ step => cases step <;> exact ⟨submitted, waits⟩
  | network _ _ _ step => cases step <;> exact ⟨submitted, waits⟩
  | call _ step =>
    cases step with
    | @store stored text =>
      refine ⟨Nat.lt_succ_of_lt submitted, fun isPending => waits ?_⟩
      refine (pending_of_update isPending fun isNew => ?_).2
      exact submitted.ne' (Option.some.inj isNew)
    | _ => exact ⟨submitted, waits⟩
  | own _ _ step =>
    cases step with
    | point runs step => exact Awaits.point ⟨submitted, waits⟩ runs step
    | event runs step =>
      have moves (isPending : (state.pending credential).map Submission.number = some number) :=
        (waits isPending).imp_right fun next => next.1
      cases step with
      | checkAborts | authManagerAborts => exact ⟨submitted, waits⟩
      | _ => exact ⟨submitted, fun isPending => (moves isPending).imp_right (⟨·, _, rfl, rfl⟩)⟩
    | activity runs step =>
      have stays (isPending : (state.pending credential).map Submission.number = some number) :
          state.iterations ≤ iteration ∨ state.iterations = iteration + 1 ∧
            RunPoint.beforePicking credential _ = true :=
        (waits isPending).imp_right fun ⟨isNext, frame, isFrame, isBefore⟩ =>
          ⟨isNext, (Option.some.inj (runs.symm.trans isFrame)) ▸ isBefore⟩
      cases step with
      | dispatchAborts => exact ⟨submitted, waits⟩
      | _ => exact ⟨submitted, fun isPending =>
          (stays isPending).imp_right fun next => ⟨next.1, _, rfl, next.2⟩⟩

end

end Steps

section Runs

variable {hasUpdateHandler hasAuthStateHandler : Bool} {events : List Event} {reached : State}

section

variable (reaches : Reaches hasUpdateHandler hasAuthStateHandler events reached)
include reaches

theorem Reaches.submitting : Submitting reached := by
  refine Transition.Run.invariant reaches ?_
    fun before event after submitting step => submitting.step step
  exact ⟨fun _ isActor => (nomatch isActor), fun _ => rfl⟩

theorem Reaches.submissions : reached.submissionPlaces.Accounted := by
  induction reaches with
  | start => exact ⟨fun _ => rfl, fun _ isPair => nomatch isPair⟩
  | extend before step accounted =>
    rcases step.submissions (Reaches.submitting before) with same | changed
    · rw [same]
      exact accounted
    · exact accounted.step changed

theorem Reaches.picked {credential : Credential} {submission : Submission}
    (isPending : reached.pending credential = some submission) {later : List Event} {last : State}
    (continues : Continues reached later last)
    (iterates : reached.iterations + 2 ≤ last.iterations) :
    (last.pending credential).map Submission.number ≠ some submission.number := by
  have isNumber : reached.submissionPlaces.pending credential = some submission.number :=
    congrArg (Option.map Submission.number) isPending
  have awaits : Awaits credential submission.number reached.iterations last := by
    refine Transition.Run.invariant continues ⟨?_, fun _ => .inl (Nat.le_refl _)⟩
      fun before event after awaits step => awaits.step step
    exact (Reaches.submissions reaches).lt_submitted isNumber
  intro stillPending
  rcases awaits.waits stillPending with early | ⟨next, _⟩
  · omega
  · omega

end

end Runs

end Autoproto.PublicClient
