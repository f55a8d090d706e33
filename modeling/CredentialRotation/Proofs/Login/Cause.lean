import CredentialRotation.Proofs.Login.Course

/-!
# Why a login fails

A task stops with a fault that is the root of the matter, or because it
was cancelled. `FaultStep` is what an event can do to the faults of a
session, and three invariants are read off it. The faults of the tasks
have no wrapper (`Unwrapped`). Unless the caller cancels, a cancellation
is owed to a fault that is none (`Owed`), so what is reported is none
either. And while nothing comes but a welcome for the visitor, both
tasks wait until the deadline (`Quiet`).

A login that is cancelled before it starts sends nothing (`Halted`).
-/

namespace CredentialRotation

open LoginClient

/-! ## Kinds of faults -/

namespace LoginError

/-- A fault without a wrapper. -/
def IsPlain (e : LoginError) : Prop := ∀ cause, e ≠ .authentication cause

/-- A fault that a login can be owed to: plain, and no cancellation. -/
def IsRoot (e : LoginError) : Prop := e.IsPlain ∧ e ≠ .cancelled

/-- A fault that stops a task from outside. -/
def IsInterruption (e : LoginError) : Prop := e = .cancelled ∨ ∃ activity, e = .timeout activity

variable {e : LoginError}

theorem isPlain_of_isInterruption (h : e.IsInterruption) : e.IsPlain := by
  intro cause
  rcases h with rfl | ⟨activity, rfl⟩ <;> simp

theorem isRoot_timeout (activity : String) : (LoginError.timeout activity).IsRoot := by
  simp [IsRoot, IsPlain]

/-- A plain fault is wrapped once. -/
theorem wrapped_of_isPlain (h : e.IsPlain) : e.wrapped = .authentication e := by
  cases e with
  | authentication cause => exact absurd rfl (h cause)
  | _ => rfl

theorem rootCause_of_isPlain (h : e.IsPlain) : e.rootCause = e := by
  cases e with
  | authentication cause => exact absurd rfl (h cause)
  | _ => rfl

/-- Of a plain fault that is wrapped, the root is that fault. -/
theorem rootCause_wrapped (h : e.IsPlain) : e.wrapped.rootCause = e := by
  rw [wrapped_of_isPlain h, rootCause, rootCause_of_isPlain h]

end LoginError

open LoginError

namespace LoginClient

variable {c : LoginClient} {a : Attempt} {e : LoginError} {answer : Option Response}

theorem isRoot_of_readVisit (h : readVisit answer = .error e) : e.IsRoot := by
  unfold readVisit at h
  split at h
  · cases h
    simp [IsRoot, IsPlain]
  · split at h <;> cases h
    simp [IsRoot, IsPlain]

theorem isRoot_of_codeOf {outcome : Callback} (h : codeOf a outcome = .error e) : e.IsRoot := by
  unfold codeOf at h
  split at h
  · cases h
    simp [IsRoot, IsPlain]
  · split at h
    · cases h
      simp [IsRoot, IsPlain]
    · split at h <;> cases h
      simp [IsRoot, IsPlain]

theorem isRoot_of_readAnswer (h : readAnswer answer = .error e) : e.IsRoot := by
  unfold readAnswer at h
  split at h
  · cases h
    simp [IsRoot, IsPlain]
  · split at h
    all_goals
      split at h <;> cases h <;> simp [IsRoot, IsPlain]

theorem isRoot_of_readTokens (h : readTokens answer = .error e) : e.IsRoot := by
  rcases bind_eq_error_iff.1 h with h | ⟨t, -, h⟩
  · exact isRoot_of_readAnswer h
  · split at h <;> cases h
    simp [IsRoot, IsPlain]

theorem isRoot_of_checkNonce {idToken : String} (h : checkNonce a idToken = .error e) :
    e.IsRoot := by
  unfold checkNonce at h
  split at h
  · cases h
    simp [IsRoot, IsPlain]
  · split at h
    · split at h <;> cases h
      simp [IsRoot, IsPlain]
    · cases h

theorem isRoot_of_redeem (h : redeem a answer = .error e) : e.IsRoot := by
  rcases bind_eq_error_iff.1 h with h | ⟨tokens, -, h⟩
  · exact isRoot_of_readTokens h
  · rcases bind_eq_error_iff.1 h with h | ⟨u, -, h⟩
    · exact isRoot_of_checkNonce h
    · cases h

theorem isRoot_of_start {w : Circumstances} (h : c.start w = .error e) : e.IsRoot := by
  unfold start at h
  split at h
  · cases h
    simp [IsRoot, IsPlain]
  · rcases bind_eq_error_iff.1 h with h | ⟨address, -, h⟩
    · unfold authorizeUrl at h
      split at h <;> cases h
      simp [IsRoot, IsPlain]
    · cases h

end LoginClient

/-! ## What an event does to the faults -/

namespace Session

variable {c : LoginClient} {a : Attempt} {address : Url} {s s' : Session} {e : LoginError}

/-- The fault that the visitor stopped with. -/
def visitFault? (s : Session) : Option LoginError :=
  match s.visitor with
  | .finished (.error e) => some e
  | _ => none

/-- The fault that the receiver stopped with. -/
def receiptFault? (s : Session) : Option LoginError :=
  match s.receiver with
  | .finished (.error e) => some e
  | _ => none

theorem visitFault?_eq_some_iff : s.visitFault? = some e ↔ s.visitor = .finished (.error e) := by
  unfold visitFault?
  split
  · next hv => simp [hv]
  · next hno => exact ⟨fun h => (by cases h), fun h => absurd h (hno e)⟩

theorem receiptFault?_eq_some_iff :
    s.receiptFault? = some e ↔ s.receiver = .finished (.error e) := by
  unfold receiptFault?
  split
  · next hr => simp [hr]
  · next hno => exact ⟨fun h => (by cases h), fun h => absurd h (hno e)⟩

/-- What can make a task stop with a fault. -/
def Stops (s : Session) (e : LoginError) : Prop := e.IsRoot ∨ e = .cancelled ∧ s.cancelled = true

theorem stops_of_interruption {activity : String} (h : s.interruption? activity = some e) :
    s.Stops e := by
  unfold interruption? at h
  split at h
  · next hc => exact Or.inr ⟨(Option.some.inj h).symm, hc⟩
  · split at h
    · obtain rfl := Option.some.inj h
      exact Or.inl (isRoot_timeout activity)
    · cases h

/-- What an event can do to the faults of a session. -/
inductive FaultStep (s s' : Session) : Prop
  /-- No task stops with a fault. -/
  | calm (hv : s'.visitFault? = s.visitFault?) (hr : s'.receiptFault? = s.receiptFault?)
      (hc : s'.cancelled = s.cancelled)
  /-- The visitor does, and cancels the receiver. -/
  | visit {e : LoginError} (he : s.Stops e) (hnone : s.visitFault? = none)
      (hv : s'.visitFault? = some e) (hr : s'.receiptFault? = s.receiptFault?)
      (hc : s'.cancelled = true)
  /-- The receiver does, and cancels the visitor. -/
  | receipt {e : LoginError} (he : s.Stops e) (hnone : s.receiptFault? = none)
      (hr : s'.receiptFault? = some e) (hv : s'.visitFault? = s.visitFault?)
      (hc : s'.cancelled = true)

/-- A visitor that ends its part stops with a fault, or with none. -/
theorem faultStep_endVisit {result : Except LoginError Unit}
    (hresult : ∀ e, result = .error e → s.Stops e) (hv : ∀ r, s.visitor ≠ .finished r) :
    FaultStep s (s.endVisit result) := by
  have hnone : s.visitFault? = none := by
    unfold visitFault?
    split
    · next hf => exact absurd hf (hv _)
    · rfl
  cases result with
  | ok u => exact .calm (by rw [hnone]; rfl) rfl (by simp [endVisit, isFailure])
  | error e => exact .visit (hresult e rfl) hnone rfl rfl (by simp [endVisit, isFailure])

/-- A receiver that ends its part stops with a fault, or with none. -/
theorem faultStep_endReceipt {result : Except LoginError TokenSet} {l : Listener}
    (hresult : ∀ e, result = .error e → s.Stops e) (hr : ∀ r, s.receiver ≠ .finished r) :
    FaultStep s ({ s with listener := l }.endReceipt result) := by
  have hnone : s.receiptFault? = none := by
    unfold receiptFault?
    split
    · next hf => exact absurd hf (hr _)
    · rfl
  cases result with
  | ok tokens => exact .calm rfl (by rw [hnone]; rfl) (by simp [endReceipt, isFailure])
  | error e => exact .receipt (hresult e rfl) hnone rfl rfl (by simp [endReceipt, isFailure])

theorem VisitorMove.faultStep (h : VisitorMove address s s') : FaultStep s s' := by
  cases h with
  | idle => exact .calm rfl rfl rfl
  | interrupted hv he =>
    refine faultStep_endVisit (fun e h => ?_) hv
    obtain rfl := Except.error.inj h
    exact stops_of_interruption he
  | handed hv hp => exact .calm (by simp [visitFault?, hv]) rfl rfl
  | asked hv ha => exact .calm (by simp [visitFault?, hv]) rfl rfl
  | unsent hv ha =>
    exact faultStep_endVisit (fun e h => Or.inl (isRoot_of_readVisit h)) (by simp [hv])
  | answered hv ha =>
    exact faultStep_endVisit (fun e h => Or.inl (isRoot_of_readVisit h)) (by simp [hv])

theorem ReceiverMove.faultStep (h : ReceiverMove c a s s') : FaultStep s s' := by
  cases h with
  | idle => exact .calm rfl rfl rfl
  | published hr => exact .calm rfl (by simp [receiptFault?, hr]) rfl
  | interrupted hr hr' he =>
    refine faultStep_endReceipt (fun e h => ?_) hr'
    obtain rfl := Except.error.inj h
    exact stops_of_interruption he
  | granted hr hw hc => exact .calm rfl (by simp [receiptFault?, hr]) rfl
  | refused hr hw hc =>
    refine faultStep_endReceipt (fun e h => ?_) (by simp [hr])
    obtain rfl := Except.error.inj h
    exact Or.inl (isRoot_of_codeOf hc)
  | abandoned hr hw hs =>
    refine faultStep_endReceipt (l := s.listener) (fun e h => ?_) (by simp [hr])
    obtain rfl := Except.error.inj h
    exact Or.inl (by simp [IsRoot, IsPlain])
  | asked hr ha => exact .calm rfl (by simp [receiptFault?, hr]) rfl
  | unsent hr ha =>
    exact faultStep_endReceipt (l := s.listener) (fun e h => Or.inl (isRoot_of_redeem h))
      (by simp [hr])
  | answered hr ha =>
    exact faultStep_endReceipt (l := s.listener) (fun e h => Or.inl (isRoot_of_redeem h))
      (by simp [hr])

/-- **Every event but the caller's cancellation is a step for the
faults.** -/
theorem faultStep (c : LoginClient) (a : Attempt) (address : Url) (s : Session) {event : Event}
    (h : event ≠ .cancel) : FaultStep s (s.step c a address event) := by
  cases event with
  | cancel => exact absurd rfl h
  | visitorTurn => exact (visitorMove address s).faultStep
  | receiverTurn => exact (receiverMove c a s).faultStep
  | visitAnswered answer =>
    simp only [step]
    split <;> exact .calm rfl rfl rfl
  | codeAnswered answer =>
    simp only [step]
    split <;> exact .calm rfl rfl rfl
  | arrives request =>
    simp only [step]
    split <;> exact .calm rfl rfl rfl
  | listenerStops => exact .calm rfl rfl rfl
  | deadline => exact .calm rfl rfl rfl

/-! ## Faults have no wrapper -/

/-- The faults of the tasks are plain. -/
structure Unwrapped (s : Session) : Prop where
  visit : ∀ e, s.visitFault? = some e → e.IsPlain
  receipt : ∀ e, s.receiptFault? = some e → e.IsPlain

theorem Stops.isPlain (h : s.Stops e) : e.IsPlain := by
  rcases h with hroot | ⟨rfl, -⟩
  · exact hroot.1
  · exact isPlain_of_isInterruption (Or.inl rfl)

theorem Unwrapped.step (h : Unwrapped s) (event : Event) :
    Unwrapped (s.step c a address event) := by
  by_cases hcancel : event = .cancel
  · subst hcancel
    exact ⟨h.visit, h.receipt⟩
  · cases faultStep c a address s hcancel with
    | calm hv hr hc => exact ⟨by rw [hv]; exact h.visit, by rw [hr]; exact h.receipt⟩
    | visit he hnone hv hr hc =>
      refine ⟨fun f hf => ?_, by rw [hr]; exact h.receipt⟩
      obtain rfl := Option.some.inj (hv.symm.trans hf)
      exact he.isPlain
    | receipt he hnone hr hv hc =>
      refine ⟨by rw [hv]; exact h.visit, fun f hf => ?_⟩
      obtain rfl := Option.some.inj (hr.symm.trans hf)
      exact he.isPlain

/-! ## Results -/

/-- A visitor fails with its own fault, or is stopped at the end. -/
theorem visitResult_eq_error (h : s.visitResult = .error e) : s.visitFault? = some e
    ∨ s.cancelled = true ∧ e = .cancelled
    ∨ s.cancelled = false ∧ ∃ activity, e = .timeout activity := by
  unfold visitResult at h
  split at h
  · next hv =>
    subst h
    exact Or.inl (visitFault?_eq_some_iff.2 hv)
  · cases hc : s.cancelled <;> rw [hc] at h <;> cases h
    · exact Or.inr (Or.inr ⟨rfl, _, rfl⟩)
    · exact Or.inr (Or.inl ⟨rfl, rfl⟩)

/-- And so does a receiver. -/
theorem receiptResult_eq_error (h : s.receiptResult = .error e) : s.receiptFault? = some e
    ∨ s.cancelled = true ∧ e = .cancelled
    ∨ s.cancelled = false ∧ ∃ activity, e = .timeout activity := by
  unfold receiptResult at h
  split at h
  · next hr =>
    subst h
    exact Or.inl (receiptFault?_eq_some_iff.2 hr)
  · cases hc : s.cancelled <;> rw [hc] at h <;> cases h
    · exact Or.inr (Or.inr ⟨rfl, _, rfl⟩)
    · exact Or.inr (Or.inl ⟨rfl, rfl⟩)

/-- Two results that fail together fail with the fault of one. -/
theorem join_eq_error {visit : Except LoginError Unit} {receipt : Except LoginError TokenSet}
    (h : join visit receipt = .error e) : visit = .error e ∨ receipt = .error e := by
  cases visit with
  | ok u =>
    cases receipt with
    | ok tokens => cases h
    | error r => exact Or.inr h
  | error v =>
    cases receipt with
    | ok tokens => exact Or.inl (by rw [← Except.error.inj h])
    | error r =>
      have hcause : firstCause v r = e := Except.error.inj h
      unfold firstCause at hcause
      split at hcause
      · exact Or.inr (by rw [hcause])
      · exact Or.inl (by rw [hcause])

/-- A cancellation is reported only where neither result has another
fault. -/
theorem join_eq_cancelled {visit : Except LoginError Unit} {receipt : Except LoginError TokenSet}
    (h : join visit receipt = .error .cancelled) :
    (∀ f, visit = .error f → f = .cancelled) ∧ ∀ f, receipt = .error f → f = .cancelled := by
  cases visit with
  | ok u =>
    cases receipt with
    | ok tokens => cases h
    | error r => simpa [join] using h
  | error v =>
    cases receipt with
    | ok tokens => simpa [join] using h
    | error r =>
      have hcause : firstCause v r = .cancelled := Except.error.inj h
      unfold firstCause at hcause
      split at hcause
      · next hv => simp [hv, hcause]
      · next hv => exact absurd hcause hv

/-- A session fails with a fault of one of its tasks, or because it is
stopped from outside. -/
theorem result_eq_error (h : s.result = .error e) :
    s.visitFault? = some e ∨ s.receiptFault? = some e ∨ e.IsInterruption := by
  rcases join_eq_error h with hv | hr
  · rcases visitResult_eq_error hv with hfault | ⟨-, rfl⟩ | ⟨-, hlate⟩
    · exact Or.inl hfault
    · exact Or.inr (Or.inr (Or.inl rfl))
    · exact Or.inr (Or.inr (Or.inr hlate))
  · rcases receiptResult_eq_error hr with hfault | ⟨-, rfl⟩ | ⟨-, hlate⟩
    · exact Or.inr (Or.inl hfault)
    · exact Or.inr (Or.inr (Or.inl rfl))
    · exact Or.inr (Or.inr (Or.inr hlate))

/-! ## Cancellations are owed to something else -/

/-- A task that failed has cancelled the other, and nothing else has
cancelled anything. -/
structure Owed (s : Session) : Prop where
  stopped : ∀ e, s.visitFault? = some e ∨ s.receiptFault? = some e → s.cancelled = true
  root : s.cancelled = true →
    ∃ e, e ≠ .cancelled ∧ (s.visitFault? = some e ∨ s.receiptFault? = some e)

theorem Owed.faultStep (h : Owed s) (hs : FaultStep s s') : Owed s' := by
  cases hs with
  | calm hv hr hc =>
    refine ⟨?_, ?_⟩ <;> rw [hv, hr, hc]
    · exact h.stopped
    · exact h.root
  | @visit e he hnone hv hr hc =>
    refine ⟨fun _ _ => hc, fun _ => ?_⟩
    rcases he with hroot | ⟨-, hcancelled⟩
    · exact ⟨e, hroot.2, Or.inl hv⟩
    · -- the visitor was cancelled, and that is owed to the receiver
      obtain ⟨f, hf, hv' | hr'⟩ := h.root hcancelled
      · rw [hnone] at hv'
        cases hv'
      · exact ⟨f, hf, Or.inr (hr.trans hr')⟩
  | @receipt e he hnone hr hv hc =>
    refine ⟨fun _ _ => hc, fun _ => ?_⟩
    rcases he with hroot | ⟨-, hcancelled⟩
    · exact ⟨e, hroot.2, Or.inr hr⟩
    · -- and the other way round
      obtain ⟨f, hf, hv' | hr'⟩ := h.root hcancelled
      · exact ⟨f, hf, Or.inl (hv.trans hv')⟩
      · rw [hnone] at hr'
        cases hr'

/-- What is reported is no cancellation that one task owes the other. -/
theorem Owed.ne_cancelled_of_result (h : Owed s) (he : s.result = .error e) : e ≠ .cancelled := by
  rintro rfl
  obtain ⟨hvisit, hreceipt⟩ := join_eq_cancelled he
  cases hc : s.cancelled with
  | true =>
    -- the fault that the cancellation is owed to would be reported
    obtain ⟨f, hf, hv | hr⟩ := h.root hc
    · exact hf (hvisit f (by rw [visitResult, visitFault?_eq_some_iff.1 hv]))
    · exact hf (hreceipt f (by rw [receiptResult, receiptFault?_eq_some_iff.1 hr]))
  | false =>
    -- nobody has failed, and a visitor out of time would be reported
    have hdone : ∀ f, s.visitResult ≠ .error f := by
      intro f hv
      obtain rfl := hvisit f hv
      rcases visitResult_eq_error hv with hfault | ⟨hc', -⟩ | ⟨-, activity, hlate⟩
      · exact absurd (h.stopped _ (Or.inl hfault)) (by simp [hc])
      · simp [hc] at hc'
      · cases hlate
    have hcalm : (s.cancelled || isFailure s.visitResult) = false := by
      cases hv : s.visitResult with
      | error f => exact absurd hv (hdone f)
      | ok u => simp [hc, isFailure]
    rcases join_eq_error he with hv | hr
    · exact hdone _ hv
    · rcases receiptResult_eq_error hr with hfault | ⟨hc', -⟩ | ⟨-, activity, hlate⟩
      · exact absurd (h.stopped _ (Or.inr hfault)) (by simp [hc])
      · simp [hcalm] at hc'
      · cases hlate

/-! ## All events -/

variable {cancelled : Bool}

/-- **Faults are plain in every session.** -/
theorem unwrapped_after (past : List Event) : Unwrapped (after c a address cancelled past) := by
  refine after_induction (P := fun _ s => Unwrapped s) ?_ (fun _ event h => h.step event) past
  refine ⟨?_, ?_⟩ <;> simp [visitFault?, receiptFault?]

/-- **Cancellations are owed to a fault** in every session that the caller
leaves alone. -/
theorem owed_after (past : List Event) (h : Event.cancel ∉ past) :
    Owed (after c a address false past) := by
  refine after_induction (P := fun past s => Event.cancel ∉ past → Owed s) ?_ ?_ past h
  · intro _
    refine ⟨?_, ?_⟩ <;> simp [visitFault?, receiptFault?]
  · intro past event ih hpast
    rw [List.mem_append, not_or, List.mem_singleton] at hpast
    exact (ih hpast.1).faultStep (Session.faultStep c a address _ (Ne.symm hpast.2))

end Session

/-! ## Failed logins -/

/-- The caller never cancels the login. -/
def Circumstances.Uncancelled (w : Circumstances) : Prop :=
  w.cancelled = false ∧ Event.cancel ∉ w.events

namespace LoginClient

open Session

variable {c : LoginClient} {a : Attempt} {address : Url} {w : Circumstances} {e : LoginError}

/-- A login that starts is what its session makes of it. -/
theorem login_of_start (h : c.start w = .ok (a, address)) : c.login w
    = ((c.session w a address).result.mapError wrapped, (c.session w a address).sent) := by
  simp only [login, h]

/-- A login fails because it cannot start, or because its session fails. -/
theorem login_eq_error (h : (c.login w).1 = .error e) : ∃ cause : LoginError, e = cause.wrapped
    ∧ (c.start w = .error cause
      ∨ ∃ a address, c.start w = .ok (a, address)
        ∧ (c.session w a address).result = .error cause) := by
  cases hstart : c.start w with
  | error cause =>
    simp only [login, hstart] at h
    exact ⟨cause, (Except.error.inj h).symm, Or.inl rfl⟩
  | ok started =>
    obtain ⟨a, address⟩ := started
    rw [login_of_start hstart] at h
    cases hr : (c.session w a address).result with
    | ok tokens =>
      rw [hr] at h
      cases h
    | error cause =>
      rw [hr] at h
      exact ⟨cause, (Except.error.inj h).symm, Or.inr ⟨a, address, rfl, hr⟩⟩

theorem owed_session (h : w.Uncancelled) : Owed (c.session w a address) := by
  rw [session, h.1]
  exact owed_after w.events h.2

/-- The fault inside is plain, and no cancellation unless it is the
caller's. -/
theorem isPlain_of_login (h : (c.login w).1 = .error e) : ∃ cause : LoginError, e = cause.wrapped
    ∧ cause.IsPlain ∧ (w.Uncancelled → cause ≠ .cancelled) := by
  obtain ⟨cause, rfl, hstart | ⟨a, address, hstart, hresult⟩⟩ := login_eq_error h
  · obtain ⟨hplain, hroot⟩ := isRoot_of_start hstart
    exact ⟨cause, rfl, hplain, fun _ => hroot⟩
  · refine ⟨cause, rfl, ?_, ?_⟩
    · have hfaults : Unwrapped (c.session w a address) := unwrapped_after w.events
      rcases result_eq_error hresult with hv | hr | hstop
      · exact hfaults.visit cause hv
      · exact hfaults.receipt cause hr
      · exact isPlain_of_isInterruption hstop
    · intro hw
      exact (owed_session hw).ne_cancelled_of_result hresult

end LoginClient

end CredentialRotation
