import CredentialRotation.Proofs.Login.Cause

/-!
# Silent and stillborn logins

While nothing comes but a welcome for the visitor, both tasks of a login
wait until the deadline (`Quiet`). A login that is cancelled before it
starts sends nothing (`Halted`).

With what is known of faults this says what a failed login reports
(`root_cause_of_login`).
-/

namespace CredentialRotation

open LoginClient LoginError

namespace Session

variable {c : LoginClient} {a : Attempt} {address : Url} {s s' : Session} {e : LoginError}
  {cancelled : Bool}

/-! ## A login that hears nothing -/

/-- An event of a login that nobody disturbs and nobody answers, but for
a welcome to the visitor. -/
def IsQuiet (event : Event) : Prop :=
  event ≠ .cancel ∧ event ≠ .listenerStops ∧ event.outcome? = none
    ∧ ∀ answer, event = .visitAnswered answer → readVisit answer = .ok ()

/-- A session that hears nothing: the visitor waits or is welcome, the
receiver waits, and both stop only from outside. -/
structure Quiet (s : Session) : Prop where
  visit : ∀ e, s.visitFault? = some e → e.IsInterruption
  welcome : ∀ answer, s.visitAnswer = some answer → readVisit answer = .ok ()
  receipt : s.receiver = .starting ∨ s.receiver = .waiting
    ∨ ∃ e, s.receiver = .finished (.error e) ∧ e.IsInterruption
  listening : s.receiver = .starting ∨ s.receiver = .waiting → s.listener = {}

theorem isInterruption_of_interruption {activity : String}
    (h : s.interruption? activity = some e) : e.IsInterruption := by
  unfold interruption? at h
  split at h
  · exact Or.inl (Option.some.inj h).symm
  · split at h
    · exact Or.inr ⟨activity, (Option.some.inj h).symm⟩
    · cases h

/-- A page on the web can be asked for. -/
theorem visit_of_isWeb (h : address.isWeb = true) :
    visit address = .put (authorizeRequest address) := by
  simp [visit, sendTo, h, authorizeRequest]

theorem Quiet.visitorMove (h : Quiet s) (hweb : address.isWeb = true)
    (hm : VisitorMove address s s') : Quiet s' := by
  obtain ⟨hr, -, -, hl⟩ := hm.receipt_eq
  refine ⟨?_, by rw [hm.visitAnswer_eq]; exact h.welcome, by rw [hr]; exact h.receipt,
    by rw [hr, hl]; exact h.listening⟩
  cases hm with
  | idle => exact h.visit
  | interrupted hv he =>
    intro e hfault
    obtain rfl : _ = e := by simpa [endVisit, visitFault?] using hfault
    exact isInterruption_of_interruption he
  | handed hv hp => simp [visitFault?]
  | asked hv ha => simp [visitFault?]
  | unsent hv ha =>
    rw [visit_of_isWeb hweb] at ha
    cases ha
  | answered hv ha =>
    rw [h.welcome _ ha]
    simp [visitFault?, endVisit]

/-- The receiver has no code. -/
theorem Quiet.receiver_ne (h : Quiet s) :
    (∀ code, s.receiver ≠ .holding code) ∧ s.receiver ≠ .redeeming := by
  rcases h.receipt with hr | hr | ⟨e, hr, -⟩ <;> simp [hr]

theorem Quiet.receiverMove (h : Quiet s) (hm : ReceiverMove c a s s') : Quiet s' := by
  obtain ⟨hv, -, ha⟩ := hm.visit_eq
  suffices hside : (s'.receiver = .starting ∨ s'.receiver = .waiting
      ∨ ∃ e, s'.receiver = .finished (.error e) ∧ e.IsInterruption)
      ∧ (s'.receiver = .starting ∨ s'.receiver = .waiting → s'.listener = {}) from
    ⟨by rw [visitFault?, hv]; exact h.visit, by rw [ha]; exact h.welcome, hside.1, hside.2⟩
  cases hm with
  | idle => exact ⟨h.receipt, h.listening⟩
  | published hr => exact ⟨Or.inr (Or.inl rfl), fun _ => h.listening (Or.inl hr)⟩
  | interrupted hr hr' he =>
    exact ⟨Or.inr (Or.inr ⟨_, rfl, isInterruption_of_interruption he⟩), by simp [endReceipt]⟩
  | granted hr hw hc =>
    rw [h.listening (Or.inr hr)] at hw
    cases hw
  | refused hr hw hc =>
    rw [h.listening (Or.inr hr)] at hw
    cases hw
  | abandoned hr hw hs =>
    rw [h.listening (Or.inr hr)] at hs
    cases hs
  | asked hr ha => exact absurd hr (h.receiver_ne.1 _)
  | unsent hr ha => exact absurd hr (h.receiver_ne.1 _)
  | answered hr ha => exact absurd hr h.receiver_ne.2

/-- The listener stays as it is while it runs and no outcome comes. -/
theorem step_listener (c : LoginClient) (a : Attempt) (address : Url) (s : Session)
    {event : Event} (hturn : event ≠ .receiverTurn) (hstops : event ≠ .listenerStops)
    (houtcome : event.outcome? = none) : (s.step c a address event).listener = s.listener := by
  cases event with
  | receiverTurn => exact absurd rfl hturn
  | listenerStops => exact absurd rfl hstops
  | visitorTurn => exact (Session.visitorMove address s).receipt_eq.2.2.2
  | arrives request =>
    simp only [Session.step]
    split
    · show (s.listener.receive request).2 = s.listener
      rw [Listener.receive_eq, houtcome, Option.or_none]
    · rfl
  | visitAnswered answer =>
    simp only [Session.step]
    split <;> rfl
  | codeAnswered answer =>
    simp only [Session.step]
    split <;> rfl
  | cancel => rfl
  | deadline => rfl

/-- **A login goes on hearing nothing** while only quiet events come. -/
theorem Quiet.step (h : Quiet s) (hweb : address.isWeb = true) {event : Event}
    (hevent : IsQuiet event) : Quiet (s.step c a address event) := by
  obtain ⟨-, hstops, houtcome, hwelcome⟩ := hevent
  by_cases hvisitor : event = .visitorTurn
  · subst hvisitor
    exact h.visitorMove hweb (Session.visitorMove address s)
  by_cases hreceiver : event = .receiverTurn
  · subst hreceiver
    exact h.receiverMove (Session.receiverMove c a s)
  obtain ⟨hv, hr, -⟩ := step_tasks c a address s hvisitor hreceiver
  refine ⟨by rw [visitFault?, hv]; exact h.visit, ?_, by rw [hr]; exact h.receipt, ?_⟩
  · rcases step_visitAnswer c a address s event with ha | ⟨answer, rfl, -, -, ha⟩
    · rw [ha]
      exact h.welcome
    · intro first hfirst
      obtain rfl := Option.some.inj (ha.symm.trans hfirst)
      exact hwelcome answer rfl
  · rw [hr, step_listener c a address s hreceiver hstops houtcome]
    exact h.listening

/-- **A session of quiet events hears nothing.** -/
theorem quiet_after (hweb : address.isWeb = true) (past : List Event)
    (h : ∀ event ∈ past, IsQuiet event) : Quiet (after c a address cancelled past) := by
  refine after_induction (P := fun past s => (∀ event ∈ past, IsQuiet event) → Quiet s) ?_ ?_ past h
  · intro _
    refine ⟨?_, ?_, Or.inl rfl, fun _ => rfl⟩ <;> simp [visitFault?]
  · intro past event ih hpast
    refine (ih fun e he => hpast e (List.mem_append_left _ he)).step hweb (hpast event ?_)
    exact List.mem_append_right _ (List.mem_singleton_self _)

/-! ## A login that is cancelled before it starts -/

/-- A session that was cancelled before its tasks could do anything. -/
structure Halted (s : Session) : Prop where
  cancelled : s.cancelled = true
  unsent : s.sent = []
  visit : s.visitor = .waiting ∨ ∃ e, s.visitor = .finished (.error e)
  receipt : s.receiver = .starting ∨ s.receiver = .waiting
    ∨ ∃ e, s.receiver = .finished (.error e)

theorem interruption_of_cancelled (h : s.cancelled = true) (activity : String) :
    s.interruption? activity = some .cancelled := by
  simp [interruption?, h]

theorem Halted.visitorTurn (h : Halted s) : Halted (s.visitorTurn address) := by
  have hi := interruption_of_cancelled h.cancelled s.visitor.activity
  rcases h.visit with hv | ⟨e, hv⟩
  · have hturn : s.visitorTurn address = s.endVisit (.error .cancelled) := by
      unfold Session.visitorTurn
      rw [hi, hv]
    rw [hturn]
    exact ⟨by simp [endVisit, isFailure], h.unsent, Or.inr ⟨_, rfl⟩, h.receipt⟩
  · have hturn : s.visitorTurn address = s := by
      unfold Session.visitorTurn
      rw [hi, hv]
    rw [hturn]
    exact h

theorem Halted.receiverTurn (h : Halted s) : Halted (s.receiverTurn c a) := by
  have hi := interruption_of_cancelled h.cancelled s.receiver.activity
  unfold Session.receiverTurn
  rcases h.receipt with hr | hr | ⟨e, hr⟩ <;> rw [hi, hr]
  · exact ⟨h.cancelled, h.unsent, h.visit, Or.inr (Or.inl rfl)⟩
  · exact ⟨by simp [endReceipt, isFailure], h.unsent, h.visit, Or.inr (Or.inr ⟨_, rfl⟩)⟩
  · exact h

/-- What is cancelled stays cancelled. -/
theorem cancelled_step (h : s.cancelled = true) (event : Event) :
    (s.step c a address event).cancelled = true := by
  by_cases hcancel : event = .cancel
  · subst hcancel
    rfl
  · cases Session.faultStep c a address s hcancel with
    | calm hv hr hc => rw [hc, h]
    | visit he hnone hv hr hc => exact hc
    | receipt he hnone hr hv hc => exact hc

/-- **Nothing sets a halted session going.** -/
theorem Halted.step (h : Halted s) (event : Event) : Halted (s.step c a address event) := by
  by_cases hvisitor : event = .visitorTurn
  · subst hvisitor
    exact h.visitorTurn
  by_cases hreceiver : event = .receiverTurn
  · subst hreceiver
    exact h.receiverTurn
  obtain ⟨hv, hr, hs⟩ := step_tasks c a address s hvisitor hreceiver
  exact ⟨cancelled_step h.cancelled event, by rw [hs]; exact h.unsent,
    by rw [hv]; exact h.visit, by rw [hr]; exact h.receipt⟩

/-- **A session that is cancelled from the start is halted**, whatever
comes. -/
theorem halted_after (past : List Event) : Halted (after c a address true past) := by
  refine after_induction (P := fun _ s => Halted s) ?_ (fun _ event h => h.step event) past
  exact ⟨rfl, rfl, Or.inl rfl, Or.inl rfl⟩

end Session

/-! ## What a failed login reports -/

namespace LoginClient

open Session

variable {c : LoginClient} {w : Circumstances}

/-- A login that hears nothing: it listens all the time, its request for
an outcome can be sent, no outcome ever comes, and that request is
answered with a welcome or not at all. -/
structure Silent (c : LoginClient) (w : Circumstances) : Prop where
  bound : ∃ port, w.port = .ok port
  serving : Event.listenerStops ∉ w.events
  /-- A page, with a host that `Url.ofText?` can read. -/
  endpoint : ∃ u, Url.ofText? c.provider.authorizationEndpoint = some u ∧ u.isWeb = true
  unanswered : firstOutcome w.events = none
  welcome : ∀ answer, Event.visitAnswered answer ∈ w.events →
    ∃ r : Response, answer = some r ∧ 200 ≤ r.status ∧ r.status < 300

/-- What happens in a silent login is quiet. -/
theorem isQuiet_of_silent (hw : w.Uncancelled) (h : c.Silent w) :
    ∀ event ∈ w.events, IsQuiet event := by
  intro event hevent
  refine ⟨?_, ?_, List.findSome?_eq_none_iff.1 h.unanswered event hevent, ?_⟩
  · rintro rfl
    exact hw.2 hevent
  · rintro rfl
    exact h.serving hevent
  · rintro answer rfl
    obtain ⟨r, rfl, hr⟩ := h.welcome answer hevent
    simp [readVisit, isSuccess_iff.2 hr]

/-- A silent login runs out of time. -/
theorem isTimeout_of_silent (hw : w.Uncancelled) (h : c.Silent w) :
    ∃ e, (c.login w).1 = .error e ∧ e.isTimeout = true := by
  obtain ⟨port, hport⟩ := h.bound
  obtain ⟨u, hu, hweb⟩ := h.endpoint
  obtain ⟨a, address, hstart, hweb'⟩ :
      ∃ a address, c.start w = .ok (a, address) ∧ address.isWeb = true :=
    ⟨_, _, start_eq_ok_iff.2 ⟨port, hport, rfl, authorizeUrl_eq_ok_iff.2 ⟨u, hu, rfl⟩⟩, hweb⟩
  have hquiet : Quiet (c.session w a address) := quiet_after hweb' _ (isQuiet_of_silent hw h)
  cases hresult : (c.session w a address).result with
  | ok tokens =>
    -- the receiver would have tokens
    have hreceiver := (result_eq_ok_iff.1 hresult).2
    rcases hquiet.receipt with hr | hr | ⟨e, hr, -⟩ <;> simp [hr] at hreceiver
  | error cause =>
    have hlogin : (c.login w).1 = .error cause.wrapped := by
      rw [login_of_start hstart, hresult]
      rfl
    have hstop : cause.IsInterruption := by
      rcases result_eq_error hresult with hv | hr | hstop
      · exact hquiet.visit cause hv
      · rw [receiptFault?_eq_some_iff] at hr
        rcases hquiet.receipt with hr' | hr' | ⟨e, hr', hstop⟩ <;> rw [hr] at hr' <;> cases hr'
        exact hstop
      · exact hstop
    obtain ⟨activity, rfl⟩ :=
      hstop.resolve_left ((owed_session hw).ne_cancelled_of_result hresult)
    exact ⟨_, hlogin, by rw [isTimeout, rootCause_wrapped (isRoot_timeout activity).1]⟩

/-- A login that is cancelled before it starts sends nothing and fails. -/
theorem unsent_of_cancelled (h : w.cancelled = true) :
    (c.login w).2 = [] ∧ ∃ e, (c.login w).1 = .error e := by
  cases hstart : c.start w with
  | error e =>
    rw [login, hstart]
    exact ⟨rfl, _, rfl⟩
  | ok started =>
    obtain ⟨a, address⟩ := started
    have hhalted : Halted (c.session w a address) := by
      rw [session, h]
      exact halted_after w.events
    rw [login_of_start hstart]
    refine ⟨hhalted.unsent, ?_⟩
    cases hresult : (c.session w a address).result with
    | error cause => exact ⟨_, rfl⟩
    | ok tokens =>
      -- the visitor would have been welcome
      have hvisitor := (result_eq_ok_iff.1 hresult).1
      rcases hhalted.visit with hv | ⟨e, hv⟩ <;> simp [hv] at hvisitor

/-- **What is reported is the root.** Whatever the provider does and in
whatever order things happen: a login that fails reports one fault,
wrapped once, and unless the caller cancels it that fault is no
cancellation. A silent login fails for want of time, and one that is
cancelled before it starts fails without having sent anything. -/
theorem root_cause_of_login (c : LoginClient) (w : Circumstances) :
    (∀ e, (c.login w).1 = .error e → ∃ cause, e = .authentication cause ∧ cause.IsPlain
      ∧ (w.Uncancelled → e.isCancelled = false))
    ∧ (w.Uncancelled → c.Silent w → ∃ e, (c.login w).1 = .error e ∧ e.isTimeout = true)
    ∧ (w.cancelled = true → (c.login w).2 = [] ∧ ∃ e, (c.login w).1 = .error e) := by
  refine ⟨fun e he => ?_, isTimeout_of_silent, unsent_of_cancelled⟩
  obtain ⟨cause, rfl, hplain, hroot⟩ := isPlain_of_login he
  refine ⟨cause, wrapped_of_isPlain hplain, hplain, fun hw => ?_⟩
  rw [isCancelled, rootCause_wrapped hplain]
  cases cause with
  | cancelled => exact absurd rfl (hroot hw)
  | _ => rfl

/-- At work: the receiver refuses an outcome of another attempt, and that
cancels the visitor; nothing comes but a request that is no outcome; the
caller has cancelled, yet an outcome comes. -/
theorem root_cause_of_login_three_ways :
    let w : Circumstances := { port := .ok 8000, state := "s", nonce := "n", verifier := "v" }
    let refused : Circumstances := { w with
      events := [.receiverTurn, .visitorTurn, .arrives ⟨.get, "/", "code=1&state=t"⟩,
        .receiverTurn, .visitorTurn] }
    let silent : Circumstances := { w with
      events := [.visitorTurn, .receiverTurn, .arrives ⟨.get, "/favicon.ico", ""⟩, .visitorTurn,
        .visitorTurn, .visitAnswered (some ⟨204, [], none⟩), .visitorTurn, .deadline,
        .receiverTurn] }
    let stillborn : Circumstances := { w with
      cancelled := true
      events := [.receiverTurn, .visitorTurn, .arrives ⟨.get, "/", "code=1&state=s"⟩,
        .receiverTurn] }
    ((sampleClient.login refused).1 = .error (.authentication .stateMismatch)
        ∧ refused.Uncancelled ∧ (LoginError.authentication .stateMismatch).isCancelled = false)
      ∧ (silent.Uncancelled ∧ sampleClient.Silent silent
        ∧ ∃ e, (sampleClient.login silent).1 = .error e ∧ e.isTimeout = true)
      ∧ stillborn.cancelled = true ∧ (sampleClient.login stillborn).2 = [] := by
  intro w refused silent stillborn
  have hrefused : (sampleClient.login refused).1 = .error (.authentication .stateMismatch) :=
    fault?_eq_some_iff.1 (by decide +kernel)
  have huncancelled : refused.Uncancelled := ⟨rfl, by decide⟩
  have hweb : (Url.ofText? sampleClient.provider.authorizationEndpoint).any Url.isWeb = true := by
    decide +kernel
  have hsilent : sampleClient.Silent silent := by
    refine ⟨⟨8000, rfl⟩, by decide, ?_, by decide +kernel, ?_⟩
    · exact Option.any_eq_true _ _ |>.1 hweb
    · intro answer hanswer
      obtain rfl : answer = some ⟨204, [], none⟩ := by simpa [silent] using hanswer
      exact ⟨_, rfl, by decide⟩
  have huncancelled' : silent.Uncancelled := ⟨rfl, by decide⟩
  obtain ⟨cause, -, -, hroot⟩ := (root_cause_of_login sampleClient refused).1 _ hrefused
  refine ⟨⟨hrefused, huncancelled, hroot huncancelled⟩, ⟨huncancelled', hsilent, ?_⟩, rfl, ?_⟩
  · exact (root_cause_of_login sampleClient silent).2.1 huncancelled' hsilent
  · exact ((root_cause_of_login sampleClient stillborn).2.2 rfl).1

end LoginClient

end CredentialRotation
