import CredentialRotation.Proofs.Login.Moves

/-!
# The two sides of a login

Two invariants hold of every session, whatever the order of its events,
one for each task (`VisitSide`, `ReceiptSide`). They say how far the task
is, which requests it has sent for that and what it went by.

The receiver goes by the first outcome that reaches the listener. An
outcome that waits is never replaced, and a listener that stops before
the first one comes has none to give (`HoldsFirst`).
-/

namespace CredentialRotation

open LoginClient

/-! ## Outcomes -/

/-- The outcome that an event brings, if it is a request that can be
read. -/
def Event.outcome? : Event → Option Callback
  | .arrives request => (Listener.outcome request).toOption
  | _ => none

/-- The first outcome that events bring. -/
def firstOutcome (past : List Event) : Option Callback := past.findSome? Event.outcome?

variable {c : LoginClient} {a : Attempt} {address : Url} {past : List Event} {e : Event}
  {s s' : Session} {outcome : Callback} {code : String} {tokens : TokenSet}

theorem firstOutcome_concat : firstOutcome (past ++ [e]) = (firstOutcome past).or e.outcome? := by
  rw [firstOutcome, List.findSome?_append, List.findSome?_singleton, ← firstOutcome]

/-- The first outcome stays the first. -/
theorem firstOutcome_append (h : firstOutcome past = some outcome) (later : List Event) :
    firstOutcome (past ++ later) = some outcome := by
  rw [firstOutcome, List.findSome?_append, ← firstOutcome, h, Option.some_or]

/-- A listener keeps the outcome that waits, and else one that comes. -/
theorem Listener.receive_eq (l : Listener) (request : Arrival) :
    (l.receive request).2
      = { l with waiting := l.waiting.or (Event.arrives request).outcome? } := by
  simp only [receive, Event.outcome?]
  cases outcome request with
  | error page => simp only [Except.toOption, Option.or_none]
  | ok outcome => rfl

namespace Session

/-! ## The side of the visitor -/

/-- How far the visitor is, and what it has sent for that. -/
structure VisitSide (address : Url) (s : Session) : Prop where
  before : s.visitor = .waiting ∨ s.visitor = .holding → s.visits = []
  sent : s.visitor = .requesting → s.visits = [authorizeRequest address]
  passed : s.visitor = .finished (.ok ()) → s.visits = [authorizeRequest address]
    ∧ ∃ r : Response, s.visitAnswer = some (some r) ∧ r.isSuccess = true

/-- A visitor that failed has nothing to show for itself. -/
theorem VisitSide.of_failure {e : LoginError} (h : s.visitor = .finished (.error e)) :
    VisitSide address s := by
  refine ⟨?_, ?_, ?_⟩ <;> simp [h]

theorem readVisit_eq_ok {answer : Option Response} (h : readVisit answer = .ok ()) :
    ∃ r : Response, answer = some r ∧ r.isSuccess = true := by
  unfold readVisit at h
  split at h
  · cases h
  · next r =>
    split at h
    · next hr => exact ⟨r, rfl, hr⟩
    · cases h

/-- A move of the visitor keeps its side in order. -/
theorem VisitSide.move (h : VisitSide address s) (hm : VisitorMove address s s') :
    VisitSide address s' := by
  cases hm with
  | idle => exact h
  | interrupted hv he => exact .of_failure rfl
  | handed hv hp =>
    refine ⟨fun _ => h.before (Or.inl hv), ?_, ?_⟩ <;> simp
  | asked hv ha =>
    obtain rfl := eq_of_visit_ask ha
    have hbefore := h.before (Or.inr hv)
    rw [visits] at hbefore
    refine ⟨?_, ?_, ?_⟩ <;> simp [visits, hbefore, authorizeRequest]
  | unsent hv ha =>
    obtain rfl := eq_none_of_visit_done ha
    exact .of_failure rfl
  | @answered answer hv ha =>
    refine { before := by simp [endVisit], sent := by simp [endVisit], passed := fun hok => ?_ }
    obtain ⟨r, rfl, hr⟩ := readVisit_eq_ok (Visitor.finished.inj hok)
    exact ⟨h.sent hv, r, ha, hr⟩

/-- **Every event keeps the side of the visitor in order.** -/
theorem VisitSide.step (h : VisitSide address s) (e : Event) :
    VisitSide address (s.step c a address e) := by
  by_cases he : e = .visitorTurn
  · subst he
    exact h.move (visitorMove address s)
  · obtain ⟨hv, hs⟩ := step_visit c a address s he
    refine ⟨?_, ?_, ?_⟩ <;> rw [hv, hs]
    · exact h.before
    · exact h.sent
    · intro hok
      obtain ⟨hsent, r, hr, hsuccess⟩ := h.passed hok
      refine ⟨hsent, r, ?_, hsuccess⟩
      rcases step_visitAnswer c a address s e with ha | ⟨-, -, -, hnone, -⟩
      · rw [ha, hr]
      · rw [hnone] at hr
        cases hr

/-! ## The side of the receiver -/

/-- The code that the first outcome grants the attempt. -/
def Granted (a : Attempt) (past : List Event) (code : String) : Prop :=
  ∃ outcome, firstOutcome past = some outcome ∧ codeOf a outcome = .ok code

theorem Granted.concat (h : Granted a past code) : Granted a (past ++ [e]) code := by
  obtain ⟨outcome, hfirst, hcode⟩ := h
  exact ⟨outcome, firstOutcome_append hfirst _, hcode⟩

/-- Tokens were asked for once, with the code that was granted. -/
def Bought (c : LoginClient) (a : Attempt) (past : List Event) (sent : List Request) : Prop :=
  ∃ code endpoint, Granted a past code ∧ Url.ofText? c.provider.tokenEndpoint = some endpoint
    ∧ sent = [tokenRequest endpoint (c.codeForm a code)]

theorem Bought.concat {sent : List Request} (h : Bought c a past sent) :
    Bought c a (past ++ [e]) sent := by
  obtain ⟨code, endpoint, hcode, hrest⟩ := h
  exact ⟨code, endpoint, hcode.concat, hrest⟩

/-- Tokens that are bought early on are those that are bought. -/
theorem Bought.unique {past later : List Event} {early sent : List Request}
    (h : Bought c a past early) (h' : Bought c a (past ++ later) sent) : early = sent := by
  obtain ⟨code, endpoint, ⟨outcome, hfirst, hcode⟩, hend, rfl⟩ := h
  obtain ⟨code', endpoint', ⟨outcome', hfirst', hcode'⟩, hend', rfl⟩ := h'
  obtain rfl : outcome = outcome' := by simpa [firstOutcome_append hfirst] using hfirst'
  obtain rfl : code = code' := by simpa [hcode] using hcode'
  obtain rfl : endpoint = endpoint' := by simpa [hend] using hend'
  rfl

/-- A listener that still serves, or has an outcome to give, has the first
one. -/
def HoldsFirst (past : List Event) (l : Listener) : Prop :=
  l.serving = true ∨ l.waiting ≠ none → l.waiting = firstOutcome past

/-- How far the receiver is, and what it has sent and goes by for that. -/
structure ReceiptSide (c : LoginClient) (a : Attempt) (past : List Event) (s : Session) :
    Prop where
  before : s.receiver = .starting ∨ s.receiver = .waiting →
    s.purchases = [] ∧ HoldsFirst past s.listener
  holding : ∀ code, s.receiver = .holding code → s.purchases = [] ∧ Granted a past code
  redeeming : s.receiver = .redeeming → Bought c a past s.purchases
  passed : ∀ tokens, s.receiver = .finished (.ok tokens) → Bought c a past s.purchases
    ∧ ∃ answer, s.codeAnswer = some answer ∧ redeem a answer = .ok tokens

/-- A receiver that failed has nothing to show for itself. -/
theorem ReceiptSide.of_failure {e : LoginError} (h : s.receiver = .finished (.error e)) :
    ReceiptSide c a past s := by
  refine ⟨?_, ?_, ?_, ?_⟩ <;> simp [h]

/-- A move of the receiver keeps its side in order. -/
theorem ReceiptSide.move (h : ReceiptSide c a past s) (hm : ReceiverMove c a s s') :
    ReceiptSide c a past s' := by
  cases hm with
  | idle => exact h
  | published hr =>
    refine ⟨fun _ => h.before (Or.inl hr), ?_, ?_, ?_⟩ <;> simp
  | interrupted hr hr' he => exact .of_failure rfl
  | @granted outcome code hr hw hc =>
    -- what waited was the first outcome, so the code is the one it grants
    obtain ⟨hsent, hfirst⟩ := h.before (Or.inr hr)
    have hwaits : s.listener.waiting ≠ none := by simp [hw]
    refine { before := by simp, holding := fun code' hcode => ⟨hsent, outcome, ?_, ?_⟩,
             redeeming := by simp, passed := by simp }
    · rw [← hfirst (Or.inr hwaits), hw]
    · rw [hc, Receiver.holding.inj hcode]
  | refused hr hw hc => exact .of_failure rfl
  | abandoned hr hw hs => exact .of_failure rfl
  | @asked code request next hr ha =>
    obtain ⟨endpoint, hend, rfl⟩ := eq_of_postForm_ask ha
    obtain ⟨hsent, hcode⟩ := h.holding code hr
    refine { before := by simp, holding := by simp,
             redeeming := fun _ => ⟨code, endpoint, hcode, hend, ?_⟩, passed := by simp }
    rw [purchases] at hsent ⊢
    simp [hsent, tokenRequest]
  | unsent hr ha =>
    obtain rfl := eq_none_of_postForm_done ha
    exact .of_failure rfl
  | @answered answer hr ha =>
    refine { before := by simp [endReceipt], holding := by simp [endReceipt],
             redeeming := by simp [endReceipt], passed := fun tokens hok => ?_ }
    exact ⟨h.redeeming hr, answer, ha, Receiver.finished.inj hok⟩

theorem HoldsFirst.concat {l : Listener} (h : HoldsFirst past l) (he : e.outcome? = none) :
    HoldsFirst (past ++ [e]) l := by
  rw [HoldsFirst, firstOutcome_concat, he, Option.or_none]
  exact h

/-- Until the receiver has a turn, the listener keeps what it holds. -/
theorem HoldsFirst.step (h : HoldsFirst past s.listener) (he : e ≠ .receiverTurn) :
    HoldsFirst (past ++ [e]) (s.step c a address e).listener := by
  cases e with
  | receiverTurn => exact absurd rfl he
  | visitorTurn =>
    show HoldsFirst _ (s.visitorTurn address).listener
    rw [(visitorMove address s).receipt_eq.2.2.2]
    exact h.concat rfl
  | arrives request =>
    simp only [Session.step]
    split
    · next hserving =>
      rw [Listener.receive_eq]
      intro _
      rw [firstOutcome_concat, ← h (Or.inl hserving)]
    · -- a listener that does not serve is not reached
      next hserving =>
      intro hor
      cases hw : s.listener.waiting with
      | none => exact absurd hw (hor.resolve_left hserving)
      | some outcome =>
        rw [h (Or.inr (hor.resolve_left hserving))] at hw
        exact (firstOutcome_append hw _).symm
  | listenerStops =>
    intro hor
    have hw : s.listener.waiting ≠ none := hor.resolve_left Bool.false_ne_true
    exact (h.concat rfl) (Or.inr hw)
  | visitAnswered answer =>
    simp only [Session.step]
    split <;> exact h.concat rfl
  | codeAnswered answer =>
    simp only [Session.step]
    split <;> exact h.concat rfl
  | cancel => exact h.concat rfl
  | deadline => exact h.concat rfl

/-- **Every event keeps the side of the receiver in order.** -/
theorem ReceiptSide.step (h : ReceiptSide c a past s) (e : Event) :
    ReceiptSide c a (past ++ [e]) (s.step c a address e) := by
  by_cases he : e = .receiverTurn
  · subst he
    have hm := h.move (receiverMove c a s)
    exact ⟨fun hr => ⟨(hm.before hr).1, (hm.before hr).2.concat rfl⟩,
      fun code hr => ⟨(hm.holding code hr).1, (hm.holding code hr).2.concat⟩,
      fun hr => (hm.redeeming hr).concat,
      fun tokens hr => ⟨(hm.passed tokens hr).1.concat, (hm.passed tokens hr).2⟩⟩
  · obtain ⟨hr, hs⟩ := step_receipt c a address s he
    refine ⟨?_, ?_, ?_, ?_⟩ <;> rw [hr, hs]
    · exact fun hr => ⟨(h.before hr).1, (h.before hr).2.step he⟩
    · exact fun code hr => ⟨(h.holding code hr).1, (h.holding code hr).2.concat⟩
    · exact fun hr => (h.redeeming hr).concat
    · intro tokens hok
      obtain ⟨hbought, answer, ha, hredeem⟩ := h.passed tokens hok
      refine ⟨hbought.concat, answer, ?_, hredeem⟩
      rcases step_codeAnswer c a address s e with hsame | ⟨-, -, -, hnone, -⟩
      · rw [hsame, ha]
      · rw [hnone] at ha
        cases ha

/-! ## All events -/

variable {cancelled : Bool}

/-- **Both sides are in order in every session.** -/
theorem visitSide_after (past : List Event) :
    VisitSide address (after c a address cancelled past) := by
  refine after_induction (P := fun _ s => VisitSide address s) ?_ (fun _ e h => h.step e) past
  refine ⟨fun _ => rfl, ?_, ?_⟩ <;> simp

@[inherit_doc visitSide_after]
theorem receiptSide_after (past : List Event) :
    ReceiptSide c a past (after c a address cancelled past) := by
  refine after_induction (P := ReceiptSide c a) ?_ (fun _ e h => h.step e) past
  refine ⟨fun _ => ⟨rfl, fun _ => rfl⟩, ?_, ?_, ?_⟩ <;> simp

end Session

end CredentialRotation
