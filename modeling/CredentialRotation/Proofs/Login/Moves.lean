import CredentialRotation.Login.Session

/-!
# What a turn can do

The two tasks of a login are small machines. `VisitorMove` and
`ReceiverMove` list what one turn of each can do to a session, with what
has to be the case for it, so that an argument about turns is a case
split over their constructors. Neither task touches what belongs to the
other, but for the requests that both add to and the cancellation that
each owes the other.

`Session.after` is a session after a list of events, and
`Session.after_induction` the way to prove something of every session.
-/

namespace CredentialRotation

/-! ## The requests of a login -/

/-- A page is asked for as it was meant to be, or not at all. -/
theorem sendTo_cases (method : Method) (url : Url) (headers : List (String × Bytes))
    (body : Bytes) :
    sendTo method url headers body
        = .put ⟨method, { url with fragment := none }, headers, body⟩
      ∨ sendTo method url headers body = .done none := by
  unfold sendTo
  split
  · exact Or.inl rfl
  · exact Or.inr rfl

namespace LoginClient

variable {c : LoginClient} {address : Url} {form : List (String × String)} {request : Request}
  {next : Option Response → Exchange (Option Response)} {answer : Option Response}

/-- The request for an outcome, as it is sent. -/
def authorizeRequest (address : Url) : Request :=
  { method := .get, url := { address with fragment := none } }

/-- The request for tokens, as it is sent. -/
def tokenRequest (endpoint : Url) (form : List (String × String)) : Request :=
  { method := .post, url := { endpoint with fragment := none },
    headers := [("content-type", .ofString Form.contentType)],
    body := Utf8.encode (Form.encode form) }

theorem eq_of_visit_ask (h : visit address = .ask request next) :
    request = authorizeRequest address := by
  rcases sendTo_cases .get address [] [] with h' | h' <;> rw [visit, h'] at h
  · injection h with h
    exact h.symm
  · cases h

/-- A request for an outcome that is not sent has no answer. -/
theorem eq_none_of_visit_done (h : visit address = .done answer) : answer = none := by
  rcases sendTo_cases .get address [] [] with h' | h' <;> rw [visit, h'] at h
  · cases h
  · injection h with h
    exact h.symm

/-- A form is sent to where tokens are sold, or not at all. -/
theorem postForm_cases (c : LoginClient) (form : List (String × String)) :
    (∃ endpoint, Url.ofText? c.provider.tokenEndpoint = some endpoint
        ∧ c.postForm form = .put (tokenRequest endpoint form))
      ∨ c.postForm form = .done none := by
  unfold postForm send
  cases Url.ofText? c.provider.tokenEndpoint with
  | none => exact Or.inr rfl
  | some endpoint =>
    rcases sendTo_cases .post endpoint [("content-type", .ofString Form.contentType)]
      (Utf8.encode (Form.encode form)) with h | h
    · exact Or.inl ⟨endpoint, rfl, h⟩
    · exact Or.inr h

theorem eq_of_postForm_ask (h : c.postForm form = .ask request next) :
    ∃ endpoint, Url.ofText? c.provider.tokenEndpoint = some endpoint
      ∧ request = tokenRequest endpoint form := by
  rcases c.postForm_cases form with ⟨endpoint, hend, h'⟩ | h' <;> rw [h'] at h
  · injection h with h
    exact ⟨endpoint, hend, h.symm⟩
  · cases h

/-- A form that is not sent has no answer. -/
theorem eq_none_of_postForm_done (h : c.postForm form = .done answer) : answer = none := by
  rcases c.postForm_cases form with ⟨endpoint, -, h'⟩ | h' <;> rw [h'] at h
  · cases h
  · injection h with h
    exact h.symm

end LoginClient

open LoginClient

namespace Session

variable {c : LoginClient} {a : Attempt} {address : Url} {s s' : Session}

/-! ## The visitor -/

/-- What a turn of the visitor can do. -/
inductive VisitorMove (address : Url) (s : Session) : Session → Prop
  /-- It waits on, or is done. -/
  | idle : VisitorMove address s s
  /-- It is cancelled, or runs out of time. -/
  | interrupted {e : LoginError} (hv : ∀ result, s.visitor ≠ .finished result)
      (he : s.interruption? s.visitor.activity = some e) :
      VisitorMove address s (s.endVisit (.error e))
  /-- It is handed the address. -/
  | handed (hv : s.visitor = .waiting) (hp : s.published = true) :
      VisitorMove address s { s with visitor := .holding }
  /-- It sends the request for an outcome. -/
  | asked {request : Request} {next : Option Response → Exchange (Option Response)}
      (hv : s.visitor = .holding) (ha : visit address = .ask request next) :
      VisitorMove address s { s with visitor := .requesting, sent := s.sent ++ [request] }
  /-- It cannot send the request. -/
  | unsent {answer : Option Response} (hv : s.visitor = .holding)
      (ha : visit address = .done answer) :
      VisitorMove address s (s.endVisit (readVisit answer))
  /-- It reads the answer. -/
  | answered {answer : Option Response} (hv : s.visitor = .requesting)
      (ha : s.visitAnswer = some answer) :
      VisitorMove address s (s.endVisit (readVisit answer))

/-- **A turn of the visitor is one of its moves.** -/
theorem visitorMove (address : Url) (s : Session) :
    VisitorMove address s (s.visitorTurn address) := by
  unfold visitorTurn
  split
  · exact .idle
  · next e he hv => exact .interrupted hv he
  · next hv _ =>
    split
    · next hp => exact .handed hv hp
    · exact .idle
  · next hv _ =>
    split
    · next ha => exact .unsent hv ha
    · next ha => exact .asked hv ha
  · next hv _ =>
    split
    · next ha => exact .answered hv ha
    · exact .idle

/-! ## The receiver -/

/-- What a turn of the receiver can do. -/
inductive ReceiverMove (c : LoginClient) (a : Attempt) (s : Session) : Session → Prop
  /-- It waits on, or is done. -/
  | idle : ReceiverMove c a s s
  /-- It hands the address over. -/
  | published (hr : s.receiver = .starting) :
      ReceiverMove c a s { s with receiver := .waiting, published := true }
  /-- It is cancelled, or runs out of time. -/
  | interrupted {e : LoginError} (hr : s.receiver ≠ .starting)
      (hr' : ∀ result, s.receiver ≠ .finished result)
      (he : s.interruption? s.receiver.activity = some e) :
      ReceiverMove c a s ({ s with listener.serving := false }.endReceipt (.error e))
  /-- It takes an outcome that grants a code. -/
  | granted {outcome : Callback} {code : String} (hr : s.receiver = .waiting)
      (hw : s.listener.waiting = some outcome) (hc : codeOf a outcome = .ok code) :
      ReceiverMove c a s { s with listener := ⟨false, none⟩, receiver := .holding code }
  /-- It takes an outcome that does not. -/
  | refused {outcome : Callback} {e : LoginError} (hr : s.receiver = .waiting)
      (hw : s.listener.waiting = some outcome) (hc : codeOf a outcome = .error e) :
      ReceiverMove c a s ({ s with listener := ⟨false, none⟩ }.endReceipt (.error e))
  /-- It waits at a listener that has stopped. -/
  | abandoned (hr : s.receiver = .waiting) (hw : s.listener.waiting = none)
      (hs : s.listener.serving = false) :
      ReceiverMove c a s (s.endReceipt (.error (.listener .other)))
  /-- It sends the request for tokens. -/
  | asked {code : String} {request : Request} {next : Option Response → Exchange (Option Response)}
      (hr : s.receiver = .holding code) (ha : c.postForm (c.codeForm a code) = .ask request next) :
      ReceiverMove c a s { s with receiver := .redeeming, sent := s.sent ++ [request] }
  /-- It cannot send the request. -/
  | unsent {code : String} {answer : Option Response} (hr : s.receiver = .holding code)
      (ha : c.postForm (c.codeForm a code) = .done answer) :
      ReceiverMove c a s (s.endReceipt (redeem a answer))
  /-- It reads the answer. -/
  | answered {answer : Option Response} (hr : s.receiver = .redeeming)
      (ha : s.codeAnswer = some answer) :
      ReceiverMove c a s (s.endReceipt (redeem a answer))

/-- **A turn of the receiver is one of its moves.** -/
theorem receiverMove (c : LoginClient) (a : Attempt) (s : Session) :
    ReceiverMove c a s (s.receiverTurn c a) := by
  unfold receiverTurn
  split
  · exact .idle
  · next hr => exact .published hr
  · next e he hr hr' => exact .interrupted hr' hr he
  · next hr _ =>
    split
    · next outcome hw =>
      dsimp only
      split
      · next code hc => exact .granted hr hw hc
      · next e hc => exact .refused hr hw hc
    · next hw =>
      split
      · exact .idle
      · next hs => exact .abandoned hr hw (Bool.not_eq_true _ ▸ hs)
  · next code hr _ =>
    split
    · next ha => exact .unsent hr ha
    · next ha => exact .asked hr ha
  · next hr _ =>
    split
    · next ha => exact .answered hr ha
    · exact .idle

/-! ## One event -/

/-- The requests for an outcome that were sent. -/
def visits (s : Session) : List Request := s.sent.filter fun q => q.method = .get

/-- The requests for tokens that were sent. -/
def purchases (s : Session) : List Request := s.sent.filter fun q => !(q.method = .get)

theorem sent_perm (s : Session) : s.sent.Perm (s.visits ++ s.purchases) :=
  (List.filter_append_perm (fun q : Request => q.method = .get) s.sent).symm

/-- The receiver leaves the visitor alone. -/
theorem ReceiverMove.visit_eq (h : ReceiverMove c a s s') :
    s'.visitor = s.visitor ∧ s'.visits = s.visits ∧ s'.visitAnswer = s.visitAnswer := by
  cases h with
  | asked hr ha =>
    obtain ⟨endpoint, -, rfl⟩ := eq_of_postForm_ask ha
    refine ⟨rfl, ?_, rfl⟩
    simp [visits, tokenRequest]
  | _ => exact ⟨rfl, rfl, rfl⟩

/-- The visitor leaves the receiver alone. -/
theorem VisitorMove.receipt_eq (h : VisitorMove address s s') :
    s'.receiver = s.receiver ∧ s'.purchases = s.purchases ∧ s'.codeAnswer = s.codeAnswer
      ∧ s'.listener = s.listener := by
  cases h with
  | asked hv ha =>
    obtain rfl := eq_of_visit_ask ha
    refine ⟨rfl, ?_, rfl, rfl⟩
    simp [purchases, authorizeRequest]
  | _ => exact ⟨rfl, rfl, rfl, rfl⟩

/-- The visitor does not answer itself. -/
theorem VisitorMove.visitAnswer_eq (h : VisitorMove address s s') :
    s'.visitAnswer = s.visitAnswer := by
  cases h <;> rfl

/-- Nor does the receiver. -/
theorem ReceiverMove.codeAnswer_eq (h : ReceiverMove c a s s') : s'.codeAnswer = s.codeAnswer := by
  cases h <;> rfl

variable (c a address)

/-- Between their turns both tasks stand still. -/
theorem step_tasks (s : Session) {e : Event} (hv : e ≠ .visitorTurn) (hr : e ≠ .receiverTurn) :
    (s.step c a address e).visitor = s.visitor ∧ (s.step c a address e).receiver = s.receiver
      ∧ (s.step c a address e).sent = s.sent := by
  cases e with
  | visitorTurn => exact absurd rfl hv
  | receiverTurn => exact absurd rfl hr
  | visitAnswered answer =>
    simp only [step]
    split <;> exact ⟨rfl, rfl, rfl⟩
  | codeAnswered answer =>
    simp only [step]
    split <;> exact ⟨rfl, rfl, rfl⟩
  | arrives request =>
    simp only [step]
    split <;> exact ⟨rfl, rfl, rfl⟩
  | listenerStops => exact ⟨rfl, rfl, rfl⟩
  | cancel => exact ⟨rfl, rfl, rfl⟩
  | deadline => exact ⟨rfl, rfl, rfl⟩

/-- **Only its turns move the visitor.** -/
theorem step_visit (s : Session) {e : Event} (he : e ≠ .visitorTurn) :
    (s.step c a address e).visitor = s.visitor ∧ (s.step c a address e).visits = s.visits := by
  by_cases hr : e = .receiverTurn
  · subst hr
    obtain ⟨hv, hs, -⟩ := (receiverMove c a s).visit_eq
    exact ⟨hv, hs⟩
  · obtain ⟨hv, -, hs⟩ := step_tasks c a address s he hr
    exact ⟨hv, by rw [visits, hs, visits]⟩

/-- **Only its turns move the receiver.** -/
theorem step_receipt (s : Session) {e : Event} (he : e ≠ .receiverTurn) :
    (s.step c a address e).receiver = s.receiver
      ∧ (s.step c a address e).purchases = s.purchases := by
  by_cases hv : e = .visitorTurn
  · subst hv
    obtain ⟨hr, hs, -⟩ := (visitorMove address s).receipt_eq
    exact ⟨hr, hs⟩
  · obtain ⟨-, hr, hs⟩ := step_tasks c a address s hv he
    exact ⟨hr, by rw [purchases, hs, purchases]⟩

/-- **The answer to the visitor is the first one** that comes while its
request is open. -/
theorem step_visitAnswer (s : Session) (e : Event) :
    (s.step c a address e).visitAnswer = s.visitAnswer
      ∨ ∃ answer, e = .visitAnswered answer ∧ s.visitor = .requesting ∧ s.visitAnswer = none
          ∧ (s.step c a address e).visitAnswer = some answer := by
  cases e with
  | visitorTurn => exact Or.inl (visitorMove address s).visitAnswer_eq
  | receiverTurn => exact Or.inl (receiverMove c a s).visit_eq.2.2
  | visitAnswered answer =>
    simp only [step]
    split
    · next hv =>
      cases s.visitAnswer with
      | none => exact Or.inr ⟨answer, rfl, hv, rfl, rfl⟩
      | some first => exact Or.inl rfl
    · exact Or.inl rfl
  | codeAnswered answer =>
    simp only [step]
    split <;> exact Or.inl rfl
  | arrives request =>
    simp only [step]
    split <;> exact Or.inl rfl
  | listenerStops => exact Or.inl rfl
  | cancel => exact Or.inl rfl
  | deadline => exact Or.inl rfl

/-- **The answer to the receiver is the first one** that comes while its
request is open. -/
theorem step_codeAnswer (s : Session) (e : Event) :
    (s.step c a address e).codeAnswer = s.codeAnswer
      ∨ ∃ answer, e = .codeAnswered answer ∧ s.receiver = .redeeming ∧ s.codeAnswer = none
          ∧ (s.step c a address e).codeAnswer = some answer := by
  cases e with
  | visitorTurn => exact Or.inl (visitorMove address s).receipt_eq.2.2.1
  | receiverTurn => exact Or.inl (receiverMove c a s).codeAnswer_eq
  | codeAnswered answer =>
    simp only [step]
    split
    · next hr =>
      cases s.codeAnswer with
      | none => exact Or.inr ⟨answer, rfl, hr, rfl, rfl⟩
      | some first => exact Or.inl rfl
    · exact Or.inl rfl
  | visitAnswered answer =>
    simp only [step]
    split <;> exact Or.inl rfl
  | arrives request =>
    simp only [step]
    split <;> exact Or.inl rfl
  | listenerStops => exact Or.inl rfl
  | cancel => exact Or.inl rfl
  | deadline => exact Or.inl rfl

variable {c a address}

/-! ## Many events -/

/-- A session after events, which the caller may have cancelled before. -/
def after (c : LoginClient) (a : Attempt) (address : Url) (cancelled : Bool)
    (past : List Event) : Session :=
  past.foldl (step c a address) { cancelled := cancelled }

variable {cancelled : Bool} {past : List Event} {e : Event}

theorem after_concat : after c a address cancelled (past ++ [e])
    = (after c a address cancelled past).step c a address e := by
  rw [after, List.foldl_append]
  rfl

/-- **Every session.** What holds before any event, and after one more
event wherever it held, holds after all events. -/
theorem after_induction {P : List Event → Session → Prop} (hnil : P [] { cancelled := cancelled })
    (hstep : ∀ past e, P past (after c a address cancelled past) →
      P (past ++ [e]) ((after c a address cancelled past).step c a address e))
    (past : List Event) : P past (after c a address cancelled past) := by
  -- the induction is on the events to come, for any past
  have hall : ∀ rest past : List Event, P past (after c a address cancelled past) →
      P (past ++ rest) (after c a address cancelled (past ++ rest)) := by
    intro rest
    induction rest with
    | nil =>
      intro past h
      rwa [List.append_nil]
    | cons e rest ih =>
      intro past h
      rw [List.append_cons]
      refine ih (past ++ [e]) ?_
      rw [after_concat]
      exact hstep past e h
  exact hall past [] hnil

/-- **Where an answer is from.** What is put into a slot only while a
request is open came with an event, and nothing was there before. -/
theorem exists_answered {α : Type} (slot : Session → Option α) (isOpen : Session → Prop)
    (event : α → Event) (hnil : slot { cancelled := cancelled } = none)
    (hstep : ∀ (s : Session) e, slot (s.step c a address e) = slot s
      ∨ ∃ x, e = event x ∧ isOpen s ∧ slot s = none ∧ slot (s.step c a address e) = some x)
    (past : List Event) {x : α} (h : slot (after c a address cancelled past) = some x) :
    ∃ before later, past = before ++ event x :: later
      ∧ isOpen (after c a address cancelled before)
      ∧ slot (after c a address cancelled before) = none := by
  refine after_induction (P := fun past s => slot s = some x → ∃ before later,
    past = before ++ event x :: later ∧ isOpen (after c a address cancelled before)
      ∧ slot (after c a address cancelled before) = none) ?_ ?_ past h
  · intro h
    rw [hnil] at h
    cases h
  · intro past e ih h
    -- it was there before the last event, or the last event brought it
    rcases hstep (after c a address cancelled past) e with hsame | ⟨y, rfl, hopen, hnone, hy⟩
    · rw [hsame] at h
      obtain ⟨before, later, rfl, hopen, hnone⟩ := ih h
      exact ⟨before, later ++ [e], by simp, hopen, hnone⟩
    · obtain rfl : y = x := by simpa [hy] using h
      exact ⟨past, [], rfl, hopen, hnone⟩

end Session

end CredentialRotation
