import CredentialRotation.Proofs.Login.Course

/-!
# What a login sends

However a login goes, what it sends is of two kinds: the request for an
outcome at the address that it started with, and requests that redeem a
code. None of them asks for a refresh.
-/

namespace CredentialRotation

open LoginClient

/-- Whether a request asks for tokens in exchange for a refresh token. -/
def Request.asksRefresh (q : Request) : Bool :=
  ("grant_type", "refresh_token") ∈ Form.decode q.body

/-- A request that an attempt may send. -/
inductive Attempt.Sends (c : LoginClient) (a : Attempt) (address : Url) : Request → Prop
  /-- The request for an outcome. -/
  | visit : Sends c a address (authorizeRequest address)
  /-- A request that redeems a code. -/
  | purchase (endpoint : Url) (code : String) :
      Sends c a address (tokenRequest endpoint (c.codeForm a code))

namespace Session

variable {c : LoginClient} {a : Attempt} {address : Url} {s s' : Session} {q : Request}

theorem VisitorMove.sends (h : VisitorMove address s s') (hq : q ∈ s'.sent) :
    q ∈ s.sent ∨ a.Sends c address q := by
  cases h with
  | asked hv ha =>
    obtain rfl := eq_of_visit_ask ha
    rcases List.mem_append.1 hq with hold | hnew
    · exact Or.inl hold
    · obtain rfl := List.mem_singleton.1 hnew
      exact Or.inr .visit
  | _ => exact Or.inl hq

theorem ReceiverMove.sends (h : ReceiverMove c a s s') (hq : q ∈ s'.sent) :
    q ∈ s.sent ∨ a.Sends c address q := by
  cases h with
  | asked hr ha =>
    obtain ⟨endpoint, -, rfl⟩ := eq_of_postForm_ask ha
    rcases List.mem_append.1 hq with hold | hnew
    · exact Or.inl hold
    · obtain rfl := List.mem_singleton.1 hnew
      exact Or.inr (.purchase endpoint _)
  | _ => exact Or.inl hq

/-- **One event** adds nothing but a request of the attempt. -/
theorem step_sends (s : Session) (e : Event) (hq : q ∈ (s.step c a address e).sent) :
    q ∈ s.sent ∨ a.Sends c address q := by
  by_cases hv : e = .visitorTurn
  · subst hv
    exact (visitorMove address s).sends hq
  · by_cases hr : e = .receiverTurn
    · subst hr
      exact (receiverMove c a s).sends hq
    · obtain ⟨-, -, hsent⟩ := step_tasks c a address s hv hr
      rw [hsent] at hq
      exact Or.inl hq

/-- **All events** add nothing but requests of the attempt. -/
theorem sends_after {cancelled : Bool} (past : List Event) :
    ∀ q ∈ (after c a address cancelled past).sent, a.Sends c address q := by
  refine after_induction (P := fun _ s => ∀ q ∈ s.sent, a.Sends c address q) ?_ ?_ past
  · intro q hq
    cases hq
  · intro past e ih q hq
    rcases step_sends _ e hq with hold | hnew
    · exact ih q hold
    · exact hnew

end Session

namespace LoginClient

variable {c : LoginClient} {a : Attempt} {address : Url} {w : Circumstances} {q : Request}

/-- **What a login sends** are requests of the attempt that it makes. -/
theorem sends_of_login (h : c.start w = .ok (a, address)) (hq : q ∈ (c.login w).2) :
    a.Sends c address q := by
  have hsent : (c.login w).2 = (c.session w a address).sent := by
    simp only [login, h]
  rw [hsent] at hq
  exact Session.sends_after w.events q hq

/-- A login that cannot start sends nothing. -/
theorem sent_of_start_eq_error {e : LoginError} (h : c.start w = .error e) :
    (c.login w).2 = [] := by
  simp only [login, h]

theorem asksRefresh_of_sends (h : a.Sends c address q) : q.asksRefresh = false := by
  cases h with
  | visit => rfl
  | purchase endpoint code =>
    obtain ⟨proof, hproof, hform⟩ := codeForm_eq c a code
    rw [Request.asksRefresh, tokenRequest, Form.decode_encode, hform]
    rw [decide_eq_false_iff_not, List.mem_append, not_or]
    constructor
    · simp
    · intro hmem
      exact absurd (hproof _ hmem) (by decide)

/-- **No login asks for a refresh.** -/
theorem asksRefresh_of_login (hq : q ∈ (c.login w).2) : q.asksRefresh = false := by
  cases hstart : c.start w with
  | error e =>
    rw [sent_of_start_eq_error hstart] at hq
    cases hq
  | ok started => exact asksRefresh_of_sends (sends_of_login hstart hq)

end LoginClient

end CredentialRotation
