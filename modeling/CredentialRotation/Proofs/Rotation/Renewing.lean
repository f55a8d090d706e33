import CredentialRotation.Login.Client
import CredentialRotation.Proofs.Login.Requests
import CredentialRotation.Proofs.Web.Sending

/-!
# What a renewal does

A renewal is one or two operations of a client: a refresh where a refresh
token is held, and a login where none is held or the refresh has failed.
`LoginClient.Way` lists the three ways that this can go, with the
operations and the result of each, and `LoginClient.way` says that every
renewal goes one of them, whatever the provider does.

A renewal meets at most one answer to a refresh and one login, so an
`Occasion` with one of each is all that a provider can do to it.
-/

namespace CredentialRotation

/-- What a renewal meets: the clock, the answer to its refresh, and the
circumstances of its login. -/
structure Renewal.Occasion where
  now : Instant
  answer : Option Response
  login : Circumstances

/-- Those that a client asks on an occasion. -/
def Renewal.Occasion.peer (o : Renewal.Occasion) : (q : LoginClient.Need) → q.Answer
  | .exchange _ => o.answer
  | .login => o.login

/-- The tokens in the answer to the refresh. -/
def Renewal.Occasion.paid? (o : Renewal.Occasion) : Option TokenAnswer :=
  (LoginClient.readAnswer o.answer).toOption

/-- The refresh token that is held. An empty one is none. -/
def refreshToken? (held : Option TokenSet) : Option String :=
  (held.filter fun t => !t.refreshToken.isEmpty).map (·.refreshToken)

theorem refreshToken?_eq_some_iff {held : Option TokenSet} {token : String} :
    refreshToken? held = some token ↔
      ∃ t, held = some t ∧ t.refreshToken = token ∧ token ≠ "" := by
  simp only [refreshToken?, Option.map_eq_some_iff, Option.filter_eq_some_iff]
  constructor
  · rintro ⟨t, ⟨rfl, hfull⟩, rfl⟩
    exact ⟨t, rfl, rfl, by simpa using hfull⟩
  · rintro ⟨t, rfl, rfl, hfull⟩
    exact ⟨t, ⟨rfl, by simpa using hfull⟩, rfl⟩

theorem refreshToken?_some_eq_none_iff {t : TokenSet} :
    refreshToken? (some t) = none ↔ t.refreshToken = "" := by
  rw [refreshToken?, Option.map_eq_none_iff, Option.filter_eq_none_iff]
  simp

namespace LoginClient

variable (c : LoginClient) (held : Option TokenSet) (o : Renewal.Occasion)

/-- What a renewal of what is held gives on an occasion. -/
def renewed : Except LoginError TokenSet := (c.renew held o.now).eval o.peer

/-- What a renewal asks on an occasion, in order. -/
def needs : List Need := (c.renew held o.now).asked o.peer

/-- What a client answers to a request of renewal on an occasion. -/
def performed (q : LoginRequest) : q.Answer := (c.perform o.now q).eval o.peer

/-- The operations of a renewal on an occasion, in order. -/
def operations : List LoginRequest := (Renewal.renew held).asked (c.performed o)

/-- What a refresh gives on an occasion. -/
def refreshed (token : String) : Except LoginError TokenSet := c.performed o (.refresh token)

/-- What a login gives on an occasion. -/
def loggedIn : Except LoginError TokenSet := (c.login o.login).1

/-- The requests that a need makes a client send on an occasion. -/
def requestsFor (o : Renewal.Occasion) : Need → List Request
  | .exchange request => [request]
  | .login => (c.login o.login).2

/-- The requests that a renewal sends on an occasion: its own, and those
of its login. -/
def sends : List Request := (c.needs held o).flatMap (c.requestsFor o)

/-- The request that a refresh sends, if the token endpoint is read as the
address of a page (by `Url.ofText?`, so with a host in Latin letters). -/
def refreshRequest? (token : String) : Option Request :=
  ((Url.ofText? c.provider.tokenEndpoint).filter (·.isWeb)).map
    (tokenRequest · (c.refreshForm token))

variable {c held o} {token : String} {t : TokenSet}

/-! ## One operation -/

theorem refreshRequest?_eq : c.refreshRequest? token
    = Request.leaving? .post c.provider.tokenEndpoint
        [("content-type", .ofString Form.contentType)]
        (Utf8.encode (Form.encode (c.refreshForm token))) := by
  -- only the address can keep a refresh from being sent
  have htype : isHeaderValue (.ofString Form.contentType) = true := by decide
  simp only [refreshRequest?, Request.leaving?, List.all_cons, List.all_nil, htype, Bool.and_true]
  rfl

/-- The request of a refresh has its form. -/
theorem decode_of_refreshRequest? {q : Request} (h : c.refreshRequest? token = some q) :
    q.method = .post ∧ Form.decode q.body = c.refreshForm token := by
  obtain ⟨endpoint, -, rfl⟩ := Option.map_eq_some_iff.1 h
  exact ⟨rfl, Form.decode_encode _⟩

/-- So it asks for a refresh. -/
theorem asksRefresh_of_refreshRequest? {q : Request} (h : c.refreshRequest? token = some q) :
    q.asksRefresh = true := by
  rw [Request.asksRefresh, (decode_of_refreshRequest? h).2, decide_eq_true_iff]
  exact List.mem_cons_self

/-- **A refresh gives** what its answer says. One that cannot be sent has
no answer. -/
theorem refreshed_eq : c.refreshed o token
    = readRefreshed token ((c.refreshRequest? token).bind fun _ => o.answer) := by
  rw [refreshed, performed, perform, Dialogue.eval_via, refreshRequest?_eq]
  exact eval_send_bind _ _

/-- And asks for nothing but that answer. -/
theorem asked_refresh : (c.perform o.now (.refresh token)).asked o.peer
    = ((c.refreshRequest? token).map Need.exchange).toList := by
  have hasked : (c.refresh token).asked (fun q => (Dialogue.put (Need.exchange q)).eval o.peer)
      = (c.refreshRequest? token).toList := by
    rw [refreshRequest?_eq]
    exact asked_send_bind _ _
  rw [perform, Dialogue.asked_via, hasked]
  cases c.refreshRequest? token <;> rfl

/-- A refresh that succeeds was answered with an ID token, and keeps the
refresh token unless the answer has another. -/
theorem refreshed_eq_ok_iff : c.refreshed o token = .ok t ↔
    ∃ q paid, c.refreshRequest? token = some q ∧ o.paid? = some paid
      ∧ paid.idToken = some t.idToken
      ∧ t.refreshToken = (paid.refreshToken.filter fun s => !s.isEmpty).getD token := by
  simp only [refreshed_eq, Renewal.Occasion.paid?, toOption_eq_some_iff]
  cases hq : c.refreshRequest? token with
  | none => simp [readRefreshed, readAnswer, bind, Except.bind]
  | some q =>
    simp only [Option.bind_some, readRefreshed, bind_eq_ok_iff, Option.some.injEq,
      exists_and_left, exists_eq_left']
    refine exists_congr fun paid => and_congr_right fun _ => ?_
    obtain ⟨idToken, refreshToken⟩ := t
    cases paid.idToken with
    | none => simp
    | some s => simp [eq_comm]

/-- What a login was answered when its code was redeemed. -/
def redeemedWith (c : LoginClient) (w : Circumstances) (answer : Option Response) : Prop :=
  ∃ a address, c.start w = .ok (a, address) ∧ (c.session w a address).codeAnswer = some answer

/-- A login that succeeds has its tokens from the answer to its code, and
can read the ID token. -/
theorem exists_redeemedWith {w : Circumstances} (h : (c.login w).1 = .ok t) :
    ∃ answer paid, c.redeemedWith w answer ∧ readAnswer answer = .ok paid
      ∧ paid.idToken = some t.idToken ∧ t.refreshToken = paid.refreshToken.getD ""
      ∧ ∃ claims, Token.claims t.idToken = .ok claims := by
  obtain ⟨a, address, hstart, hresult, -⟩ := login_eq_ok h
  have hreceiver := (Session.result_eq_ok_iff.1 hresult).2
  have hside : Session.ReceiptSide c a w.events (c.session w a address) :=
    Session.receiptSide_after w.events
  obtain ⟨-, answer, hanswer, hredeem⟩ := hside.passed t hreceiver
  obtain ⟨r, paid, rfl, hsuccess, hread, hid, hrefresh, hclaims⟩ := redeem_eq_ok hredeem
  have hpaid : readAnswer (some r) = .ok paid := by
    simp only [readAnswer, hsuccess, if_true, hread]
  exact ⟨some r, paid, ⟨a, address, hstart, hanswer⟩, hpaid, hid, hrefresh, hclaims⟩

/-! ## One renewal -/

/-- How a renewal can go: its operations, in order, and its result. -/
inductive Way (c : LoginClient) (held : Option TokenSet) (o : Renewal.Occasion) :
    List LoginRequest → Except LoginError TokenSet → Prop
  /-- The refresh succeeds. -/
  | refresh {token : String} {t : TokenSet} (hheld : refreshToken? held = some token)
      (hdone : c.refreshed o token = .ok t) : Way c held o [.refresh token] (.ok t)
  /-- The refresh fails, and a login follows. -/
  | fallback {token : String} {e : LoginError} (hheld : refreshToken? held = some token)
      (hfailed : c.refreshed o token = .error e) :
      Way c held o [.refresh token, .login] (c.loggedIn o)
  /-- There is nothing to refresh with. -/
  | login (hnone : refreshToken? held = none) : Way c held o [.login] (c.loggedIn o)

theorem renewed_eq : c.renewed held o = (Renewal.renew held).eval (c.performed o) :=
  Dialogue.eval_via _ _ _

/-- **Every renewal goes one of the ways.** -/
theorem way (c : LoginClient) (held : Option TokenSet) (o : Renewal.Occasion) :
    c.Way held o (c.operations held o) (c.renewed held o) := by
  rw [renewed_eq, operations, Renewal.renew]
  cases hheld : held.filter fun t => !t.refreshToken.isEmpty with
  | none =>
    refine .login ?_
    rw [refreshToken?, hheld, Option.map_none]
  | some t =>
    have htoken : refreshToken? held = some t.refreshToken := by
      rw [refreshToken?, hheld, Option.map_some]
    simp only [Dialogue.asked, Dialogue.eval]
    cases hdone : c.performed o (.refresh t.refreshToken) with
    | ok t' => exact .refresh htoken hdone
    | error e => exact .fallback htoken hdone

/-- What a renewal needs is what its operations ask for. -/
theorem needs_eq : c.needs held o
    = (c.operations held o).flatMap fun q => (c.perform o.now q).asked o.peer :=
  Dialogue.asked_via _ _ _

/-- **A renewal logs in** as often as its operations say. -/
theorem count_login_needs :
    (c.needs held o).count .login = (c.operations held o).count .login := by
  have hrefresh (token : String) :
      ((c.perform o.now (.refresh token)).asked o.peer).count .login = 0 := by
    rw [asked_refresh]
    cases c.refreshRequest? token <;> rfl
  have hway := c.way held o
  rw [needs_eq]
  generalize c.operations held o = operations, c.renewed held o = result at hway ⊢
  cases hway with
  | refresh hheld hdone =>
    rw [List.flatMap_singleton, hrefresh]
    rfl
  | fallback hheld hfailed =>
    rw [List.flatMap_cons, List.count_append, hrefresh]
    rfl
  | login hnone => rfl

/-- **A renewal asks for a refresh once**, with the token that is held, if
one is held and there is where to send it. -/
theorem filter_asksRefresh_sends : (c.sends held o).filter (·.asksRefresh)
    = ((refreshToken? held).bind c.refreshRequest?).toList := by
  -- nothing that a login sends asks for a refresh
  have hlogin : (c.requestsFor o .login).filter (·.asksRefresh) = [] := by
    rw [List.filter_eq_nil_iff]
    intro q hq
    rw [asksRefresh_of_login hq]
    exact Bool.false_ne_true
  -- and all that a refresh sends does
  have hrefresh (token : String) :
      (((c.perform o.now (.refresh token)).asked o.peer).flatMap (c.requestsFor o)).filter
          (·.asksRefresh) = (c.refreshRequest? token).toList := by
    rw [asked_refresh]
    cases hq : c.refreshRequest? token with
    | none => rfl
    | some q =>
      exact List.filter_cons_of_pos (asksRefresh_of_refreshRequest? hq)
  have hlast : (((c.perform o.now .login).asked o.peer).flatMap (c.requestsFor o)).filter
      (·.asksRefresh) = [] := by
    show ([Need.login].flatMap (c.requestsFor o)).filter (·.asksRefresh) = []
    rw [List.flatMap_singleton, hlogin]
  have hway := c.way held o
  rw [sends, needs_eq, List.flatMap_assoc, List.filter_flatMap]
  generalize c.operations held o = operations, c.renewed held o = result at hway ⊢
  cases hway with
  | refresh hheld hdone => rw [List.flatMap_singleton, hrefresh, hheld, Option.bind_some]
  | fallback hheld hfailed =>
    rw [List.flatMap_cons, List.flatMap_singleton, hrefresh, hlast, hheld, Option.bind_some,
      List.append_nil]
  | login hnone => rw [List.flatMap_singleton, hlast, hnone]; rfl

end LoginClient

end CredentialRotation
