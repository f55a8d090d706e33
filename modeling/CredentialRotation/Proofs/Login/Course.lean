import CredentialRotation.Proofs.Login.Sides
import CredentialRotation.Proofs.Token.Validity
import CredentialRotation.Proofs.Web.Form

/-!
# Earned logins

A login ends with tokens only if both of its tasks did their part, in
whatever order things happened. `LoginClient.Course` is all that has to
have happened then: the requests that were sent, the answers that they
got and the outcome in between. It is read off the two sides of the
session at its end. The endpoints in it are addresses as `Url.ofText?`
reads them, with hosts in Latin letters.
-/

namespace CredentialRotation

open LoginClient Session

variable {c : LoginClient} {a : Attempt} {address : Url} {s : Session} {outcome : Callback}
  {code : String} {tokens : TokenSet}

namespace Session

/-! ## Results -/

theorem visitResult_eq_ok_iff :
    s.visitResult = .ok () ↔ s.visitor = .finished (.ok ()) := by
  unfold visitResult
  cases s.visitor <;> simp

theorem receiptResult_eq_ok_iff :
    s.receiptResult = .ok tokens ↔ s.receiver = .finished (.ok tokens) := by
  unfold receiptResult
  cases s.receiver <;> simp

theorem join_eq_ok_iff {visit : Except LoginError Unit} {receipt : Except LoginError TokenSet} :
    join visit receipt = .ok tokens ↔ visit = .ok () ∧ receipt = .ok tokens := by
  cases visit <;> cases receipt <;> simp [join]

/-- A login ends with tokens when both tasks have ended well, and not
before. -/
theorem result_eq_ok_iff : s.result = .ok tokens ↔
    s.visitor = .finished (.ok ()) ∧ s.receiver = .finished (.ok tokens) := by
  rw [result, join_eq_ok_iff, visitResult_eq_ok_iff, receiptResult_eq_ok_iff]

end Session

namespace LoginClient

theorem codeOf_eq_ok_iff : codeOf a outcome = .ok code ↔
    outcome.error = none ∧ outcome.state = some a.state ∧ outcome.code = some code := by
  unfold codeOf
  cases outcome.error with
  | some error => simp
  | none =>
    by_cases hstate : outcome.state = some a.state
    · cases outcome.code <;> simp [hstate]
    · simp [hstate]

theorem readAnswer_eq_ok {answer : Option Response} {paid : TokenAnswer}
    (h : readAnswer answer = .ok paid) :
    ∃ r : Response, answer = some r ∧ r.isSuccess = true
      ∧ (r.body.bind Json.Node.ofBytes?).bind TokenAnswer.read? = some paid := by
  unfold readAnswer at h
  split at h
  · cases h
  · next r =>
    split at h
    · next hr =>
      split at h
      · next t ht => exact ⟨r, rfl, hr, by rw [ht, Except.ok.inj h]⟩
      · cases h
    · split at h <;> cases h

/-- Tokens are those of a successful answer, and the ID token is one that
can be read. -/
theorem redeem_eq_ok {answer : Option Response} (h : redeem a answer = .ok tokens) :
    ∃ (r : Response) (paid : TokenAnswer), answer = some r ∧ r.isSuccess = true
      ∧ (r.body.bind Json.Node.ofBytes?).bind TokenAnswer.read? = some paid
      ∧ paid.idToken = some tokens.idToken ∧ tokens.refreshToken = paid.refreshToken.getD ""
      ∧ ∃ claims, Token.claims tokens.idToken = .ok claims := by
  obtain ⟨tokens', hread, hcheck⟩ := bind_eq_ok_iff.1 h
  obtain ⟨_, hnonce, htokens⟩ := bind_eq_ok_iff.1 hcheck
  obtain rfl : tokens' = tokens := by simpa using htokens
  obtain ⟨paid, hpaid, hid⟩ := bind_eq_ok_iff.1 hread
  obtain ⟨r, rfl, hr, hbody⟩ := readAnswer_eq_ok hpaid
  split at hid
  · next idToken hidToken =>
    obtain rfl := Except.ok.inj hid
    refine ⟨r, paid, rfl, hr, hbody, hidToken, rfl, ?_⟩
    dsimp only at hnonce ⊢
    unfold checkNonce at hnonce
    split at hnonce
    · cases hnonce
    · next claims hclaims => exact ⟨claims, hclaims⟩
  · cases hid

/-- An address to start at is that of the provider, with the parameters
of the attempt. -/
theorem authorizeUrl_eq_ok_iff : c.authorizeUrl a = .ok address ↔
    ∃ u, Url.ofText? c.provider.authorizationEndpoint = some u
      ∧ u.addPairs (c.authorizePairs a) = address := by
  unfold authorizeUrl
  cases Url.ofText? c.provider.authorizationEndpoint <;> simp

/-- A login starts where it has a port to listen at and an address to
start at. -/
theorem start_eq_ok_iff {w : Circumstances} : c.start w = .ok (a, address) ↔
    ∃ port, w.port = .ok port ∧ c.attempt w.state w.nonce w.verifier port = a
      ∧ c.authorizeUrl a = .ok address := by
  unfold start
  cases w.port with
  | error kind => simp
  | ok port =>
    simp only [bind_eq_ok_iff, Except.ok.injEq, Prod.mk.injEq, exists_eq_left']
    constructor
    · rintro ⟨address', haddress, rfl, rfl⟩
      exact ⟨rfl, haddress⟩
    · rintro ⟨rfl, haddress⟩
      exact ⟨address, haddress, rfl, rfl⟩

/-- The parameters of an attempt are in the address that it starts at. -/
theorem mem_pairs_of_start {w : Circumstances} (h : c.start w = .ok (a, address))
    {pair : String × String} (hpair : pair ∈ c.authorizePairs a) : pair ∈ address.pairs := by
  obtain ⟨port, -, -, haddress⟩ := start_eq_ok_iff.1 h
  obtain ⟨u, -, rfl⟩ := authorizeUrl_eq_ok_iff.1 haddress
  rw [Url.pairs_addPairs]
  exact List.mem_append_right _ hpair

/-- An attempt is made with what was drawn for it, and its redirect
address is in the address of the request for an outcome. -/
theorem start_eq_ok {w : Circumstances} (h : c.start w = .ok (a, address)) :
    a.state = w.state ∧ ("redirect_uri", a.redirectUri) ∈ address.pairs := by
  refine ⟨?_, mem_pairs_of_start h (by simp [authorizePairs])⟩
  obtain ⟨port, -, rfl, -⟩ := start_eq_ok_iff.1 h
  rfl

/-- A client to try things with: its provider asks for no proof key. -/
def sampleClient : LoginClient :=
  ⟨{ issuerUrl := "https://idp", clientId := "id" },
    ⟨"https://idp", "https://idp/a", "https://idp/t", none, [], [], []⟩, ⟨[], [], []⟩⟩

/-! ## The course of a login -/

/-- What happened in a login that ended with `tokens`. -/
structure Course (c : LoginClient) (w : Circumstances) (tokens : TokenSet) where
  /-- The attempt, and the address that its request for an outcome goes to. -/
  attempt : Attempt
  address : Url
  started : c.start w = .ok (attempt, address)
  redirected : ("redirect_uri", attempt.redirectUri) ∈ address.pairs
  /-- The first outcome that reached the listener, and its code. -/
  outcome : Callback
  code : String
  first : firstOutcome w.events = some outcome
  unfailed : outcome.error = none
  ours : outcome.state = some w.state
  coded : outcome.code = some code
  /-- The request for tokens, and what it says. -/
  purchase : Request
  endpoint : Url
  post : purchase.method = .post
  placed : Url.ofText? c.provider.tokenEndpoint = some endpoint
    ∧ purchase.url = { endpoint with fragment := none }
  form : ∃ proof, (∀ pair ∈ proof, pair.1 = "code_verifier") ∧ Form.decode purchase.body
    = [("grant_type", "authorization_code"), ("code", code),
        ("redirect_uri", attempt.redirectUri), ("client_id", c.config.clientId)] ++ proof
  /-- Nothing but the two requests was sent, and each of them once. -/
  sent : (c.login w).2.Perm [authorizeRequest address, purchase]
  /-- The answer to the request for an outcome: the first that came once it was sent. -/
  visit : Response
  visited : ∃ before later, w.events = before ++ .visitAnswered (some visit) :: later
    ∧ (c.session { w with events := before } attempt address).visits = [authorizeRequest address]
    ∧ (c.session { w with events := before } attempt address).visitAnswer = none
  welcome : 200 ≤ visit.status ∧ visit.status < 300
  /-- The answer to the request for tokens, and the tokens in it. -/
  answer : Response
  paid : TokenAnswer
  answered : ∃ before later, w.events = before ++ .codeAnswered (some answer) :: later
    ∧ (c.session { w with events := before } attempt address).purchases = [purchase]
    ∧ (c.session { w with events := before } attempt address).codeAnswer = none
  accepted : 200 ≤ answer.status ∧ answer.status < 300
  read : (answer.body.bind Json.Node.ofBytes?).bind TokenAnswer.read? = some paid
  idToken : paid.idToken = some tokens.idToken
  refreshToken : tokens.refreshToken = paid.refreshToken.getD ""
  readable : ∃ claims, Token.claims tokens.idToken = .ok claims

theorem isSuccess_iff {r : Response} : r.isSuccess = true ↔ 200 ≤ r.status ∧ r.status < 300 := by
  simp [Response.isSuccess, Status.isSuccess]

/-- The form for a code is the four pairs, and the proof key if there is
one. -/
theorem codeForm_eq (c : LoginClient) (a : Attempt) (code : String) :
    ∃ proof, (∀ pair ∈ proof, pair.1 = "code_verifier") ∧ c.codeForm a code
      = [("grant_type", "authorization_code"), ("code", code), ("redirect_uri", a.redirectUri),
          ("client_id", c.config.clientId)] ++ proof := by
  refine ⟨_, ?_, rfl⟩
  cases a.proofKey <;> simp

/-- A login that ends with tokens makes an attempt whose session does. -/
theorem login_eq_ok {w : Circumstances} (h : (c.login w).1 = .ok tokens) :
    ∃ a address, c.start w = .ok (a, address) ∧ (c.session w a address).result = .ok tokens
      ∧ (c.login w).2 = (c.session w a address).sent := by
  cases hstart : c.start w with
  | error e =>
    simp only [login, hstart] at h
    cases h
  | ok started =>
    obtain ⟨a, address⟩ := started
    simp only [login, hstart] at h ⊢
    refine ⟨a, address, rfl, ?_, rfl⟩
    cases hr : (c.session w a address).result with
    | error e =>
      rw [hr] at h
      cases h
    | ok tokens' =>
      rw [hr] at h
      exact h

variable (w : Circumstances)

/-- What the visitor has been answered came with an event, after its
request was sent. -/
theorem exists_visited {answer : Option Response}
    (h : (c.session w a address).visitAnswer = some answer) :
    ∃ before later, w.events = before ++ .visitAnswered answer :: later
      ∧ (c.session { w with events := before } a address).visits = [authorizeRequest address]
      ∧ (c.session { w with events := before } a address).visitAnswer = none := by
  obtain ⟨before, later, hsplit, hopen, hnone⟩ := exists_answered Session.visitAnswer
    (fun s => s.visitor = .requesting) .visitAnswered rfl (step_visitAnswer c a address) w.events h
  exact ⟨before, later, hsplit, (visitSide_after before).sent hopen, hnone⟩

/-- What the receiver has been answered came with an event, after its
request was sent. -/
theorem exists_redeemed {answer : Option Response}
    (h : (c.session w a address).codeAnswer = some answer) :
    ∃ before later, w.events = before ++ .codeAnswered answer :: later
      ∧ Bought c a before (c.session { w with events := before } a address).purchases
      ∧ (c.session { w with events := before } a address).codeAnswer = none := by
  obtain ⟨before, later, hsplit, hopen, hnone⟩ := exists_answered Session.codeAnswer
    (fun s => s.receiver = .redeeming) .codeAnswered rfl (step_codeAnswer c a address) w.events h
  exact ⟨before, later, hsplit, (receiptSide_after before).redeeming hopen, hnone⟩

/-- **Tokens are earned.** Whatever the provider does, whatever reaches
the listener and whenever each task has its turns: a login that ends with
tokens has run the whole of its course. -/
theorem course_of_login (c : LoginClient) (w : Circumstances) (tokens : TokenSet)
    (h : (c.login w).1 = .ok tokens) : Nonempty (c.Course w tokens) := by
  obtain ⟨a, address, hstart, hresult, hsent⟩ := login_eq_ok h
  obtain ⟨hstate, hredirect⟩ := start_eq_ok hstart
  obtain ⟨hvisitor, hreceiver⟩ := result_eq_ok_iff.1 hresult
  -- the two sides at the end of the session
  have hvisitSide : VisitSide address (c.session w a address) := visitSide_after w.events
  have hreceiptSide : ReceiptSide c a w.events (c.session w a address) := receiptSide_after w.events
  obtain ⟨hvisits, visit, hvisit, hwelcome⟩ := hvisitSide.passed hvisitor
  obtain ⟨hbought, answer, hanswer, hredeem⟩ := hreceiptSide.passed tokens hreceiver
  -- and what they go by
  obtain ⟨r, paid, rfl, haccepted, hread, hid, hrefresh, hclaims⟩ := redeem_eq_ok hredeem
  obtain ⟨before, later, hsplit, hopen, hnone⟩ := exists_redeemed w hanswer
  have hsame := hopen.unique (hsplit ▸ hbought)
  obtain ⟨code, endpoint, ⟨outcome, hfirst, hcode⟩, hend, hpurchases⟩ := hbought
  obtain ⟨herror, hours, hcoded⟩ := codeOf_eq_ok_iff.1 hcode
  obtain ⟨proof, hproof, hform⟩ := codeForm_eq c a code
  exact ⟨{
    attempt := a
    address
    started := hstart
    redirected := hredirect
    outcome
    code
    first := hfirst
    unfailed := herror
    ours := by rw [hours, hstate]
    coded := hcoded
    purchase := tokenRequest endpoint (c.codeForm a code)
    endpoint
    post := rfl
    placed := ⟨hend, rfl⟩
    form := ⟨proof, hproof, by rw [tokenRequest, Form.decode_encode, hform]⟩
    sent := by
      have hperm := (c.session w a address).sent_perm
      rwa [hvisits, hpurchases, ← hsent] at hperm
    visit
    visited := exists_visited w hvisit
    welcome := isSuccess_iff.1 hwelcome
    answer := r
    paid
    answered := ⟨before, later, hsplit, hsame.trans hpurchases, hnone⟩
    accepted := isSuccess_iff.1 haccepted
    read := hread
    idToken := hid
    refreshToken := hrefresh
    readable := hclaims }⟩

/-- At work: a second outcome with another code comes before the receiver
has looked at the first, and the visitor is answered last. -/
theorem course_of_login_two_outcomes :
    let c : LoginClient :=
      ⟨{ issuerUrl := "https://idp", clientId := "id" },
        ⟨"https://idp", "https://idp/a", "https://idp/t", none, [], [], []⟩, ⟨[], [], []⟩⟩
    let tokens : TokenSet :=
      ⟨"eyJhbGciOiJIUzI1NiIsInR5cCI6IkpXVCJ9.eyJpYXQiOjAsImV4cCI6MzAwMH0.", ""⟩
    let body := Bytes.ofString ("\x7b\"id_token\":\"" ++ tokens.idToken ++ "\"\x7d")
    let w : Circumstances :=
      { port := .ok 8000, state := "s", nonce := "n", verifier := "v",
        events := [.receiverTurn, .visitorTurn, .visitorTurn,
          .arrives ⟨.get, "/", "code=1&state=s"⟩, .arrives ⟨.get, "/", "code=2&state=s"⟩,
          .receiverTurn, .receiverTurn, .codeAnswered (some ⟨200, [], some body⟩), .receiverTurn,
          .visitAnswered (some ⟨200, [], none⟩), .visitorTurn] }
    (c.login w).1 = .ok tokens ∧ ∃ course : c.Course w tokens, course.code = "1" := by
  intro c tokens body w
  have hsome : (c.login w).1.toOption = some tokens := by decide +kernel
  have hlogin : (c.login w).1 = .ok tokens := toOption_eq_some_iff.1 hsome
  have hfirst : firstOutcome w.events = some { code := some "1", state := some "s" } := by
    decide +kernel
  obtain ⟨course⟩ := course_of_login c w tokens hlogin
  have houtcome := course.first.symm.trans hfirst
  refine ⟨hlogin, course, ?_⟩
  simpa [Option.some.inj houtcome, eq_comm] using course.coded

end LoginClient

end CredentialRotation
