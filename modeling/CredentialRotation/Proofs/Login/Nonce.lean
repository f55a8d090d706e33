import CredentialRotation.Proofs.Login.Course

/-!
# What the nonce binds

An attempt sends its nonce with the request for an outcome and looks for
it in the ID token that it buys. A login ends with tokens only if the
token names no other nonce (`nonce_of_login`).

The nonce is looked for as a text. A claim of that name which is no text
is passed over as if it were absent (`nonce_number_passes`), so such a
token is bound to no attempt at all.
-/

namespace CredentialRotation

open LoginClient Session

/-! ## Nonces in claims -/

namespace Claims

variable {c : Claims} {nonce : String}

/-- Claims that belong to an attempt with a nonce: they have none, or
have that one. -/
def BoundTo (c : Claims) (nonce : String) : Prop :=
  c.get "nonce" = none ∨ c.get "nonce" = some (.string nonce)

/-- A nonce is there for who reads it exactly when the claim is a
text. -/
theorem nonce_eq_some_iff : c.nonce = some nonce ↔ c.get "nonce" = some (.string nonce) := by
  unfold Claims.nonce Claims.string
  split
  · next s hs => rw [hs, Option.some_inj, Option.some_inj, Json.string.injEq]
  · next hno =>
    refine ⟨fun h => absurd h (by simp), fun h => absurd h (hno nonce)⟩

/-- Where no text but `nonce` is read, the claims are bound, or name a
nonce that is no text. -/
theorem boundTo_or_of_nonce (h : ∀ s, c.nonce = some s → s = nonce) :
    c.BoundTo nonce ∨ ∃ x, c.get "nonce" = some x ∧ ∀ s, x ≠ .string s := by
  cases hget : c.get "nonce" with
  | none => exact Or.inl (Or.inl hget)
  | some x =>
    by_cases htext : ∃ s, x = .string s
    · obtain ⟨s, rfl⟩ := htext
      obtain rfl := h s (nonce_eq_some_iff.2 hget)
      exact Or.inl (Or.inr hget)
    · exact Or.inr ⟨x, rfl, fun s hs => htext ⟨s, hs⟩⟩

end Claims

namespace LoginClient

variable {c : LoginClient} {a : Attempt} {address : Url} {tokens : TokenSet} {idToken : String}

/-- An ID token answers an attempt exactly when it can be read and names
no other nonce. -/
theorem checkNonce_eq_ok_iff : checkNonce a idToken = .ok () ↔
    ∃ claims, Token.claims idToken = .ok claims ∧ ∀ s, claims.nonce = some s → s = a.nonce := by
  unfold checkNonce
  cases Token.claims idToken with
  | error e => simp
  | ok claims =>
    cases hnonce : claims.nonce with
    | none => simp [hnonce]
    | some s => by_cases hs : s = a.nonce <;> simp [hnonce, hs]

/-- Tokens are bought only with an ID token that answers the attempt. -/
theorem checkNonce_of_redeem {answer : Option Response} (h : redeem a answer = .ok tokens) :
    checkNonce a tokens.idToken = .ok () := by
  obtain ⟨tokens', -, hcheck⟩ := bind_eq_ok_iff.1 h
  obtain ⟨⟨⟩, hnonce, htokens⟩ := bind_eq_ok_iff.1 hcheck
  obtain rfl : tokens' = tokens := by simpa using htokens
  exact hnonce

/-- The nonce of an attempt is the one that was drawn for it, and goes
with the request for an outcome. -/
theorem nonce_of_start {w : Circumstances} (h : c.start w = .ok (a, address)) :
    a.nonce = w.nonce ∧ ("nonce", a.nonce) ∈ address.pairs := by
  refine ⟨?_, mem_pairs_of_start h (by simp [authorizePairs])⟩
  obtain ⟨port, -, rfl, -⟩ := start_eq_ok_iff.1 h
  rfl

/-- **The nonce binds.** Whatever ID token comes back: a login that ends
with tokens has sent its nonce with the request for an outcome, and the
token has no nonce or has that one, unless what it has is no text. -/
theorem nonce_of_login (c : LoginClient) (w : Circumstances) (tokens : TokenSet)
    (h : (c.login w).1 = .ok tokens) : ∃ address claims,
      authorizeRequest address ∈ (c.login w).2 ∧ ("nonce", w.nonce) ∈ address.pairs
        ∧ Token.claims tokens.idToken = .ok claims
        ∧ (claims.BoundTo w.nonce ∨ ∃ x, claims.get "nonce" = some x ∧ ∀ s, x ≠ .string s) := by
  obtain ⟨a, address, hstart, hresult, hsent⟩ := login_eq_ok h
  obtain ⟨hnonce, hpair⟩ := nonce_of_start hstart
  obtain ⟨hvisitor, hreceiver⟩ := result_eq_ok_iff.1 hresult
  -- the request was sent, and its answer is what the receiver bought the tokens with
  obtain ⟨hvisits, -⟩ := (visitSide_after w.events).passed hvisitor
  obtain ⟨-, answer, -, hredeem⟩ := (receiptSide_after w.events).passed tokens hreceiver
  obtain ⟨claims, hclaims, hsame⟩ := checkNonce_eq_ok_iff.1 (checkNonce_of_redeem hredeem)
  refine ⟨address, claims, ?_, hnonce ▸ hpair, hclaims, hnonce ▸ Claims.boundTo_or_of_nonce hsame⟩
  have hmem : authorizeRequest address ∈ (c.session w a address).visits := by
    show authorizeRequest address ∈ (after c a address w.cancelled w.events).visits
    rw [hvisits]
    exact List.mem_singleton_self _
  rw [hsent]
  exact (List.mem_filter.1 hmem).1

/-! ## Two ID tokens -/

/-- A login with the nonce `n` in which a code buys an ID token. -/
def nonceLogin (idToken : String) : Circumstances :=
  let body := Bytes.ofString ("\x7b\"id_token\":\"" ++ idToken ++ "\"\x7d")
  { port := .ok 8000, state := "s", nonce := "n", verifier := "v",
    events := [.receiverTurn, .visitorTurn, .visitorTurn, .visitAnswered (some ⟨200, [], none⟩),
      .visitorTurn, .arrives ⟨.get, "/", "code=1&state=s"⟩, .receiverTurn, .receiverTurn,
      .codeAnswered (some ⟨200, [], some body⟩), .receiverTurn] }

/-- At work: the payload is `{"nonce":"n"}`. -/
theorem nonce_of_login_same_text :
    let idToken := "eyJhbGciOiJIUzI1NiJ9.eyJub25jZSI6Im4ifQ."
    (sampleClient.login (nonceLogin idToken)).1 = .ok ⟨idToken, ""⟩ ∧ ∃ address claims,
      authorizeRequest address ∈ (sampleClient.login (nonceLogin idToken)).2
        ∧ ("nonce", "n") ∈ address.pairs ∧ Token.claims idToken = .ok claims
        ∧ claims.BoundTo "n" := by
  intro idToken
  have hlogin : (sampleClient.login (nonceLogin idToken)).1 = .ok ⟨idToken, ""⟩ :=
    toOption_eq_some_iff.1 (by decide +kernel)
  have hread : (Token.claims idToken).toOption.bind Claims.nonce = some "n" := by decide +kernel
  obtain ⟨address, claims, hsent, hpair, hclaims, hbound⟩ := nonce_of_login _ _ _ hlogin
  refine ⟨hlogin, address, claims, hsent, hpair, hclaims, hbound.resolve_right ?_⟩
  rintro ⟨x, hget, hx⟩
  have hnonce : claims.nonce = some "n" := by simpa [hclaims, Except.toOption] using hread
  exact hx "n" (Option.some.inj (hget.symm.trans (Claims.nonce_eq_some_iff.1 hnonce)))

/-- A payload `{"nonce":5}` passes, though the attempt sent a text. -/
theorem nonce_number_passes : ¬ ∀ (c : LoginClient) (w : Circumstances) (tokens : TokenSet)
    (claims : Claims), (c.login w).1 = .ok tokens → Token.claims tokens.idToken = .ok claims →
      claims.BoundTo w.nonce := by
  intro hall
  let idToken := "eyJhbGciOiJIUzI1NiJ9.eyJub25jZSI6NX0."
  have hlogin : (sampleClient.login (nonceLogin idToken)).1 = .ok ⟨idToken, ""⟩ :=
    toOption_eq_some_iff.1 (by decide +kernel)
  have hread : (Token.claims idToken).toOption.any
      (fun claims => (claims.get "nonce").isSome && claims.nonce.isNone) = true := by decide +kernel
  cases hclaims : Token.claims idToken with
  | error e => simp [hclaims, Except.toOption] at hread
  | ok claims =>
    simp only [hclaims, Except.toOption, Option.any_some, Bool.and_eq_true] at hread
    rcases hall _ _ _ claims hlogin hclaims with hnone | htext
    · simp [hnone] at hread
    · simp [Claims.nonce_eq_some_iff.2 htext] at hread

end LoginClient

end CredentialRotation
