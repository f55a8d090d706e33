import CredentialRotation.Proofs.Login.Requests
import CredentialRotation.Proofs.Text.Base64

/-!
# What a login tells a provider

The request for an outcome and the requests that redeem a code are put
together in different places, from the same attempt. A provider checks
one against the other: the redirect address has to be the same, and a
verifier has to answer to the challenge that came first.

`requests_agree` says that they do agree, as the provider reads them. It
rests on the round trips of forms and of base64, so it holds whatever
characters the values are made of. Of the endpoint it needs only that
`Url.ofText?` reads it, so its host may not be named in other than Latin
letters.
-/

namespace CredentialRotation

namespace ChallengeMethod

variable {supported : List String} {force : Bool}

/-- Whether a verifier answers to a challenge. A digest is told by its
octets, which the challenge spells without fill. -/
def Verifies (m : ChallengeMethod) (challenge verifier : String) : Prop :=
  match m with
  | .s256 => challenge.toList.length = 43 ∧ Base64.decode? Base64.urlSafe challenge.toList
      = some (Digest.Sha256.digest (.ofString verifier))
  | .plain => challenge = verifier

/-- **A verifier answers to its challenge.** -/
theorem verifies_challenge (m : ChallengeMethod) (verifier : String) :
    m.Verifies (m.challenge verifier) verifier := by
  cases m with
  | s256 =>
    have hdigest := Digest.Sha256.length_digest (.ofString verifier)
    simp only [Verifies, challenge, String.toList_ofList]
    -- thirty-two octets are forty-two digits and one for the bits that are left
    refine ⟨?_, Base64.decode?_encode Base64.isSound_urlSafe _⟩
    rw [Base64.length_encode rfl, hdigest]
  | plain => rfl

/-- Which digest it is that a challenge spells, by a known one. -/
example : s256.challenge "dBjftJeZ4CVP-mJ92K27uhbUJU1p1r_wW1gFWFOEjXk"
    = "ngF5GsXcbwljx6u133FFr3Xht9xooA_DuaX_3QwODtc" := by decide +kernel

/-- The digest first, then the verifier itself, then nothing. -/
theorem negotiate_eq : negotiate supported force
    = if force = true ∨ "S256" ∈ supported then some .s256
      else if "plain" ∈ supported then some .plain else none := by
  show (if (force || decide ("S256" ∈ supported)) = true then some s256
    else if "plain" ∈ supported then some plain else none) = _
  simp only [Bool.or_eq_true, decide_eq_true_eq]

/-- The digest is used where it is named or forced. -/
theorem negotiate_eq_s256_iff :
    negotiate supported force = some .s256 ↔ force = true ∨ "S256" ∈ supported := by
  rw [negotiate_eq]
  by_cases hdigest : force = true ∨ "S256" ∈ supported
  · rw [if_pos hdigest]
    exact iff_of_true rfl hdigest
  · rw [if_neg hdigest]
    refine iff_of_false ?_ hdigest
    split <;> simp

/-- The verifier itself is used where it is named and the digest is
not. -/
theorem negotiate_eq_plain_iff : negotiate supported force = some .plain ↔
    "plain" ∈ supported ∧ "S256" ∉ supported ∧ force = false := by
  rw [negotiate_eq]
  by_cases hdigest : force = true ∨ "S256" ∈ supported
  · rw [if_pos hdigest]
    refine iff_of_false (by simp) ?_
    rintro ⟨-, hunnamed, hfree⟩
    rcases hdigest with hforced | hnamed
    · rw [hfree] at hforced
      cases hforced
    · exact hunnamed hnamed
  · rw [if_neg hdigest]
    rw [not_or, Bool.not_eq_true] at hdigest
    by_cases hplain : "plain" ∈ supported
    · rw [if_pos hplain]
      exact iff_of_true rfl ⟨hplain, hdigest.2, hdigest.1⟩
    · rw [if_neg hplain]
      refine iff_of_false (by simp) ?_
      rintro ⟨hnamed, -⟩
      exact hplain hnamed

end ChallengeMethod

/-- What is sent because of a proof key: with the request for an outcome
a challenge and its method, and with a code a verifier that answers to
it. Without a key it is nothing in either place. -/
inductive KeyPairs (verifier : String) :
    Option ChallengeMethod → List (String × String) → List (String × String) → Prop
  | none : KeyPairs verifier none [] []
  | key {m : ChallengeMethod} {challenge : String} (h : m.Verifies challenge verifier) :
      KeyPairs verifier (some m)
        [("code_challenge", challenge), ("code_challenge_method", m.name)]
        [("code_verifier", verifier)]

namespace LoginClient

variable {c : LoginClient} {w : Circumstances} {port : Nat} {endpoint : Url}

/-- The method that a client and its provider agree on. -/
def method (c : LoginClient) : Option ChallengeMethod :=
  ChallengeMethod.negotiate c.provider.challengeMethods c.config.usePkce

/-- **One proof key** goes into both requests of an attempt. -/
theorem exists_keyPairs (c : LoginClient) (w : Circumstances) (port : Nat) :
    ∃ challenge proof, KeyPairs w.verifier c.method challenge proof
      ∧ c.authorizePairs (c.attempt w.state w.nonce w.verifier port)
        = [("response_type", "code"), ("client_id", c.config.clientId),
            ("redirect_uri", "http://" ++ c.config.redirectHostname ++ s!":{port}/"),
            ("scope", c.config.scopeParam), ("state", w.state), ("nonce", w.nonce)] ++ challenge
      ∧ ∀ code, c.codeForm (c.attempt w.state w.nonce w.verifier port) code
        = [("grant_type", "authorization_code"), ("code", code),
            ("redirect_uri", "http://" ++ c.config.redirectHostname ++ s!":{port}/"),
            ("client_id", c.config.clientId)] ++ proof := by
  have hkey : (c.attempt w.state w.nonce w.verifier port).proofKey
      = c.method.map (⟨w.verifier, ·⟩) := rfl
  cases hmethod : c.method with
  | none =>
    rw [hmethod, Option.map_none] at hkey
    refine ⟨[], [], .none, ?_, fun code => ?_⟩
    · rw [authorizePairs, hkey]
      rfl
    · rw [codeForm, hkey]
      rfl
  | some m =>
    rw [hmethod, Option.map_some] at hkey
    refine ⟨_, _, .key (m.verifies_challenge w.verifier), ?_, fun code => ?_⟩
    · rw [authorizePairs, hkey]
      rfl
    · rw [codeForm, hkey]
      rfl

/-- **A login says the same in both of its requests.** Wherever a login
starts, the address of its request for an outcome reads as the pairs of
the endpoint and then its own parameters, each with just its value, and
whatever is sent for a code has the same redirect address. A challenge is
there just where a verifier is, and the verifier answers to it by the
method that is named: the digest where it is forced or the provider names
it, the verifier itself only where neither is so and the provider names
that. -/
theorem requests_agree (c : LoginClient) (w : Circumstances) (port : Nat) (endpoint : Url)
    (hport : w.port = .ok port)
    (hend : Url.ofText? c.provider.authorizationEndpoint = some endpoint) :
    ∃ a address method challenge proof,
      c.start w = .ok (a, address)
        ∧ (method = some .s256 ↔
          c.config.usePkce = true ∨ "S256" ∈ c.provider.challengeMethods)
        ∧ (method = some .plain ↔ "plain" ∈ c.provider.challengeMethods
          ∧ "S256" ∉ c.provider.challengeMethods ∧ c.config.usePkce = false)
        ∧ KeyPairs w.verifier method challenge proof
        ∧ address.pairs = endpoint.pairs
            ++ [("response_type", "code"), ("client_id", c.config.clientId),
              ("redirect_uri", "http://" ++ c.config.redirectHostname ++ s!":{port}/"),
              ("scope", c.config.scopeParam), ("state", w.state), ("nonce", w.nonce)] ++ challenge
        ∧ ∀ q ∈ (c.login w).2, q.method = .get ∧ q.url.pairs = address.pairs
            ∨ q.method = .post ∧ ∃ code, Form.decode q.body
                = [("grant_type", "authorization_code"), ("code", code),
                  ("redirect_uri", "http://" ++ c.config.redirectHostname ++ s!":{port}/"),
                  ("client_id", c.config.clientId)] ++ proof := by
  obtain ⟨challenge, proof, hkey, hpairs, hform⟩ := exists_keyPairs c w port
  -- a login that has a port and an endpoint starts with this attempt at this address
  let a := c.attempt w.state w.nonce w.verifier port
  let address := endpoint.addPairs (c.authorizePairs a)
  have hstart : c.start w = .ok (a, address) :=
    start_eq_ok_iff.2 ⟨port, hport, rfl, authorizeUrl_eq_ok_iff.2 ⟨endpoint, hend, rfl⟩⟩
  refine ⟨a, address, c.method, challenge, proof, hstart, ChallengeMethod.negotiate_eq_s256_iff,
    ChallengeMethod.negotiate_eq_plain_iff, hkey, ?_, fun q hq => ?_⟩
  · rw [Url.pairs_addPairs, hpairs, List.append_assoc]
  · cases sends_of_login hstart hq with
    | visit => exact Or.inl ⟨rfl, rfl⟩
    | purchase endpoint code =>
      refine Or.inr ⟨rfl, code, ?_⟩
      rw [tokenRequest, Form.decode_encode]
      exact hform code

/-- At work: the provider names the verifier itself before the digest, the
endpoint has a query of its own, and neither the client id nor the host
can stand in a form as they are. -/
theorem requests_agree_digest :
    let c : LoginClient :=
      ⟨{ issuerUrl := "https://idp", clientId := "é&=+", redirectHostname := "höst",
          usePkce := false },
        ⟨"https://idp", "https://idp/a?x=1", "https://idp/t", none, [], [], ["plain", "S256"]⟩,
        ⟨[], [], []⟩⟩
    let w : Circumstances :=
      { port := .ok 8000, state := "s", nonce := "n", verifier := "v",
        events := [.receiverTurn, .visitorTurn, .visitorTurn,
          .arrives ⟨.get, "/", "code=1&state=s"⟩, .receiverTurn, .receiverTurn] }
    ∃ visit purchase challenge, (c.login w).2 = [visit, purchase]
      ∧ ChallengeMethod.s256.Verifies challenge "v"
      ∧ visit.url.pairs = [("x", "1"), ("response_type", "code"), ("client_id", "é&=+"),
          ("redirect_uri", "http://höst:8000/"), ("scope", "openid email"), ("state", "s"),
          ("nonce", "n"), ("code_challenge", challenge), ("code_challenge_method", "S256")]
      ∧ ∃ code, Form.decode purchase.body = [("grant_type", "authorization_code"),
          ("code", code), ("redirect_uri", "http://höst:8000/"), ("client_id", "é&=+"),
          ("code_verifier", "v")] := by
  intro c w
  have hmethods : (c.login w).2.map (·.method) = [.get, .post] := by decide +kernel
  have hquery : (Url.ofText? c.provider.authorizationEndpoint).map (·.pairs)
      = some [("x", "1")] := by decide +kernel
  have hscope : c.config.scopeParam = "openid email" := by decide +kernel
  obtain ⟨endpoint, hend, hown⟩ := Option.map_eq_some_iff.1 hquery
  obtain ⟨visit, rest, hsent, hget, hrest⟩ := List.map_eq_cons_iff.1 hmethods
  obtain ⟨purchase, last, rfl, hpost, hlast⟩ := List.map_eq_cons_iff.1 hrest
  obtain rfl := List.map_eq_nil_iff.1 hlast
  obtain ⟨a, address, method, challenge, proof, -, hdigest, -, hkey, hpairs, hall⟩ :=
    requests_agree c w 8000 endpoint rfl hend
  obtain rfl : method = some .s256 := hdigest.2 (Or.inr (by decide))
  rw [hown, hscope] at hpairs
  rw [hsent] at hall ⊢
  obtain ⟨-, hvisit⟩ | ⟨hpost', -⟩ := hall visit (by simp)
  · obtain ⟨hget', -⟩ | ⟨-, code, hform⟩ := hall purchase (by simp)
    · rw [hpost] at hget'
      cases hget'
    · cases hkey with
      | key h => exact ⟨visit, purchase, _, rfl, h, hvisit.trans hpairs, code, hform⟩
  · rw [hget] at hpost'
    cases hpost'

end LoginClient

end CredentialRotation
