import CredentialRotation.Proofs.Login.Nonce
import CredentialRotation.Proofs.Rotation.Keeping
import CredentialRotation.Proofs.Rotation.Renewing

/-!
# ID tokens that can be read

A login looks into the ID token that it buys and fails if it cannot be
read. A refresh does not look, so a renewal hands out whatever its
refresh was answered with (`refresh_unread`).

What follows for the client is in `legible_renewed_iff`: a token that can
be read is kept by its dates, while one that cannot be read, unless it is
empty, is kept at every instant and so never renewed again.
-/

namespace CredentialRotation

/-- An ID token whose claims can be read. -/
def Token.IsLegible (idToken : String) : Prop :=
  ∃ claims, Token.claims idToken = .ok claims

/-- What does not have the parts of a token cannot be read. -/
theorem Token.not_isLegible_of_parts? {idToken : String}
    (h : Token.parts? idToken.toList = none) : ¬Token.IsLegible idToken := by
  rintro ⟨claims, hclaims⟩
  rw [Token.claims, h] at hclaims
  cases hclaims

namespace LoginClient

variable {c : LoginClient} {held : Option TokenSet} {o : Renewal.Occasion} {t : TokenSet}
  {token : String}

/-! ## What is handed out -/

/-- A login hands out nothing but ID tokens that can be read. -/
theorem isLegible_of_loggedIn (h : c.loggedIn o = .ok t) : Token.IsLegible t.idToken := by
  obtain ⟨-, -, -, -, -, -, hclaims⟩ := exists_redeemedWith h
  exact hclaims

/-- A refresh succeeds just if it has somewhere to go and is answered with
an ID token, whatever that is. -/
theorem exists_refreshed_iff {idToken : String} :
    (∃ t, c.refreshed o token = .ok t ∧ t.idToken = idToken) ↔
      (c.refreshRequest? token).isSome = true ∧ o.paid?.bind (·.idToken) = some idToken := by
  simp only [refreshed_eq_ok_iff, Option.isSome_iff_exists, Option.bind_eq_some_iff]
  constructor
  · rintro ⟨t, ⟨q, paid, hq, hpaid, hid, -⟩, rfl⟩
    exact ⟨⟨q, hq⟩, paid, hpaid, hid⟩
  · rintro ⟨⟨q, hq⟩, paid, hpaid, hid⟩
    exact ⟨⟨idToken, (paid.refreshToken.filter fun s => !s.isEmpty).getD token⟩,
      ⟨q, paid, hq, hpaid, hid, rfl⟩, rfl⟩

/-- **A renewal hands out** an ID token that can be read, unless its
refresh was answered with one that cannot. -/
theorem isLegible_iff_of_renewed (h : c.renewed held o = .ok t) :
    Token.IsLegible t.idToken ↔ ∀ token idToken, refreshToken? held = some token →
      (c.refreshRequest? token).isSome = true → o.paid?.bind (·.idToken) = some idToken →
        Token.IsLegible idToken := by
  have hway := c.way held o
  generalize c.operations held o = operations at hway
  rw [h] at hway
  generalize hresult : Except.ok t = result at hway
  cases hway with
  | @refresh token t' hheld hdone =>
    obtain rfl := Except.ok.inj hresult
    constructor
    · intro hlegible token' idToken hheld' hsent hpaid
      obtain rfl := Option.some.inj (hheld.symm.trans hheld')
      obtain ⟨t', hdone', rfl⟩ := exists_refreshed_iff.2 ⟨hsent, hpaid⟩
      obtain rfl := Except.ok.inj (hdone.symm.trans hdone')
      exact hlegible
    · intro hall
      obtain ⟨hsent, hpaid⟩ := exists_refreshed_iff.1 ⟨t, hdone, rfl⟩
      exact hall token t.idToken hheld hsent hpaid
  | @fallback token e hheld hfailed =>
    -- the refresh was answered with no ID token at all, and the login looks into its own
    refine iff_of_true (isLegible_of_loggedIn hresult.symm) ?_
    intro token' idToken hheld' hsent hpaid
    obtain rfl := Option.some.inj (hheld.symm.trans hheld')
    obtain ⟨t', hdone, -⟩ := exists_refreshed_iff.2 ⟨hsent, hpaid⟩
    rw [hfailed] at hdone
    cases hdone
  | login hnone =>
    refine iff_of_true (isLegible_of_loggedIn hresult.symm) ?_
    intro token' idToken hheld'
    rw [hnone] at hheld'
    cases hheld'

/-! ## What becomes of it -/

/-- **A token that cannot be read is kept** at every instant. -/
theorem assess_of_not_isLegible (hfull : t.idToken ≠ "") (hno : ¬Token.IsLegible t.idToken) :
    ∃ e, ∀ now, c.assess (some t) now
      = .done { needsRenewal := false, error := some (.token e) } := by
  cases hclaims : Token.claims t.idToken with
  | ok claims => exact absurd ⟨claims, hclaims⟩ hno
  | error e =>
    have hjudge : Renewal.judge t.idToken = .error (.token e) := by
      simp only [Renewal.judge, Judge.ofToken, hclaims]
      rfl
    refine ⟨e, fun now => ?_⟩
    rw [assess_eq hfull, finding, hjudge, isExpired, hclaims]

/-- **A renewal hands out tokens that can be read** just as far as the
refresh that it makes is answered with one. An ID token that it hands out
and that can be read is kept by its dates; one that cannot be read, and is
not empty, is kept for ever. -/
theorem legible_renewed_iff (c : LoginClient) (held : Option TokenSet) (o : Renewal.Occasion)
    (t : TokenSet) (h : c.renewed held o = .ok t) :
    (Token.IsLegible t.idToken ↔ ∀ token idToken, refreshToken? held = some token →
        (c.refreshRequest? token).isSome = true → o.paid?.bind (·.idToken) = some idToken →
          Token.IsLegible idToken)
      ∧ (∀ claims, Token.claims t.idToken = .ok claims → ∀ now, ∃ found,
          c.assess (some t) now = .done found
            ∧ (found.needsRenewal = false ↔ claims.KeptAt now))
      ∧ (¬Token.IsLegible t.idToken → t.idToken ≠ "" → ∃ e, ∀ now,
          c.assess (some t) now = .done { needsRenewal := false, error := some (.token e) }) :=
  ⟨isLegible_iff_of_renewed h, fun _ hclaims _ => exists_assess hclaims,
    fun hno hfull => assess_of_not_isLegible hfull hno⟩

/-- A refresh that is answered with the ID token `garbage`. -/
def garbledRefresh : Renewal.Occasion :=
  { now := .epoch, login := nonceLogin "",
    answer := some ⟨200, [], some (Bytes.ofString "\x7b\"id_token\":\"garbage\"\x7d")⟩ }

/-- What is not a token is handed out, and kept. -/
theorem legible_renewed_iff_garbled :
    let t : TokenSet := ⟨"garbage", "r"⟩
    sampleClient.renewed (some ⟨"", "r"⟩) garbledRefresh = .ok t ∧ ¬Token.IsLegible t.idToken
      ∧ ∃ e, ∀ now, sampleClient.assess (some t) now
          = .done { needsRenewal := false, error := some (.token e) } := by
  intro t
  have hrenewed : sampleClient.renewed (some ⟨"", "r"⟩) garbledRefresh = .ok t :=
    toOption_eq_some_iff.1 (by decide +kernel)
  have hno : ¬Token.IsLegible t.idToken := Token.not_isLegible_of_parts? (by decide +kernel)
  obtain ⟨-, -, hkept⟩ := legible_renewed_iff _ _ _ _ hrenewed
  exact ⟨hrenewed, hno, hkept hno (by decide)⟩

/-- **A refresh is not looked into.** Not every ID token that a renewal
hands out can be read. -/
theorem refresh_unread : ¬ ∀ (c : LoginClient) (held : Option TokenSet) (o : Renewal.Occasion)
    (t : TokenSet), c.renewed held o = .ok t → Token.IsLegible t.idToken := by
  intro hall
  have hrenewed : sampleClient.renewed (some ⟨"", "r"⟩) garbledRefresh = .ok ⟨"garbage", "r"⟩ :=
    toOption_eq_some_iff.1 (by decide +kernel)
  exact Token.not_isLegible_of_parts? (by decide +kernel) (hall _ _ _ _ hrenewed)

end LoginClient

end CredentialRotation
