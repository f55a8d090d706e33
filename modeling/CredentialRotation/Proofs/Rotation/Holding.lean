import CredentialRotation.Proofs.Login.Nonce
import CredentialRotation.Proofs.Rotation.Renewing

/-!
# The refresh token that is held

Renewals follow one another, each with the token set that the last
successful one gave. A renewal that fails leaves what is held as it was,
so over a run the refresh token changes only where a refresh or a login
succeeds: a refresh puts another one in its place or leaves it, and a
login puts what its answer has, which may be nothing.

The run lemmas are about what is held at the start of a part of a run
(`Streak.refreshToken?_holding`, `exists_loss`), so they hold for that
part wherever it stands, and `holding_spec` puts them after any renewals
at all.
-/

namespace CredentialRotation

/-- The refresh token in the answer to a refresh. An empty one is none. -/
def Renewal.Occasion.carried? (o : Renewal.Occasion) : Option String :=
  o.paid?.bind fun paid => paid.refreshToken.filter fun s => !s.isEmpty

namespace LoginClient

/-- What is held after a renewal. -/
def holdsAfter (c : LoginClient) (held : Option TokenSet) (o : Renewal.Occasion) :
    Option TokenSet :=
  match c.renewed held o with
  | .ok t => some t
  | .error _ => held

/-- What is held after one renewal after another. -/
def holding (c : LoginClient) (held : Option TokenSet) (past : List Renewal.Occasion) :
    Option TokenSet :=
  past.foldl c.holdsAfter held

/-- Renewals that are refreshes, and succeed. -/
inductive Streak (c : LoginClient) : Option TokenSet → List Renewal.Occasion → Prop
  | nil {held : Option TokenSet} : Streak c held []
  | cons {held : Option TokenSet} {o : Renewal.Occasion} {rest : List Renewal.Occasion}
      {token : String} {t : TokenSet} (hheld : refreshToken? held = some token)
      (hdone : c.refreshed o token = .ok t) (hrest : Streak c (some t) rest) :
      Streak c held (o :: rest)

/-- A login that succeeds, with an answer that has no refresh token. -/
def LogsInBare (c : LoginClient) (w : Circumstances) : Prop :=
  ∃ t answer paid, (c.login w).1 = .ok t ∧ c.redeemedWith w answer
    ∧ readAnswer answer = .ok paid ∧ paid.idToken = some t.idToken
    ∧ paid.refreshToken.getD "" = ""

variable {c : LoginClient} {held : Option TokenSet} {o : Renewal.Occasion} {token : String}
  {t : TokenSet} {past later : List Renewal.Occasion}

theorem holding_append :
    c.holding held (past ++ later) = c.holding (c.holding held past) later :=
  List.foldl_append

/-! ## Refreshes -/

/-- A renewal by a refresh that succeeds gives what the refresh does. -/
theorem renewed_of_refreshed (hheld : refreshToken? held = some token)
    (hdone : c.refreshed o token = .ok t) : c.renewed held o = .ok t := by
  have hway := c.way held o
  generalize c.operations held o = operations, c.renewed held o = result at hway
  cases hway with
  | refresh hheld' hdone' =>
    obtain rfl := Option.some.inj (hheld.symm.trans hheld')
    rw [← hdone, hdone']
  | fallback hheld' hfailed =>
    obtain rfl := Option.some.inj (hheld.symm.trans hheld')
    rw [hdone] at hfailed
    cases hfailed
  | login hnone =>
    rw [hheld] at hnone
    cases hnone

/-- **One refresh** leaves the refresh token that its answer carries, or
the one that it was made with. -/
theorem refreshToken?_of_refreshed (hfull : token ≠ "") (hdone : c.refreshed o token = .ok t) :
    refreshToken? (some t) = some (o.carried?.getD token) := by
  obtain ⟨q, paid, -, hpaid, -, hrefresh⟩ := refreshed_eq_ok_iff.1 hdone
  have hcarried : o.carried? = paid.refreshToken.filter fun s => !s.isEmpty := by
    rw [Renewal.Occasion.carried?, hpaid, Option.bind_some]
  rw [hcarried, ← hrefresh]
  refine refreshToken?_eq_some_iff.2 ⟨t, rfl, rfl, ?_⟩
  -- neither what is carried nor what was held is empty
  rw [hrefresh]
  cases hnew : paid.refreshToken.filter fun s => !s.isEmpty with
  | none => exact hfull
  | some s => simpa using (Option.filter_eq_some_iff.1 hnew).2

/-- The last of what is carried, from the front. -/
theorem getLast?_getD_filterMap_cons {rest : List Renewal.Occasion} :
    (((o :: rest).filterMap (·.carried?)).getLast?).getD token
      = ((rest.filterMap (·.carried?)).getLast?).getD (o.carried?.getD token) := by
  cases ho : o.carried? with
  | none => rw [List.filterMap_cons_none ho, Option.getD_none]
  | some s =>
    rw [List.filterMap_cons_some ho, List.getLast?_cons, Option.getD_some, Option.getD_some]

/-- **A streak of refreshes** leaves the last refresh token that an answer
carried, or the one that was held before. -/
theorem Streak.refreshToken?_holding {streak : List Renewal.Occasion} (h : c.Streak held streak)
    (hheld : refreshToken? held = some token) : refreshToken? (c.holding held streak)
      = some (((streak.filterMap (·.carried?)).getLast?).getD token) := by
  induction h generalizing token with
  | nil => exact hheld
  | @cons held o rest token' t hheld' hdone hrest ih =>
    obtain rfl := Option.some.inj (hheld.symm.trans hheld')
    -- the rest of the streak starts with what this refresh leaves
    have hfull : token ≠ "" := by
      obtain ⟨-, -, -, hfull⟩ := refreshToken?_eq_some_iff.1 hheld
      exact hfull
    have hstep : c.holding held (o :: rest) = c.holding (some t) rest := by
      rw [holding, List.foldl_cons, holdsAfter, renewed_of_refreshed hheld hdone, holding]
    rw [hstep, ih (refreshToken?_of_refreshed hfull hdone), getLast?_getD_filterMap_cons]

/-! ## Losses -/

/-- A refresh token that is gone after one renewal: the refresh with it
has failed, and the login after that was answered with none. -/
structure LosesAt (c : LoginClient) (held : Option TokenSet) (o : Renewal.Occasion) : Prop where
  failed : ∃ token e, refreshToken? held = some token ∧ c.refreshed o token = .error e
  bare : c.LogsInBare o.login

/-- **One renewal** loses a refresh token only by a login. -/
theorem losesAt_of_step (hheld : refreshToken? held = some token)
    (hlost : refreshToken? (c.holdsAfter held o) = none) : c.LosesAt held o := by
  have hway := c.way held o
  unfold holdsAfter at hlost
  generalize c.operations held o = operations, c.renewed held o = result at hway hlost
  cases hway with
  | @refresh token' t hheld' hdone =>
    -- a refresh that succeeds leaves a refresh token
    obtain ⟨-, -, -, hfull⟩ := refreshToken?_eq_some_iff.1 hheld'
    rw [refreshToken?_of_refreshed hfull hdone] at hlost
    cases hlost
  | @fallback token' e hheld' hfailed =>
    cases hlogin : c.loggedIn o with
    | error e' =>
      -- a renewal that fails leaves what is held
      rw [hlogin] at hlost
      exact absurd (hheld.symm.trans hlost) (Option.some_ne_none _)
    | ok t =>
      rw [hlogin] at hlost
      have hempty : t.refreshToken = "" := refreshToken?_some_eq_none_iff.1 hlost
      obtain ⟨answer, paid, hcode, hread, hid, hrefresh, -⟩ := exists_redeemedWith hlogin
      exact ⟨⟨token', e, hheld', hfailed⟩, t, answer, paid, hlogin, hcode, hread, hid,
        hrefresh.symm.trans hempty⟩
  | login hnone =>
    rw [hheld] at hnone
    cases hnone

/-- **Many renewals** lose a refresh token only by a login of one of
them. -/
theorem exists_loss (hheld : refreshToken? held = some token)
    (hlost : refreshToken? (c.holding held later) = none) :
    ∃ past o rest, later = past ++ o :: rest ∧ c.LosesAt (c.holding held past) o := by
  induction later generalizing held token with
  | nil =>
    rw [holding, List.foldl_nil, hheld] at hlost
    cases hlost
  | cons o rest ih =>
    rw [holding, List.foldl_cons] at hlost
    -- either this renewal loses the refresh token, or a later one loses what it leaves
    cases hnext : refreshToken? (c.holdsAfter held o) with
    | none => exact ⟨[], o, rest, rfl, losesAt_of_step hheld hnext⟩
    | some token' =>
      obtain ⟨past, o', rest', rfl, hloss⟩ := ih hnext hlost
      exact ⟨o :: past, o', rest', rfl, hloss⟩

/-! ## Runs -/

/-- **What renewals do to the refresh token.** Whatever the provider did
on all occasions `past` and does next: a renewal goes one of the ways. It
sends one request for a refresh, with the token that is held, wherever the
token endpoint is a page that can be asked (`refreshRequest?` says which
are), and none where no token is held; and it logs in as often as its way says. After a streak of refreshes
the last refresh token that an answer carried is held, or the one from
before. And a refresh token gets lost only by a login that is answered
with none, after the refresh has failed. -/
theorem holding_spec (c : LoginClient) (first : Option TokenSet) (past : List Renewal.Occasion) :
    (∀ o : Renewal.Occasion,
        c.Way (c.holding first past) o (c.operations (c.holding first past) o)
            (c.renewed (c.holding first past) o)
          ∧ (c.sends (c.holding first past) o).filter (·.asksRefresh)
              = ((refreshToken? (c.holding first past)).bind c.refreshRequest?).toList
          ∧ (c.needs (c.holding first past) o).count .login
              = (c.operations (c.holding first past) o).count .login)
      ∧ (∀ token q, c.refreshRequest? token = some q →
          q.method = .post ∧ Form.decode q.body = c.refreshForm token)
      ∧ ∀ token, refreshToken? (c.holding first past) = some token →
          (∀ streak, c.Streak (c.holding first past) streak →
            refreshToken? (c.holding first (past ++ streak))
              = some (((streak.filterMap (·.carried?)).getLast?).getD token))
            ∧ ∀ later, refreshToken? (c.holding first (past ++ later)) = none →
                ∃ before o rest, later = before ++ o :: rest
                  ∧ c.LosesAt (c.holding first (past ++ before)) o := by
  refine ⟨fun o => ⟨c.way _ o, filter_asksRefresh_sends, count_login_needs⟩,
    fun token q => decode_of_refreshRequest?, fun token hheld => ⟨fun streak hstreak => ?_,
      fun later hlost => ?_⟩⟩
  · rw [holding_append]
    exact hstreak.refreshToken?_holding hheld
  · rw [holding_append] at hlost
    obtain ⟨before, o, rest, hsplit, hloss⟩ := exists_loss hheld hlost
    refine ⟨before, o, rest, hsplit, ?_⟩
    rw [holding_append]
    exact hloss

/-- At work: the second answer carries `r1` and the third an empty refresh
token. Then a refresh is not answered, and the answer to the login has no
refresh token. -/
theorem holding_spec_lost_after_streak :
    let idToken := "eyJhbGciOiJIUzI1NiJ9.eyJub25jZSI6Im4ifQ."
    let first : Option TokenSet := some ⟨idToken, "r0"⟩
    let answered (refreshToken : String) : Renewal.Occasion :=
      { now := .epoch, login := nonceLogin idToken,
        answer := some ⟨200, [], some (Bytes.ofString ("\x7b\"id_token\":\"" ++ idToken
          ++ "\",\"refresh_token\":\"" ++ refreshToken ++ "\"\x7d"))⟩ }
    let refused : Renewal.Occasion := ⟨.epoch, none, nonceLogin idToken⟩
    (∃ q, sampleClient.refreshRequest? "r0" = some q ∧ Form.decode q.body
        = [("grant_type", "refresh_token"), ("refresh_token", "r0"), ("client_id", "id")])
      ∧ refreshToken? (sampleClient.holding first [answered "r1", answered ""]) = some "r1"
      ∧ ∃ before o rest, [answered "r1", answered "", refused] = before ++ o :: rest
          ∧ sampleClient.LosesAt (sampleClient.holding first before) o := by
  intro idToken first answered refused
  have hend : (Url.ofText? sampleClient.provider.tokenEndpoint).any (·.isWeb) = true := by
    decide +kernel
  have hdone : (sampleClient.refreshed (answered "r1") "r0").toOption = some ⟨idToken, "r1"⟩
      ∧ (sampleClient.refreshed (answered "") "r1").toOption = some ⟨idToken, "r1"⟩ := by
    decide +kernel
  have hlost : refreshToken? (sampleClient.holding first [answered "r1", answered "", refused])
      = none := by decide +kernel
  have hstreak : sampleClient.Streak first [answered "r1", answered ""] :=
    .cons rfl (toOption_eq_some_iff.1 hdone.1) (.cons rfl (toOption_eq_some_iff.1 hdone.2) .nil)
  obtain ⟨-, hform, hheld⟩ := holding_spec sampleClient first []
  obtain ⟨hkept, hloss⟩ := hheld "r0" rfl
  obtain ⟨endpoint, hendpoint, hweb⟩ := (Option.any_eq_true _ _).1 hend
  have hrequest : sampleClient.refreshRequest? "r0"
      = some (tokenRequest endpoint (sampleClient.refreshForm "r0")) := by
    rw [refreshRequest?, hendpoint, Option.filter_some, if_pos hweb, Option.map_some]
  have hlast : ([answered "r1", answered ""].filterMap (·.carried?)).getLast?.getD "r0" = "r1" := by
    decide +kernel
  exact ⟨⟨_, hrequest, (hform "r0" _ hrequest).2⟩, (hkept _ hstreak).trans (congrArg some hlast),
    hloss _ hlost⟩

end LoginClient

end CredentialRotation
