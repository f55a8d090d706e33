import CredentialRotation.Login.Client
import CredentialRotation.Proofs.Token.Validity

/-!
# When a token is kept

A client decides in two ways whether a token has to be renewed. With an
expiry that is after the date of issue a judge decides, by a window that
takes up the last third of the life; any other token is left to a plain
check of validity.

`Claims.KeptAt` describes the tokens that are kept in one piece, as an
interval of instants that the dates span, and `LoginClient.keeps_iff`
shows that the two ways make up just that interval.
-/

namespace CredentialRotation

/-! ## The last third -/

namespace Span

variable {d : Span}

/-- A third of whole seconds is rounded down to nanoseconds. -/
theorem nanos_third (hd : 0 ≤ d.nanos) (hwhole : d.floorNanos = 0) :
    d.third.nanos = d.nanos / 3 := by
  have hs : d.floorSeconds * nanosPerSecond = d.nanos := by
    simp only [floorSeconds, floorNanos, nanosPerSecond] at hwhole ⊢
    omega
  simp only [third, hs, hwhole, Int.tdiv_eq_ediv_of_nonneg hd]
  omega

/-- A third is longer than nothing from three nanoseconds on. -/
theorem isPositive_third_iff : d.third.isPositive = true ↔ 3 ≤ d.nanos := by
  have hparts : d.nanos = d.floorSeconds * nanosPerSecond + d.floorNanos :=
    (Int.ediv_mul_add_emod d.nanos nanosPerSecond).symm
  have hnanos : 0 ≤ d.floorNanos ∧ d.floorNanos < nanosPerSecond :=
    ⟨Int.emod_nonneg _ (by decide), Int.emod_lt_of_pos _ (by decide)⟩
  rw [isPositive, decide_eq_true_eq, third, hparts]
  simp only [nanosPerSecond] at hnanos ⊢
  rcases Int.lt_or_le d.floorSeconds 0 with hneg | hpos
  · -- a second that was rounded down gives back more than its fraction
    have hthird := Int.neg_tdiv (-(d.floorSeconds * 1000000000)) 3
    rw [Int.neg_neg, Int.tdiv_eq_ediv_of_nonneg
      (by omega : 0 ≤ -(d.floorSeconds * 1000000000))] at hthird
    omega
  · rw [Int.tdiv_eq_ediv_of_nonneg (by omega)]
    rcases Int.lt_or_le 0 d.floorSeconds with h | h <;> omega

end Span

namespace Instant

variable {t u : Instant}

/-- Between the starts of two seconds lie whole seconds. -/
theorem floorNanos_since (ht : t.nanos = 0) (hu : u.nanos = 0) : (u.since t).floorNanos = 0 := by
  simp only [Span.floorNanos, since, ht, hu, nanosPerSecond]
  omega

/-- An instant outside leap seconds a span earlier. -/
theorem sub?_eq_ofTotal? {d : Span} (ht : t.isLeap = false) :
    t.sub? d = ofTotal? (t.total - d.nanos) := by
  simp only [sub?, add?, ht, Bool.false_eq_true, if_false, Span.neg, Int.sub_eq_add_neg]

end Instant

namespace Claims

variable {c : Claims} {now later issued expires : Instant}

/-- The window of a token has a length just if the token expires after it
is issued. -/
theorem isPositive_rotationWindow_iff (hi : c.date .iat = .ok (some issued))
    (he : c.date .exp = .ok (some expires)) :
    (rotationWindow issued expires).isPositive = true ↔ issued < expires := by
  have hil := isLeap_of_date hi
  have hel := isLeap_of_date he
  have hwhole := Instant.floorNanos_since (nanos_of_date hi) (nanos_of_date he)
  rw [rotationWindow, Span.isPositive_third_iff, Instant.lt_iff_total_lt hil hel]
  simp only [Span.floorNanos, Instant.nanos_since hil hel, nanosPerSecond] at hwhole ⊢
  omega

/-- Where the window opens. -/
theorem sub?_rotationWindow (hi : c.date .iat = .ok (some issued))
    (he : c.date .exp = .ok (some expires)) (hlt : issued < expires) :
    expires.sub? (rotationWindow issued expires)
      = Instant.ofTotal? (expires.total - (expires.total - issued.total) / 3) := by
  have hil := isLeap_of_date hi
  have hel := isLeap_of_date he
  have hn := Instant.nanos_since hil hel
  rw [Instant.lt_iff_total_lt hil hel] at hlt
  rw [Instant.sub?_eq_ofTotal? hel, rotationWindow, Span.nanos_third (by omega)
    (Instant.floorNanos_since (nanos_of_date hi) (nanos_of_date he)), hn]

/-- Every window opens in the calendar. -/
theorem exists_opens (hi : c.date .iat = .ok (some issued))
    (he : c.date .exp = .ok (some expires)) (hlt : issued < expires) :
    ∃ opens, Instant.ofTotal? (expires.total - (expires.total - issued.total) / 3)
      = some opens := by
  rw [Instant.lt_iff_total_lt (isLeap_of_date hi) (isLeap_of_date he)] at hlt
  -- the life is in the calendar, and the window is a part of it
  have hmin : Instant.minSecs * nanosPerSecond ≤ issued.total := by
    have := issued.secs_ge
    simp only [Instant.total, nanosPerSecond]
    omega
  have hmax : expires.total < (Instant.maxSecs + 1) * nanosPerSecond := by
    have := expires.secs_le
    have := nanos_of_date he
    simp only [Instant.total, nanosPerSecond]
    omega
  exact Instant.exists_ofTotal? (by omega) (by omega)

/-! ## Tokens that are kept -/

/-- What the dates of a token have to be for it to be kept at `now`. With
an expiry and a date of issue the last third of the life must not have
begun (there is an instant at which it begins, `exists_opens`), with an
expiry alone the life must not be over. -/
structure KeptAt (c : Claims) (now : Instant) : Prop where
  readable : ∀ claim, ∃ x, c.date claim = .ok x
  issued : ∀ t, c.date .iat = .ok (some t) → t ≤ now
  begun : ∀ t, c.date .nbf = .ok (some t) → t ≤ now
  unexpired : ∀ t, c.date .exp = .ok (some t) → c.date .iat = .ok none → now < t
  early : ∀ issued expires, c.date .iat = .ok (some issued) → c.date .exp = .ok (some expires) →
    issued < expires ∧ ∃ opens,
      Instant.ofTotal? (expires.total - (expires.total - issued.total) / 3) = some opens
        ∧ now < opens

/-- **A token that is kept is valid.** -/
theorem KeptAt.current (h : c.KeptAt now) : c.Current now := by
  refine ⟨h.readable, fun expires he => ?_, h.issued, h.begun⟩
  obtain ⟨x, hx⟩ := h.readable .iat
  cases x with
  | none => exact h.unexpired expires he hx
  | some issued =>
    obtain ⟨hlt, opens, hopens, hnow⟩ := h.early issued expires hx he
    obtain ⟨hol, ht⟩ := Instant.ofTotal?_eq_some_iff.1 hopens
    have hel := isLeap_of_date he
    rw [Instant.lt_iff_total_lt (isLeap_of_date hx) hel] at hlt
    -- the window opens before the token expires
    refine Std.lt_of_lt_of_le hnow ?_
    rw [Instant.le_iff_total_le hol hel]
    omega

/-- **A token is not kept again.** What is kept was kept before, back to
its date of issue and the date it counts from. -/
theorem KeptAt.before (h : c.KeptAt later)
    (hi : ∀ t, c.date .iat = .ok (some t) → t ≤ now)
    (hn : ∀ t, c.date .nbf = .ok (some t) → t ≤ now) (hle : now ≤ later) : c.KeptAt now := by
  refine ⟨h.readable, hi, hn, fun t ht hiat => ?_, fun issued expires hx he => ?_⟩
  · exact Std.lt_of_le_of_lt hle (h.unexpired t ht hiat)
  · obtain ⟨hlt, opens, hopens, hlater⟩ := h.early issued expires hx he
    exact ⟨hlt, opens, hopens, Std.lt_of_le_of_lt hle hlater⟩

/-- Without a life that has a window, valid tokens are kept. -/
theorem keptAt_iff_current (h : ∀ issued expires, c.date .iat = .ok (some issued) →
    c.date .exp = .ok (some expires) → ¬issued < expires) : c.KeptAt now ↔ c.Current now := by
  refine ⟨KeptAt.current, fun hc => ⟨hc.readable, hc.issued, hc.begun, ?_, ?_⟩⟩
  · exact fun t ht _ => hc.unexpired t ht
  · -- a valid token that has both dates does have a window
    intro issued expires hi he
    exact absurd (Std.lt_of_le_of_lt (hc.issued _ hi) (hc.unexpired _ he)) (h _ _ hi he)

/-- With a window, valid tokens are kept until it opens. -/
theorem keptAt_iff_of_lt (hi : c.date .iat = .ok (some issued))
    (he : c.date .exp = .ok (some expires)) (hlt : issued < expires) :
    c.KeptAt now ↔ c.Current now ∧ ∃ opens,
      Instant.ofTotal? (expires.total - (expires.total - issued.total) / 3) = some opens
        ∧ now < opens := by
  constructor
  · intro h
    exact ⟨h.current, (h.early _ _ hi he).2⟩
  · rintro ⟨hc, hopens⟩
    refine ⟨hc.readable, hc.issued, hc.begun, fun t ht _ => hc.unexpired t ht, ?_⟩
    intro issued' expires' hi' he'
    obtain rfl : issued = issued' := by simpa [hi] using hi'
    obtain rfl : expires = expires' := by simpa [he] using he'
    exact ⟨hlt, hopens⟩

end Claims

/-! ## The judge -/

namespace Judge

variable {j : Judge} {claim : DateClaim} {missing : JudgeError} {now t issued expires : Instant}
  {w : Span}

theorem requiredDate_eq_ok_iff :
    j.requiredDate claim missing = .ok t ↔ j.claims.date claim = .ok (some t) := by
  unfold requiredDate
  cases j.claims.date claim with
  | error e => simp
  | ok x => cases x <;> simp

/-- A judge has a window for a life that does not end before it begins. -/
theorem window_eq_ok_iff :
    j.window = .ok w ↔ ∃ issued expires, j.claims.date .iat = .ok (some issued)
      ∧ j.claims.date .exp = .ok (some expires) ∧ issued < expires
      ∧ rotationWindow issued expires = w := by
  simp only [window, bind_eq_ok_iff, requiredDate_eq_ok_iff]
  constructor
  · rintro ⟨expires, he, issued, hi, hw⟩
    split at hw
    · next hpos =>
      exact ⟨issued, expires, hi, he, (Claims.isPositive_rotationWindow_iff hi he).1 hpos,
        Except.ok.inj hw⟩
    · cases hw
  · rintro ⟨issued, expires, hi, he, hlt, rfl⟩
    exact ⟨expires, he, issued, hi, if_pos ((Claims.isPositive_rotationWindow_iff hi he).2 hlt)⟩

/-- Within its window a token is due. -/
theorem isDue_eq_false_iff (he : j.claims.date .exp = .ok (some expires)) :
    j.isDue now w = false ↔
      j.claims.Current now ∧ ∃ opens, expires.sub? w = some opens ∧ now < opens := by
  simp only [isDue, Claims.expiresAt, Claims.date?_of_date he, ← Claims.isValidAt_iff]
  cases j.claims.isValidAt now with
  | false => simp
  | true =>
    cases expires.sub? w with
    | none => simp
    | some opens => simp [Std.not_le]

end Judge

/-! ## The client -/

/-- The judge of a token that can be read, and its window. -/
theorem Renewal.judge_of_claims {token : String} {c : Claims} (h : Token.claims token = .ok c) :
    judge token = (Judge.window ⟨c⟩).map fun w => (⟨c⟩, w) := by
  rw [judge, Judge.ofToken, h]
  cases hw : Judge.window ⟨c⟩ with
  | ok w => simp [bind, Except.bind, Except.map, hw]
  | error e => simp [bind, Except.bind, Except.map, hw]

namespace LoginClient

variable {client : LoginClient} {tokens : TokenSet} {c : Claims} {now : Instant}

theorem isExpired_of_claims {token : String} (h : Token.claims token = .ok c) :
    isExpired token now = !c.isValidAt now := by
  rw [isExpired, h]

/-- What a client finds about a token: what its judge says, or, without a
judge or a window, whether the token is past its time. -/
def finding (idToken : String) (now : Instant) : Assessment :=
  match Renewal.judge idToken with
  | .ok (j, window) => { needsRenewal := j.isDue now window, status := j.status }
  | .error e => { needsRenewal := isExpired idToken now, error := some e }

/-- **A client assesses a token alone.** All that it is asked is whether the
token is past its time, and that it can tell itself. -/
theorem assess_eq (h : tokens.idToken ≠ "") :
    client.assess (some tokens) now = .done (finding tokens.idToken now) := by
  have hheld : (some tokens).filter (fun t => !t.idToken.isEmpty) = some tokens := by
    rw [Option.filter_some, if_pos (by simpa using h)]
  simp only [assess, Renewal.assess, hheld, finding]
  cases Renewal.judge tokens.idToken with
  | ok judged => rfl
  | error e => rfl

/-- A token that can be read is kept by its dates. -/
theorem needsRenewal_finding {token : String} (h : Token.claims token = .ok c) :
    (finding token now).needsRenewal = false ↔ c.KeptAt now := by
  rw [finding, Renewal.judge_of_claims h]
  -- the judge decides where there is a window, the check of validity elsewhere
  cases hw : Judge.window ⟨c⟩ with
  | ok w =>
    obtain ⟨issued, expires, hi, he, hlt, rfl⟩ := Judge.window_eq_ok_iff.1 hw
    rw [Claims.keptAt_iff_of_lt hi he hlt, ← Claims.sub?_rotationWindow hi he hlt]
    exact Judge.isDue_eq_false_iff he
  | error e =>
    have hno : ∀ issued expires, c.date .iat = .ok (some issued) →
        c.date .exp = .ok (some expires) → ¬issued < expires := by
      intro issued expires hi he hlt
      rw [Judge.window_eq_ok_iff.2 ⟨issued, expires, hi, he, hlt, rfl⟩] at hw
      cases hw
    rw [Claims.keptAt_iff_current hno, ← Claims.isValidAt_iff, ← Bool.not_eq_false',
      ← isExpired_of_claims h]
    rfl

/-- What a client finds about a token that can be read, without asking
anyone. -/
theorem exists_assess (h : Token.claims tokens.idToken = .ok c) :
    ∃ found : Assessment, client.assess (some tokens) now = .done found
      ∧ (found.needsRenewal = false ↔ c.KeptAt now) :=
  ⟨_, assess_eq (Token.ne_empty_of_claims h), needsRenewal_finding h⟩

/-- **When a client keeps a token.** About every token that can be read a
client has a finding for every instant, and the instants at which it
keeps the token are the interval that the dates span. A token that is not
valid is never kept, and from its date of issue and the date it counts
from on, a token that has to be renewed stays so. -/
theorem keeps_iff (client : LoginClient) (tokens : TokenSet) (c : Claims)
    (h : Token.claims tokens.idToken = .ok c) :
    ∃ found : Instant → Assessment,
      (∀ now, client.assess (some tokens) now = .done (found now))
        ∧ (∀ now, (found now).needsRenewal = false ↔ c.KeptAt now)
        ∧ (∀ now, c.isValidAt now = false → (found now).needsRenewal = true)
        ∧ ∀ now later, (∀ t, c.date .iat = .ok (some t) → t ≤ now) →
            (∀ t, c.date .nbf = .ok (some t) → t ≤ now) → now ≤ later →
            (found now).needsRenewal = true → (found later).needsRenewal = true := by
  have hall : ∀ now, ∃ found : Assessment, client.assess (some tokens) now = .done found
      ∧ (found.needsRenewal = false ↔ c.KeptAt now) := fun now => exists_assess h
  obtain ⟨found, hfound⟩ := Classical.skolem.1 hall
  have hdone := fun now => (hfound now).1
  have hkept := fun now => (hfound now).2
  refine ⟨found, hdone, hkept, fun now hinvalid => ?_, fun now later hi hn hle hdue => ?_⟩
  · rw [← Bool.not_eq_false, hkept]
    intro hk
    rw [Claims.isValidAt_iff.2 hk.current] at hinvalid
    cases hinvalid
  · rw [← Bool.not_eq_false, hkept] at hdue ⊢
    exact fun hk => hdue (hk.before hi hn hle)

/-- At work: a token that is issued with the epoch and expires fifty
minutes later is kept until the nanosecond before its last third. -/
theorem keeps_iff_fifty_minutes :
    let client : LoginClient :=
      ⟨{ issuerUrl := "https://idp", clientId := "id" }, ⟨"https://idp", "", "", none, [], [], []⟩,
        ⟨[], [], []⟩⟩
    let tokens : TokenSet :=
      ⟨"eyJhbGciOiJIUzI1NiIsInR5cCI6IkpXVCJ9.eyJpYXQiOjAsImV4cCI6MzAwMH0.", ""⟩
    let expires : Instant := ⟨3000, 0, by decide, by decide, by decide, by decide⟩
    let last : Instant := ⟨1999, 999999999, by decide, by decide, by decide, by decide⟩
    let opens : Instant := ⟨2000, 0, by decide, by decide, by decide, by decide⟩
    ∃ c, Token.claims tokens.idToken = .ok c ∧ c.date .iat = .ok (some .epoch)
      ∧ c.date .exp = .ok (some expires)
      ∧ ∃ found : Instant → Assessment,
        (∀ now, client.assess (some tokens) now = .done (found now))
          ∧ (found last).needsRenewal = false ∧ (found opens).needsRenewal = true := by
  intro client tokens expires last opens
  have htoken : (Token.claims tokens.idToken).toOption.map (fun c =>
      ((c.date .iat).toOption, (c.date .exp).toOption, c.isValidAt last))
        = some (some (some .epoch), some (some expires), true) := by decide +kernel
  obtain ⟨c, hread, hdates⟩ := Option.map_eq_some_iff.1 htoken
  simp only [Prod.mk.injEq, toOption_eq_some_iff] at hread hdates
  obtain ⟨hiat, hexp, hvalid⟩ := hdates
  have hopens : Instant.ofTotal? (expires.total - (expires.total - Instant.epoch.total) / 3)
      = some opens := by decide
  obtain ⟨found, hdone, hkept, -, -⟩ := keeps_iff client tokens c hread
  refine ⟨c, hread, hiat, hexp, found, hdone, ?_, ?_⟩
  · refine (hkept last).2 ((Claims.keptAt_iff_of_lt hiat hexp (by decide)).2 ?_)
    exact ⟨Claims.isValidAt_iff.1 hvalid, opens, hopens, by decide⟩
  · rw [← Bool.not_eq_false, hkept]
    intro hk
    obtain ⟨-, opens', hopens', hlt⟩ := hk.early _ _ hiat hexp
    obtain rfl : opens = opens' := by simpa [hopens] using hopens'
    exact absurd hlt (by decide)

end LoginClient

end CredentialRotation
