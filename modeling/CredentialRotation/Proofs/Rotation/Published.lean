import CredentialRotation.Proofs.Rotation.Keeping
import CredentialRotation.Proofs.Time.Seconds

/-!
# What is published and what is decided

The window of a token is worked out twice. A judge takes it from the dates
of the token, and refuses where it cannot; the status that is published
takes it from the dates that could be read, cut to whole seconds, and is
silent where it cannot. Dates are whole seconds, so the cut takes nothing
away (`floorSecond_of_date`), even from those so far away that it is not
made, and the two agree.

`Claims.HasLife` is the case in which there is a window. Everything said
about the window is said from there.
-/

namespace CredentialRotation

namespace Instant

variable {t : Instant}

/-- The start of a second stays as it is, near or far. -/
theorem floorSecond_of_nanos (h : t.nanos = 0) : t.floorSecond = t := by
  have hleap : t.isLeap = false := isLeap_eq_false_iff.2 (by omega)
  unfold floorSecond
  split
  · rcases t with ⟨secs, nanos⟩
    simp only [mk.injEq, true_and]
    rw [hleap, if_neg Bool.false_ne_true]
    exact h.symm
  · rfl

end Instant

/-! ## Statuses -/

namespace RotationStatus

variable {issuer : Option String} {issuedAt expiresAt : Option Instant}
variable {issued expires : Instant} {d : Span}

/-- A life is published with its window, if that has a length. -/
theorem rotationDuration_ofLife : (ofLife issuer issued expires).rotationDuration = some d ↔
    (rotationWindow issued expires).isPositive = true ∧ rotationWindow issued expires = d := by
  rw [ofLife]
  split
  · next hpos => simp [hpos]
  · next hneg => simp [hneg]

/-- A window is published with the instant that it opens. -/
theorem rotationNotBefore_ofLife (h : (rotationWindow issued expires).isPositive = true) :
    (ofLife issuer issued expires).rotationNotBefore
      = expires.sub? (rotationWindow issued expires) := by
  rw [ofLife, if_pos h]

/-- Without both dates there is no window. -/
theorem rotationDuration_derive_eq_none (h : issuedAt = none ∨ expiresAt = none) :
    (derive issuer issuedAt expiresAt).rotationDuration = none := by
  rcases h with rfl | rfl
  · rfl
  · cases issuedAt <;> rfl

end RotationStatus

/-! ## The life of a token -/

namespace Claims

variable {c : Claims} {claim : DateClaim} {t issued expires opens now : Instant}

theorem floorSecond_of_date (h : c.date claim = .ok (some t)) : t.floorSecond = t :=
  Instant.floorSecond_of_nanos (nanos_of_date h)

/-- What can be read without asking for more is a date that can be
read. -/
theorem date?_eq_some_iff : c.date? claim = some t ↔ c.date claim = .ok (some t) := by
  unfold date?
  cases c.date claim <;> simp

/-- A date that cannot be read is refused by its name. -/
theorem date_eq_error_or (c : Claims) (claim : DateClaim) :
    c.date claim = .error (.date claim) ∨ ∃ x, c.date claim = .ok x := by
  unfold date
  split
  · exact Or.inr ⟨_, rfl⟩
  · split
    · exact Or.inr ⟨_, rfl⟩
    · exact Or.inl rfl

/-- A token with a life: it says when it was issued and when it expires,
the one before the other. -/
structure HasLife (c : Claims) (issued expires : Instant) : Prop where
  issuedAt : c.date .iat = .ok (some issued)
  expiresAt : c.date .exp = .ok (some expires)
  lt : issued < expires

namespace HasLife

variable (h : c.HasLife issued expires)

include h

theorem total_lt : issued.total < expires.total :=
  (Instant.lt_iff_total_lt (isLeap_of_date h.issuedAt) (isLeap_of_date h.expiresAt)).1 h.lt

theorem isPositive_rotationWindow : (rotationWindow issued expires).isPositive = true :=
  (isPositive_rotationWindow_iff h.issuedAt h.expiresAt).2 h.lt

/-- The window is the third of the life, rounded down to nanoseconds. -/
theorem nanos_rotationWindow :
    (rotationWindow issued expires).nanos = (expires.total - issued.total) / 3 := by
  have hsince := Instant.nanos_since (isLeap_of_date h.issuedAt) (isLeap_of_date h.expiresAt)
  have hwhole := Instant.floorNanos_since (nanos_of_date h.issuedAt) (nanos_of_date h.expiresAt)
  have hlt := h.total_lt
  rw [rotationWindow, Span.nanos_third (by omega) hwhole, hsince]

/-- **The window opens within the life**, at an instant of the calendar
that is neither the first nor the last of it. -/
theorem exists_sub? : ∃ opens, expires.sub? (rotationWindow issued expires) = some opens
    ∧ opens.total = expires.total - (rotationWindow issued expires).nanos
    ∧ issued < opens ∧ opens < expires := by
  obtain ⟨opens, hopens⟩ := exists_opens h.issuedAt h.expiresAt h.lt
  obtain ⟨hleap, htotal⟩ := Instant.ofTotal?_eq_some_iff.1 hopens
  have hlt := h.total_lt
  -- a life of whole seconds has a third that is neither nothing nor the whole
  have hsecond : issued.total + nanosPerSecond ≤ expires.total := by
    have := nanos_of_date h.issuedAt
    have := nanos_of_date h.expiresAt
    simp only [Instant.total, nanosPerSecond] at hlt ⊢
    omega
  simp only [nanosPerSecond] at hsecond
  refine ⟨opens, by rw [sub?_rotationWindow h.issuedAt h.expiresAt h.lt, hopens], ?_, ?_, ?_⟩
  · rw [htotal, h.nanos_rotationWindow]
  · rw [Instant.lt_iff_total_lt (isLeap_of_date h.issuedAt) hleap]
    omega
  · rw [Instant.lt_iff_total_lt hleap (isLeap_of_date h.expiresAt)]
    omega

end HasLife

end Claims

namespace Judge

variable {j : Judge} {issued expires opens now : Instant} {d : Span} {e : JudgeError}

/-! ## What a judge says -/

/-- A judge has a window for a token with a life. -/
theorem window_eq_ok_iff_hasLife : j.window = .ok d ↔
    ∃ issued expires, j.claims.HasLife issued expires ∧ rotationWindow issued expires = d := by
  rw [window_eq_ok_iff]
  constructor
  · rintro ⟨issued, expires, hi, he, hlt, hd⟩
    exact ⟨issued, expires, ⟨hi, he, hlt⟩, hd⟩
  · rintro ⟨issued, expires, ⟨hi, he, hlt⟩, hd⟩
    exact ⟨issued, expires, hi, he, hlt, hd⟩

/-- Which is the one of its life. -/
theorem window_of_hasLife (h : j.claims.HasLife issued expires) :
    j.window = .ok (rotationWindow issued expires) :=
  window_eq_ok_iff_hasLife.2 ⟨issued, expires, h, rfl⟩

/-- A date is refused when it cannot be read, and when it is absent. -/
theorem requiredDate_eq_error_iff {claim : DateClaim} {missing : JudgeError} :
    j.requiredDate claim missing = .error e ↔
      (j.claims.date claim = .error (.date claim) ∧ e = .token (.date claim))
        ∨ (j.claims.date claim = .ok none ∧ e = missing) := by
  unfold requiredDate
  rcases j.claims.date_eq_error_or claim with h | ⟨x, h⟩
  · simp [h, eq_comm]
  · cases x <;> simp [h, eq_comm]

/-- **Why a judge has no window**: the expiry is looked at first, then the
date of issue, and at last which of them is the earlier. -/
theorem window_eq_error_iff : j.window = .error e ↔
    (j.claims.date .exp = .error (.date .exp) ∧ e = .token (.date .exp))
      ∨ (j.claims.date .exp = .ok none ∧ e = .expiryMissing)
      ∨ ∃ expires, j.claims.date .exp = .ok (some expires) ∧
          ((j.claims.date .iat = .error (.date .iat) ∧ e = .token (.date .iat))
            ∨ (j.claims.date .iat = .ok none ∧ e = .issuedAtMissing)
            ∨ ∃ issued, j.claims.date .iat = .ok (some issued) ∧ expires ≤ issued
                ∧ e = .inverted issued expires) := by
  simp only [window, bind_eq_error_iff, requiredDate_eq_error_iff, requiredDate_eq_ok_iff,
    or_assoc]
  refine or_congr Iff.rfl (or_congr Iff.rfl (exists_congr fun expires => ?_))
  refine and_congr_right fun he =>
    or_congr Iff.rfl (or_congr Iff.rfl (exists_congr fun issued => ?_))
  refine and_congr_right fun hi => ?_
  have hpos := Claims.isPositive_rotationWindow_iff hi he
  split
  · next h => simp [Std.not_le.2 (hpos.1 h)]
  · next h => simp [Std.not_lt.1 (mt hpos.2 h), eq_comm]

/-! ## What is published -/

/-- A token with a life is published as it is. -/
theorem status_of_hasLife (h : j.claims.HasLife issued expires) :
    j.status = .ofLife j.claims.issuer issued expires := by
  rw [status, Claims.issuedAt, Claims.expiresAt, Claims.date?_of_date h.issuedAt,
    Claims.date?_of_date h.expiresAt, RotationStatus.derive, Option.map_some, Option.map_some,
    Claims.floorSecond_of_date h.issuedAt, Claims.floorSecond_of_date h.expiresAt]

/-- **A window is published for a token with a life**, and for no
other. -/
theorem rotationDuration_status : j.status.rotationDuration = some d ↔
    ∃ issued expires, j.claims.HasLife issued expires ∧ rotationWindow issued expires = d := by
  constructor
  · intro h
    cases hi : j.claims.issuedAt with
    | none =>
      rw [status, hi, RotationStatus.rotationDuration_derive_eq_none (Or.inl rfl)] at h
      cases h
    | some issued =>
      cases he : j.claims.expiresAt with
      | none =>
        rw [status, he, RotationStatus.rotationDuration_derive_eq_none (Or.inr rfl)] at h
        cases h
      | some expires =>
        have hiat := Claims.date?_eq_some_iff.1 hi
        have hexp := Claims.date?_eq_some_iff.1 he
        rw [status, hi, he, RotationStatus.derive, Option.map_some, Option.map_some,
          Claims.floorSecond_of_date hiat, Claims.floorSecond_of_date hexp,
          RotationStatus.rotationDuration_ofLife,
          Claims.isPositive_rotationWindow_iff hiat hexp] at h
        exact ⟨issued, expires, ⟨hiat, hexp, h.1⟩, h.2⟩
  · rintro ⟨issued, expires, h, hd⟩
    rw [status_of_hasLife h, RotationStatus.rotationDuration_ofLife]
    exact ⟨h.isPositive_rotationWindow, hd⟩

/-- A valid token is due from the instant on that its window opens. -/
theorem isDue_iff_of_sub? (he : j.claims.date .exp = .ok (some expires))
    (hopens : expires.sub? d = some opens) (hvalid : j.claims.isValidAt now = true) :
    j.isDue now d = true ↔ opens ≤ now := by
  rw [← Bool.not_eq_false, isDue_eq_false_iff he, hopens]
  simp [Claims.isValidAt_iff.1 hvalid, Std.not_lt]

/-- **What is published is what is decided.** A judge has a window exactly
where one is published, and it is the same; there is one exactly for a
token with a life, and it is the third of that. It opens at the instant
that is published, strictly within the life, and a valid token is due from
then on. Where there is none the judge says why: the expiry cannot be read
or is absent, or else the date of issue is so, or else the token does not
expire after it is issued. -/
theorem published_and_decided (j : Judge) :
    (∀ d, j.window = .ok d ↔ j.status.rotationDuration = some d)
      ∧ (∀ d, j.window = .ok d ↔ ∃ issued expires, j.claims.HasLife issued expires
          ∧ d.nanos = (expires.total - issued.total) / 3)
      ∧ (∀ d issued expires, j.window = .ok d → j.claims.HasLife issued expires →
          0 < d.nanos ∧ ∃ opens, j.status.rotationNotBefore = some opens
            ∧ opens.total = expires.total - d.nanos ∧ issued < opens ∧ opens < expires
            ∧ ∀ now, j.claims.isValidAt now = true → (j.isDue now d = true ↔ opens ≤ now))
      ∧ ∀ e, j.window = .error e ↔
          (j.claims.date .exp = .error (.date .exp) ∧ e = .token (.date .exp))
            ∨ (j.claims.date .exp = .ok none ∧ e = .expiryMissing)
            ∨ ∃ expires, j.claims.date .exp = .ok (some expires) ∧
                ((j.claims.date .iat = .error (.date .iat) ∧ e = .token (.date .iat))
                  ∨ (j.claims.date .iat = .ok none ∧ e = .issuedAtMissing)
                  ∨ ∃ issued, j.claims.date .iat = .ok (some issued) ∧ expires ≤ issued
                      ∧ e = .inverted issued expires) := by
  refine ⟨fun d => ?_, fun d => ?_, fun d issued expires hd h => ?_, fun e => window_eq_error_iff⟩
  · rw [window_eq_ok_iff_hasLife, rotationDuration_status]
  · rw [window_eq_ok_iff_hasLife]
    refine exists_congr fun issued => exists_congr fun expires => and_congr_right fun h => ?_
    rw [← h.nanos_rotationWindow, Span.nanos_inj, eq_comm]
  · obtain rfl := Except.ok.inj ((window_of_hasLife h).symm.trans hd)
    have hpos := h.isPositive_rotationWindow
    obtain ⟨opens, hopens, htotal, hlow, hhigh⟩ := h.exists_sub?
    refine ⟨of_decide_eq_true hpos, opens, ?_, htotal, hlow, hhigh, fun now hvalid => ?_⟩
    · rw [status_of_hasLife h, RotationStatus.rotationNotBefore_ofLife hpos, hopens]
    · exact isDue_iff_of_sub? h.expiresAt hopens hvalid

/-- At work: the text of one date and the number of the other make up a
life of fifty minutes, whose last third opens after two thousand
seconds. -/
theorem published_and_decided_fifty_minutes :
    let j : Judge := ⟨⟨[("exp", .string " 3000"), ("iat", .ofInt 0)]⟩⟩
    let expires : Instant := ⟨3000, 0, by decide, by decide, by decide, by decide⟩
    let opens : Instant := ⟨2000, 0, by decide, by decide, by decide, by decide⟩
    ∃ d : Span, d.nanos = 1000000000000 ∧ j.window = .ok d ∧ j.claims.HasLife .epoch expires
      ∧ j.claims.isValidAt opens = true ∧ j.status.rotationNotBefore = some opens
      ∧ j.isDue opens d = true := by
  intro j expires opens
  have hlife : j.claims.HasLife .epoch expires :=
    ⟨toOption_eq_some_iff.1 (by decide +kernel), toOption_eq_some_iff.1 (by decide +kernel),
      by decide⟩
  have hvalid : j.claims.isValidAt opens = true := by decide +kernel
  obtain ⟨-, hthird, hopens, -⟩ := published_and_decided j
  have hwindow := (hthird ⟨1000000000000, by decide, by decide⟩).2
    ⟨.epoch, expires, hlife, by decide⟩
  obtain ⟨-, opens', hpublished, htotal, -, -, hdue⟩ := hopens _ _ _ hwindow hlife
  obtain rfl : opens' = opens := by
    have : j.status.rotationNotBefore = some opens := by decide +kernel
    exact Option.some.inj (hpublished.symm.trans this)
  exact ⟨_, rfl, hwindow, hlife, hvalid, hpublished, (hdue _ hvalid).2 (Std.le_refl _)⟩

end Judge

end CredentialRotation
