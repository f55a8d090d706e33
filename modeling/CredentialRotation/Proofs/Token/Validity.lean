import CredentialRotation.Token.Compact
import CredentialRotation.Proofs.Result
import CredentialRotation.Proofs.Time.Shift

/-!
# When a token counts

What the dates of a token are, and what `Claims.isValidAt` asks of them:
each is absent or can be read, and the instant lies from the later of
`iat` and `nbf` up to `exp`. Dates are whole seconds, and a token that
can be read is not the empty text.
-/

namespace CredentialRotation

/-! ## Dates -/

namespace Claims

variable {c : Claims} {claim : DateClaim} {now t : Instant}

/-- A date is the start of a second. -/
theorem nanos_of_date (h : c.date claim = .ok (some t)) : t.nanos = 0 := by
  unfold date at h
  split at h
  · simp at h
  · split at h
    · next u hu =>
      obtain rfl : u = t := by simpa using h
      obtain ⟨s, -, hs⟩ := Option.bind_eq_some_iff.1 hu
      exact (Instant.ofParts?_eq_some_iff.1 hs).2
    · cases h

theorem isLeap_of_date (h : c.date claim = .ok (some t)) : t.isLeap = false := by
  rw [Instant.isLeap_eq_false_iff, nanos_of_date h]
  decide

/-- A date that can be read is the one found by those who ask for
nothing more. -/
theorem date?_of_date {x : Option Instant} (h : c.date claim = .ok x) : c.date? claim = x := by
  rw [date?, h]

/-- What the dates of a token have to be for it to count at `now`. -/
structure Current (c : Claims) (now : Instant) : Prop where
  readable : ∀ claim, ∃ x, c.date claim = .ok x
  unexpired : ∀ t, c.date .exp = .ok (some t) → now < t
  issued : ∀ t, c.date .iat = .ok (some t) → t ≤ now
  begun : ∀ t, c.date .nbf = .ok (some t) → t ≤ now

/-- One date passes its check when it is absent, or read and not against
the test. -/
theorem check_eq_ok_iff {fails : Instant → Bool} {reason : Invalidity} {u : Unit} :
    c.check claim fails reason = .ok u ↔
      (∃ x, c.date claim = .ok x) ∧ ∀ t, c.date claim = .ok (some t) → fails t = false := by
  unfold check
  cases c.date claim with
  | error e => simp
  | ok x =>
    cases x with
    | none => simp
    | some t => cases h : fails t <;> simp [h]

/-- **A token counts exactly while its dates say so.** -/
theorem isValidAt_iff : c.isValidAt now = true ↔ c.Current now := by
  have hall : c.isValidAt now = true ↔ c.validate now = .ok () := by
    unfold isValidAt
    cases c.validate now <;> simp
  simp only [hall, validate, bind_eq_ok_iff, check_eq_ok_iff, exists_const,
    decide_eq_false_iff_not, Std.not_le, Std.not_lt]
  constructor
  · rintro ⟨⟨hexp, hexp'⟩, ⟨hiat, hiat'⟩, hnbf, hnbf'⟩
    refine ⟨fun claim => ?_, hexp', hiat', hnbf'⟩
    cases claim with
    | exp => exact hexp
    | iat => exact hiat
    | nbf => exact hnbf
  · intro h
    exact ⟨⟨h.readable _, h.unexpired⟩, ⟨h.readable _, h.issued⟩, h.readable _, h.begun⟩

end Claims

/-- A token that can be read is not empty. -/
theorem Token.ne_empty_of_claims {token : String} {c : Claims} (h : Token.claims token = .ok c) :
    token ≠ "" := by
  rintro rfl
  cases h

end CredentialRotation
