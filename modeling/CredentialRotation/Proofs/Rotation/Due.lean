import CredentialRotation.Proofs.Rotation.Published
import CredentialRotation.Proofs.Time.Ends

/-!
# Windows of any length

A judge can be asked about a window of any length, also of one that is
negative. The window opens at the expiry less that length, which is a
count of nanoseconds but need not be an instant of the calendar. Before
the calendar it has come at every instant, after the calendar at none; the
judge only sees that there is no such instant, and takes both for the
first.

So a token is due when its window has opened, or when it opens after the
calendar has ended (`due_iff_opened_or_beyond`). The second is against the
rule: it makes a token due that a longer window would have kept
(`due_before_its_window`).
-/

namespace CredentialRotation

variable {j : Judge} {now : Instant} {d d' : Span} {n : Int}

namespace Claims

variable {c : Claims} {expires : Instant}

/-- Where a window of a given length opens: the expiry less the length, in
nanoseconds and without a range. -/
def opening? (c : Claims) (d : Span) : Option Int :=
  c.expiresAt.map fun expires => expires.total - d.nanos

/-- The longer window opens first. -/
theorem exists_opening?_of_le (hd : d.nanos ≤ d'.nanos) (h : c.opening? d = some n) :
    ∃ n', c.opening? d' = some n' ∧ n' ≤ n := by
  obtain ⟨expires, he, rfl⟩ := Option.map_eq_some_iff.1 h
  refine ⟨expires.total - d'.nanos, ?_, by omega⟩
  rw [opening?, he, Option.map_some]

end Claims

namespace Judge

/-- A valid token that expires is due unless its window opens at an
instant of the calendar that is still to come. -/
theorem isDue_of_valid {expires : Instant} (hvalid : j.claims.isValidAt now = true)
    (he : j.claims.expiresAt = some expires) : j.isDue now d = true ↔
      (∃ opens, expires.sub? d = some opens ∧ opens ≤ now) ∨ expires.sub? d = none := by
  simp only [isDue, hvalid, he, if_true]
  cases expires.sub? d <;> simp

/-- **When a token is due.** -/
theorem isDue_iff : j.isDue now d = true ↔ j.claims.isValidAt now = false
    ∨ ∃ n, j.claims.opening? d = some n ∧ (n ≤ now.reached ∨ Instant.endTotal ≤ n) := by
  cases hvalid : j.claims.isValidAt now with
  | false => simp [isDue, hvalid]
  | true =>
    rw [or_iff_right (by simp)]
    cases he : j.claims.expiresAt with
    | none => simp [isDue, hvalid, he, Claims.opening?]
    | some expires =>
      have hleap := Claims.isLeap_of_date (Claims.date?_eq_some_iff.1 he)
      simp only [isDue_of_valid hvalid he, Instant.sub?_eq_ofTotal? hleap,
        Instant.exists_ofTotal?_le_iff, Instant.ofTotal?_eq_none_iff, Claims.opening?, he,
        Option.map_some, Option.some.injEq, exists_eq_left']
      -- what lies before the calendar has been reached at every instant
      have := Instant.firstTotal_le_reached (t := now)
      omega

/-- **When a token is due, by a window of any length.** A token is due when
it is not valid, when its window has opened, and when its window opens
after the calendar has ended; there is an answer for every instant and
every length. A longer window never makes a token less due, unless the
shorter one opens after the calendar has ended. -/
theorem due_iff_opened_or_beyond (j : Judge) :
    (∀ now d, j.isDue now d = true ↔ j.claims.isValidAt now = false
        ∨ ∃ n, j.claims.opening? d = some n ∧ (n ≤ now.reached ∨ Instant.endTotal ≤ n))
      ∧ ∀ now d d', d.nanos ≤ d'.nanos →
          (∀ n, j.claims.opening? d = some n → n < Instant.endTotal) →
            j.isDue now d = true → j.isDue now d' = true := by
  refine ⟨fun now d => isDue_iff, fun now d d' hd hin hdue => ?_⟩
  rw [isDue_iff] at hdue ⊢
  rcases hdue with hinvalid | ⟨n, hn, hopened | hbeyond⟩
  · exact Or.inl hinvalid
  · obtain ⟨n', hn', hle⟩ := Claims.exists_opening?_of_le hd hn
    exact Or.inr ⟨n', hn', Or.inl (Int.le_trans hle hopened)⟩
  · exact absurd hbeyond (Int.not_le.2 (hin n hn))

/-- At work: half way through its life a token is due by a window of two
thirds of it, and then also by one that opens before the calendar
begins. -/
theorem due_iff_opened_or_beyond_oversized :
    let j : Judge := ⟨⟨[("exp", .ofInt 3000), ("iat", .ofInt 0)]⟩⟩
    let now : Instant := ⟨1500, 0, by decide, by decide, by decide, by decide⟩
    let d : Span := ⟨2000000000000, by decide, by decide⟩
    let d' : Span := ⟨9000000000000000000000, by decide, by decide⟩
    d.nanos ≤ d'.nanos ∧ (∀ n, j.claims.opening? d = some n → n < Instant.endTotal)
      ∧ j.isDue now d = true
      ∧ (∃ n, j.claims.opening? d' = some n ∧ n < Instant.firstTotal)
      ∧ j.isDue now d' = true := by
  intro j now d d'
  have hopens : j.claims.opening? d = some 1000000000000 := by decide +kernel
  have hopens' : j.claims.opening? d' = some (-8999999997000000000000) := by decide +kernel
  have hin : ∀ n, j.claims.opening? d = some n → n < Instant.endTotal := by
    intro n hn
    obtain rfl := Option.some.inj (hopens.symm.trans hn)
    decide
  obtain ⟨hdue, hlonger⟩ := due_iff_opened_or_beyond j
  have h : j.isDue now d = true :=
    (hdue now d).2 (Or.inr ⟨_, hopens, Or.inl (by decide)⟩)
  exact ⟨by decide, hin, h, ⟨_, hopens', by decide⟩, hlonger now d d' (by decide) hin h⟩

/-- A window that is negative and longer than the rest of the calendar
would open after it, and makes a valid token due at once; with no window
at all the token is not due. -/
theorem due_before_its_window :
    (¬ ∀ (j : Judge) (now : Instant) (d : Span), j.isDue now d = true ↔
        j.claims.isValidAt now = false ∨ ∃ n, j.claims.opening? d = some n ∧ n ≤ now.reached)
      ∧ ¬ ∀ (j : Judge) (now : Instant) (d d' : Span), d.nanos ≤ d'.nanos →
          j.isDue now d = true → j.isDue now d' = true := by
  let j : Judge := ⟨⟨[("exp", .ofInt 3000), ("iat", .ofInt 0)]⟩⟩
  let now : Instant := ⟨1000, 0, by decide, by decide, by decide, by decide⟩
  let d : Span := ⟨-9000000000000000000000, by decide, by decide⟩
  have hdue : j.isDue now d = true := by decide +kernel
  constructor
  · intro hall
    have hvalid : j.claims.isValidAt now = true := by decide +kernel
    have hopens : j.claims.opening? d = some 9000000003000000000000 := by decide +kernel
    rcases (hall j now d).1 hdue with hinvalid | ⟨n, hn, hle⟩
    · rw [hvalid] at hinvalid
      cases hinvalid
    · obtain rfl := Option.some.inj (hopens.symm.trans hn)
      exact absurd hle (by decide)
  · intro hall
    have hnone : j.isDue now .zero = false := by decide +kernel
    rw [hall j now d .zero (by decide) hdue] at hnone
    cases hnone

end Judge

end CredentialRotation
