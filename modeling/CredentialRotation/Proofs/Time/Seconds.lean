import CredentialRotation.Document.Time

/-!
# Spans in whole seconds

A document holds a span as a number of seconds. A span is written without
its fraction of a second (`isCut_cut`), and what is then left of it can be
read again, at the two ends of the range as well: those lie beyond the last
whole seconds by a fraction. A number of seconds past these is no span
(`exists_ofSeconds?_iff`), whatever format it is read from.
-/

namespace CredentialRotation

namespace Span

/-- The greatest number of seconds that is a span. -/
def maxSeconds : Int := 9223372036854775

/-- `e` is `d` without a fraction of a second: the last whole second on the
way from nothing to `d`. -/
structure IsCut (e d : Span) : Prop where
  whole : nanosPerSecond ∣ e.nanos
  forwards : 0 ≤ d.nanos → e.nanos ≤ d.nanos ∧ d.nanos < e.nanos + nanosPerSecond
  backwards : d.nanos ≤ 0 → d.nanos ≤ e.nanos ∧ e.nanos < d.nanos + nanosPerSecond

variable {d e : Span} {s : Int}

/-- Spans of as many nanoseconds are the same. -/
theorem nanos_inj : d.nanos = e.nanos ↔ d = e := by
  rw [Span.mk.injEq]

/-- The seconds of a span, by its direction. -/
theorem wholeSeconds_cases (d : Span) :
    (0 ≤ d.nanos ∧ d.wholeSeconds = d.nanos / 1000000000)
      ∨ (d.nanos ≤ 0 ∧ d.wholeSeconds = -(-d.nanos / 1000000000)) := by
  rcases Int.le_total 0 d.nanos with h | h
  · exact .inl ⟨h, Int.tdiv_eq_ediv_of_nonneg h⟩
  · refine .inr ⟨h, ?_⟩
    rw [← Int.tdiv_eq_ediv_of_nonneg (by omega), Int.neg_tdiv, Int.neg_neg]
    rfl

/-- The span that the full seconds of a span are. -/
def cut (d : Span) : Span :=
  ⟨d.wholeSeconds * nanosPerSecond, by
    have := d.ge_min
    have := d.wholeSeconds_cases
    simp only [maxNanos, nanosPerSecond] at *
    omega, by
    have := d.le_max
    have := d.wholeSeconds_cases
    simp only [maxNanos, nanosPerSecond] at *
    omega⟩

/-- **What is cut is the fraction**, towards nothing. -/
theorem isCut_cut (d : Span) : d.cut.IsCut d := by
  have hseconds := d.wholeSeconds_cases
  refine ⟨Int.dvd_mul_left _ _, fun h => ?_, fun h => ?_⟩ <;>
    simp only [cut, nanosPerSecond] <;> omega

/-- A second and a half backwards is left as a second backwards. -/
example : (⟨-1500000000, by decide, by decide⟩ : Span).cut.nanos = -1000000000 := by decide

theorem IsCut.eq_cut (h : e.IsCut d) : e = d.cut := by
  obtain ⟨hwhole, hforwards, hbackwards⟩ := h
  obtain ⟨hwhole', hforwards', hbackwards'⟩ := d.isCut_cut
  rw [← nanos_inj]
  simp only [nanosPerSecond] at *
  omega

/-- Whole seconds are left as they are, -/
theorem cut_eq_self_iff : d.cut = d ↔ nanosPerSecond ∣ d.nanos := by
  constructor
  · intro h
    rw [← h]
    exact d.isCut_cut.whole
  · intro h
    refine (IsCut.eq_cut ⟨h, fun _ => ?_, fun _ => ?_⟩).symm <;>
      simp only [nanosPerSecond] <;> omega

/-- as those are that are left of a span. -/
theorem cut_cut (d : Span) : d.cut.cut = d.cut :=
  cut_eq_self_iff.2 d.isCut_cut.whole

/-- A span that is read from seconds has as many, -/
theorem nanos_of_ofSeconds? (h : ofSeconds? s = some d) : d.nanos = s * nanosPerSecond := by
  unfold ofSeconds? ofNanos? at h
  split at h
  · obtain rfl := Option.some.inj h
    rfl
  · cases h

/-- and **each span of so many seconds is read**. -/
theorem ofSeconds?_eq_some_iff : ofSeconds? s = some d ↔ d.nanos = s * nanosPerSecond := by
  refine ⟨nanos_of_ofSeconds?, fun h => ?_⟩
  rw [ofSeconds?, ofNanos?, ← h, dif_pos ⟨d.ge_min, d.le_max⟩]

/-- **Which numbers of seconds are spans**: those between the two last
ones. -/
theorem exists_ofSeconds?_iff :
    (∃ d, ofSeconds? s = some d) ↔ -maxSeconds ≤ s ∧ s ≤ maxSeconds := by
  simp only [ofSeconds?_eq_some_iff]
  constructor
  · rintro ⟨d, hd⟩
    have := d.ge_min
    have := d.le_max
    simp only [maxNanos, maxSeconds, nanosPerSecond] at *
    omega
  · intro h
    refine ⟨⟨s * nanosPerSecond, ?_, ?_⟩, rfl⟩ <;>
      simp only [maxNanos, maxSeconds, nanosPerSecond] at * <;> omega

/-- What is left of a span is read from its seconds. -/
theorem ofSeconds?_wholeSeconds (d : Span) : ofSeconds? d.wholeSeconds = some d.cut :=
  ofSeconds?_eq_some_iff.2 rfl

end Span

namespace Readable

variable {α : Type} [Readable α] {x : α} {d : Span} {s : Int}

/-- **What is read where a number of seconds stands**: the span that has as
many, if there is one. -/
theorem span?_eq_some_iff (h : integer? true x = some s) :
    span? x = some d ↔ d.nanos = s * nanosPerSecond := by
  rw [span?, h, Option.bind_some, Span.ofSeconds?_eq_some_iff]

theorem exists_span?_iff (h : integer? true x = some s) :
    (∃ d, span? x = some d) ↔ -Span.maxSeconds ≤ s ∧ s ≤ Span.maxSeconds := by
  rw [span?, h, Option.bind_some, Span.exists_ofSeconds?_iff]

end Readable

end CredentialRotation
