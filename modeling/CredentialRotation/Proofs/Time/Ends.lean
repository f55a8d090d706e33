import CredentialRotation.Proofs.Time.Shift

/-!
# Shifts over the ends of the calendar

Outside leap seconds a shift adds nanoseconds in unbounded arithmetic, to
later or to earlier, and asks at last whether the calendar has what comes
out. It has what lies from `firstTotal` up to `endTotal`, so a shift can
fail in two ways, and `none` says of neither which it was.

An end of a shift is never in a leap second, but the instant that it is
compared with may be. `reached` counts the nanoseconds that have come by
then: with it a shift has ended just if its sum has been reached
(`exists_add?_le_iff`).
-/

namespace CredentialRotation

namespace Instant

variable {t v now : Instant} {d : Span} {n : Int}

/-- The first nanosecond of the calendar, counted from 1970 on. -/
def firstTotal : Int := minSecs * nanosPerSecond

/-- The first nanosecond after the calendar. -/
def endTotal : Int := (maxSecs + 1) * nanosPerSecond

/-- The last nanosecond that has come by an instant, counted from 1970 on.
In a leap second none comes after those of the second it prolongs. -/
def reached (t : Instant) : Int := t.secs * nanosPerSecond + min t.nanos 999999999

theorem reached_eq_total (h : t.isLeap = false) : t.reached = t.total := by
  rw [isLeap_eq_false_iff] at h
  simp only [reached, total]
  omega

theorem firstTotal_le_reached : firstTotal ≤ t.reached := by
  have := t.secs_ge
  simp only [firstTotal, reached, nanosPerSecond]
  omega

/-- No instant reaches past the end of the calendar. -/
theorem reached_lt_endTotal : t.reached < endTotal := by
  have := t.secs_le
  simp only [endTotal, reached, nanosPerSecond]
  omega

/-- An instant outside leap seconds has come once its nanosecond has. -/
theorem le_iff_total_le_reached (h : v.isLeap = false) : v ≤ now ↔ v.total ≤ now.reached := by
  rw [isLeap_eq_false_iff] at h
  simp only [le_def, total, reached, nanosPerSecond]
  omega

/-! ## Counts of nanoseconds -/

theorem firstTotal_le_total : firstTotal ≤ t.total := by
  have := t.secs_ge
  simp only [firstTotal, total, nanosPerSecond]
  omega

theorem total_lt_endTotal (h : t.isLeap = false) : t.total < endTotal := by
  rw [← reached_eq_total h]
  exact reached_lt_endTotal

/-- **What the calendar has not** lies before it or after it. -/
theorem ofTotal?_eq_none_iff : ofTotal? n = none ↔ n < firstTotal ∨ endTotal ≤ n := by
  constructor
  · intro h
    refine Decidable.byContradiction fun hin => ?_
    obtain ⟨t, ht⟩ := exists_ofTotal? (n := n) (by simp only [firstTotal] at hin; omega)
      (by simp only [endTotal] at hin; omega)
    rw [ht] at h
    cases h
  · intro hout
    cases h : ofTotal? n with
    | none => rfl
    | some t =>
      obtain ⟨hleap, rfl⟩ := ofTotal?_eq_some_iff.1 h
      have := firstTotal_le_total (t := t)
      have := total_lt_endTotal hleap
      omega

/-- The instant of a count has come once the count has been reached, if
there is one. -/
theorem exists_ofTotal?_le_iff : (∃ v, ofTotal? n = some v ∧ v ≤ now) ↔
    firstTotal ≤ n ∧ n ≤ now.reached := by
  constructor
  · rintro ⟨v, hv, hle⟩
    obtain ⟨hleap, rfl⟩ := ofTotal?_eq_some_iff.1 hv
    exact ⟨firstTotal_le_total, (le_iff_total_le_reached hleap).1 hle⟩
  · rintro ⟨hfirst, hle⟩
    obtain ⟨v, hv⟩ := exists_ofTotal? hfirst (Int.lt_of_le_of_lt hle reached_lt_endTotal)
    obtain ⟨hleap, rfl⟩ := ofTotal?_eq_some_iff.1 hv
    exact ⟨v, hv, (le_iff_total_le_reached hleap).2 hle⟩

/-! ## Shifts -/

/-- A shift either way is a sum. -/
theorem add?_eq_ofTotal? (h : t.isLeap = false) : t.add? d = ofTotal? (t.total + d.nanos) := by
  simp only [add?, h, Bool.false_eq_true, if_false]

/-- **A shift has ended** once its sum has been reached, unless that lies
before the calendar. -/
theorem exists_add?_le_iff (h : t.isLeap = false) : (∃ v, t.add? d = some v ∧ v ≤ now) ↔
    firstTotal ≤ t.total + d.nanos ∧ t.total + d.nanos ≤ now.reached := by
  rw [add?_eq_ofTotal? h, exists_ofTotal?_le_iff]

/-- A shift to earlier that does not start before the calendar has a
start. -/
theorem exists_sub? (hd : 0 ≤ d.nanos) (h : firstTotal + d.nanos ≤ t.total) :
    ∃ v, t.sub? d = some v := by
  have hs : d.neg.wholeSeconds = -(d.nanos / 1000000000) := by
    rw [← Int.tdiv_eq_ediv_of_nonneg hd, ← Int.neg_tdiv]
    rfl
  have hf : d.neg.fractionNanos = -(d.nanos % 1000000000) := by
    rw [← Int.tmod_eq_emod_of_nonneg hd, ← Int.neg_tmod]
    rfl
  have hneg : d.neg.nanos = -d.nanos := rfl
  have := t.nanos_lt
  have := t.secs_le
  cases hl : t.isLeap with
  | false =>
    have hend := total_lt_endTotal hl
    obtain ⟨v, hv⟩ := exists_ofTotal? (n := t.total + d.neg.nanos)
      (by rw [← firstTotal]; omega) (by rw [← endTotal]; omega)
    exact ⟨v, by rw [sub?, add?_eq_ofTotal? hl, hv]⟩
  | true =>
    have hge : 1000000000 ≤ t.nanos := by simpa [isLeap] using hl
    simp only [sub?, add?, hl, if_true, hs, hf]
    rw [if_neg (by omega)]
    split
    · -- a second earlier the leap second is over
      refine exists_ofTotal? (by rw [← firstTotal]; omega) ?_
      simp only [total, nanosPerSecond]
      omega
    · -- less than a second earlier there may still be the leap second
      have hends := t.leap_ends_minute.resolve_left (by omega)
      exact ⟨⟨t.secs, (t.nanos + -(d.nanos % 1000000000)).toNat, t.secs_ge, t.secs_le, by omega,
        .inr hends⟩, ofParts?_eq_some_iff.2 ⟨rfl, rfl⟩⟩

end Instant

end CredentialRotation
