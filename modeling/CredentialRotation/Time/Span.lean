import CredentialRotation.Number.Integer

/-!
# Spans of time

A span is a whole number of nanoseconds, of either sign, up to a greatest
number of milliseconds. Arithmetic on spans is arithmetic on integers;
the bound is a field of the type, so a span that leaves it cannot be
made.
-/

namespace CredentialRotation

/-- Nanoseconds in a second. -/
def nanosPerSecond : Int := 1000000000

/-- The length of the longest span, in nanoseconds. -/
def Span.maxNanos : Int := 9223372036854775807000000

/-- A length of time with a direction. -/
structure Span where
  nanos : Int
  ge_min : -Span.maxNanos ≤ nanos
  le_max : nanos ≤ Span.maxNanos
deriving DecidableEq

namespace Span

/-- The span of so many nanoseconds. -/
def ofNanos? (n : Int) : Option Span :=
  if h : -maxNanos ≤ n ∧ n ≤ maxNanos then some ⟨n, h.1, h.2⟩ else none

/-- The span of so many seconds. -/
def ofSeconds? (s : Int) : Option Span :=
  ofNanos? (s * nanosPerSecond)

/-- The empty span. -/
def zero : Span := ⟨0, by decide, by decide⟩

/-- An hour. -/
def hour : Span := ⟨3600000000000, by decide, by decide⟩

/-- An hour and a quarter. -/
def seventyFiveMinutes : Span := ⟨4500000000000, by decide, by decide⟩

/-- The same length the other way. -/
def neg (d : Span) : Span :=
  ⟨-d.nanos, by have := d.le_max; omega, by have := d.ge_min; omega⟩

/-- Whole seconds, the fraction dropped. -/
def wholeSeconds (d : Span) : Int := d.nanos.tdiv nanosPerSecond

/-- The nanoseconds that `wholeSeconds` drops, with the sign of the
span. -/
def fractionNanos (d : Span) : Int := d.nanos.tmod nanosPerSecond

/-- Whole milliseconds, the fraction dropped. -/
def wholeMillis (d : Span) : Int := d.nanos.tdiv 1000000

/-- Seconds rounded down. -/
def floorSeconds (d : Span) : Int := d.nanos / nanosPerSecond

/-- The nanoseconds that `floorSeconds` leaves over. -/
def floorNanos (d : Span) : Int := d.nanos % nanosPerSecond

/-- A third rounded towards zero lies between zero and the whole. -/
theorem tdiv_three_bounds (n : Int) :
    (0 ≤ n → 0 ≤ n.tdiv 3 ∧ 3 * n.tdiv 3 ≤ n) ∧ (n ≤ 0 → n ≤ 3 * n.tdiv 3 ∧ n.tdiv 3 ≤ 0) := by
  constructor
  · intro h
    rw [Int.tdiv_eq_ediv_of_nonneg h]
    omega
  · intro h
    have hn := Int.neg_tdiv (-n) 3
    rw [Int.neg_neg, Int.tdiv_eq_ediv_of_nonneg (by omega : 0 ≤ -n)] at hn
    omega

/-- A third, the seconds and the fraction of a second divided each on its
own and rounded towards zero. -/
def third (d : Span) : Span :=
  ⟨(d.floorSeconds * nanosPerSecond).tdiv 3 + d.floorNanos / 3, by
    have := d.ge_min
    have := tdiv_three_bounds (d.floorSeconds * nanosPerSecond)
    simp only [maxNanos, floorSeconds, floorNanos, nanosPerSecond] at *
    omega, by
    have := d.le_max
    have := tdiv_three_bounds (d.floorSeconds * nanosPerSecond)
    simp only [maxNanos, floorSeconds, floorNanos, nanosPerSecond] at *
    omega⟩

/-- Longer than nothing. -/
def isPositive (d : Span) : Bool := 0 < d.nanos

end Span

end CredentialRotation
