import CredentialRotation.Time.Span

/-!
# Instants

An instant is a second of the proleptic Gregorian calendar, counted from
the start of 1970, and the nanoseconds since it began. The last second
of a minute may be a leap second, which runs for two thousand million
nanoseconds. Instants are ordered by second and then by nanosecond.

Outside a leap second, moving an instant by a span is addition of
nanoseconds in unbounded arithmetic (`total`) followed by a check of the
range.
-/

namespace CredentialRotation

/-- The first second of the calendar. -/
def Instant.minSecs : Int := -8334601228800

/-- The last second of the calendar. -/
def Instant.maxSecs : Int := 8210266876799

/-- A point in time. -/
structure Instant where
  secs : Int
  nanos : Nat
  secs_ge : Instant.minSecs ≤ secs
  secs_le : secs ≤ Instant.maxSecs
  nanos_lt : nanos < 2000000000
  leap_ends_minute : nanos < 1000000000 ∨ secs % 60 = 59
deriving DecidableEq

namespace Instant

/-- The instant of a second and a count of nanoseconds. -/
def ofParts? (secs : Int) (nanos : Nat) : Option Instant :=
  if h : (minSecs ≤ secs ∧ secs ≤ maxSecs) ∧ nanos < 2000000000
      ∧ (nanos < 1000000000 ∨ secs % 60 = 59) then
    some ⟨secs, nanos, h.1.1, h.1.2, h.2.1, h.2.2⟩
  else none

/-- The start of a second. -/
def ofSeconds? (secs : Int) : Option Instant := ofParts? secs 0

/-- The start of 1970. -/
def epoch : Instant := ⟨0, 0, by decide, by decide, by decide, by decide⟩

instance : LE Instant :=
  ⟨fun a b => a.secs < b.secs ∨ (a.secs = b.secs ∧ a.nanos ≤ b.nanos)⟩

instance : LT Instant :=
  ⟨fun a b => a.secs < b.secs ∨ (a.secs = b.secs ∧ a.nanos < b.nanos)⟩

instance (a b : Instant) : Decidable (a ≤ b) :=
  inferInstanceAs (Decidable (a.secs < b.secs ∨ (a.secs = b.secs ∧ a.nanos ≤ b.nanos)))

instance (a b : Instant) : Decidable (a < b) :=
  inferInstanceAs (Decidable (a.secs < b.secs ∨ (a.secs = b.secs ∧ a.nanos < b.nanos)))

theorem le_def {a b : Instant} :
    a ≤ b ↔ a.secs < b.secs ∨ (a.secs = b.secs ∧ a.nanos ≤ b.nanos) := Iff.rfl

theorem lt_def {a b : Instant} :
    a < b ↔ a.secs < b.secs ∨ (a.secs = b.secs ∧ a.nanos < b.nanos) := Iff.rfl

/-- Inside a leap second. -/
def isLeap (t : Instant) : Bool := 1000000000 ≤ t.nanos

/-- Nanoseconds since the start of 1970. -/
def total (t : Instant) : Int := t.secs * nanosPerSecond + t.nanos

/-- The instant so many nanoseconds after the start of 1970. -/
def ofTotal? (n : Int) : Option Instant :=
  ofParts? (n / nanosPerSecond) (n % nanosPerSecond).toNat

/-- The instant a span later, `none` when the calendar ends before it. A
leap second that the move leaves counts as the second before it on the
way up, and as the second after it on the way down. -/
def add? (t : Instant) (d : Span) : Option Instant :=
  let s := d.wholeSeconds
  let f := d.fractionNanos
  if t.isLeap then
    if 0 < s ∨ (0 < f ∧ 2000000000 ≤ t.nanos + f) then
      ofTotal? (t.total - nanosPerSecond + d.nanos)
    else if s < 0 then ofTotal? (t.total + d.nanos)
    else ofParts? t.secs (t.nanos + f).toNat
  else ofTotal? (t.total + d.nanos)

/-- The instant a span earlier. -/
def sub? (t : Instant) (d : Span) : Option Instant := t.add? d.neg

/-- The leap second between two times of day that a difference has to
count, as a number of seconds. -/
def leapBetween (t u : Instant) : Int :=
  if t.secs % 86400 > u.secs % 86400 ∧ u.isLeap then 1
  else if t.secs % 86400 < u.secs % 86400 ∧ t.isLeap then -1
  else 0

theorem leapBetween_bounds (t u : Instant) : -1 ≤ leapBetween t u ∧ leapBetween t u ≤ 1 := by
  unfold leapBetween
  split
  · decide
  · split <;> decide

/-- The span from `u` to `t`. -/
def since (t u : Instant) : Span :=
  ⟨(t.secs - u.secs + leapBetween t u) * nanosPerSecond + (t.nanos - u.nanos : Int), by
    have := t.secs_ge; have := u.secs_le; have := t.nanos_lt; have := u.nanos_lt
    have := leapBetween_bounds t u
    simp only [minSecs, maxSecs, Span.maxNanos, nanosPerSecond] at *
    omega, by
    have := t.secs_le; have := u.secs_ge; have := t.nanos_lt; have := u.nanos_lt
    have := leapBetween_bounds t u
    simp only [minSecs, maxSecs, Span.maxNanos, nanosPerSecond] at *
    omega⟩

/-- The start of the second an instant lies in, where the count of
nanoseconds since 1970 is an integer of sixty-four bits; further away an
instant stays as it is. -/
def floorSecond (t : Instant) : Instant :=
  if Number.int64Min ≤ t.total ∧ t.total ≤ Number.int64Max then
    ⟨t.secs, if t.isLeap then 1000000000 else 0, t.secs_ge, t.secs_le, by split <;> decide, by
      cases hl : t.isLeap with
      | false => exact Or.inl (by simp)
      | true =>
        refine Or.inr (t.leap_ends_minute.resolve_left ?_)
        have : 1000000000 ≤ t.nanos := by simpa [isLeap] using hl
        omega⟩
  else t

end Instant

end CredentialRotation
