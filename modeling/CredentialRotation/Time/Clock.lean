import CredentialRotation.Time.Instant

/-!
# Clocks

A clock that stands still until it is set or advanced, so that every
decision about time can be repeated.
-/

namespace CredentialRotation

/-- A clock and what it shows. -/
structure Clock where
  now : Instant
deriving DecidableEq

namespace Clock

/-- The clock at a number of seconds since 1970, at the start of 1970 if
the calendar does not have them. -/
def atSeconds (secs : Int) : Clock := ⟨(Instant.ofSeconds? secs).getD .epoch⟩

/-- The clock moved by a span, `none` when it leaves the calendar. -/
def advance? (c : Clock) (d : Span) : Option Clock := (c.now.add? d).map Clock.mk

end Clock

end CredentialRotation
