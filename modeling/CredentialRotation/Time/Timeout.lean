import CredentialRotation.Number.Integer

/-!
# Timeouts

How long someone is willing to wait: whole seconds and nanoseconds, never
negative. Configurations keep whole seconds only.
-/

namespace CredentialRotation

/-- A length of time to wait. -/
structure Timeout where
  seconds : Nat
  nanos : Nat := 0
deriving DecidableEq, Repr

/-- Whole seconds, a fraction counting as one more. There is a greatest
number of them. -/
def Timeout.ceilSeconds (t : Timeout) : Nat :=
  if 0 < t.nanos then min (t.seconds + 1) Number.nat64Max else t.seconds

end CredentialRotation
