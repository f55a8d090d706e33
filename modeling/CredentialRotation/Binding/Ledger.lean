import CredentialRotation.Binding.Basic
import CredentialRotation.Binding.Policy

/-!
# The ledger of bindings

Which bindings stay active and which are kept at all. A binding goes when
the service no longer knows it or its life is over; it stays but is no
longer active once it has been in use for the interval of the policy.
What is no longer active never becomes active again.
-/

namespace CredentialRotation

/-- What is left of the bindings. -/
structure Reconciled where
  hasActive : Bool
  retained : List Binding
deriving DecidableEq

/-- A ledger, which goes by a policy. -/
structure Ledger where
  policy : RotationPolicy

namespace Ledger

/-- Whether a binding is still active at `now`. -/
def staysActive (l : Ledger) (now : Instant) (b : Binding) : Bool :=
  b.isActive && !b.isExpiredAt now && !b.isRotationDueAt now l.policy.rotationInterval

/-- A binding at `now`, active only if it stays so. -/
def settle (l : Ledger) (now : Instant) (b : Binding) : Binding :=
  { b with isActive := l.staysActive now b }

/-- The bindings that the service knows under one of `ids`, brought up to
`now`. -/
def reconcile (l : Ledger) (bindings : List Binding) (ids : List String) (now : Instant) :
    Reconciled :=
  let known := (bindings.filter fun b => b.id ∈ ids).map (l.settle now)
  { hasActive := known.any (·.isActive)
    retained := known.filter fun b => !b.isExpiredAt now }

/-- Bindings with one more, just issued. -/
def record (retained : List Binding) (id : String) (now expiresAt : Instant) : List Binding :=
  retained ++ [.issued id now expiresAt]

end Ledger

end CredentialRotation
