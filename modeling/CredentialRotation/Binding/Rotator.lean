import CredentialRotation.Binding.Ledger
import CredentialRotation.Binding.Service
import CredentialRotation.Token.Set

/-!
# Rotating the bindings of a resource

A rotator asks the service which bindings it still knows, settles the
ledger with the answer and issues a new binding when none is active. The
bindings of record change only with a pass that succeeds; a pass that
fails leaves them to the caller as they were.
-/

namespace CredentialRotation

/-- What a pass leaves: the bindings of record, and the details of the
binding it issued if it issued one. -/
structure Rotated where
  bindings : List Binding
  details : Option Details
deriving DecidableEq

/-- The keeper of one resource's bindings. -/
structure Rotator where
  policy : RotationPolicy
  resource : String

namespace Rotator

/-- The names that an issued binding is published under. -/
def bindingIdKey : String := "binding_id"
@[inherit_doc bindingIdKey] def createdAtKey : String := "created_at"
@[inherit_doc bindingIdKey] def expiresAtKey : String := "expires_at"
@[inherit_doc bindingIdKey] def kubeconfigKey : String := "kubeconfig"

/-- The details that a binding is published with. -/
def details (b : Binding) (kubeconfig : String) : Details :=
  [(bindingIdKey, .ofString b.id), (createdAtKey, .ofString b.createdAt.detailText),
    (expiresAtKey, .ofString b.expiresAt.detailText), (kubeconfigKey, .ofString kubeconfig)]

variable (r : Rotator)

/-- The ledger of the rotator. -/
def ledger : Ledger := ⟨r.policy⟩

/-- The bindings brought up to `now` and to what the service knows. -/
def observe (bindings : List Binding) (now : Instant) :
    ServiceDialogue (Except ServiceError Reconciled) :=
  .ask (.list r.resource) fun
    | .error e => .done (.error e)
    | .ok ids => .done (.ok (r.ledger.reconcile bindings ids now))

/-- A new binding beside those retained. -/
def issue (retained : List Binding) (now : Instant) :
    ServiceDialogue (Except ServiceError Rotated) :=
  .ask (.create r.resource r.policy.ttlSeconds) fun
    | .error e => .done (.error e)
    | .ok issued =>
      let b : Binding := .issued issued.id now issued.expiresAt
      .done (.ok ⟨Ledger.record retained issued.id now issued.expiresAt,
        some (details b issued.kubeconfig)⟩)

/-- One pass: observe, and issue a binding if none is active. The clock
is read twice: it shows `now` when the service has listed what it knows,
and `later` when it has issued a binding. -/
def rotate (bindings : List Binding) (now : Instant) (later : Instant := now) :
    ServiceDialogue (Except ServiceError Rotated) :=
  (r.observe bindings now).bind fun
    | .error e => .done (.error e)
    | .ok seen =>
      if seen.hasActive then .done (.ok ⟨seen.retained, none⟩) else r.issue seen.retained later

/-- The end of all bindings, in order. One that is gone already is passed
over; any other failure ends the pass. -/
def teardown : List Binding → ServiceDialogue (Except ServiceError Unit)
  | [] => .done (.ok ())
  | b :: bs =>
    .ask (.delete r.resource b.id) fun
      | .ok () => teardown bs
      | .error e => if e.isNotFound then teardown bs else .done (.error e)

end Rotator

end CredentialRotation
