import CredentialRotation.Certificate.Error
import CredentialRotation.Failure

/-!
# Faults of a login

A login as a whole fails with `authentication` around the fault that
ended it. `rootCause` looks through such wrappers, however many, and what
callers see of a fault depends on its root cause alone.
-/

namespace CredentialRotation

/-- Why a login fails. -/
inductive LoginError
  | discovery (about : String)
  | certificate (cause : CertificateError)
  | listener (kind : IoKind)
  | transport
  | identityProvider (about : String)
  | stateMismatch
  | nonceMismatch
  | timeout (activity : String)
  | cancelled
  | invalidConfig (about : String)
  | authentication (cause : LoginError)
deriving DecidableEq, Repr

namespace LoginError

/-- The words for a fault. -/
def message : LoginError → Wording
  | .discovery s => some ("OIDC discovery failed: " ++ s)
  | .certificate e => e.message
  | .listener _ => none
  | .transport => none
  | .identityProvider s => some ("Identity provider error: " ++ s)
  | .stateMismatch => some "Authorization callback state does not match the request"
  | .nonceMismatch => some "ID token nonce does not match the request"
  | .timeout activity => some ("Timed out " ++ activity)
  | .cancelled => some "Login cancelled"
  | .invalidConfig s => some ("Invalid configuration: " ++ s)
  | .authentication cause => cause.message.map ("Certificate-based login failed: " ++ ·)

/-- The fault inside all wrappers. -/
def rootCause : LoginError → LoginError
  | .authentication cause => cause.rootCause
  | e => e

/-- Whether a deadline ended the login. -/
def isTimeout (e : LoginError) : Bool :=
  match e.rootCause with
  | .timeout _ => true
  | _ => false

/-- Whether a cancellation ended the login. -/
def isCancelled (e : LoginError) : Bool :=
  match e.rootCause with
  | .cancelled => true
  | _ => false

/-- The fault as a login as a whole reports it, wrapped once. -/
def wrapped : LoginError → LoginError
  | .authentication cause => .authentication cause
  | e => .authentication e

/-- The failure that callers see. -/
def toFailure : LoginError → Failure
  | .authentication cause => cause.toFailure
  | .certificate e => .certificateParse e.message
  | .listener kind => .io kind
  | .transport => .transport none
  | .timeout activity => .timeout activity
  | .cancelled => .cancelled
  | .invalidConfig s => .invalidConfig s
  | .discovery s => .identityProvider (message (.discovery s))
  | .identityProvider s => .identityProvider (message (.identityProvider s))
  | .stateMismatch => .identityProvider (message .stateMismatch)
  | .nonceMismatch => .identityProvider (message .nonceMismatch)

end LoginError

end CredentialRotation
