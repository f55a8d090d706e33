/-!
# Failures

`Failure` is the one list of failures that callers tell apart; each
part of the library has its own causes and maps them here. Two questions
decide what a caller does next: whether a remote object is missing
(`isNotFound`), and whether the operation was interrupted and may be
tried again (`isInterrupted`).

A failure whose cause is a fault in a text or below this library has no
wording, and then it has no message.
-/

namespace CredentialRotation

/-- What went wrong with a file, an address or a connection. -/
inductive IoKind
  | notFound
  | permissionDenied
  | connectionRefused
  | connectionReset
  | connectionAborted
  | notConnected
  | addrInUse
  | addrNotAvailable
  | brokenPipe
  | alreadyExists
  | wouldBlock
  | invalidInput
  | invalidData
  | timedOut
  | writeZero
  | interrupted
  | unsupported
  | unexpectedEof
  | outOfMemory
  | uncategorized
  | other
deriving DecidableEq, Repr

/-- The words for a cause, if it has any. -/
abbrev Wording := Option String

/-- A failure, as callers see it. -/
inductive Failure
  | parse (wording : Wording)
  | missingClaim (claim : String)
  | temporalInvariantViolation (wording : Wording)
  | certificateParse (wording : Wording)
  | generationFailed (wording : Wording)
  | malformedKubeconfig (wording : Wording)
  | missingUserIndex (index available : Nat)
  | notFound (object : String)
  | transport (wording : Wording)
  | identityProvider (wording : Wording)
  | timeout (activity : String)
  | cancelled
  | io (kind : IoKind)
  | serialization (wording : Wording)
  | invalidConfig (wording : Wording)
  | internal (wording : Wording)
deriving DecidableEq, Repr

namespace Failure

/-- Whether a remote object is missing. -/
def isNotFound : Failure → Bool
  | .notFound _ => true
  | _ => false

/-- Whether a deadline or a cancellation ended the operation. -/
def isInterrupted : Failure → Bool
  | .timeout _ => true
  | .cancelled => true
  | _ => false

/-- The words for a failure. -/
def message : Failure → Wording
  | .parse w => w.map ("Parse error: " ++ ·)
  | .missingClaim c => some ("Missing claim: " ++ c)
  | .temporalInvariantViolation w => w.map ("Temporal invariant violated: " ++ ·)
  | .certificateParse w => w.map ("Certificate parse error: " ++ ·)
  | .generationFailed w => w.map ("Kubeconfig generation failed: " ++ ·)
  | .malformedKubeconfig w => w.map ("Malformed kubeconfig: " ++ ·)
  | .missingUserIndex index available =>
    some s!"User index {index} out of range, kubeconfig has {available} users"
  | .notFound o => some ("Not found: " ++ o)
  | .transport w => w.map ("Transport error: " ++ ·)
  | .identityProvider w => w.map ("Identity provider error: " ++ ·)
  | .timeout a => some ("Timed out: " ++ a)
  | .cancelled => some "Operation cancelled"
  | .io _ => none
  | .serialization w => w.map ("Serialization error: " ++ ·)
  | .invalidConfig w => w.map ("Invalid configuration: " ++ ·)
  | .internal w => w.map ("Internal error: " ++ ·)

end Failure

end CredentialRotation
