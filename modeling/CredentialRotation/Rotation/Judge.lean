import CredentialRotation.Failure
import CredentialRotation.Rotation.Status
import CredentialRotation.Token.Compact

/-!
# Judging a token

A judge reads a token once and then says, for any instant, whether it is
time to renew it. A token that is not valid is always due. Otherwise it
is due from the start of its window on, and a window that starts before
the calendar does has started.
-/

namespace CredentialRotation

/-- Why a token cannot be judged. -/
inductive JudgeError
  | token (cause : TokenError)
  | expiryMissing
  | issuedAtMissing
  | inverted (issuedAt expiresAt : Instant)
deriving DecidableEq

namespace JudgeError

/-- The words for a fault. -/
def message : JudgeError → Wording
  | .token e => e.message.map ("Could not parse token: " ++ ·)
  | .expiryMissing => some "Token has no expiry claim"
  | .issuedAtMissing => some "Token has no issued-at claim"
  | .inverted issuedAt expiresAt =>
    some ("Token expires at " ++ expiresAt.messageText ++ " which is not after its issue time "
      ++ issuedAt.messageText)

/-- The failure that callers see. -/
def toFailure (e : JudgeError) : Failure :=
  match e with
  | .token cause => .parse cause.message
  | .expiryMissing => .missingClaim DateClaim.exp.name
  | .issuedAtMissing => .missingClaim DateClaim.iat.name
  | .inverted .. => .temporalInvariantViolation e.message

end JudgeError

/-- A token to be judged. -/
structure Judge where
  claims : Claims

namespace Judge

/-- The judge of a token. -/
def ofToken (token : String) : Except JudgeError Judge :=
  match Token.claims token with
  | .ok c => .ok ⟨c⟩
  | .error e => .error (.token e)

variable (j : Judge)

/-- A date the judge cannot do without. -/
def requiredDate (claim : DateClaim) (missing : JudgeError) : Except JudgeError Instant :=
  match j.claims.date claim with
  | .error e => .error (.token e)
  | .ok none => .error missing
  | .ok (some t) => .ok t

/-- How long before its expiry the token is to be renewed. -/
def window : Except JudgeError Span := do
  let expiresAt ← j.requiredDate .exp .expiryMissing
  let issuedAt ← j.requiredDate .iat .issuedAtMissing
  let window := rotationWindow issuedAt expiresAt
  if window.isPositive then .ok window else .error (.inverted issuedAt expiresAt)

/-- Whether the token is to be renewed at `now`, with a window of the
given length. Without an expiry nothing is due. -/
def isDue (now : Instant) (window : Span) : Bool :=
  if j.claims.isValidAt now then
    match j.claims.expiresAt with
    | none => false
    | some expiresAt =>
      match expiresAt.sub? window with
      | some opens => opens ≤ now
      | none => true
  else true

/-- Whether the token is not valid at `now`. -/
def isExpired (now : Instant) : Bool := !j.claims.isValidAt now

/-- What is published about the token. -/
def status : RotationStatus :=
  .derive j.claims.issuer j.claims.issuedAt j.claims.expiresAt

end Judge

end CredentialRotation
