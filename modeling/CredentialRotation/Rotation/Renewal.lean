import CredentialRotation.Dialogue
import CredentialRotation.Login.Error
import CredentialRotation.Rotation.Judge
import CredentialRotation.Token.Set

/-!
# Renewal

Whether a token set has to be renewed, and the renewal. Both are
dialogues with whoever performs logins. A set is renewed with its refresh
token where it has one; a new login is the way out when that fails, and
the only way without one.
-/

namespace CredentialRotation

/-- What the performer of logins is asked for. -/
inductive LoginRequest
  | isExpired (idToken : String)
  | refresh (refreshToken : String)
  | login
deriving DecidableEq, Repr

/-- What the performer of logins answers. -/
abbrev LoginRequest.Answer : LoginRequest → Type
  | .isExpired _ => Bool
  | .refresh _ => Except LoginError TokenSet
  | .login => Except LoginError TokenSet

/-- A dialogue with the performer of logins. -/
abbrev LoginDialogue := Dialogue LoginRequest LoginRequest.Answer

/-- What is found about a token set. -/
structure Assessment where
  needsRenewal : Bool
  status : RotationStatus := {}
  error : Option JudgeError := none

namespace Renewal

/-- The judge of a token and the length of its window. -/
def judge (idToken : String) : Except JudgeError (Judge × Span) := do
  let j ← Judge.ofToken idToken
  let window ← j.window
  .ok (j, window)

/-- Whether a token set has to be renewed at `now`. A set without an ID
token has to be; one that cannot be judged has to be once it is
expired. -/
def assess (tokens : Option TokenSet) (now : Instant) : LoginDialogue Assessment :=
  match tokens.filter fun t => !t.idToken.isEmpty with
  | none => .done { needsRenewal := true }
  | some t =>
    match judge t.idToken with
    | .ok (j, window) => .done { needsRenewal := j.isDue now window, status := j.status }
    | .error e =>
      .ask (.isExpired t.idToken) fun expired => .done { needsRenewal := expired, error := some e }

/-- A new token set: refreshed where that is possible, from a new login
otherwise. -/
def renew (tokens : Option TokenSet) : LoginDialogue (Except LoginError TokenSet) :=
  match tokens.filter fun t => !t.refreshToken.isEmpty with
  | none => .ask .login .done
  | some t =>
    .ask (.refresh t.refreshToken) fun
      | .ok refreshed => .done (.ok refreshed)
      | .error _ => .ask .login .done

end Renewal

end CredentialRotation
