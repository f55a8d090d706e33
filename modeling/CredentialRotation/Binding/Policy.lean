import CredentialRotation.Document.File
import CredentialRotation.Document.Time
import CredentialRotation.Document.Yaml

/-!
# Rotation policies

A policy says how long a binding stays active, and how long it lives in
all. A usable policy lets it live longer than it is active, so that there
is time to hand over to the next one. The life that is asked for is a
number of seconds, rounded from the number of milliseconds in binary
floating point.
-/

namespace CredentialRotation

open Number (signedDecimal Binary64)

/-- How bindings are rotated. -/
structure RotationPolicy where
  rotationInterval : Span := .hour
  timeToLive : Span := .seventyFiveMinutes
deriving DecidableEq

/-- Why a policy cannot be used. -/
inductive PolicyError
  | intervalNotPositive
  | lifeNotPositive
  | intervalTooLong (interval life : Span)
deriving DecidableEq

namespace PolicyError

/-- The words for a fault. -/
def message : PolicyError → String
  | .intervalNotPositive => "rotation interval must be positive"
  | .lifeNotPositive => "time to live must be positive"
  | .intervalTooLong interval life =>
    "rotation interval (" ++ String.ofList (signedDecimal interval.wholeSeconds)
      ++ "s) must be shorter than time to live ("
      ++ String.ofList (signedDecimal life.wholeSeconds) ++ "s)"

/-- The failure that callers see. -/
def toFailure (e : PolicyError) : Failure := .invalidConfig e.message

end PolicyError

namespace RotationPolicy

/-- The life to ask for, in seconds. -/
def ttlSeconds (p : RotationPolicy) : Int :=
  ((Binary64.ofInt p.timeToLive.wholeMillis).div (.ofNat 1000)).nearestInt

/-- Whether a policy can be used. -/
def validate (p : RotationPolicy) : Except PolicyError Unit :=
  if !p.rotationInterval.isPositive then .error .intervalNotPositive
  else if !p.timeToLive.isPositive then .error .lifeNotPositive
  else if p.timeToLive.nanos ≤ p.rotationInterval.nanos then
    .error (.intervalTooLong p.rotationInterval p.timeToLive)
  else .ok ()

/-- The policy at a node of a document. -/
def read? {α : Type} [Readable α] (x : α) : Option RotationPolicy := do
  let r ← Record.open? ["rotation_interval", "time_to_live"] x
  let interval ← r.withDefault? "rotation_interval" .hour Readable.span?
  let life ← r.withDefault? "time_to_live" .seventyFiveMinutes Readable.span?
  some ⟨interval, life⟩

/-- A policy as it is written. -/
def toJson (p : RotationPolicy) : Json :=
  .object [("rotation_interval", .ofSpan p.rotationInterval),
    ("time_to_live", .ofSpan p.timeToLive)]

/-- The policy in a file, if it can be used. -/
def load (file : File) : Except Failure RotationPolicy :=
  match file.text with
  | .error kind => .error (.io kind)
  | .ok text =>
    match (Yaml.Place.ofText? text).bind read? with
    | none => .error (.serialization none)
    | some p =>
      match p.validate with
      | .error e => .error e.toFailure
      | .ok () => .ok p

end RotationPolicy

end CredentialRotation
