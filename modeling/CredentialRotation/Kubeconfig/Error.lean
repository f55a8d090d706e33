import CredentialRotation.Failure

/-!
# Faults of a kubeconfig

A template is looked through from its root to the user that gets the
token. Each step names the spot it looked at, what it expected there and
what it found.
-/

namespace CredentialRotation.Kubeconfig

/-- A spot of a kubeconfig on the way to a user. -/
inductive Spot
  | root
  | users
  | entry (index : Nat)
  | user (index : Nat)
deriving DecidableEq, Repr

/-- What is expected at a spot. -/
inductive Expected
  | mapping
  | sequence
  | presence
deriving DecidableEq, Repr

/-- What a node is. -/
inductive Kind
  | null
  | boolean
  | number
  | string
  | sequence
  | mapping
  | tagged
deriving DecidableEq, Repr

/-- Why no kubeconfig is generated. `found` is `none` where a key is
missing. -/
inductive Error
  | unreadable
  | malformed (spot : Spot) (expected : Expected) (found : Option Kind)
  | missingUser (index available : Nat)
  | unwritable
deriving DecidableEq, Repr

/-- The path of a spot. -/
def Spot.text : Spot → String
  | .root => "$"
  | .users => "users"
  | .entry i => s!"users[{i}]"
  | .user i => s!"users[{i}].user"

/-- The words for what is expected. -/
def Expected.text : Expected → String
  | .mapping => "mapping"
  | .sequence => "sequence"
  | .presence => "present key"

/-- The word for what a node is. -/
def Kind.text : Kind → String
  | .null => "null"
  | .boolean => "boolean"
  | .number => "number"
  | .string => "string"
  | .sequence => "sequence"
  | .mapping => "mapping"
  | .tagged => "tagged value"

namespace Error

/-- The words for a fault. -/
def message : Error → Wording
  | .unreadable => none
  | .malformed spot expected found =>
    let what := match found with
      | some kind => kind.text
      | none => "nothing"
    some ("Kubeconfig does not match expected format: expected " ++ expected.text ++ " at "
      ++ spot.text ++ ", found " ++ what)
  | .missingUser index available =>
    some s!"User index {index} does not exist in kubeconfig template with {available} users"
  | .unwritable => none

/-- The failure that callers see. -/
def toFailure (e : Error) : Failure :=
  match e with
  | .unreadable => .generationFailed none
  | .malformed .. => .malformedKubeconfig e.message
  | .missingUser index available => .missingUserIndex index available
  | .unwritable => .serialization none

end Error

end CredentialRotation.Kubeconfig
