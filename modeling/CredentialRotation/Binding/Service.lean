import CredentialRotation.Dialogue
import CredentialRotation.Failure
import CredentialRotation.Time.Instant

/-!
# Binding services

What a service that issues bindings can be asked for, and how it fails.
A resource is the environment that the bindings give access to.
-/

namespace CredentialRotation

/-- Why a binding service fails. -/
inductive ServiceError
  | notFound (what : String)
  | transport
  | api (status : Nat) (about : String)
  | invalidResponse (about : Wording)
  | invalidConfig (about : String)
deriving DecidableEq, Repr

namespace ServiceError

/-- What is said of an answer that lacks what a binding needs. -/
def missingId : String := "binding id missing from response"
@[inherit_doc missingId] def missingExpiry : String := "expires_at missing from response"

/-- The words for a fault. -/
def message : ServiceError → Wording
  | .notFound what => some ("Binding not found: " ++ what)
  | .transport => none
  | .api status about => some (s!"API Error ({status}): " ++ about)
  | .invalidResponse about => about.map ("Invalid response from binding service: " ++ ·)
  | .invalidConfig about => some ("Invalid configuration: " ++ about)

/-- Whether the object asked about is missing. -/
def isNotFound : ServiceError → Bool
  | .notFound _ => true
  | _ => false

/-- The failure that callers see. -/
def toFailure (e : ServiceError) : Failure :=
  match e with
  | .notFound what => .notFound what
  | .transport => .transport none
  | .api .. => .transport e.message
  | .invalidResponse about => .serialization about
  | .invalidConfig about => .invalidConfig about

end ServiceError

/-- A binding as the service issues it. -/
structure Issued where
  id : String
  expiresAt : Instant
  kubeconfig : String
deriving DecidableEq

/-- What a service can be asked for: the ids of the bindings of a
resource, a new binding with a life in seconds, and the end of one. -/
inductive ServiceCall
  | list (resource : String)
  | create (resource : String) (ttlSeconds : Int)
  | delete (resource id : String)
deriving DecidableEq, Repr

/-- What a service answers. -/
abbrev ServiceCall.Answer : ServiceCall → Type
  | .list _ => Except ServiceError (List String)
  | .create .. => Except ServiceError Issued
  | .delete .. => Except ServiceError Unit

/-- A dialogue with a binding service. -/
abbrev ServiceDialogue := Dialogue ServiceCall ServiceCall.Answer

end CredentialRotation
