import CredentialRotation.Binding.Service
import CredentialRotation.Document.File
import CredentialRotation.Document.Yaml
import CredentialRotation.Json.Value
import CredentialRotation.Text.Description

/-!
# The configuration of the provisioning client

Where the provisioning API is, the token that opens it, and how many
seconds to wait for an answer.
-/

namespace CredentialRotation

/-- The settings of the provisioning client. -/
structure ProvisioningConfig where
  baseUrl : String
  token : String
  requestTimeout : Nat := 30
deriving DecidableEq, Repr

namespace ProvisioningConfig

/-- Whether settings can be used. -/
def validate (c : ProvisioningConfig) : Except ServiceError Unit :=
  if c.baseUrl.isEmpty then .error (.invalidConfig "base_url is required")
  else if c.token.isEmpty then .error (.invalidConfig "token is required")
  else .ok ()

/-- What is said about settings where others can see it: all but the
token. -/
def describe (c : ProvisioningConfig) : String :=
  Description.record "ProvisioningConfig" [("base_url", .text c.baseUrl), ("token", .hidden),
    ("request_timeout_secs", .bare s!"{c.requestTimeout}")]

/-- The settings at a node of a document. -/
def read? {α : Type} [Readable α] (x : α) : Option ProvisioningConfig := do
  let r ← Record.open? ["base_url", "token", "request_timeout_secs"] x
  let baseUrl ← r.required? "base_url" Readable.text?
  let token ← r.required? "token" Readable.text?
  let requestTimeout ← r.withDefault? "request_timeout_secs" 30 fun x =>
    (Readable.integer? false x).map Int.toNat
  some { baseUrl, token, requestTimeout }

/-- Settings as they are written. -/
def toJson (c : ProvisioningConfig) : Json :=
  .object [("base_url", .string c.baseUrl), ("token", .string c.token),
    ("request_timeout_secs", .ofInt c.requestTimeout)]

/-- The settings in a file. -/
def load (file : File) : Except IoKind ProvisioningConfig := do
  match (Yaml.Place.ofText? (← file.text)).bind read? with
  | some c => .ok c
  | none => .error .invalidData

end ProvisioningConfig

end CredentialRotation
