import CredentialRotation.Document.File
import CredentialRotation.Document.Yaml
import CredentialRotation.Json.Value
import CredentialRotation.Login.Error
import CredentialRotation.Time.Timeout

/-!
# The configuration of a login

With whom to log in, as whom, for what, and how long to wait. Times are
whole seconds. All settings but the provider and the client have a
default.
-/

namespace CredentialRotation

/-- The settings of a login. -/
structure LoginConfig where
  issuerUrl : String
  clientId : String
  scopes : List String := ["email"]
  bindAddresses : List String := ["127.0.0.1:8000"]
  redirectHostname : String := "localhost"
  usePkce : Bool := true
  loginTimeout : Nat := 1200
  requestTimeout : Nat := 30
deriving DecidableEq, Repr

/-- Why settings cannot be used. -/
inductive LoginConfigError
  | issuerMissing
  | clientMissing
  | addressMissing
  | timeoutZero
  | timeoutTooLong (seconds : Nat)
deriving DecidableEq, Repr

namespace LoginConfig

/-- The longest that one login may take, in seconds. -/
def maxLoginTimeout : Nat := 7 * 24 * 60 * 60

end LoginConfig

namespace LoginConfigError

/-- The words for a fault. -/
def message : LoginConfigError → String
  | .issuerMissing => "issuer_url is required"
  | .clientMissing => "client_id is required"
  | .addressMissing => "at least one bind address is required"
  | .timeoutZero => "login timeout must be positive"
  | .timeoutTooLong seconds =>
    s!"login timeout ({seconds}s) exceeds the maximum of {LoginConfig.maxLoginTimeout}s"

/-- The fault as one of a login. -/
def toLoginError (e : LoginConfigError) : LoginError := .invalidConfig e.message

end LoginConfigError

namespace LoginConfig

/-- The settings with another time to wait for a login. -/
def withLoginTimeout (c : LoginConfig) (t : Timeout) : LoginConfig :=
  { c with loginTimeout := t.ceilSeconds }

/-- Whether settings can be used. -/
def validate (c : LoginConfig) : Except LoginConfigError Unit :=
  if c.issuerUrl.isEmpty then .error .issuerMissing
  else if c.clientId.isEmpty then .error .clientMissing
  else if c.bindAddresses.isEmpty then .error .addressMissing
  else if c.loginTimeout = 0 then .error .timeoutZero
  else if maxLoginTimeout < c.loginTimeout then .error (.timeoutTooLong c.loginTimeout)
  else .ok ()

/-- A scope added to those there are, unless it is one of them. -/
def addScope (scopes : List String) (scope : String) : List String :=
  if scope ∈ scopes then scopes else scopes ++ [scope]

/-- The scopes to ask for: `openid` and those configured, each once. -/
def requestedScopes (c : LoginConfig) : List String :=
  c.scopes.foldl addScope ["openid"]

/-- The scopes to ask for, as a parameter. -/
def scopeParam (c : LoginConfig) : String :=
  " ".intercalate c.requestedScopes

/-! ## In documents -/

/-- The settings at a node of a document. -/
def read? {α : Type} [Readable α] (x : α) : Option LoginConfig := do
  let texts (x : α) : Option (List String) := Readable.listOf? Readable.text? x
  let seconds (x : α) : Option Nat := (Readable.integer? false x).map Int.toNat
  let r ← Record.open? ["issuer_url", "client_id", "scopes", "bind_addresses",
    "redirect_hostname", "use_pkce", "login_timeout_secs", "request_timeout_secs"] x
  let issuerUrl ← r.required? "issuer_url" Readable.text?
  let clientId ← r.required? "client_id" Readable.text?
  let base : LoginConfig := { issuerUrl, clientId }
  let scopes ← r.withDefault? "scopes" base.scopes texts
  let bindAddresses ← r.withDefault? "bind_addresses" base.bindAddresses texts
  let redirectHostname ← r.withDefault? "redirect_hostname" base.redirectHostname Readable.text?
  let usePkce ← r.withDefault? "use_pkce" base.usePkce Readable.flag?
  let loginTimeout ← r.withDefault? "login_timeout_secs" base.loginTimeout seconds
  let requestTimeout ← r.withDefault? "request_timeout_secs" base.requestTimeout seconds
  some ⟨issuerUrl, clientId, scopes, bindAddresses, redirectHostname, usePkce, loginTimeout,
    requestTimeout⟩

/-- Settings as they are written. -/
def toJson (c : LoginConfig) : Json :=
  let texts (xs : List String) : Json := .array (xs.map .string)
  .object [("issuer_url", .string c.issuerUrl), ("client_id", .string c.clientId),
    ("scopes", texts c.scopes), ("bind_addresses", texts c.bindAddresses),
    ("redirect_hostname", .string c.redirectHostname), ("use_pkce", .bool c.usePkce),
    ("login_timeout_secs", .ofInt c.loginTimeout),
    ("request_timeout_secs", .ofInt c.requestTimeout)]

/-- The settings in a file. -/
def load (file : File) : Except IoKind LoginConfig := do
  match (Yaml.Place.ofText? (← file.text)).bind read? with
  | some c => .ok c
  | none => .error .invalidData

end LoginConfig

end CredentialRotation
