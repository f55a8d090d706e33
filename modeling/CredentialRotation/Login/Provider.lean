import CredentialRotation.Document.Json

/-!
# What a provider says

The documents of an identity provider: the one in which it describes
itself, and the two that may answer a request for tokens.
-/

namespace CredentialRotation

open Readable

/-- A provider's description of itself. -/
structure Provider where
  issuer : String
  authorizationEndpoint : String
  tokenEndpoint : String
  jwksUri : Option String
  responseTypes : List String
  scopes : List String
  challengeMethods : List String
deriving DecidableEq, Repr

namespace Provider

/-- Where the description of an issuer is found. -/
def wellKnownUrl (issuer : String) : String :=
  String.ofList (issuer.toList.reverse.dropWhile (· = '/')).reverse
    ++ "/.well-known/openid-configuration"

/-- Whether a provider names a challenge method. -/
def supportsChallenge (p : Provider) (method : String) : Bool := method ∈ p.challengeMethods

/-- The description at a node of a document. -/
def read? {α : Type} [Readable α] (x : α) : Option Provider := do
  let r ← Record.open? ["issuer", "authorization_endpoint", "token_endpoint", "jwks_uri",
    "response_types_supported", "scopes_supported", "code_challenge_methods_supported"] x
  let issuer ← r.required? "issuer" text?
  let authorizationEndpoint ← r.required? "authorization_endpoint" text?
  let tokenEndpoint ← r.required? "token_endpoint" text?
  let jwksUri ← r.optionalWithDefault? "jwks_uri" text?
  let responseTypes ← r.withDefault? "response_types_supported" [] (listOf? text?)
  let scopes ← r.withDefault? "scopes_supported" [] (listOf? text?)
  let challengeMethods ← r.withDefault? "code_challenge_methods_supported" [] (listOf? text?)
  some ⟨issuer, authorizationEndpoint, tokenEndpoint, jwksUri, responseTypes, scopes,
    challengeMethods⟩

/-- A description as it is written. -/
def toJson (p : Provider) : Json :=
  let texts (xs : List String) : Json := .array (xs.map .string)
  let keys := (p.jwksUri.map fun s => ("jwks_uri", Json.string s)).toList
  .object ([("issuer", .string p.issuer),
    ("authorization_endpoint", .string p.authorizationEndpoint),
    ("token_endpoint", .string p.tokenEndpoint)] ++ keys
    ++ [("response_types_supported", texts p.responseTypes), ("scopes_supported", texts p.scopes),
      ("code_challenge_methods_supported", texts p.challengeMethods)])

end Provider

/-- The answer that carries tokens. -/
structure TokenAnswer where
  accessToken : Option String
  idToken : Option String
  refreshToken : Option String
  tokenType : Option String
  expiresIn : Option Nat
deriving DecidableEq, Repr

/-- The tokens at a node of a document. -/
def TokenAnswer.read? {α : Type} [Readable α] (x : α) : Option TokenAnswer := do
  let r ← Record.open? ["access_token", "id_token", "refresh_token", "token_type", "expires_in"] x
  let accessToken ← r.optionalWithDefault? "access_token" text?
  let idToken ← r.optionalWithDefault? "id_token" text?
  let refreshToken ← r.optionalWithDefault? "refresh_token" text?
  let tokenType ← r.optionalWithDefault? "token_type" text?
  let expiresIn ← r.optionalWithDefault? "expires_in" fun x => (integer? false x).map Int.toNat
  some { accessToken, idToken, refreshToken, tokenType, expiresIn }

/-- The answer that refuses tokens. -/
structure TokenRefusal where
  code : String
  description : Option String
deriving DecidableEq, Repr

namespace TokenRefusal

/-- The refusal at a node of a document. -/
def read? {α : Type} [Readable α] (x : α) : Option TokenRefusal := do
  let r ← Record.open? ["error", "error_description"] x
  some ⟨← r.required? "error" text?, ← r.optionalWithDefault? "error_description" text?⟩

/-- The words of a refusal. -/
def message (r : TokenRefusal) : String :=
  match r.description with
  | some d => r.code ++ ": " ++ d
  | none => r.code

end TokenRefusal

end CredentialRotation
