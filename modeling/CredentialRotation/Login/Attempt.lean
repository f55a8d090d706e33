import CredentialRotation.Certificate.Identity
import CredentialRotation.Document.Json
import CredentialRotation.Login.Callback
import CredentialRotation.Login.Challenge
import CredentialRotation.Login.Config
import CredentialRotation.Login.Provider
import CredentialRotation.Token.Compact
import CredentialRotation.Token.Set

/-!
# Attempts to log in

What a client says to a provider and what it makes of the answers. An
attempt binds three things of its own to the login: the state comes back
with the outcome, the nonce inside the ID token, and the verifier of the
proof key goes with the code. An attempt ends well only if they agree.

The endpoints of a provider are texts, and what they spell is up to
`Url.ofText?`: their hosts are numbers or have names in Latin letters.
-/

namespace CredentialRotation

/-- A client of a provider. -/
structure LoginClient where
  config : LoginConfig
  provider : Provider
  identity : ClientIdentity
deriving DecidableEq

/-- What one attempt to log in chooses. -/
structure Attempt where
  state : String
  nonce : String
  proofKey : Option ProofKey
  redirectUri : String
deriving DecidableEq, Repr

namespace LoginClient

variable (c : LoginClient)

/-- An attempt with what was drawn for it and the port that the outcome is
to come to. -/
def attempt (state nonce verifier : String) (port : Nat) : Attempt :=
  let method := ChallengeMethod.negotiate c.provider.challengeMethods c.config.usePkce
  { state, nonce, proofKey := method.map (⟨verifier, ·⟩),
    redirectUri := "http://" ++ c.config.redirectHostname ++ s!":{port}/" }

/-! ## The request for an outcome -/

/-- The parameters of the request for an outcome. -/
def authorizePairs (a : Attempt) : List (String × String) :=
  [("response_type", "code"), ("client_id", c.config.clientId), ("redirect_uri", a.redirectUri),
    ("scope", c.config.scopeParam), ("state", a.state), ("nonce", a.nonce)]
    ++ match a.proofKey with
      | some k => [("code_challenge", k.challenge), ("code_challenge_method", k.method.name)]
      | none => []

/-- The address of the request for an outcome. -/
def authorizeUrl (a : Attempt) : Except LoginError Url :=
  match Url.ofText? c.provider.authorizationEndpoint with
  | some u => .ok (u.addPairs (c.authorizePairs a))
  | none =>
    .error (.discovery ("invalid authorization endpoint " ++ c.provider.authorizationEndpoint))

/-- The request for an outcome. -/
def visit (u : Url) : Exchange (Option Response) := sendTo .get u [] []

/-- What the answer to the request for an outcome says. -/
def readVisit : Option Response → Except LoginError Unit
  | none => .error .transport
  | some r =>
    if r.isSuccess then .ok ()
    else .error (.identityProvider ("authorization request returned " ++ r.summary))

/-- The code in an outcome that belongs to the attempt. -/
def codeOf (a : Attempt) (outcome : Callback) : Except LoginError String :=
  match outcome.error with
  | some error =>
    .error (.identityProvider (TokenRefusal.message ⟨error, outcome.errorDescription⟩))
  | none =>
    if outcome.state ≠ some a.state then .error .stateMismatch
    else
      match outcome.code with
      | some code => .ok code
      | none => .error (.identityProvider "authorization callback carried no code")

/-! ## Requests for tokens -/

/-- The form that buys tokens for a code. -/
def codeForm (a : Attempt) (code : String) : List (String × String) :=
  [("grant_type", "authorization_code"), ("code", code), ("redirect_uri", a.redirectUri),
    ("client_id", c.config.clientId)]
    ++ match a.proofKey with
      | some k => [("code_verifier", k.verifier)]
      | none => []

/-- The form that buys tokens for a refresh token. -/
def refreshForm (refreshToken : String) : List (String × String) :=
  [("grant_type", "refresh_token"), ("refresh_token", refreshToken),
    ("client_id", c.config.clientId)]

/-- A form sent to where tokens are sold. -/
def postForm (form : List (String × String)) : Exchange (Option Response) :=
  send .post c.provider.tokenEndpoint [("content-type", .ofString Form.contentType)]
    (Utf8.encode (Form.encode form))

/-- The tokens in an answer. -/
def readAnswer : Option Response → Except LoginError TokenAnswer
  | none => .error .transport
  | some r =>
    if r.isSuccess then
      match (r.body.bind Json.Node.ofBytes?).bind TokenAnswer.read? with
      | some t => .ok t
      | none => .error .transport
    else
      match (Json.Node.ofText? r.text).bind TokenRefusal.read? with
      | some refusal => .error (.identityProvider refusal.message)
      | none => .error (.identityProvider ("token endpoint returned " ++ r.summary))

/-- Whether an ID token answers an attempt: it can be read, and the nonce
it names, if any, is that of the attempt. -/
def checkNonce (a : Attempt) (idToken : String) : Except LoginError Unit :=
  match Token.claims idToken with
  | .error _ => .error (.identityProvider "issued ID token is not a JWT")
  | .ok claims =>
    match claims.nonce with
    | some nonce => if nonce = a.nonce then .ok () else .error .nonceMismatch
    | none => .ok ()

/-- The token set that an answer to a code gives. -/
def readTokens (answer : Option Response) : Except LoginError TokenSet := do
  let t ← readAnswer answer
  match t.idToken with
  | some idToken => .ok ⟨idToken, t.refreshToken.getD ""⟩
  | none => .error (.identityProvider "token response did not include an id_token")

/-- The token set that an answer to a code gives, if it answers the
attempt. -/
def redeem (a : Attempt) (answer : Option Response) : Except LoginError TokenSet := do
  let tokens ← readTokens answer
  checkNonce a tokens.idToken
  .ok tokens

/-- The token set that an answer to a refresh token gives. The refresh
token stays the same unless there is a new one. -/
def readRefreshed (refreshToken : String) (answer : Option Response) :
    Except LoginError TokenSet := do
  let t ← readAnswer answer
  match t.idToken with
  | some idToken =>
    .ok ⟨idToken, (t.refreshToken.filter fun s => !s.isEmpty).getD refreshToken⟩
  | none => .error (.identityProvider "refresh response did not include an id_token")

/-- A token set for a refresh token. -/
def refresh (refreshToken : String) : Exchange (Except LoginError TokenSet) :=
  (c.postForm (c.refreshForm refreshToken)).bind fun r => .done (readRefreshed refreshToken r)

/-- Whether an ID token is past its time. One that cannot be read is
not. -/
def isExpired (idToken : String) (now : Instant) : Bool :=
  match Token.claims idToken with
  | .ok claims => !claims.isValidAt now
  | .error _ => false

end LoginClient

end CredentialRotation
