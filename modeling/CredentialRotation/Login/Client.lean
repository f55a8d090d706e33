import CredentialRotation.Login.Session
import CredentialRotation.Rotation.Renewal

/-!
# Login clients

A client is made from a configuration and a certificate once its provider
has described itself. From then on it performs what renewal asks for:
it tells whether a token is past its time, refreshes token sets, and logs
in.
-/

namespace CredentialRotation

/-- The description that an answer from `address` gives. -/
def Provider.readAnswer (address : String) : Option Response → Except LoginError Provider
  | none => .error (.discovery ("request to " ++ address ++ " failed"))
  | some r =>
    if r.isSuccess then
      match (r.body.bind Json.Node.ofBytes?).bind Provider.read? with
      | some p => .ok p
      | none => .error (.discovery ("invalid document at " ++ address))
    else .error (.discovery (address ++ " returned " ++ r.summary))

/-- The description of an issuer. -/
def Provider.discover (issuer : String) : Exchange (Except LoginError Provider) :=
  let address := wellKnownUrl issuer
  (send .get address [] []).bind fun r => .done (readAnswer address r)

namespace LoginClient

/-- The identity that a certificate gives, if the configuration can be
used and a connection can be made with it. -/
def prepare (config : LoginConfig) (u : UserCertificate) : Except LoginError ClientIdentity :=
  match config.validate with
  | .error e => .error e.toLoginError
  | .ok () =>
    match ClientIdentity.ofContainer u with
    | .error e => .error (.certificate e)
    | .ok identity =>
      match identity.toTls with
      | .error e => .error (.certificate e)
      | .ok _ => if identity.isConsistent then .ok identity else .error .transport

/-- The client of a configuration and a certificate. -/
def connect (config : LoginConfig) (u : UserCertificate) : Exchange (Except LoginError LoginClient) :=
  match prepare config u with
  | .error e => .done (.error e)
  | .ok identity =>
    (Provider.discover config.issuerUrl).bind fun
      | .error e => .done (.error e)
      | .ok provider => .done (.ok { config, provider, identity })

/-! ## Performing -/

/-- What a client cannot do alone: an exchange with a server, and a
login, which it is told the circumstances of. -/
inductive Need
  | exchange (request : Request)
  | login
deriving DecidableEq

/-- What a client is given. -/
abbrev Need.Answer : Need → Type
  | .exchange _ => Option Response
  | .login => Circumstances

variable (c : LoginClient)

/-- What a client does for each request of renewal at `now`. -/
def perform (now : Instant) : (q : LoginRequest) → Dialogue Need Need.Answer q.Answer
  | .isExpired idToken => .done (isExpired idToken now)
  | .refresh refreshToken =>
    (c.refresh refreshToken).via fun request => .put (.exchange request)
  | .login => .ask .login fun w => .done (c.login w).1

/-- What a client finds about a token set at `now`. -/
def assess (tokens : Option TokenSet) (now : Instant) : Dialogue Need Need.Answer Assessment :=
  (Renewal.assess tokens now).via (c.perform now)

/-- A new token set from a client. -/
def renew (tokens : Option TokenSet) (now : Instant) :
    Dialogue Need Need.Answer (Except LoginError TokenSet) :=
  (Renewal.renew tokens).via (c.perform now)

end LoginClient

end CredentialRotation
