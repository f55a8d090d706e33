import CredentialRotation.Document.Json
import CredentialRotation.Document.Time
import CredentialRotation.Provisioning.Config
import CredentialRotation.Web.Message

/-!
# The provisioning client

A binding service at the other end of the web. Every call is one request,
and the answer is read by its status first: what it says on success, that
the object is missing, or in the words of the service why it refused.

The address of a call is put together as a text, ids and all, and what it
spells is up to `Url.ofText?`: the host of the service is a number or has
a name in Latin letters.
-/

namespace CredentialRotation

open Readable

/-! ## What the service says -/

namespace Provisioning

/-- The ids in a list of bindings. -/
def listed? {α : Type} [Readable α] (x : α) : Option (List String) := do
  let r ← Record.open? ["bindings"] x
  r.withDefault? "bindings" [] (listOf? fun x => do
    let r ← Record.open? ["bindingId"] x
    r.required? "bindingId" text?)

/-- What a service tells of a binding that it made. -/
structure Created where
  id : Option String := none
  expiresAt : Option Instant := none
  kubeconfig : Option String := none
deriving DecidableEq

/-- The id and the end of a binding. -/
def metadata? {α : Type} [Readable α] (x : α) : Option (Option String × Option Instant) := do
  let r ← Record.open? ["id", "expires_at"] x
  some (← r.optionalWithDefault? "id" text?, ← r.optionalWithDefault? "expires_at" instant?)

/-- The kubeconfig that opens a binding. -/
def credentials? {α : Type} [Readable α] (x : α) : Option (Option String) := do
  let r ← Record.open? ["kubeconfig"] x
  r.optionalWithDefault? "kubeconfig" text?

/-- A binding that was made, at a node of a document. -/
def Created.read? {α : Type} [Readable α] (x : α) : Option Created := do
  let r ← Record.open? ["metadata", "credentials"] x
  let metadata ← r.optionalWithDefault? "metadata" metadata?
  let credentials ← r.optionalWithDefault? "credentials" credentials?
  let (id, expiresAt) := metadata.getD (none, none)
  some { id, expiresAt, kubeconfig := credentials.join }

/-- A binding that was made, in a body. No body tells nothing. -/
def Created.ofBody? (bs : Bytes) : Option Created :=
  if bs.isEmpty then some {} else (Json.Node.ofBytes? bs).bind read?

/-- Why a service refused: its words, and its code if it gave one. -/
structure Refusal where
  about : String
  code : Option Json

/-- A refusal at a node of a document. -/
def Refusal.read? (x : Json.Node) : Option Refusal := do
  let r ← Record.open? ["error"] x
  r.required? "error" fun x => do
    let r ← Record.open? ["message", "code"] x
    let about ← r.withDefault? "message" "" text?
    let code ← r.optionalWithDefault? "code" (Json.ofNode? (Json.maxDepth - 2))
    some { about, code }

/-- The words of a refusal. -/
def Refusal.message (r : Refusal) : String :=
  match r.code with
  | some code => r.about ++ ", Code " ++ code.text
  | none => r.about

/-- What an answer that is no success says: its refusal, or else all of
its body, or else the words for its status. -/
def refused (r : Response) : ServiceError :=
  .api r.status <|
    match (Json.Node.ofText? r.text).bind Refusal.read? with
    | some refusal => refusal.message
    | none => if r.text.isEmpty then Status.text r.status else r.text

end Provisioning

/-! ## The client -/

/-- A client of the provisioning API: where it is, without a slash at the
end, and the token that opens it. -/
structure ProvisioningClient where
  base : String
  token : String
deriving DecidableEq, Repr

namespace ProvisioningClient

open Provisioning

/-- The client that settings ask for. -/
def ofConfig (c : ProvisioningConfig) : Except ServiceError ProvisioningClient := do
  c.validate
  .ok ⟨String.ofList (c.baseUrl.toList.reverse.dropWhile (· = '/')).reverse, c.token⟩

variable (c : ProvisioningClient)

/-- Where the bindings of a resource are. -/
def bindingsUrl (resource : String) : String :=
  c.base ++ "/provisioning/v1/environments/" ++ resource ++ "/bindings"

/-- Where a binding is. -/
def bindingUrl (resource id : String) : String :=
  c.bindingsUrl resource ++ "/" ++ id

/-- The header that every request carries. -/
def authorization : String × Bytes := ("authorization", .ofString ("Bearer " ++ c.token))

/-- What is sent to make a binding that lives so many seconds. -/
def order (ttlSeconds : Int) : Json :=
  .object [("parameters", .object [("expiration_seconds", .ofInt ttlSeconds)])]

/-- The ids that an answer to a request for the list gives. -/
def readList (resource : String) (r : Response) : Except ServiceError (List String) :=
  if r.status = 200 then
    match (r.body.bind Json.Node.ofBytes?).bind listed? with
    | some ids => .ok ids
    | none => .error .transport
  else if r.status = 404 then .error (.notFound ("Environment " ++ resource ++ " not found"))
  else .error (refused r)

/-- The id that an answer gives in its header. -/
def locatedId? (r : Response) : Option String :=
  (r.headerText? "location").filter fun s => !s.isEmpty

/-- The binding that an answer to an order gives. The header says its id
before the body does. -/
def readCreated (r : Response) : Except ServiceError Issued :=
  if !r.isSuccess then .error (refused r)
  else
    match r.body with
    | none => .error .transport
    | some body =>
      match Created.ofBody? body with
      | none => .error (.invalidResponse none)
      | some created =>
        match (locatedId? r).orElse fun _ => created.id, created.expiresAt with
        | none, _ => .error (.invalidResponse (some ServiceError.missingId))
        | some _, none => .error (.invalidResponse (some ServiceError.missingExpiry))
        | some id, some expiresAt => .ok ⟨id, expiresAt, created.kubeconfig.getD ""⟩

/-- What an answer to the end of a binding says. -/
def readDeleted (id : String) (r : Response) : Except ServiceError Unit :=
  if r.isSuccess then .ok ()
  else if r.status = 404 then .error (.notFound id)
  else .error (refused r)

/-- What is made of an answer, if there is one. -/
def settle {α : Type} (read : Response → Except ServiceError α) :
    Option Response → Except ServiceError α
  | none => .error .transport
  | some r => read r

/-- The exchange behind each call of a service. -/
def serve : (call : ServiceCall) → Exchange call.Answer
  | .list resource =>
    (send .get (c.bindingsUrl resource) [c.authorization] []).bind fun r =>
      .done (settle (readList resource) r)
  | .create resource ttlSeconds =>
    (send .post (c.bindingsUrl resource)
        [c.authorization, ("content-type", .ofString "application/json")]
        (Utf8.encode (order ttlSeconds).print)).bind fun r =>
      .done (settle readCreated r)
  | .delete resource id =>
    (send .delete (c.bindingUrl resource id) [c.authorization] []).bind fun r =>
      .done (settle (readDeleted id) r)

/-- A dialogue with a service, held with the service behind the API. -/
def held {α : Type} (d : ServiceDialogue α) : Exchange α := d.via c.serve

end ProvisioningClient

/-- What is said about an issued binding where others can see it: all but
the kubeconfig. -/
def Issued.describe (b : Issued) : String :=
  Description.record "IssuedBinding" [("id", .text b.id),
    ("expires_at", .bare b.expiresAt.text), ("kubeconfig", .hidden)]

end CredentialRotation
