import CredentialRotation.Document.Record
import CredentialRotation.Json.Value
import CredentialRotation.Text.Description

/-!
# Token sets

What a login yields: an ID token, and a refresh token that buys the next
one. An empty refresh token is none. A set is kept in documents, and
published in the details of a connection as octets.
-/

namespace CredentialRotation

/-- The details of a connection, by name. -/
abbrev Details := List (String × Bytes)

/-- The octets of a detail. -/
def Details.get? (d : Details) (name : String) : Option Bytes :=
  (d.find? (·.1 = name)).map (·.2)

/-- An ID token with its refresh token. -/
structure TokenSet where
  idToken : String
  refreshToken : String
deriving DecidableEq, Repr

namespace TokenSet

/-- The details that a set is published in. -/
def idTokenKey : String := "IDToken"
@[inherit_doc idTokenKey] def refreshTokenKey : String := "refresh"

/-- A set in the details of a connection. -/
def details (t : TokenSet) : Details :=
  [(idTokenKey, .ofString t.idToken), (refreshTokenKey, .ofString t.refreshToken)]

/-- The set in the details of a connection. The refresh token may be
missing; what is there has to be text. -/
def ofDetails? (d : Details) : Option TokenSet := do
  let id ← (← d.get? idTokenKey).text?
  match d.get? refreshTokenKey with
  | none => some ⟨id, ""⟩
  | some refresh => some ⟨id, ← refresh.text?⟩

/-- The set at a node of a document. -/
def read? {α : Type} [Readable α] (x : α) : Option TokenSet := do
  let r ← Record.open? ["idToken", "refreshToken"] x
  some ⟨← r.required? "idToken" Readable.text?, ← r.required? "refreshToken" Readable.text?⟩

/-- A set as it is written. -/
def toJson (t : TokenSet) : Json :=
  .object [("idToken", .string t.idToken), ("refreshToken", .string t.refreshToken)]

/-- What is said about a set where others can see it: nothing of what it
holds. -/
def describe (_ : TokenSet) : String :=
  Description.record "TokenSet" [("id_token", .hidden), ("refresh_token", .hidden)]

end TokenSet

end CredentialRotation
