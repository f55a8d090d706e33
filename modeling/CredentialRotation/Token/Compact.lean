import CredentialRotation.Text.Base64
import CredentialRotation.Token.Claims
import CredentialRotation.Token.Header

/-!
# Compact tokens

A compact token is three parts with dots between them: header, payload
and signature. Header and payload are base64 of JSON. The signature is
not looked at: these tokens come over a connection that already vouches
for them, and are read only to plan.

Besides being an object the payload must suit a reader of the standard
claims: none of them given twice, no list or object as the subject, and
no filled list or object as a date.
-/

namespace CredentialRotation

namespace Token

/-- A text cut at the last `c`. -/
def cutLast? (c : Char) : List Char → Option (List Char × List Char)
  | [] => none
  | x :: r =>
    match cutLast? c r with
    | some (a, b) => some (x :: a, b)
    | none => if x = c then some ([], r) else none

/-- The header and the payload of a token. Further dots belong to the
header. -/
def parts? (token : List Char) : Option (List Char × List Char) := do
  let (message, _) ← cutLast? '.' token
  cutLast? '.' message

/-- The standard claims that must not be given twice. -/
def standardClaims : List String := ["exp", "nbf", "sub", "iss", "aud"]

/-- Whether a value can be passed over where a date is expected. -/
def suitsDate : Json.Node → Bool
  | .array xs => xs.isEmpty
  | .object ms => ms.isEmpty
  | _ => true

/-- Whether a value can be passed over where a text is expected. -/
def suitsText : Json.Node → Bool
  | .array _ => false
  | .object _ => false
  | _ => true

/-- The values of the members with a name. -/
def named (name : String) (members : List (Option String × Json.Node)) : List Json.Node :=
  (members.filter (·.1 = some name)).map (·.2)

/-- Whether a reader of the standard claims can read an object. -/
def suits (members : List (Option String × Json.Node)) : Bool :=
  standardClaims.all (fun name => (named name members).length ≤ 1)
    && (named "exp" members).all suitsDate && (named "nbf" members).all suitsDate
    && (named "sub" members).all suitsText

/-- The claims in a payload. -/
def claims? (payload : Bytes) : Option Claims := do
  let x ← Json.Node.ofBytes? payload
  match x, ← Json.ofNode? Json.maxDepth x with
  | .object given, .object members => if suits given then some ⟨members⟩ else none
  | _, _ => none

/-- The claims of a token, its signature aside. -/
def claims (token : String) : Except TokenError Claims := do
  let some (header, payload) := parts? token.toList | .error .parts
  let some header := Base64.decode? Base64.urlSafe header | .error .base64
  let some header := header.text? | .error .utf8
  let some _ := (Json.Node.ofText? header).bind header? | .error .json
  let some payload := Base64.decode? Base64.urlSafe payload | .error .base64
  let some claims := claims? payload | .error .json
  .ok claims

end Token

end CredentialRotation
