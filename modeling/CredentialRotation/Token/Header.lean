import CredentialRotation.Document.Json

/-!
# Headers

The header of a token names the algorithm of its signature, and may
carry texts and a key. Nothing of it is used, but a token with another
header is refused.
-/

namespace CredentialRotation.Token

open Readable

/-- The algorithms a token may be signed with. -/
def algorithms : List String :=
  ["HS256", "HS384", "HS512", "ES256", "ES384", "RS256", "RS384", "RS512", "PS256", "PS384",
    "PS512", "EdDSA"]

/-- The curves a key may lie on. -/
def curves : List String := ["P-256", "P-384", "P-521", "Ed25519"]

/-- An alternative among `names`. -/
def oneOf? (names : List String) (x : Json.Node) : Option Unit :=
  (choice? x).bind fun s => if s ∈ names then some () else none

/-- A text, whatever it says. -/
def anyText? (x : Json.Node) : Option Unit := (text? x).map fun _ => ()

/-- What every key may say of itself. -/
def keyRemarks? (x : Json.Node) : Option Unit := do
  let r ← Record.open? ["use", "key_ops", "alg", "kid", "x5u", "x5c", "x5t", "x5t#S256"] x
  for name in ["use", "kid", "x5u", "x5t", "x5t#S256"] do
    let _ ← r.optional? name anyText?
  for name in ["key_ops", "x5c"] do
    let _ ← r.optional? name (listOf? anyText?)
  let _ ← r.optional? "alg" fun x => (choice? x).map fun _ => ()

/-- A key of the type `kind`, with a curve or not, and with texts. -/
def keyOf? (kind : String) (onCurve : Bool) (texts : List String) (x : Json.Node) :
    Option Unit := do
  let r ← Record.open? ("kty" :: (if onCurve then ["crv"] else []) ++ texts) x
  r.required? "kty" (oneOf? [kind])
  if onCurve then r.required? "crv" (oneOf? curves)
  for name in texts do
    r.required? name anyText?

/-- The depth that values in a key may have. -/
def keyDepth : Nat := Json.maxDepth - 1

/-- A key of one of the four types. -/
def key? (x : Json.Node) : Option Unit := do
  let _ ← Json.ofNode? keyDepth x
  match x with
  | .object _ => some ()
  | _ => none
  keyRemarks? x
  (keyOf? "EC" true ["x", "y"] x).or <| (keyOf? "RSA" false ["n", "e"] x).or <|
    (keyOf? "oct" false ["k"] x).or (keyOf? "OKP" true ["x"] x)

/-- A header. -/
def header? (x : Json.Node) : Option Unit := do
  let r ← Record.open?
    ["typ", "alg", "cty", "jku", "jwk", "kid", "x5u", "x5c", "x5t", "x5t#S256"] x
  r.required? "alg" (oneOf? algorithms)
  for name in ["typ", "cty", "jku", "kid", "x5u", "x5t", "x5t#S256"] do
    let _ ← r.optional? name anyText?
  let _ ← r.optional? "x5c" (listOf? anyText?)
  let _ ← r.optional? "jwk" key?

end CredentialRotation.Token
