import CredentialRotation.Text.Pieces
import CredentialRotation.Web.Percent

/-!
# Forms

A form is a list of pairs of a name and a value, in order. In text the
pairs stand between `&`, the name ends at the first `=`, a space is a
`+`, and all but letters, digits and four marks is escaped. Reading takes
what is not text for the replacement character and passes over empty
pairs, so every text can be read.
-/

namespace CredentialRotation.Form

/-- The octets that a form holds as they are. -/
def isPlain (b : UInt8) : Bool :=
  (0x30 ≤ b && b ≤ 0x39) || (0x41 ≤ b && b ≤ 0x5A) || (0x61 ≤ b && b ≤ 0x7A)
    || b = 0x2A || b = 0x2D || b = 0x2E || b = 0x5F

/-- A name or a value as it is written. -/
def encodeText (s : String) : List Char :=
  (Bytes.ofString s).flatMap fun b => if b = 0x20 then ['+'] else Percent.encode isPlain [b]

/-- A pair as it is written. -/
def encodePair (pair : String × String) : List Char :=
  encodeText pair.1 ++ '=' :: encodeText pair.2

/-- Pairs as they are written. -/
def encode : List (String × String) → List Char
  | [] => []
  | [pair] => encodePair pair
  | pair :: pairs => encodePair pair ++ '&' :: encode pairs

/-- The name or the value that octets spell. -/
def decodeText (bs : Bytes) : String :=
  (Percent.decode (bs.map fun b => if b = 0x2B then 0x20 else b)).textLossy

/-- The pair that octets spell. -/
def decodePair (bs : Bytes) : String × String :=
  let (name, value) := Pieces.cutFirst 0x3D bs
  (decodeText name, decodeText (value.getD []))

/-- The pairs that octets spell. -/
def decode (bs : Bytes) : List (String × String) :=
  ((Pieces.pieces 0x26 bs).filter fun piece => !piece.isEmpty).map decodePair

/-- The kind of content that a form is sent as. -/
def contentType : String := "application/x-www-form-urlencoded"

end CredentialRotation.Form
