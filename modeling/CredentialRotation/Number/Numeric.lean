import CredentialRotation.Number.Shortest

/-!
# Numbers of documents

A number in a document is an integer where sixty-four bits hold it, with
or without a sign, and a binary number otherwise.
-/

namespace CredentialRotation.Number

/-- A number of a document. -/
inductive Numeric
  | integer (n : Int)
  | binary (x : Binary64)
deriving DecidableEq, Repr

namespace Numeric

/-- The binary number nearest to a number of either kind. -/
def toBinary : Numeric → Binary64
  | .integer n => Binary64.ofInt n
  | .binary x => x

/-- Whether two numbers are the same number of the same kind. -/
def same : Numeric → Numeric → Bool
  | .integer m, .integer n => m = n
  | .binary x, .binary y => x.same y
  | _, _ => false

/-- The text of a number, with the words a format has for what is no
finite number. -/
def text (infinity undefined : List Char) : Numeric → List Char
  | .integer n => signedDecimal n
  | .binary (.finite s m e) => Binary64.finiteText s m e
  | .binary (.infinite s) => if s then '-' :: infinity else infinity
  | .binary .nan => undefined

end Numeric

end CredentialRotation.Number
