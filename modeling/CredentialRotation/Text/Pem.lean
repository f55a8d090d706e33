import CredentialRotation.Text.Base64

/-!
# Armoured octets

Octets in lines of text: a line that begins a block of a kind, their
base64 in lines of at most sixty-four characters, and a line that ends
the block.
-/

namespace CredentialRotation

namespace Pem

/-- A block of armoured octets. -/
structure Block where
  label : String
  content : Bytes
deriving DecidableEq, Repr

/-- The greatest length of a line of base64. -/
def lineLength : Nat := 64

/-- A text in lines of at most `lineLength` characters, up to `fuel` of
them. -/
def wrap : Nat → List Char → List (List Char)
  | 0, _ => []
  | fuel + 1, cs =>
    if cs.isEmpty then [] else cs.take lineLength :: wrap fuel (cs.drop lineLength)

/-- The line that begins a block. -/
def beginLine (label : String) : List Char :=
  "-----BEGIN ".toList ++ label.toList ++ "-----".toList

/-- The line that ends a block. -/
def endLine (label : String) : List Char :=
  "-----END ".toList ++ label.toList ++ "-----".toList

/-- The lines of base64 of a block. -/
def Block.bodyLines (b : Block) : List (List Char) :=
  let cs := Base64.encode Base64.standard b.content
  wrap cs.length cs

/-- The lines of a block. -/
def Block.lines (b : Block) : List (List Char) :=
  beginLine b.label :: b.bodyLines ++ [endLine b.label]

/-- Blocks as text, each line closed by a line feed. -/
def render (bs : List Block) : List Char :=
  (bs.flatMap Block.lines).flatMap (· ++ ['\n'])

/-! ## Reading -/

/-- The lines of a text, and what follows the last line feed. -/
def lines : List Char → List (List Char)
  | [] => [[]]
  | '\n' :: r => [] :: lines r
  | c :: r =>
    match lines r with
    | [] => [[c]]
    | l :: ls => (c :: l) :: ls

/-- The label of a line that begins a block. -/
def beginLabel? (line : List Char) : Option String :=
  let start := "-----BEGIN ".toList
  let stop := "-----".toList
  let label := (line.drop start.length).take (line.length - start.length - stop.length)
  if line = start ++ label ++ stop then some (String.ofList label) else none

/-- The blocks in lines, given the label and the base64 of the block that
is being read, if one is. Text between blocks is passed over. -/
def blocks? : Option (String × List Char) → List (List Char) → Option (List Block)
  | none, [] => some []
  | some _, [] => none
  | none, line :: r =>
    match beginLabel? line with
    | some label => blocks? (some (label, [])) r
    | none => blocks? none r
  | some (label, body), line :: r =>
    if line = endLine label then do
      let content ← Base64.decode? Base64.standard body
      let bs ← blocks? none r
      some (⟨label, content⟩ :: bs)
    else blocks? (some (label, body ++ line)) r

/-- The blocks in a text. -/
def read? (cs : List Char) : Option (List Block) := blocks? none (lines cs)

end Pem

end CredentialRotation
