/-!
# A place in a YAML text

What is left of a text, and where that starts: the number of characters
before it, its line and its column. A line ends with a line feed, a
carriage return, both, or one of the three other breaks of Unicode; the
last two of those keep their identity, all others read as a line feed.
-/

namespace CredentialRotation.Yaml

/-- A line break. -/
def isBreak (c : Char) : Bool :=
  c = '\n' || c = '\r' || c = '\u0085' || c = '\u2028' || c = '\u2029'

/-- A blank within a line. -/
def isBlank (c : Char) : Bool := c = ' ' || c = '\t'

/-- A character of a name: an ASCII letter or digit, a dash or an
underscore. -/
def isNameChar (c : Char) : Bool := c.isAlphanum || c = '_' || c = '-'

/-- What is left of a text and where it starts. -/
structure Cursor where
  rest : List Char
  index : Nat
  line : Nat
  column : Nat

namespace Cursor

/-- The start of a text. -/
def start (cs : List Char) : Cursor := ⟨cs, 0, 0, 0⟩

variable (c : Cursor)

/-- The character `k` places ahead. -/
def peek (k : Nat) : Option Char := c.rest[k]?

/-- Whether the character `k` places ahead is `x`. -/
def isAt (k : Nat) (x : Char) : Bool := c.peek k == some x

/-- Whether the text ends `k` places ahead, or a blank or a break stands
there. -/
def isGap (k : Nat) : Bool :=
  match c.peek k with
  | none => true
  | some x => isBlank x || isBreak x

/-- Whether the text or the line ends here. -/
def isLineEnd : Bool :=
  match c.peek 0 with
  | none => true
  | some x => isBreak x

/-- Whether a blank stands here. -/
def isBlankHere : Bool := (c.peek 0).any isBlank

/-- Whether a break stands here. -/
def isBreakHere : Bool := (c.peek 0).any isBreak

/-- Past `k` characters of this line. -/
def skip (k : Nat) : Cursor := ⟨c.rest.drop k, c.index + k, c.line, c.column + k⟩

/-- Past the break that stands here. -/
def skipBreak : Cursor :=
  match c.rest with
  | '\r' :: '\n' :: r => ⟨r, c.index + 2, c.line + 1, 0⟩
  | _ :: r => ⟨r, c.index + 1, c.line + 1, 0⟩
  | [] => c

/-- The break that stands here, as it reads. -/
def breakText : List Char :=
  match c.rest with
  | '\u2028' :: _ => ['\u2028']
  | '\u2029' :: _ => ['\u2029']
  | _ :: _ => ['\n']
  | [] => []

/-- Past the characters of this line that `p` holds of. -/
def skipWhile (p : Char → Bool) : Cursor := c.skip (c.rest.takeWhile p).length

/-- Whether a line starts here with the mark of a document's start or
end. -/
def isDocumentMark : Bool :=
  c.column = 0 && (c.rest.take 3 = ['-', '-', '-'] || c.rest.take 3 = ['.', '.', '.'])
    && c.isGap 3

/-- Past blanks and a comment, to the end of the line or the first other
character. -/
def skipTrailing : Cursor :=
  let c := c.skipWhile isBlank
  if c.isAt 0 '#' then c.skipWhile (!isBreak ·) else c

end Cursor

end CredentialRotation.Yaml
