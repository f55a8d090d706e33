import CredentialRotation.Number.Numeral
import CredentialRotation.Text.Utf8

/-!
# JSON as it is written

A node is one value of a JSON text with everything a reader may still
object to: numbers keep their digits, strings may turn out to hold no
text, and an object keeps its members in order, repeated names included.
What a reader passes over is only held to the grammar; what it uses is
also held to the ranges and to the well-formedness of text.

The text is a list of symbols, `none` for octets that are not UTF-8.
Such octets can stand in a string and nowhere else.
-/

namespace CredentialRotation.Json

/-- A character of a text, or `none` for octets that are not UTF-8. -/
abbrev Symbol := Option Char

/-- The digits of a number. An absent fraction is the empty list. -/
structure Lexeme where
  negative : Bool
  whole : List Char
  fraction : List Char
  exponent : Option (Bool × List Char)
deriving DecidableEq, Repr

/-- A value as it is written. A string without text is `none`. -/
inductive Node
  | null
  | bool (b : Bool)
  | number (digits : Lexeme)
  | string (text : Option String)
  | array (items : List Node)
  | object (members : List (Option String × Node))

/-! ## Strings -/

/-- The text of a list of code units: a high and a low surrogate make one
character, and a surrogate on its own makes none. -/
def characters? : List Nat → Option (List Char)
  | [] => some []
  | [u] => if h : u.isValidChar then some [Char.ofNatAux u h] else none
  | u :: v :: rest =>
    if 0xD800 ≤ u ∧ u ≤ 0xDBFF then
      if 0xDC00 ≤ v ∧ v ≤ 0xDFFF then
        (characters? rest).map (Char.ofNat (0x10000 + (u - 0xD800) * 1024 + (v - 0xDC00)) :: ·)
      else none
    else if h : u.isValidChar then (characters? (v :: rest)).map (Char.ofNatAux u h :: ·)
    else none

/-- A code unit that is no part of any text. -/
def strayUnit : Nat := 0x110000

/-- The code unit of an escape of one letter. -/
def escape? : Char → Option Nat
  | '"' => some 0x22
  | '\\' => some 0x5C
  | '/' => some 0x2F
  | 'b' => some 0x08
  | 'f' => some 0x0C
  | 'n' => some 0x0A
  | 'r' => some 0x0D
  | 't' => some 0x09
  | _ => none

/-- The code units of a string up to its closing quote, and what
follows. -/
def stringUnits? : List Symbol → Option (List Nat × List Symbol)
  | [] => none
  | none :: r => (stringUnits? r).map fun (us, r) => (strayUnit :: us, r)
  | some '"' :: r => some ([], r)
  | some '\\' :: some 'u' :: some a :: some b :: some c :: some d :: r =>
    match Hex.number? [a, b, c, d] with
    | some u => (stringUnits? r).map fun (us, r) => (u :: us, r)
    | none => none
  | some '\\' :: some e :: r =>
    match escape? e with
    | some u => (stringUnits? r).map fun (us, r) => (u :: us, r)
    | none => none
  | some '\\' :: _ => none
  | some c :: r =>
    if c.toNat < 0x20 then none
    else (stringUnits? r).map fun (us, r) => (c.toNat :: us, r)

/-- The string after an opening quote, and what follows. -/
def string? (cs : List Symbol) : Option (Option String × List Symbol) :=
  (stringUnits? cs).map fun (us, r) => ((characters? us).map String.ofList, r)

/-! ## Numbers -/

/-- The digits a text starts with, and what follows. -/
def digits : List Symbol → List Char × List Symbol
  | some c :: r =>
    if c.isDigit then ((c :: (digits r).1), (digits r).2) else ([], some c :: r)
  | r => ([], r)

/-- A fraction, which has at least one digit. -/
def fraction? : List Symbol → Option (List Char × List Symbol)
  | some '.' :: r =>
    let (ds, rest) := digits r
    if ds.isEmpty then none else some (ds, rest)
  | r => some ([], r)

/-- The digits of an exponent, at least one. -/
def exponentDigits? (negative : Bool) (cs : List Symbol) :
    Option (Option (Bool × List Char) × List Symbol) :=
  let (ds, rest) := digits cs
  if ds.isEmpty then none else some (some (negative, ds), rest)

/-- An exponent, if there is one. -/
def exponent? : List Symbol → Option (Option (Bool × List Char) × List Symbol)
  | some c :: r =>
    if c = 'e' ∨ c = 'E' then
      match r with
      | some '+' :: r => exponentDigits? false r
      | some '-' :: r => exponentDigits? true r
      | r => exponentDigits? false r
    else some (none, some c :: r)
  | r => some (none, r)

/-- A number after its sign. The whole part has no leading zero. -/
def number? (negative : Bool) (cs : List Symbol) : Option (Lexeme × List Symbol) := do
  let (whole, r) := digits cs
  if whole.isEmpty || (whole.head? == some '0' && whole.length > 1) then none
  else
    let (fraction, r) ← fraction? r
    let (exponent, r) ← exponent? r
    some (⟨negative, whole, fraction, exponent⟩, r)

/-! ## Values -/

/-- A blank between tokens. -/
def isBlank (s : Symbol) : Bool :=
  s == some ' ' || s == some '\n' || s == some '\t' || s == some '\r'

/-- What follows the blanks a text starts with. -/
def skipBlanks (cs : List Symbol) : List Symbol := cs.dropWhile isBlank

/-- What follows the word `word`, if the text starts with it. -/
def word? (word : List Char) (cs : List Symbol) : Option (List Symbol) :=
  if cs.take word.length = word.map some then some (cs.drop word.length) else none

mutual

/-- A value and what follows it; `fuel` bounds the depth and the number
of members on the way. -/
def Node.read? : Nat → List Symbol → Option (Node × List Symbol)
  | 0, _ => none
  | fuel + 1, cs =>
    match skipBlanks cs with
    | some '{' :: r =>
      match skipBlanks r with
      | some '}' :: r => some (.object [], r)
      | r => (Node.readMembers? fuel r).map fun (ms, r) => (.object ms, r)
    | some '[' :: r =>
      match skipBlanks r with
      | some ']' :: r => some (.array [], r)
      | r => (Node.readItems? fuel r).map fun (xs, r) => (.array xs, r)
    | some '"' :: r => (string? r).map fun (s, r) => (.string s, r)
    | some '-' :: r => (number? true r).map fun (n, r) => (.number n, r)
    | some 'n' :: r => (word? ['u', 'l', 'l'] r).map (Node.null, ·)
    | some 't' :: r => (word? ['r', 'u', 'e'] r).map (Node.bool true, ·)
    | some 'f' :: r => (word? ['a', 'l', 's', 'e'] r).map (Node.bool false, ·)
    | r => (number? false r).map fun (n, r) => (.number n, r)

/-- The items of an array up to its closing bracket, at least one. -/
def Node.readItems? : Nat → List Symbol → Option (List Node × List Symbol)
  | 0, _ => none
  | fuel + 1, cs =>
    match Node.read? fuel cs with
    | none => none
    | some (x, r) =>
      match skipBlanks r with
      | some ']' :: r => some ([x], r)
      | some ',' :: r => (Node.readItems? fuel r).map fun (xs, r) => (x :: xs, r)
      | _ => none

/-- The members of an object up to its closing brace, at least one. -/
def Node.readMembers? : Nat → List Symbol → Option (List (Option String × Node) × List Symbol)
  | 0, _ => none
  | fuel + 1, cs =>
    match skipBlanks cs with
    | some '"' :: r =>
      match string? r with
      | none => none
      | some (name, r) =>
        match skipBlanks r with
        | some ':' :: r =>
          match Node.read? fuel r with
          | none => none
          | some (x, r) =>
            match skipBlanks r with
            | some '}' :: r => some ([(name, x)], r)
            | some ',' :: r =>
              (Node.readMembers? fuel r).map fun (ms, r) => ((name, x) :: ms, r)
            | _ => none
        | _ => none
    | _ => none

end

/-- The value a text of symbols spells, nothing but blanks around it. -/
def Node.ofSymbols? (cs : List Symbol) : Option Node :=
  match Node.read? (cs.length + 1) cs with
  | some (x, r) => if (skipBlanks r).isEmpty then some x else none
  | none => none

/-- The value a string spells. -/
def Node.ofText? (s : String) : Option Node := ofSymbols? (s.toList.map some)

/-- The value that octets spell. -/
def Node.ofBytes? (bs : Bytes) : Option Node := ofSymbols? (Utf8.symbols bs)

end CredentialRotation.Json
