import CredentialRotation.Yaml.Value

/-!
# YAML text of a value

`Value.print?` writes a value in block style: an entry a line, two
columns for each level, a sequence in a mapping at the column of its key,
and the empty collections as `[]` and `{}`.

A string is plain where it reads back as itself, a literal block where it
holds a line feed, in single quotes where it would read as something
else, and in double quotes where a character needs an escape.

A mapping of one entry whose key is tagged, or is itself a mapping of one
entry, is written only behind a tag; anywhere else it has no text.
-/

namespace CredentialRotation.Yaml

/-! ## What a scalar needs -/

/-- A character that shows as itself in every style. -/
def isPrintable (c : Char) : Bool :=
  let n := c.toNat
  n = 0x0A || (0x20 ≤ n && n ≤ 0x7E) || (0xA0 ≤ n && n ≤ 0xD7FF)
    || (0xE000 ≤ n && n ≤ 0xFFFD && n ≠ 0xFEFF) || 0x10000 ≤ n

/-- A character that separates: a blank, a break, or the zero
character. -/
def isSeparator (c : Char) : Bool := isBlank c || isBreak c || c = '\x00'

/-- Whether some neighbours satisfy `p` and `q`. -/
def hasPair (p q : Char → Bool) (cs : List Char) : Bool :=
  (cs.zip (cs.drop 1)).any fun e => p e.1 && q e.2

/-- A sign with which no plain scalar starts. -/
def isLeadingSign (c : Char) : Bool :=
  c ∈ ['#', ',', '[', ']', '{', '}', '&', '*', '!', '|', '>', '\'', '"', '%', '@', '`']

/-- Whether a text has something in it that only a plain scalar's
surroundings may have: a mark of the syntax. -/
def hasMark (cs : List Char) : Bool :=
  let first := match cs with
    | [] => false
    | c :: r =>
      isLeadingSign c
        || ((c = '?' || c = ':' || c = '-') && (r.head?.map isSeparator).getD true)
  let colon := hasPair (· = ':') isSeparator (cs.drop 1)
    || (cs.length > 1 && cs.getLast? == some ':')
  first || colon || hasPair isSeparator (· = '#') cs
    || cs.take 3 = ['-', '-', '-'] || cs.take 3 = ['.', '.', '.']

/-- What the characters of a scalar allow. -/
structure Traits where
  plain : Bool
  singleQuoted : Bool
  block : Bool

/-- What the characters of a scalar allow. -/
def Traits.ofChars (cs : List Char) : Traits :=
  if cs.isEmpty then ⟨true, true, false⟩
  else
    let isSpace (c : Char) : Bool := c = ' '
    let special := cs.any (!isPrintable ·)
    let breaks := cs.any isBreak
    let edges := (cs.head?.any fun c => isSpace c || isBreak c)
      || (cs.getLast?.any fun c => isSpace c || isBreak c)
    let breakSpace := hasPair isBreak isSpace cs
    let spaceBreak := hasPair isSpace isBreak cs
    { plain := !(edges || breakSpace || spaceBreak || special || breaks || hasMark cs)
      singleQuoted := !(breakSpace || spaceBreak || special)
      block := !(spaceBreak || special || cs.getLast?.any isSpace) }

/-! ## The page -/

/-- What is written so far, in reverse; the column; whether a blank or
nothing stands before it; and whether nothing but indentation and marks
of entries stands before it on its line. -/
structure Page where
  out : List Char
  column : Nat
  blank : Bool
  fresh : Bool

namespace Page

/-- The empty page. -/
def start : Page := ⟨[], 0, true, true⟩

variable (p : Page)

/-- With one more character of a line. -/
def put (c : Char) : Page := { p with out := c :: p.out, column := p.column + 1 }

/-- With characters of a line. -/
def putAll (cs : List Char) : Page := cs.foldl put p

/-- With a break. -/
def putBreak (c : Char) : Page := { p with out := c :: p.out, column := 0 }

/-- At the column `indent` of a line with nothing else on it. -/
def indent (n : Nat) : Page :=
  let p := if !p.fresh || n < p.column || (p.column = n && !p.blank) then p.putBreak '\n' else p
  let p := p.putAll (List.replicate (n - p.column) ' ')
  { p with blank := true, fresh := true }

/-- With a mark, after a blank if it `needs` one. -/
def mark (cs : List Char) (needs : Bool) (keepsFresh : Bool) : Page :=
  let p := if needs && !p.blank then p.put ' ' else p
  let p := p.putAll cs
  { p with blank := false, fresh := p.fresh && keepsFresh }

/-- After a piece of text. -/
def closed : Page := { p with blank := false, fresh := false }

end Page

/-! ## Scalars -/

/-- A plain scalar. -/
def putPlain (cs : List Char) (p : Page) : Page :=
  let p := if !p.blank && !cs.isEmpty then p.put ' ' else p
  (p.putAll cs).closed

/-- The characters between single quotes. A quote is written twice; after
a break the text goes on at the column `n`. -/
def putSingleChars (n : Nat) : Bool → List Char → Page → Page
  | after, [], p => if after then p.indent n else p
  | after, c :: cs, p =>
    if c = ' ' then putSingleChars n after cs (p.put c)
    else if isBreak c then
      let p := if !after && c = '\n' then p.putBreak '\n' else p
      putSingleChars n true cs { p.putBreak c with fresh := true }
    else
      let p := if after then p.indent n else p
      let p := if c = '\'' then p.put '\'' else p
      putSingleChars n false cs { p.put c with fresh := false }

/-- A scalar in single quotes. -/
def putSingle (n : Nat) (cs : List Char) (p : Page) : Page :=
  ((putSingleChars n false cs (p.mark ['\''] true false)).mark ['\''] false false).closed

/-- A character between double quotes. -/
def escape (c : Char) : List Char :=
  let n := c.toNat
  if isPrintable c && !isBreak c && c ≠ '"' && c ≠ '\\' then [c]
  else
    '\\' ::
      (match c with
      | '\x00' => ['0']
      | '\x07' => ['a']
      | '\x08' => ['b']
      | '\t' => ['t']
      | '\n' => ['n']
      | '\x0b' => ['v']
      | '\x0c' => ['f']
      | '\r' => ['r']
      | '\x1b' => ['e']
      | '"' => ['"']
      | '\\' => ['\\']
      | '\u0085' => ['N']
      | '\u00a0' => ['_']
      | '\u2028' => ['L']
      | '\u2029' => ['P']
      | _ =>
        let ds := Hex.upperDigits n
        let (letter, width) :=
          if n ≤ 0xFF then ('x', 2) else if n ≤ 0xFFFF then ('u', 4) else ('U', 8)
        letter :: List.replicate (width - ds.length) '0' ++ ds)

/-- A scalar in double quotes. -/
def putDouble (cs : List Char) (p : Page) : Page :=
  (((p.mark ['"'] true false).putAll (cs.flatMap escape)).mark ['"'] false false).closed

/-- The sign for the breaks at the end of a block. -/
def chompSign (cs : List Char) : List Char :=
  match cs.reverse with
  | [] => ['-']
  | [c] => if isBreak c then ['+'] else ['-']
  | c :: d :: _ => if !isBreak c then ['-'] else if isBreak d then ['+'] else []

/-- The characters of a literal block, each line at the column `n`. -/
def putLiteralChars (n : Nat) : Bool → List Char → Page → Page
  | _, [], p => p
  | after, c :: cs, p =>
    if isBreak c then putLiteralChars n true cs { p.putBreak c with fresh := true }
    else
      let p := if after then p.indent n else p
      putLiteralChars n false cs { p.put c with fresh := false }

/-- A literal block. -/
def putLiteral (n : Nat) (cs : List Char) (p : Page) : Page :=
  let hint := if cs.head?.any (fun c => c = ' ' || isBreak c) then ['2'] else []
  let p := p.mark ('|' :: hint ++ chompSign cs) true false
  putLiteralChars n true cs { p.putBreak '\n' with blank := true, fresh := true }

/-- How a scalar asks to be written. -/
inductive Wish
  | plain
  | quoted
  | literal
deriving DecidableEq

/-- How a string asks to be written. -/
def Wish.ofString (cs : List Char) : Wish :=
  if '\n' ∈ cs then .literal else if isAmbiguous cs then .quoted else .plain

/-- A scalar under a parent at `parent`. -/
def putScalar (parent : Int) (wish : Wish) (cs : List Char) (p : Page) : Page :=
  let n := if parent < 0 then 2 else (parent + 2).toNat
  let t := Traits.ofChars cs
  let quoted := if t.singleQuoted then putSingle n cs p else putDouble cs p
  match wish with
  | .plain => if t.plain then putPlain cs p else quoted
  | .quoted => quoted
  | .literal => if t.block then putLiteral n cs p else putDouble cs p

/-! ## Values -/

/-- A character of a tag that needs no escape. -/
def isTagChar (c : Char) : Bool :=
  isNameChar c || c ∈ [';', '/', '?', ':', '@', '&', '=', '+', '$', ',', '.', '~', '*', '\'', '(',
    ')', '[', ']']

/-- The characters of a tag, octets that need it escaped. -/
def tagText (name : List Char) : List Char :=
  name.flatMap fun c =>
    if isTagChar c then [c]
    else (Utf8.encodeChar c).flatMap fun b =>
      ['%', Hex.upperDigit (b.toNat / 16), Hex.upperDigit (b.toNat % 16)]

/-- A tag. -/
def putTag (name : String) (p : Page) : Page :=
  let p := if p.blank then p else p.put ' '
  (p.putAll ('!' :: tagText name.toList)).closed

namespace Value

/-- The octets a key takes on its line, `none` when it has to stand on
lines of its own. -/
def keyLength? (tag : Nat) : Value → Option Nat
  | .tagged name v => keyLength? (1 + (Bytes.ofString name).length) v
  | .sequence [] => some tag
  | .mapping [] => some tag
  | .sequence _ => none
  | .mapping _ => none
  | .string s =>
    if s.toList.any isBreak then none else some (tag + (Bytes.ofString s).length)
  | .null => some (tag + 4)
  | .bool b => some (tag + if b then 4 else 5)
  | .number n => some (tag + (n.text ".inf".toList ".nan".toList).length)

/-- Whether a key stands on the line of its value. -/
def isSimpleKey (v : Value) : Bool :=
  match keyLength? 0 v with
  | some n => n ≤ 128
  | none => false

mutual

/-- A value under a parent at `parent`; `inMapping` says that it is a key
or a value of a mapping. -/
def put (parent : Int) (inMapping : Bool) : Value → Page → Page
  | .null, p => putScalar parent .plain "null".toList p
  | .bool b, p => putScalar parent .plain (if b then "true".toList else "false".toList) p
  | .number n, p => putScalar parent .plain (n.text ".inf".toList ".nan".toList) p
  | .string s, p => putScalar parent (.ofString s.toList) s.toList p
  | .sequence [], p => (p.mark ['['] true false).mark [']'] false false
  | .mapping [], p => (p.mark ['\x7b'] true false).mark ['\x7d'] false false
  | .sequence (x :: xs), p =>
    let column := if parent < 0 then 0 else if inMapping && !p.fresh then parent else parent + 2
    putItems column (x :: xs) p
  | .mapping (m :: ms), p => putEntries (if parent < 0 then 0 else parent + 2) (m :: ms) p
  | .tagged name v, p => put parent inMapping v (putTag name p)

/-- The items of a sequence at a column. -/
def putItems (column : Int) : List Value → Page → Page
  | [], p => p
  | x :: xs, p =>
    let p := (p.indent column.toNat).mark ['-'] true true
    putItems column xs (put column false x p)

/-- The entries of a mapping at a column. -/
def putEntries (column : Int) : List (Value × Value) → Page → Page
  | [], p => p
  | (k, v) :: ms, p =>
    let p := p.indent column.toNat
    let p :=
      if isSimpleKey k then (put column true k p).mark [':'] false false
      else
        ((put column true k (p.mark ['?'] true true)).indent column.toNat).mark
          [':'] true true
    putEntries column ms (put column true v p)

end

mutual

/-- Whether a value has a text. `tagged` says that a tag stands directly
before it. -/
def isWritable (tagged : Bool) : Value → Bool
  | .sequence xs => areWritable xs
  | .mapping ms =>
    let lone := match ms with
      | [(.tagged .., _)] => true
      | [(.mapping [_], _)] => true
      | _ => false
    (tagged || !lone) && entriesAreWritable ms
  | .tagged _ v => isWritable true v
  | _ => true

/-- Whether all items have a text. -/
def areWritable : List Value → Bool
  | [] => true
  | x :: xs => isWritable false x && areWritable xs

/-- Whether all keys and values have a text. -/
def entriesAreWritable : List (Value × Value) → Bool
  | [] => true
  | (k, v) :: ms => isWritable false k && isWritable false v && entriesAreWritable ms

end

/-- The text of a value, if it has one. -/
def print? (v : Value) : Option (List Char) :=
  if isWritable false v then some ((put (-1) false v .start).indent 0).out.reverse
  else none

end Value

end CredentialRotation.Yaml
