import CredentialRotation.Yaml.Token.Mark
import CredentialRotation.Yaml.Token.Scalar

/-!
# The tokens of a YAML text

`Token.scan?` reads a text into its tokens. Two things need a view
beyond the next character.

Blocks are told by indentation: `Scan.roll` opens one where a mark stands
deeper than the block around it, `Scan.unroll` closes those a line has
left.

A key without a mark of its own shows only at the colon after it, so the
place where one may have started is kept for each flow collection
(`SimpleKey`), and the colon puts the marks in there. Such a key keeps to
one line and to 1024 characters.
-/

namespace CredentialRotation.Yaml

/-- Where a key without a mark may have started: the number of tokens
before it and its place. A required one stands at the indentation of its
block, and must turn out to be a key. -/
structure SimpleKey where
  tokens : Nat
  index : Nat
  line : Nat
  column : Nat
  required : Bool

/-- The tokens read so far, last first, and what reading on depends on.
`indent` is the column of the innermost block, `indents` those around it.
`key` belongs to the innermost flow collection, `keys` to those around
it. -/
structure Scan where
  cursor : Cursor
  tokens : List Token
  count : Nat
  indent : Int
  indents : List Int
  key : Option SimpleKey
  keys : List (Option SimpleKey)
  keyAllowed : Bool

namespace Scan

/-- The start of a text. -/
def start (cs : List Char) : Scan := ⟨.start cs, [], 0, -1, [], none, [], true⟩

variable (s : Scan)

/-- Inside a flow collection. -/
def inFlow : Bool := !s.keys.isEmpty

/-- With one more token. -/
def push (t : Token) : Scan := { s with tokens := t :: s.tokens, count := s.count + 1 }

/-- With tokens put in where `n` tokens stand before. -/
def insert (n : Nat) (ts : List Token) : Scan :=
  let after := s.count - n
  { s with
    tokens := s.tokens.take after ++ ts.reverse ++ s.tokens.drop after
    count := s.count + ts.length }

/-- At another place. -/
def moveTo (c : Cursor) : Scan := { s with cursor := c }

/-! ## Keys -/

/-- Without the key that may have started; a required one is missed. -/
def dropKey? : Option Scan :=
  if s.key.any (·.required) then none else some { s with key := none }

/-- With a key that may start here. -/
def saveKey? : Option Scan :=
  if s.keyAllowed then
    let required := !s.inFlow && s.indent = s.cursor.column
    s.dropKey?.map fun s =>
      { s with
        key := some ⟨s.count, s.cursor.index, s.cursor.line, s.cursor.column, required⟩ }
  else some s

/-- Whether a key has gone past its line or its length. -/
def isStale (k : SimpleKey) : Bool :=
  k.line < s.cursor.line || k.index + 1024 < s.cursor.index

/-- Without the keys that have gone stale; a required one is missed. -/
def dropStale? : Option Scan :=
  if (s.key :: s.keys).any fun k => k.any fun k => s.isStale k && k.required then none
  else
    some { s with
      key := s.key.filter (!s.isStale ·)
      keys := s.keys.map fun k => k.filter (!s.isStale ·) }

/-! ## Blocks -/

/-- With a block opened at `column`, if that is deeper than the block
around it. Its token goes where `n` tokens stand before, or last. -/
def roll (column : Nat) (n : Option Nat) (t : Token) : Scan :=
  if !s.inFlow && s.indent < column then
    let s := { s with indents := s.indent :: s.indents, indent := column }
    match n with
    | some n => s.insert n [t]
    | none => s.push t
  else s

/-- The blocks deeper than `column`, closed one by one. -/
def closeBlocks (column : Int) : List Int → Scan → Scan
  | [], s => s
  | outer :: rest, s =>
    if column < s.indent then
      closeBlocks column rest { s.push .blockEnd with indent := outer, indents := rest }
    else s

/-- With the blocks deeper than `column` closed. -/
def unroll (column : Int) : Scan :=
  if s.inFlow then s else closeBlocks column s.indents s

/-! ## Blanks -/

/-- Past blanks, comments and breaks. A tab counts as a blank where no
key may start; a byte order mark is passed over at the start of a line. -/
def skipGap : Nat → Scan → Scan
  | 0, s => s
  | fuel + 1, s =>
    let c := s.cursor
    let c := if c.column = 0 && c.isAt 0 '\uFEFF' then c.skip 1 else c
    let tabs := s.inFlow || !s.keyAllowed
    let c := c.skipWhile fun x => x = ' ' || (tabs && x = '\t')
    let c := if c.isAt 0 '#' then c.skipWhile (!isBreak ·) else c
    if c.isBreakHere then
      skipGap fuel { s with cursor := c.skipBreak, keyAllowed := s.keyAllowed || !s.inFlow }
    else s.moveTo c

/-! ## Tokens -/

/-- A mark of `k` characters at the start of a line that ends all
blocks. -/
def document? (t : Token) : Option Scan := do
  let s ← (s.unroll (-1)).dropKey?
  some ({ s with keyAllowed := false }.push t |>.moveTo (s.cursor.skip 3))

/-- A directive. -/
def directive? : Option Scan := do
  let s ← (s.unroll (-1)).dropKey?
  let (t, c) ← Token.directive? s.cursor
  some ({ s with keyAllowed := false }.push t |>.moveTo c)

/-- The start of a flow collection. -/
def openFlow? (t : Token) : Option Scan := do
  let s ← s.saveKey?
  let s := { s with keys := s.key :: s.keys, key := none, keyAllowed := true }
  some (s.push t |>.moveTo (s.cursor.skip 1))

/-- The end of a flow collection. -/
def closeFlow? (t : Token) : Option Scan := do
  let s ← s.dropKey?
  let s :=
    match s.keys with
    | key :: keys => { s with key, keys }
    | [] => s
  some ({ s with keyAllowed := false }.push t |>.moveTo (s.cursor.skip 1))

/-- A comma. -/
def flowEntry? : Option Scan := do
  let s ← s.dropKey?
  some ({ s with keyAllowed := true }.push .flowEntry |>.moveTo (s.cursor.skip 1))

/-- A dash. -/
def blockEntry? : Option Scan := do
  if !s.inFlow && !s.keyAllowed then none
  else
    let s ← (s.roll s.cursor.column none .blockSequenceStart).dropKey?
    some ({ s with keyAllowed := true }.push .blockEntry |>.moveTo (s.cursor.skip 1))

/-- The mark of a key. -/
def key? : Option Scan := do
  if !s.inFlow && !s.keyAllowed then none
  else
    let s ← (s.roll s.cursor.column none .blockMappingStart).dropKey?
    some ({ s with keyAllowed := !s.inFlow }.push .key |>.moveTo (s.cursor.skip 1))

/-- The colon before a value, which shows the key before it. -/
def value? : Option Scan :=
  match s.key with
  | some k =>
    let s := (s.insert k.tokens [.key]).roll k.column (some k.tokens) .blockMappingStart
    some ({ s with key := none, keyAllowed := false }.push .value
      |>.moveTo (s.cursor.skip 1))
  | none =>
    if !s.inFlow && !s.keyAllowed then none
    else
      let s := s.roll s.cursor.column none .blockMappingStart
      some ({ s with keyAllowed := !s.inFlow }.push .value |>.moveTo (s.cursor.skip 1))

/-- A token that may start a key. -/
def starter? (read : Cursor → Option (Token × Cursor)) : Option Scan := do
  let s ← s.saveKey?
  let (t, c) ← read s.cursor
  some ({ s with keyAllowed := false }.push t |>.moveTo c)

/-- A plain scalar. -/
def plain? : Option Scan := do
  let s ← s.saveKey?
  let (t, c, broken) ← Token.plain? s.inFlow (s.indent + 1) s.cursor
  some ({ s with keyAllowed := broken }.push t |>.moveTo c)

/-- A block scalar. -/
def block? (literal : Bool) : Option Scan := do
  let s ← s.dropKey?
  let (t, c) ← Token.block? literal s.indent s.cursor
  some ({ s with keyAllowed := true }.push t |>.moveTo c)

/-- The end of the text. -/
def finish? : Option Scan := do
  let s ← (s.unroll (-1)).dropKey?
  some (s.push .streamEnd)

/-- A sign that cannot start a plain scalar. -/
def isSign (c : Char) : Bool :=
  c ∈ ['-', '?', ':', ',', '[', ']', '{', '}', '#', '&', '*', '!', '|', '>', '\'', '"', '%', '@',
    '`']

/-- The next token, which starts at the cursor with `x`. -/
def token? (x : Char) : Option Scan :=
  let c := s.cursor
  if c.column = 0 && x = '%' then s.directive?
  else if c.isDocumentMark then s.document? (if x = '-' then .documentStart else .documentEnd)
  else if x = '[' then s.openFlow? .flowSequenceStart
  else if x = '{' then s.openFlow? .flowMappingStart
  else if x = ']' then s.closeFlow? .flowSequenceEnd
  else if x = '}' then s.closeFlow? .flowMappingEnd
  else if x = ',' then s.flowEntry?
  else if x = '-' && c.isGap 1 then s.blockEntry?
  else if x = '?' && (s.inFlow || c.isGap 1) then s.key?
  else if x = ':' && (s.inFlow || c.isGap 1) then s.value?
  else if x = '*' then s.starter? (Token.anchor? true)
  else if x = '&' then s.starter? (Token.anchor? false)
  else if x = '!' then s.starter? (Token.tag? s.inFlow)
  else if x = '|' && !s.inFlow then s.block? true
  else if x = '>' && !s.inFlow then s.block? false
  else if x = '\'' then s.starter? (Token.quoted? true)
  else if x = '"' then s.starter? (Token.quoted? false)
  else if !isSign x && !isBlank x then s.plain?
  else if x = '-' && !(c.peek 1).any isBlank then s.plain?
  else if !s.inFlow && (x = '?' || x = ':') && !c.isGap 1 then s.plain?
  else none

/-- The tokens from here to the end of the text. -/
def run? : Nat → Scan → Option Scan
  | 0, _ => none
  | fuel + 1, s => do
    let s := skipGap (s.cursor.rest.length + 1) s
    let s ← s.dropStale?
    match s.cursor.peek 0 with
    | none =>
      let s := s.unroll s.cursor.column
      finish? (if s.cursor.column = 0 then s else
        s.moveTo { s.cursor with column := 0, line := s.cursor.line + 1 })
    | some x => do
      let s ← (s.unroll s.cursor.column).token? x
      run? fuel s

end Scan

/-- The tokens of a text, the end of the stream last. -/
def Token.scan? (cs : List Char) : Option (List Token) :=
  (Scan.run? (cs.length + 2) (.start cs)).map (·.tokens.reverse)

end CredentialRotation.Yaml
