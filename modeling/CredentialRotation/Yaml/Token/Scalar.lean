import CredentialRotation.Text.Hex
import CredentialRotation.Yaml.Token.Basic
import CredentialRotation.Yaml.Token.Cursor

/-!
# Scalar tokens

The five ways to write a scalar. What they share is how lines fold: the
blanks around a break do not count, one break reads as a space, and of
several the first is dropped. A break that keeps its identity is kept.
-/

namespace CredentialRotation.Yaml

/-- Blanks and breaks between two pieces of text: the blanks before the
first break, that break, and the breaks after it. -/
structure Gap where
  blanks : List Char
  first : List Char
  more : List Char
  broken : Bool

namespace Gap

/-- No gap. -/
def none : Gap := ⟨[], [], [], false⟩

/-- What a gap reads as between two pieces of text. -/
def fold (g : Gap) : List Char :=
  if g.broken then
    if g.first = ['\n'] then (if g.more.isEmpty then [' '] else g.more)
    else g.first ++ g.more
  else g.blanks

end Gap

namespace Token

/-- The gap at a cursor and the place after it. `escaped` tells that an
escaped break came before. A tab that stands before column `indent` on a
later line is refused. -/
def gap? (indent : Int) : Nat → Gap → Cursor → Option (Gap × Cursor)
  | 0, g, c => some (g, c)
  | fuel + 1, g, c =>
    match c.peek 0 with
    | none => some (g, c)
    | some x =>
      if isBlank x then
        if g.broken then
          if x = '\t' ∧ (c.column : Int) < indent then Option.none
          else gap? indent fuel g (c.skip 1)
        else gap? indent fuel { g with blanks := g.blanks ++ [x] } (c.skip 1)
      else if isBreak x then
        if g.broken then gap? indent fuel { g with more := g.more ++ c.breakText } c.skipBreak
        else gap? indent fuel ⟨[], c.breakText, [], true⟩ c.skipBreak
      else some (g, c)

/-! ## Quoted scalars -/

/-- The character of an escape of one letter. -/
def escape? : Char → Option Char
  | '0' => some '\x00'
  | 'a' => some '\x07'
  | 'b' => some '\x08'
  | 't' => some '\t'
  | '\t' => some '\t'
  | 'n' => some '\n'
  | 'v' => some '\x0b'
  | 'f' => some '\x0c'
  | 'r' => some '\r'
  | 'e' => some '\x1b'
  | ' ' => some ' '
  | '"' => some '"'
  | '/' => some '/'
  | '\\' => some '\\'
  | 'N' => some '\u0085'
  | '_' => some '\u00a0'
  | 'L' => some '\u2028'
  | 'P' => some '\u2029'
  | _ => none

/-- The number of digits of an escape by number. -/
def escapeDigits? : Char → Option Nat
  | 'x' => some 2
  | 'u' => some 4
  | 'U' => some 8
  | _ => none

/-- The character of the escape whose letter stands at a cursor, and the
place after it. -/
def escaped? (c : Cursor) : Option (Char × Cursor) := do
  let x ← c.peek 0
  match escapeDigits? x with
  | some k =>
    let ds := (c.rest.drop 1).take k
    let n ← Hex.number? ds
    if ds.length = k ∧ n.isValidChar then some (Char.ofNat n, c.skip (k + 1)) else none
  | none => (escape? x).map (·, c.skip 1)

/-- A quoted piece without blanks or breaks, in reverse, the place after
it, and whether an escaped break ended it. -/
def quotedWord? (single : Bool) : Nat → List Char → Cursor → Option (List Char × Cursor × Bool)
  | 0, out, c => some (out, c, false)
  | fuel + 1, out, c =>
    match c.peek 0 with
    | none => some (out, c, false)
    | some x =>
      if isBlank x || isBreak x then some (out, c, false)
      else if single then
        if x = '\'' then
          if c.isAt 1 '\'' then quotedWord? single fuel ('\'' :: out) (c.skip 2)
          else some (out, c, false)
        else quotedWord? single fuel (x :: out) (c.skip 1)
      else if x = '"' then some (out, c, false)
      else if x = '\\' then
        if (c.peek 1).any isBreak then some (out, (c.skip 1).skipBreak, true)
        else
          match escaped? (c.skip 1) with
          | some (y, c) => quotedWord? single fuel (y :: out) c
          | none => none
      else quotedWord? single fuel (x :: out) (c.skip 1)

/-- The pieces of a quoted scalar up to its closing quote, in reverse. -/
def quotedText? (single : Bool) : Nat → List Char → Cursor → Option (List Char × Cursor)
  | 0, _, _ => none
  | fuel + 1, out, c =>
    if c.isDocumentMark || c.rest.isEmpty then none
    else do
      let (out, c, escaped) ← quotedWord? single (c.rest.length + 1) out c
      if c.isAt 0 (if single then '\'' else '"') then some (out, c.skip 1)
      else do
        let (g, c) ← gap? 0 (c.rest.length + 1) { Gap.none with broken := escaped } c
        quotedText? single fuel (g.fold.reverse ++ out) c

/-- A quoted scalar. -/
def quoted? (single : Bool) (c : Cursor) : Option (Token × Cursor) :=
  (quotedText? single (c.rest.length + 1) [] (c.skip 1)).map fun (out, c) =>
    (scalar out.reverse (if single then .singleQuoted else .doubleQuoted), c)

/-! ## Plain scalars -/

/-- A sign that ends a plain scalar in a flow collection. -/
def isFlowSign (c : Char) : Bool := c ∈ [',', '[', ']', '{', '}']

/-- A plain piece without blanks or breaks, in reverse after `out`, which
`pending` precedes if the piece is not empty. -/
def plainWord? (inFlow : Bool) : Nat → List Char → List Char → Cursor →
    Option (List Char × Cursor)
  | 0, out, _, c => some (out, c)
  | fuel + 1, out, pending, c =>
    match c.peek 0 with
    | none => some (out, c)
    | some x =>
      if isBlank x || isBreak x then some (out, c)
      else if inFlow && x = ':' && (c.peek 1).any (fun y => y = '?' || isFlowSign y) then none
      else if (x = ':' && c.isGap 1) || (inFlow && isFlowSign x) then some (out, c)
      else plainWord? inFlow fuel (x :: (pending.reverse ++ out)) [] (c.skip 1)

/-- The pieces of a plain scalar, in reverse; the place where it ends, and
whether a break came last. `pending` is the folded gap before the
cursor. -/
def plainText? (inFlow : Bool) (indent : Int) : Nat → List Char → List Char → Bool → Cursor →
    Option (List Char × Cursor × Bool)
  | 0, out, _, broken, c => some (out, c, broken)
  | fuel + 1, out, pending, broken, c =>
    if c.isDocumentMark || c.isAt 0 '#' then some (out, c, broken)
    else do
      let (out, d) ← plainWord? inFlow (c.rest.length + 1) out pending c
      if d.isBlankHere || d.isBreakHere then do
        let (g, d) ← gap? indent (d.rest.length + 1) Gap.none d
        if !inFlow && (d.column : Int) < indent then some (out, d, g.broken)
        else plainText? inFlow indent fuel out g.fold g.broken d
      else some (out, d, d.index = c.index && broken)

/-- A plain scalar, and whether a new line starts after it. -/
def plain? (inFlow : Bool) (indent : Int) (c : Cursor) : Option (Token × Cursor × Bool) :=
  (plainText? inFlow indent (c.rest.length + 1) [] [] false c).map fun (out, c, broken) =>
    (scalar out.reverse .plain, c, broken)

/-! ## Block scalars -/

/-- What becomes of the breaks at the end of a block scalar. -/
inductive Chomp
  | strip
  | clip
  | keep
deriving DecidableEq

/-- A sign for the breaks at the end. -/
def chomp? (c : Cursor) : Option Chomp :=
  match c.peek 0 with
  | some '+' => some .keep
  | some '-' => some .strip
  | _ => none

/-- A digit for the indentation, not zero. `none` is a refusal. -/
def indentDigit? (c : Cursor) : Option (Nat × Cursor) :=
  match c.peek 0 with
  | some x =>
    if x.isDigit then (if x = '0' then none else some (x.toNat - 0x30, c.skip 1)) else some (0, c)
  | none => some (0, c)

/-- The signs after `|` or `>`, in either order. -/
def blockHeader? (c : Cursor) : Option (Chomp × Nat × Cursor) :=
  match chomp? c with
  | some h => (indentDigit? (c.skip 1)).map fun (n, c) => (h, n, c)
  | none =>
    (indentDigit? c).map fun (n, d) =>
      if n = 0 then (.clip, 0, d)
      else
        match chomp? d with
        | some h => (h, n, d.skip 1)
        | none => (.clip, n, d)

/-- The breaks and the indentation before a line of a block scalar, with
the greatest column seen. An indentation of zero is not known yet. -/
def blockBreaks? (indent : Nat) : Nat → List Char → Nat → Cursor → Option (List Char × Nat × Cursor)
  | 0, breaks, deepest, c => some (breaks, deepest, c)
  | fuel + 1, breaks, deepest, c =>
    let spaces := (c.rest.takeWhile (· = ' ')).length
    let c := c.skip (if indent = 0 then spaces else min spaces (indent - c.column))
    let deepest := max deepest c.column
    if (indent = 0 || c.column < indent) && c.isAt 0 '\t' then none
    else if c.isBreakHere then
      blockBreaks? indent fuel (breaks ++ c.breakText) deepest c.skipBreak
    else some (breaks, deepest, c)

/-- The lines of a block scalar in reverse, the break after the last of
them, the breaks after that, and the place where it ends. `blankBefore`
tells that the line before started with a blank. -/
def blockLines? (literal : Bool) (indent : Nat) :
    Nat → List Char → List Char → List Char → Bool → Cursor →
      Option (List Char × List Char × List Char × Cursor)
  | 0, out, last, more, _, c => some (out, last, more, c)
  | fuel + 1, out, last, more, blankBefore, c =>
    if c.column ≠ indent || c.rest.isEmpty then some (out, last, more, c)
    else
      let blank := c.isBlankHere
      let joint :=
        if !literal && last = ['\n'] && !blankBefore && !blank then
          if more.isEmpty then [' '] else more
        else last ++ more
      let line := c.rest.takeWhile (!isBreak ·)
      let d := c.skip line.length
      let out := line.reverse ++ (joint.reverse ++ out)
      let last := d.breakText
      let d := if d.isBreakHere then d.skipBreak else d
      match blockBreaks? indent (d.rest.length + 1) [] 0 d with
      | none => none
      | some (more, _, d) => blockLines? literal indent fuel out last more blank d

/-- A block scalar under a parent indented by `parent`. -/
def block? (literal : Bool) (parent : Int) (c : Cursor) : Option (Token × Cursor) := do
  let (chomp, given, c) ← blockHeader? (c.skip 1)
  let c := c.skipTrailing
  if !c.isLineEnd then none
  else
    let c := if c.isBreakHere then c.skipBreak else c
    let known := if given = 0 then 0 else ((max parent 0) + given).toNat
    let (more, deepest, c) ← blockBreaks? known (c.rest.length + 1) [] 0 c
    let indent := if known = 0 then max (max deepest (parent + 1).toNat) 1 else known
    let (out, last, more, c) ← blockLines? literal indent (c.rest.length + 1) [] [] more false c
    let tail := match chomp with
      | .strip => []
      | .clip => last
      | .keep => last ++ more
    some (scalar (out.reverse ++ tail) (if literal then .literal else .folded), c)

end Token

end CredentialRotation.Yaml
