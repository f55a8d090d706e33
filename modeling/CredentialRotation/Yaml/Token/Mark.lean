import CredentialRotation.Text.Hex
import CredentialRotation.Number.Integer
import CredentialRotation.Yaml.Token.Basic
import CredentialRotation.Yaml.Token.Cursor

/-!
# Directives, anchors, aliases and tags

The tokens that begin with a sign and go on with a name or a URI. Each
reader starts at the sign and gives the token with the place after it.
-/

namespace CredentialRotation.Yaml

namespace Token

/-- The name at a cursor and the place after it. -/
def name (c : Cursor) : List Char × Cursor :=
  let cs := c.rest.takeWhile isNameChar
  (cs, c.skip cs.length)

/-- An anchor or an alias. Only a blank, a break or a sign that cannot be
part of a name may follow. -/
def anchor? (isAlias : Bool) (c : Cursor) : Option (Token × Cursor) :=
  let (cs, c) := name (c.skip 1)
  let ends := c.isGap 0
    || (c.peek 0).any fun x => x ∈ ['?', ':', ',', ']', '}', '%', '@', '`']
  if cs.isEmpty || !ends then none
  else some (if isAlias then .alias cs else .anchor cs, c)

/-! ## Tags -/

/-- A character of the URI in a tag; `full` admits the signs that flow
collections use. -/
def isUriChar (full : Bool) (c : Char) : Bool :=
  isNameChar c || c ∈ [';', '/', '?', ':', '@', '&', '=', '+', '$', '.', '!', '~', '*', '\'', '(', ')']
    || (full && c ∈ [',', '[', ']'])

/-- The octet of an escape in a URI. -/
def escapedOctet? : List Char → Option UInt8
  | '%' :: a :: b :: _ => (Hex.number? [a, b]).map Nat.toUInt8
  | _ => none

/-- The octets of escapes that finish a character. -/
def escapedTails? : Nat → List Char → Option Bytes
  | 0, _ => some []
  | n + 1, cs => do
    let b ← escapedOctet? cs
    if 0x80 ≤ b ∧ b ≤ 0xBF then (escapedTails? n (cs.drop 3)).map (b :: ·) else none

/-- The character of a run of escapes, and how many there are. -/
def escapedChar? (cs : List Char) : Option (Char × Nat) := do
  let a ← escapedOctet? cs
  let n ←
    if a < 0x80 then some 0
    else if 0xC0 ≤ a ∧ a < 0xE0 then some 1
    else if 0xE0 ≤ a ∧ a < 0xF0 then some 2
    else if 0xF0 ≤ a ∧ a < 0xF8 then some 3
    else none
  let tails ← escapedTails? n (cs.drop 3)
  match Utf8.decode? (a :: tails) with
  | some [c] => some (c, n + 1)
  | _ => none

/-- The characters of a URI, escapes resolved, and the number of places
they take. -/
def uriChars? (full : Bool) : Nat → List Char → Option (List Char × Nat)
  | 0, _ => some ([], 0)
  | fuel + 1, cs =>
    match cs with
    | '%' :: _ => do
      let (c, n) ← escapedChar? cs
      let (rest, k) ← uriChars? full fuel (cs.drop (3 * n))
      some (c :: rest, 3 * n + k)
    | c :: r =>
      if isUriChar full c then
        (uriChars? full fuel r).map fun (rest, k) => (c :: rest, k + 1)
      else some ([], 0)
    | [] => some ([], 0)

/-- A URI and the place after it. -/
def uri? (full : Bool) (c : Cursor) : Option (List Char × Cursor) :=
  (uriChars? full (c.rest.length + 1) c.rest).map fun (cs, k) => (cs, c.skip k)

/-- A handle: `!`, a name or nothing, and a second `!` if one follows. -/
def handle? (c : Cursor) : Option (List Char × Cursor) :=
  if c.isAt 0 '!' then
    let (cs, d) := name (c.skip 1)
    if d.isAt 0 '!' then some ('!' :: cs ++ ['!'], d.skip 1) else some ('!' :: cs, d)
  else none

/-- A tag. After `!<` it is a URI in full. Otherwise a handle with a `!`
at both ends is followed by a suffix; anything else belongs to the suffix
of the handle `!`, and the tag `!` alone has no handle. -/
def tag? (inFlow : Bool) (c : Cursor) : Option (Token × Cursor) := do
  let (token, c) ←
    if c.isAt 1 '<' then do
      let (cs, c) ← uri? true (c.skip 2)
      if cs.isEmpty || !c.isAt 0 '>' then none else some (tag [] cs, c.skip 1)
    else do
      let (h, d) ← handle? c
      if h.length > 1 && h.getLast? == some '!' then do
        let (cs, e) ← uri? false d
        if cs.isEmpty then none else some (tag h cs, e)
      else do
        let (cs, e) ← uri? false d
        let suffix := h.drop 1 ++ cs
        some (if suffix.isEmpty then tag [] ['!'] else tag ['!'] suffix, e)
  if (inFlow && c.isAt 0 ',') || c.isGap 0 then some (token, c) else none

/-! ## Directives -/

/-- A number of a version: at most nine digits. -/
def versionNumber? (c : Cursor) : Option (Nat × Cursor) :=
  let ds := c.rest.takeWhile Char.isDigit
  if ds.length > 9 then none
  else (Number.natural? 10 ds).map fun n => (n, c.skip ds.length)

/-- A directive, with the rest of its line. -/
def directive? (c : Cursor) : Option (Token × Cursor) := do
  let (word, c) := name (c.skip 1)
  if word.isEmpty || !c.isGap 0 then none
  else
    let c := c.skipWhile isBlank
    let (token, c) ←
      match String.ofList word with
      | "YAML" => do
        let (major, c) ← versionNumber? c
        if c.isAt 0 '.' then do
          let (minor, c) ← versionNumber? (c.skip 1)
          some (versionDirective major minor, c)
        else none
      | "TAG" => do
        let (h, c) ← handle? c
        if (h.length > 1 && h.getLast? ≠ some '!') || !c.isBlankHere then none
        else do
          let (cs, c) ← uri? true (c.skipWhile isBlank)
          if cs.isEmpty || !c.isGap 0 then none else some (tagDirective h cs, c)
      | _ => none
    let c := c.skipTrailing
    if c.isLineEnd then some (token, if c.isBreakHere then c.skipBreak else c) else none

end Token

end CredentialRotation.Yaml
