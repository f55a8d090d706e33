import CredentialRotation.Net.Ip
import CredentialRotation.Web.Form

/-!
# Addresses on the web

The text of an address goes through a cleaning before it is taken apart:
blanks at its ends and line breaks inside are dropped, letters of the
scheme and the host become small, `.` and `..` in the path are carried
out, and what a part cannot hold is escaped. So different texts can name
the same thing, and an address holds its parts as they are sent.

Some schemes are special: they always name a host, have a port of their
own, and take a backslash for a slash.

Names of hosts are read in Latin letters only (`host?`). A name in other
letters has a Latin form, with parts that start with `xn--`, and that is
the form in which an address holds it. What this file does not do is find
that form: a host that is named in other letters is refused, and a Latin
form is taken as it stands, whatever it is the form of. So all that is
said of addresses is said of those whose host is a number or has a name in
Latin letters.
-/

namespace CredentialRotation

/-- A host, with the text it is named by. -/
inductive WebHost
  | name (text : String)
  | ip (address : Ip)
deriving DecidableEq, Repr

/-- Where a host is found, and as whom it is asked. -/
structure Authority where
  user : String := ""
  password : Option String := none
  host : WebHost
  port : Option Nat := none
deriving DecidableEq, Repr

/-- A path: segments after slashes, or a text without structure. -/
inductive WebPath
  | segments (names : List String)
  | bare (text : String)
deriving DecidableEq, Repr

/-- An address on the web. -/
structure Url where
  scheme : String
  authority : Option Authority
  path : WebPath
  query : Option String
  fragment : Option String
deriving DecidableEq, Repr

namespace Url

/-! ## What the parts hold -/

/-- The octets that may stand anywhere in an address. -/
def isPrintable (b : UInt8) : Bool := 0x20 ≤ b && b < 0x7F

/-- Octets that may stand but for those of `marks`. -/
def allBut (marks : List Char) (b : UInt8) : Bool :=
  isPrintable b && !marks.any fun c => b.toNat = c.toNat

/-- The octets that a fragment holds as they are. -/
def plainFragment : UInt8 → Bool := allBut [' ', '"', '<', '>', '\x60']

/-- The octets that a query holds as they are. -/
def plainQuery (special : Bool) : UInt8 → Bool :=
  allBut ([' ', '"', '#', '<', '>'] ++ if special then [Char.ofNat 0x27] else [])

/-- The octets that a segment holds as they are. -/
def plainPath : UInt8 → Bool := allBut [' ', '"', '#', '<', '>', '?', '\x60', '\x7b', '\x7d']

/-- The octets that a user's name or password holds as they are. -/
def plainUser : UInt8 → Bool :=
  allBut [' ', '"', '#', '<', '>', '?', '\x60', '\x7b', '\x7d', '/', ':', ';', '=', '@', '[', '\\',
    ']', '^', '|']

/-- Characters as a part holds them. -/
def escaped (plain : UInt8 → Bool) (cs : List Char) : String :=
  String.ofList (Percent.encode plain (Utf8.encode cs))

/-! ## Schemes -/

/-- The special schemes, each with its port. -/
def specialSchemes : List (String × Option Nat) :=
  [("http", some 80), ("https", some 443), ("ws", some 80), ("wss", some 443), ("ftp", some 21),
    ("file", none)]

/-- Whether a scheme is special. -/
def isSpecial (scheme : String) : Bool := specialSchemes.any (·.1 = scheme)

/-- The port of a scheme. -/
def defaultPort? (scheme : String) : Option Nat :=
  (specialSchemes.find? (·.1 = scheme)).bind (·.2)

/-- The scheme that a text starts with, in small letters, and what follows
the colon. -/
def scheme? (cs : List Char) : Option (String × List Char) :=
  match Pieces.cutFirst ':' cs with
  | (c :: name, some rest) =>
    if c.isAlpha && name.all fun d => d.isAlphanum || d = '+' || d = '-' || d = '.' then
      some (String.ofList ((c :: name).map Char.toLower), rest)
    else none
  | _ => none

/-! ## Hosts -/

/-- Whether a character may not stand in the name of a host that something
can be asked of. An address could hold a quotation mark, a backtick or a
brace there, but a request to it could not, so those are refused when the
address is read and not when it is asked. -/
def isForbidden (c : Char) : Bool :=
  c.toNat ≤ 0x20 || 0x7F ≤ c.toNat
    || c ∈ ['"', '#', '%', '/', ':', '<', '>', '?', '@', '[', '\\', ']', '^', '\x60', '\x7b', '|',
      '\x7d']

/-- Whether the last part of a name is a number, so that the name has to
be an address. -/
def endsInNumber (name : List Char) : Bool :=
  let parts := Pieces.pieces '.' name
  let parts := if parts.getLast? = some [] then parts.dropLast else parts
  match parts.getLast? with
  | some last => (!last.isEmpty && last.all Char.isDigit) || (Ip.number? last).isSome
  | none => false

/-- The host of a special scheme: the address of a machine, or a name in
Latin letters. -/
def host? (cs : List Char) : Option WebHost :=
  match cs with
  | '[' :: rest =>
    if rest.getLast? = some ']' then (Ip.readV6? rest.dropLast).map .ip else none
  | _ =>
    let name := (Utf8.decodeLossy (Percent.decode (Utf8.encode cs))).map Char.toLower
    if name.isEmpty || name.any isForbidden then none
    else if endsInNumber name then
      (Ip.readLoose? (if name.getLast? = some '.' then name.dropLast else name)).map .ip
    else some (.name (String.ofList name))

/-- The host of a scheme that is not special. -/
def opaqueHost? (cs : List Char) : Option WebHost :=
  match cs with
  | '[' :: rest =>
    if rest.getLast? = some ']' then (Ip.readV6? rest.dropLast).map .ip else none
  | _ =>
    if cs.any fun c => c.toNat = 0 || c ∈ ['\t', '\n', '\r', ' ', '#', '/', ':', '<', '>', '?', '@',
        '[', '\\', ']', '^', '|'] then none
    else some (.name (escaped isPrintable cs))

/-- A port; that of the scheme is not kept. -/
def port? (scheme : String) (cs : List Char) : Option (Option Nat) :=
  if cs.isEmpty then some none
  else
    match Ip.decimal? cs with
    | none => none
    | some n => if n < 65536 then some (if defaultPort? scheme = some n then none else some n) else none

/-- A host and what follows the colon after it. A colon in brackets is
part of the host. -/
def cutPort (cs : List Char) : List Char × List Char :=
  match cs with
  | '[' :: _ =>
    match Pieces.cutLast ']' cs with
    | (some front, back) => (front ++ [']'], if back.head? = some ':' then back.drop 1 else back)
    | (none, _) => (cs, [])
  | _ =>
    let (host, port) := Pieces.cutFirst ':' cs
    (host, port.getD [])

/-- The authority between the slashes and the path. -/
def authority? (scheme : String) (cs : List Char) : Option Authority := do
  let (login, place) := Pieces.cutLast '@' cs
  let (host, port) := cutPort place
  let host ← if isSpecial scheme then host? host else opaqueHost? host
  let port ← port? scheme port
  match login with
  | none => some { host, port }
  | some login =>
    let (user, password) := Pieces.cutFirst ':' login
    some { user := escaped plainUser user, password := password.map (escaped plainUser), host, port }

/-! ## Paths -/

/-- The segments that stand for the same place, escaped or not. -/
def isHere (segment : List Char) : Bool :=
  segment.map Char.toLower ∈ [['.'], ['%', '2', 'e']]

/-- The segments that stand for the place above, escaped or not. -/
def isAbove (segment : List Char) : Bool :=
  segment.map Char.toLower ∈ [['.', '.'], ['.', '%', '2', 'e'], ['%', '2', 'e', '.'],
    ['%', '2', 'e', '%', '2', 'e']]

/-- One step along a path; the last one leaves an empty segment where it
stays or goes up. -/
def walk (names : List String) (segment : List Char) (isLast : Bool) : List String :=
  let stay (names : List String) := if isLast then names ++ [""] else names
  if isAbove segment then stay names.dropLast
  else if isHere segment then stay names
  else names ++ [escaped plainPath segment]

/-- All steps along a path. -/
def walkAll (names : List String) : List (List Char) → List String
  | [] => names
  | [last] => walk names last true
  | segment :: rest => walkAll (walk names segment false) rest

/-- The segments of a path that starts with a slash or is empty. -/
def segments (special : Bool) (cs : List Char) : List String :=
  let cs := if special then cs.map fun c => if c = '\\' then '/' else c else cs
  match cs with
  | [] => if special then [""] else []
  | '/' :: rest => walkAll [] (Pieces.pieces '/' rest)
  | cs => walkAll [] (Pieces.pieces '/' cs)

/-! ## Reading -/

/-- Whether a character is dropped at the ends of an address. -/
def isMargin (c : Char) : Bool := c.toNat ≤ 0x20

/-- An address without what is dropped from its text. -/
def clean (cs : List Char) : List Char :=
  let inner := ((cs.dropWhile isMargin).reverse.dropWhile isMargin).reverse
  inner.filter fun c => c ≠ '\t' ∧ c ≠ '\n' ∧ c ≠ '\r'

/-- Whether a character ends the authority. -/
def isSlash (special : Bool) (c : Char) : Bool := c = '/' || (special && c = '\\')

/-- The authority and the path of what follows the scheme. -/
def place? (scheme : String) (cs : List Char) : Option (Option Authority × WebPath) :=
  let special := isSpecial scheme
  let withAuthority (cs : List Char) : Option (Option Authority × WebPath) := do
    let named := cs.takeWhile fun c => !isSlash special c
    let path := WebPath.segments (segments special (cs.drop named.length))
    if scheme = "file" && named.isEmpty then some (none, path)
    else if named.isEmpty && !special then some (some { host := .name "" }, path)
    else some (← authority? scheme named, path)
  if special && scheme ≠ "file" then withAuthority (cs.dropWhile (isSlash true))
  else
    match cs with
    | c :: d :: rest =>
      if isSlash special c && isSlash special d then withAuthority rest
      else if isSlash special c || special then some (none, .segments (segments special cs))
      else some (none, .bare (escaped isPrintable cs))
    | [c] =>
      if isSlash special c || special then some (none, .segments (segments special cs))
      else some (none, .bare (escaped isPrintable cs))
    | [] => some (none, if special then .segments [""] else .bare "")

/-- The address that characters spell. -/
def ofChars? (cs : List Char) : Option Url := do
  let (scheme, rest) ← scheme? (clean cs)
  let (rest, fragment) := Pieces.cutFirst '#' rest
  let (rest, query) := Pieces.cutFirst '?' rest
  let (authority, path) ← place? scheme rest
  some { scheme, authority, path, query := query.map (escaped (plainQuery (isSpecial scheme))),
         fragment := fragment.map (escaped plainFragment) }

/-- The address that a text spells. -/
def ofText? (s : String) : Option Url := ofChars? s.toList

/-! ## Writing -/

variable (u : Url)

/-- The path as it is sent. -/
def pathText : String :=
  match u.path with
  | .segments names => String.join (names.map ("/" ++ ·))
  | .bare text => text

/-- The pairs of the query. -/
def pairs : List (String × String) :=
  match u.query with
  | none => []
  | some q => Form.decode (Bytes.ofString q)

/-- The address with pairs added to its query. -/
def addPairs (pairs : List (String × String)) : Url :=
  let given := u.query.getD ""
  let added := String.ofList (Form.encode pairs)
  { u with query := some (if given.isEmpty || pairs.isEmpty then given ++ added
      else given ++ "&" ++ added) }

/-- Whether a page can be asked for at the address. -/
def isWeb : Bool := u.scheme = "http" || u.scheme = "https"

end Url

end CredentialRotation
