import CredentialRotation.Json.Node
import CredentialRotation.Number.Numeric

/-!
# JSON values

The value of a node: numbers in range, text well formed, each name of an
object once. A whole number without fraction or exponent is an integer
where sixty-four bits hold it; every other number is binary, and so is
`-0`. Of a repeated name the last value counts, and the names of an
object are in order. Values nest `Json.maxDepth` deep at most.

`Json.print` is the compact text of a value.
-/

namespace CredentialRotation

namespace Json

open Number

/-- How deep a value may nest. -/
def maxDepth : Nat := 127

/-! ## Numbers -/

/-- The greatest exponent a number can be written with. -/
def maxExponent : Nat := 2147483647

/-- The digits of the whole part that fit sixty-four bits, and the number
of digits that do not. -/
def wholeDigits (cs : List Char) : Nat × Nat :=
  cs.foldl (fun (n, dropped) c =>
    let m := 10 * n + (c.toNat - 0x30)
    if dropped = 0 ∧ m ≤ nat64Max then (m, 0) else (n, dropped + 1)) (0, 0)

/-- The digits so far continued by those of a fraction, up to the first
that does not fit sixty-four bits, and the number of digits used. -/
def fractionDigits (n : Nat) : List Char → Nat × Nat
  | [] => (n, 0)
  | c :: cs =>
    let m := 10 * n + (c.toNat - 0x30)
    if m ≤ nat64Max then
      let (k, used) := fractionDigits m cs
      (k, used + 1)
    else (n, 0)

/-- A power of ten, rounded once. -/
def powerOfTen (k : Nat) : Binary64 := .ofDecimal false 1 k

/-- A number times a power of ten, rounded once for each factor of at most
`10 ^ 308`. `none` when it grows out of range. -/
def scale? (x : Binary64) (e : Int) : Option Binary64 :=
  if 0 ≤ e then
    if e ≤ 308 then (some (x.mul (powerOfTen e.toNat))).filter Binary64.isFinite
    else if x.isZero then some x
    else none
  else if -308 ≤ e then some (x.div (powerOfTen (-e).toNat))
  else if x.isZero then some x
  else scale? (x.div (powerOfTen 308)) (e + 308)
termination_by (-e).toNat
decreasing_by omega

/-- The binary number of a lexeme. -/
def Lexeme.binary? (l : Lexeme) : Option Binary64 :=
  let (whole, dropped) := wholeDigits l.whole
  let (n, used) := fractionDigits whole l.fraction
  let e : Int := (dropped : Int) - used
  let magnitude : Option Binary64 :=
    match l.exponent with
    | none => scale? (.ofNat n) e
    | some (negative, ds) =>
      let x := Numeral.run ds
      if x > maxExponent then (if n ≠ 0 ∧ !negative then none else some (.zero false))
      else scale? (.ofNat n) (if negative then e - x else e + x)
  magnitude.map fun x => if l.negative then x.neg else x

/-- The number of a lexeme. -/
def Lexeme.numeric? (l : Lexeme) : Option Numeric :=
  if l.fraction.isEmpty && l.exponent.isNone then
    let n := Numeral.run l.whole
    if n ≤ nat64Max then
      if !l.negative then some (.integer n)
      else if n = 0 ∨ -(n : Int) < int64Min then some (.binary (Binary64.ofNat n).neg)
      else some (.integer (-(n : Int)))
    else l.binary?.map .binary
  else l.binary?.map .binary

end Json

/-- A JSON value. -/
inductive Json
  | null
  | bool (b : Bool)
  | number (n : Number.Numeric)
  | string (s : String)
  | array (items : List Json)
  | object (members : List (String × Json))

namespace Json

/-- Members in order of their names, with `x` for the name `k`. -/
def setMember (k : String) (x : Json) : List (String × Json) → List (String × Json)
  | [] => [(k, x)]
  | (k', x') :: rest =>
    if k = k' then (k, x) :: rest
    else if k < k' then (k, x) :: (k', x') :: rest
    else (k', x') :: setMember k x rest

/-- The members of pairs in which later ones count. -/
def membersOf (pairs : List (String × Json)) : List (String × Json) :=
  pairs.foldl (fun ms (k, x) => setMember k x ms) []

/-- The value of a node that nests at most `depth` deep. -/
def ofNode? : Nat → Node → Option Json
  | _, .null => some .null
  | _, .bool b => some (.bool b)
  | _, .number l => l.numeric?.map .number
  | _, .string s => s.map .string
  | 0, .array _ => none
  | 0, .object _ => none
  | depth + 1, .array xs => (xs.mapM (ofNode? depth)).map .array
  | depth + 1, .object ms =>
    (ms.mapM fun (m : Option String × Node) =>
        m.1.bind fun k => (ofNode? depth m.2).map fun x => (k, x)).map
      fun pairs => .object (membersOf pairs)

/-- The value a string spells. -/
def ofText? (s : String) : Option Json := (Node.ofText? s).bind (ofNode? maxDepth)

/-- The value of a member. -/
def member? (members : List (String × Json)) (name : String) : Option Json :=
  (members.find? (·.1 = name)).map (·.2)

/-! ## Printing -/

/-- A character of a string as it is written. -/
def escapeChar (c : Char) : List Char :=
  if c = '"' then ['\\', '"']
  else if c = '\\' then ['\\', '\\']
  else if c = '\n' then ['\\', 'n']
  else if c = '\r' then ['\\', 'r']
  else if c = '\t' then ['\\', 't']
  else if c = '\x08' then ['\\', 'b']
  else if c = '\x0c' then ['\\', 'f']
  else if c.toNat < 0x20 then
    ['\\', 'u', '0', '0', Hex.digit (c.toNat / 16), Hex.digit (c.toNat % 16)]
  else [c]

/-- A string as it is written. -/
def printString (s : String) : List Char :=
  '"' :: s.toList.flatMap escapeChar ++ ['"']

/-- Texts with a comma between each two. -/
def joinComma : List (List Char) → List Char
  | [] => []
  | [x] => x
  | x :: rest => x ++ ',' :: joinComma rest

mutual

/-- The compact text of a value. -/
def print : Json → List Char
  | .null => ['n', 'u', 'l', 'l']
  | .bool b => if b then ['t', 'r', 'u', 'e'] else ['f', 'a', 'l', 's', 'e']
  | .number n => n.text ['n', 'u', 'l', 'l'] ['n', 'u', 'l', 'l']
  | .string s => printString s
  | .array xs => '[' :: joinComma (printItems xs) ++ [']']
  | .object ms => '{' :: joinComma (printMembers ms) ++ ['}']

/-- The texts of items. -/
def printItems : List Json → List (List Char)
  | [] => []
  | x :: xs => print x :: printItems xs

/-- The texts of members. -/
def printMembers : List (String × Json) → List (List Char)
  | [] => []
  | (k, x) :: ms => (printString k ++ ':' :: print x) :: printMembers ms

end

/-- The compact text of a value. -/
def text (x : Json) : String := String.ofList x.print

/-- An integer. -/
def ofInt (n : Int) : Json := .number (.integer n)

end Json

end CredentialRotation
