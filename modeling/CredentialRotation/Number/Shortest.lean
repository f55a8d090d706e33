import CredentialRotation.Number.Binary64

/-!
# The shortest decimal of a binary number

`Binary64.shortest` finds the fewest digits that read back to the same
number, and among those the nearest. A number is the only one that the
decimals of an interval around it read back to; the interval reaches
half way to either neighbour, its ends included when the mantissa is
even. For each count of digits the two neighbours on that decimal grid
are tried in exact arithmetic, and the first count with a hit wins.

`Binary64.text` is the spelling used in every document written here.
-/

namespace CredentialRotation.Number.Binary64

/-- The greatest `k` with `10 ^ k ≤ num / den`, for a positive quotient;
`fuel` bounds how far below one it looks. -/
def decimalExponent (num den : Nat) (fuel : Nat) : Int :=
  if num ≥ den then ((decimal (num / den)).length : Int) - 1
  else
    match fuel with
    | 0 => 0
    | fuel + 1 => decimalExponent (num * 10) den fuel - 1

/-- `d` without the zeros it ends with, and `e` raised for each. -/
def stripZeros (fuel d : Nat) (e : Int) : Nat × Int :=
  match fuel with
  | 0 => (d, e)
  | fuel + 1 => if d ≠ 0 ∧ d % 10 = 0 then stripZeros fuel (d / 10) (e + 1) else (d, e)

/-- The neighbours of `num / den` on the grid of multiples of `10 ^ e`
that lie between `lo / den` and `hi / den`, the nearer one first choice
and the even one in a tie. -/
def onGrid? (num den lo hi : Nat) (closed : Bool) (e : Int) : Option Nat :=
  let up := if e < 0 then Nat.pow 10 (-e).toNat else 1
  let down := if e < 0 then 1 else Nat.pow 10 e.toNat
  let n := num * up
  let d := den * down
  let c := n / d
  let inside (x : Nat) : Bool :=
    if closed then lo * up ≤ x * d && x * d ≤ hi * up else lo * up < x * d && x * d < hi * up
  match inside c, inside (c + 1) with
  | false, false => none
  | true, false => some c
  | false, true => some (c + 1)
  | true, true => some (nearest n d)

/-- The first count of digits, from `17 - fuel` on, that has a hit. -/
def firstHit (num den lo hi : Nat) (closed : Bool) (top : Int) : Nat → Nat × Int
  | 0 => (num / den, 0)
  | fuel + 1 =>
    let e := top - (16 - fuel : Nat)
    match onGrid? num den lo hi closed e with
    | some d => stripZeros 20 d e
    | none => firstHit num den lo hi closed top fuel

/-- The shortest decimal `d * 10 ^ e` of a positive number `m * 2 ^ q`. -/
def shortest (m : Nat) (q : Int) : Nat × Int :=
  let below := if m = Nat.pow 2 52 ∧ q > minExponent then 1 else 2
  let (num, den) := quotient (4 * m) (q - 2)
  let unit := num / (4 * m)
  let lo := num - below * unit
  let hi := num + 2 * unit
  firstHit num den lo hi (m % 2 = 0) (decimalExponent num den 400) 17

/-- The spelling of a decimal `d * 10 ^ e`: positional while the point
falls within sixteen digits or at most five places before the first, and
otherwise with an exponent. A positional number always shows a
fraction. -/
def spell (d : Nat) (e : Int) : List Char :=
  let ds := decimal d
  let point : Int := e + ds.length
  if 0 ≤ e ∧ point ≤ 16 then ds ++ List.replicate e.toNat '0' ++ ['.', '0']
  else if 0 < point ∧ point ≤ 16 then ds.take point.toNat ++ '.' :: ds.drop point.toNat
  else if -5 < point ∧ point ≤ 0 then '0' :: '.' :: List.replicate (-point).toNat '0' ++ ds
  else
    let tail := 'e' :: signedDecimal (point - 1)
    match ds with
    | [x] => x :: tail
    | x :: rest => x :: '.' :: rest ++ tail
    | [] => tail

/-- The text of a finite number. -/
def finiteText (negative : Bool) (m : Nat) (e : Int) : List Char :=
  let sign := if negative then ['-'] else []
  if m = 0 then sign ++ ['0', '.', '0']
  else
    let (d, x) := shortest m e
    sign ++ spell d x

end CredentialRotation.Number.Binary64
