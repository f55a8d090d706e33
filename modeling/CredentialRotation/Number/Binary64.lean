import CredentialRotation.Number.Integer

/-!
# Binary floating point

Numbers of sixty-four bits as exact values: a mantissa below `2 ^ 53`
and a power of two. `round` is the one place where precision is lost; it
takes a quotient of naturals to the nearest number, a tie to the even
mantissa. Products, quotients and the reading of decimals are exact
arithmetic followed by `round`.
-/

namespace CredentialRotation.Number

/-- A number of sixty-four bits. A finite one is `mantissa * 2 ^ exponent`
with `exponent` at least `-1074`, and with the mantissa as large as that
allows. -/
inductive Binary64
  | finite (negative : Bool) (mantissa : Nat) (exponent : Int)
  | infinite (negative : Bool)
  | nan
deriving DecidableEq, Repr

namespace Binary64

/-- The exponent of the numbers closest to zero. -/
def minExponent : Int := -1074

/-- The exponent of the numbers furthest from zero. -/
def maxExponent : Int := 971

/-- Zero, of either sign. -/
def zero (negative : Bool) : Binary64 := .finite negative 0 minExponent

/-- The quotient `num / (den * 2 ^ e)`, as numerator and denominator. -/
def scaled (num den : Nat) (e : Int) : Nat × Nat :=
  if e < 0 then (num * Nat.pow 2 (-e).toNat, den) else (num, den * Nat.pow 2 e.toNat)

/-- The natural nearest to a quotient, a tie to the even one. -/
def nearest (num den : Nat) : Nat :=
  let q := num / den
  let r := num % den
  if 2 * r < den then q
  else if 2 * r = den then q + q % 2
  else q + 1

/-- The number nearest to `num / den`, a tie to the even mantissa. -/
def round (negative : Bool) (num den : Nat) : Binary64 :=
  if num = 0 then zero negative
  else
    let e₀ : Int := (Nat.log2 num : Int) - (Nat.log2 den : Int) - 53
    let (n₀, d₀) := scaled num den e₀
    let e₁ := if n₀ / d₀ ≥ Nat.pow 2 53 then e₀ + 1 else e₀
    let e := max e₁ minExponent
    let (n, d) := scaled num den e
    let m := nearest n d
    let (m, e) := if m = Nat.pow 2 53 then (Nat.pow 2 52, e + 1) else (m, e)
    if e > maxExponent then .infinite negative else .finite negative m e

/-- The number nearest to a natural. -/
def ofNat (n : Nat) : Binary64 := round false n 1

/-- The same magnitude with the other sign. -/
def neg : Binary64 → Binary64
  | .finite s m e => .finite (!s) m e
  | .infinite s => .infinite (!s)
  | .nan => .nan

/-- The number nearest to an integer. -/
def ofInt (n : Int) : Binary64 :=
  if n < 0 then (ofNat n.natAbs).neg else ofNat n.natAbs

/-- Whether a number is zero, of either sign. -/
def isZero : Binary64 → Bool
  | .finite _ m _ => m = 0
  | _ => false

/-- Whether a number is neither infinite nor undefined. -/
def isFinite : Binary64 → Bool
  | .finite .. => true
  | _ => false

/-- The magnitude of a finite number as a quotient. -/
def quotient (m : Nat) (e : Int) : Nat × Nat :=
  if e < 0 then (m, Nat.pow 2 (-e).toNat) else (m * Nat.pow 2 e.toNat, 1)

/-- The product of two finite numbers that are not negative. -/
def mul : Binary64 → Binary64 → Binary64
  | .finite s m e, .finite t n f =>
    let (num, den) := quotient (m * n) (e + f)
    round (s != t) num den
  | _, _ => .nan

/-- The quotient of two finite numbers, the second not zero. -/
def div : Binary64 → Binary64 → Binary64
  | .finite s m e, .finite t n f =>
    let (num, den) := scaled m n (f - e)
    round (s != t) num den
  | _, _ => .nan

/-- The number nearest to `digits * 10 ^ exponent`. Exponents far out of
range are decided by the magnitude alone. -/
def ofDecimal (negative : Bool) (digits : Nat) (exponent : Int) : Binary64 :=
  if digits = 0 then zero negative
  else
    let magnitude := exponent + (decimal digits).length
    if magnitude > 400 then .infinite negative
    else if magnitude < -400 then zero negative
    else if exponent < 0 then round negative digits (Nat.pow 10 (-exponent).toNat)
    else round negative (digits * Nat.pow 10 exponent.toNat) 1

/-- The integer towards zero, cut to sixty-four bits with a sign; zero
for what is no number. -/
def truncate : Binary64 → Int
  | .nan => 0
  | .infinite s => if s then int64Min else int64Max
  | .finite s m e =>
    let (num, den) := quotient m e
    let n : Int := (num / den : Nat)
    if s then max int64Min (-n) else min int64Max n

/-- The integer nearest to a number, a half away from zero, cut to
sixty-four bits with a sign; zero for what is no number. -/
def nearestInt : Binary64 → Int
  | .nan => 0
  | .infinite s => if s then int64Min else int64Max
  | .finite s m e =>
    let (num, den) := quotient m e
    let n : Int := ((2 * num + den) / (2 * den) : Nat)
    if s then max int64Min (-n) else min int64Max n

/-- Whether two numbers are the same number: zeros are, whatever their
sign, and so are two that are undefined. -/
def same : Binary64 → Binary64 → Bool
  | .nan, .nan => true
  | .infinite s, .infinite t => s = t
  | .finite s m e, .finite t n f => (m = 0 && n = 0) || (s = t && m = n && e = f)
  | _, _ => false

/-- The sixty-four bits. -/
def bits : Binary64 → Nat
  | .nan => 0x7FF8000000000000
  | .infinite s => (if s then Nat.pow 2 63 else 0) + 0x7FF0000000000000
  | .finite s m e =>
    (if s then Nat.pow 2 63 else 0)
      + (if m < Nat.pow 2 52 then m
        else ((e - minExponent).toNat + 1) * Nat.pow 2 52 + (m - Nat.pow 2 52))

end Binary64

end CredentialRotation.Number
