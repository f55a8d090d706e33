import CredentialRotation.Text.Hex

/-!
# Integers in text

Digits in a radix, an optional sign, and the range a reader asks for.
No blanks, no separators, and no empty run of digits.
-/

namespace CredentialRotation.Number

/-- The least and the greatest integer of sixty-four bits with a sign. -/
def int64Min : Int := -9223372036854775808
@[inherit_doc int64Min] def int64Max : Int := 9223372036854775807

/-- The greatest integer of sixty-four bits without a sign. -/
def nat64Max : Nat := 18446744073709551615

/-- The greatest integer of a hundred and twenty-eight bits without a sign. -/
def nat128Max : Nat := 340282366920938463463374607431768211455

/-- The value of a digit in radix `radix`, of either case. -/
def digit? (radix : Nat) (c : Char) : Option Nat :=
  (Hex.value? c).filter (· < radix)

/-- The number a non-empty run of digits spells. -/
def natural? (radix : Nat) (cs : List Char) : Option Nat :=
  if cs.isEmpty then none
  else cs.foldlM (fun n c => (digit? radix c).map (radix * n + ·)) 0

/-- The number that digits spell, with `+` or `-` before them or
neither. -/
def integer? (radix : Nat) : List Char → Option Int
  | '+' :: cs => (natural? radix cs).map Int.ofNat
  | '-' :: cs => (natural? radix cs).map fun n => -Int.ofNat n
  | cs => (natural? radix cs).map Int.ofNat

/-- `integer?` for what lies between `lo` and `hi`. -/
def integerIn? (radix : Nat) (lo hi : Int) (cs : List Char) : Option Int :=
  (integer? radix cs).filter fun n => lo ≤ n && n ≤ hi

/-- The decimal digits of a number. -/
def decimal (n : Nat) : List Char :=
  Nat.toDigits 10 n

/-- The decimal digits of a number, filled up with zeros to `width`. -/
def decimalPadded (width n : Nat) : List Char :=
  let ds := decimal n
  List.replicate (width - ds.length) '0' ++ ds

/-- An integer in decimal, with a sign only below zero. -/
def signedDecimal (n : Int) : List Char :=
  if n < 0 then '-' :: decimal n.natAbs else decimal n.natAbs

end CredentialRotation.Number
