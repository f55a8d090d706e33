import CredentialRotation.Text.Hex

/-!
# Percent escapes

An octet that a place cannot hold is written as `%` and two upper-case
digits. Which octets a place can hold is for the place to say. Reading
takes every escape back, and takes a `%` that starts none for itself.
-/

namespace CredentialRotation.Percent

/-- The escape of an octet. -/
def escape (b : UInt8) : List Char :=
  ['%', Hex.upperDigit (b.toNat / 16), Hex.upperDigit (b.toNat % 16)]

/-- Octets as text, those that are not `plain` escaped. -/
def encode (plain : UInt8 → Bool) (bs : Bytes) : List Char :=
  bs.flatMap fun b => if plain b then [Char.ofNat b.toNat] else escape b

/-- The octet that two digits spell. -/
def octet? (high low : UInt8) : Option UInt8 := do
  let h ← Hex.value? (Char.ofNat high.toNat)
  let l ← Hex.value? (Char.ofNat low.toNat)
  some (16 * h + l).toUInt8

/-- Octets with all escapes taken back. -/
def decode : Bytes → Bytes
  | 0x25 :: h :: l :: r =>
    match octet? h l with
    | some b => b :: decode r
    | none => 0x25 :: decode (h :: l :: r)
  | b :: r => b :: decode r
  | [] => []

end CredentialRotation.Percent
