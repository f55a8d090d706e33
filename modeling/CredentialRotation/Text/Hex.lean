import CredentialRotation.Text.Utf8

/-!
# Hexadecimal text

Two lower-case digits an octet on writing; either case on reading.
-/

namespace CredentialRotation.Hex

/-- The lower-case digit of a number below sixteen. -/
def digit (n : Nat) : Char :=
  if n < 10 then Char.ofNat (0x30 + n) else Char.ofNat (0x57 + n)

/-- The upper-case digit of a number below sixteen. -/
def upperDigit (n : Nat) : Char :=
  if n < 10 then Char.ofNat (0x30 + n) else Char.ofNat (0x37 + n)

/-- The value of a digit of either case. -/
def value? (c : Char) : Option Nat :=
  if '0' ≤ c ∧ c ≤ '9' then some (c.toNat - 0x30)
  else if 'a' ≤ c ∧ c ≤ 'f' then some (c.toNat - 0x57)
  else if 'A' ≤ c ∧ c ≤ 'F' then some (c.toNat - 0x37)
  else none

/-- The digits of octets, high half first. -/
def encode (bs : Bytes) : List Char :=
  bs.flatMap fun b => [digit (b.toNat / 16), digit (b.toNat % 16)]

/-- The octets of pairs of digits. -/
def decode? : List Char → Option Bytes
  | [] => some []
  | [_] => none
  | a :: b :: r => do
    let h ← value? a
    let l ← value? b
    let rest ← decode? r
    some ((16 * h + l).toUInt8 :: rest)

/-- The number that digits of either case spell, most significant first. -/
def number? (cs : List Char) : Option Nat :=
  cs.foldlM (fun n c => (value? c).map (16 * n + ·)) 0

/-- The upper-case digits of a number, without leading zeros. -/
def upperDigits (n : Nat) : List Char :=
  (Nat.toDigits 16 n).map Char.toUpper

/-- The hexadecimal text of octets. -/
def text (bs : Bytes) : String :=
  String.ofList (encode bs)

end CredentialRotation.Hex
