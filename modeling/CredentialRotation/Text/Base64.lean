import CredentialRotation.Text.Utf8

/-!
# Base64

One codec for the two alphabets in use: the standard one with padding,
which armours keys and certificates, and the URL-safe one without, which
carries the parts of a token. Reading is strict: the bits a last group
leaves over must be zero, and padding is required or refused as the
alphabet says.
-/

namespace CredentialRotation.Base64

/-- The last two digits of an alphabet, and whether a short last group is
filled up with `=`. -/
structure Alphabet where
  digit62 : Char
  digit63 : Char
  padded : Bool
deriving DecidableEq, Repr

/-- The standard alphabet, with padding. -/
def standard : Alphabet := ⟨'+', '/', true⟩

/-- The URL-safe alphabet, without padding. -/
def urlSafe : Alphabet := ⟨'-', '_', false⟩

variable (a : Alphabet)

/-- The digit of a number below sixty-four. -/
def Alphabet.digit (n : Nat) : Char :=
  if n < 26 then Char.ofNat (0x41 + n)
  else if n < 52 then Char.ofNat (0x47 + n)
  else if n < 62 then Char.ofNat (n - 4)
  else if n = 62 then a.digit62
  else a.digit63

/-- The value of a digit. -/
def Alphabet.value? (c : Char) : Option Nat :=
  if 'A' ≤ c ∧ c ≤ 'Z' then some (c.toNat - 0x41)
  else if 'a' ≤ c ∧ c ≤ 'z' then some (c.toNat - 0x47)
  else if '0' ≤ c ∧ c ≤ '9' then some (c.toNat + 4)
  else if c = a.digit62 then some 62
  else if c = a.digit63 then some 63
  else none

/-- The fill of a group that is `n` digits short. -/
def Alphabet.fill (n : Nat) : List Char :=
  if a.padded then List.replicate n '=' else []

/-- The digits of octets, four to every three. -/
def encode : Bytes → List Char
  | [] => []
  | [x] =>
    let n := x.toNat * 16
    [a.digit (n / 64), a.digit (n % 64)] ++ a.fill 2
  | [x, y] =>
    let n := (x.toNat * 256 + y.toNat) * 4
    [a.digit (n / 4096), a.digit (n / 64 % 64), a.digit (n % 64)] ++ a.fill 1
  | x :: y :: z :: r =>
    let n := x.toNat * 65536 + y.toNat * 256 + z.toNat
    a.digit (n / 262144) :: a.digit (n / 4096 % 64) :: a.digit (n / 64 % 64) :: a.digit (n % 64)
      :: encode r

/-- The octets of a last group, its fill taken off. -/
def decodeLast? : List Char → Option Bytes
  | [] => some []
  | [p, q] => do
    let p ← a.value? p
    let q ← a.value? q
    if q % 16 = 0 then some [(p * 4 + q / 16).toUInt8] else none
  | [p, q, r] => do
    let p ← a.value? p
    let q ← a.value? q
    let r ← a.value? r
    if r % 4 = 0 then some [(p * 4 + q / 16).toUInt8, (q % 16 * 16 + r / 4).toUInt8] else none
  | _ => none

/-- The octets of digits, `none` unless the text is exactly a written
form. -/
def decode? : List Char → Option Bytes
  | p :: q :: r :: s :: rest =>
    if a.padded && s = '=' then
      if rest.isEmpty then
        if r = '=' then decodeLast? a [p, q] else decodeLast? a [p, q, r]
      else none
    else do
      let p ← a.value? p
      let q ← a.value? q
      let r ← a.value? r
      let s ← a.value? s
      let tail ← decode? rest
      some ((p * 4 + q / 16).toUInt8 :: (q % 16 * 16 + r / 4).toUInt8
        :: (r % 4 * 64 + s).toUInt8 :: tail)
  | last => if a.padded then (if last.isEmpty then some [] else none) else decodeLast? a last

end CredentialRotation.Base64
