import CredentialRotation.Text.Utf8

/-!
# The characters of a YAML stream

A stream is octets in UTF-8, or in UTF-16 when it starts with the byte
order mark of that encoding. A byte order mark at the start is no part of
the text. Every character has to be one the format allows, which leaves
out control characters and the two noncharacters at the end of the basic
plane.
-/

namespace CredentialRotation.Yaml

/-- Whether a character may stand in a stream. -/
def isAllowed (c : Char) : Bool :=
  let n := c.toNat
  n = 0x09 || n = 0x0A || n = 0x0D || (0x20 ≤ n && n ≤ 0x7E) || n = 0x85
    || (0xA0 ≤ n && n ≤ 0xD7FF) || (0xE000 ≤ n && n ≤ 0xFFFD) || 0x10000 ≤ n

/-- The code units of octets taken in pairs. -/
def units? (bigEndian : Bool) : Bytes → Option (List Nat)
  | [] => some []
  | [_] => none
  | a :: b :: r =>
    let u := if bigEndian then a.toNat * 256 + b.toNat else b.toNat * 256 + a.toNat
    (units? bigEndian r).map (u :: ·)

/-- The characters of code units, surrogates in pairs. -/
def ofUnits? : List Nat → Option (List Char)
  | [] => some []
  | u :: r =>
    if 0xD800 ≤ u ∧ u ≤ 0xDBFF then
      match r with
      | v :: r' =>
        if 0xDC00 ≤ v ∧ v ≤ 0xDFFF then
          (ofUnits? r').map (Char.ofNat (0x10000 + (u - 0xD800) * 1024 + (v - 0xDC00)) :: ·)
        else none
      | [] => none
    else if 0xDC00 ≤ u ∧ u ≤ 0xDFFF then none
    else (ofUnits? r).map (Char.ofNat u :: ·)

/-- The characters of octets in the encoding their mark announces. -/
def decode? : Bytes → Option (List Char)
  | 0xFF :: 0xFE :: r => (units? false r).bind ofUnits?
  | 0xFE :: 0xFF :: r => (units? true r).bind ofUnits?
  | 0xEF :: 0xBB :: 0xBF :: r => Utf8.decode? r
  | r => Utf8.decode? r

/-- The text of a stream. -/
def source? (bs : Bytes) : Option (List Char) :=
  (decode? bs).filter (·.all isAllowed)

end CredentialRotation.Yaml
