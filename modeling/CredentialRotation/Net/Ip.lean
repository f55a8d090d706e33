import CredentialRotation.Text.Hex
import CredentialRotation.Text.Pieces

/-!
# Addresses of machines

An address is four octets, or eight groups of sixteen bits. Text has one
strict form for each (`Ip.readV4?`, `Ip.readV6?`). The older, looser
forms of the short address, with fewer parts and with other bases, are
read by `Ip.readLoose?`.
-/

namespace CredentialRotation

/-- The address of a machine. -/
inductive Ip
  | v4 (a b c d : UInt8)
  | v6 (groups : List UInt16)
deriving DecidableEq, Repr

namespace Ip

/-! ## Writing -/

/-- Four octets in text. -/
def v4Text (a b c d : Nat) : String := s!"{a}.{b}.{c}.{d}"

/-- Where the longest run of zeros starts and how long it is. -/
def longestZeros (groups : List UInt16) : Nat × Nat :=
  ((List.range groups.length).map fun i => (i, ((groups.drop i).takeWhile (· = 0)).length)).foldl
    (fun best run => if best.2 < run.2 then run else best) (0, 0)

/-- Groups with a colon between them. -/
def joinGroups (groups : List UInt16) : String :=
  ":".intercalate (groups.map fun g => String.ofList (Nat.toDigits 16 g.toNat))

/-- Eight groups in text, the longest run of two or more zeros left
out. -/
def groupsText (groups : List UInt16) : String :=
  let (start, length) := longestZeros groups
  if 2 ≤ length then
    joinGroups (groups.take start) ++ "::" ++ joinGroups (groups.drop (start + length))
  else joinGroups groups

/-- An address in text. A short address inside a long one keeps its
points. -/
def text : Ip → String
  | .v4 a b c d => v4Text a.toNat b.toNat c.toNat d.toNat
  | .v6 [0, 0, 0, 0, 0, 0xFFFF, x, y] =>
    "::ffff:" ++ v4Text (x.toNat / 256) (x.toNat % 256) (y.toNat / 256) (y.toNat % 256)
  | .v6 groups => groupsText groups

/-! ## Reading -/

/-- The number that decimal digits spell. -/
def decimal? (cs : List Char) : Option Nat :=
  if cs.isEmpty then none
  else cs.foldlM (fun n c => if c.isDigit then some (10 * n + (c.toNat - 0x30)) else none) 0

/-- One of four octets: up to three digits without a leading zero. -/
def octet? (cs : List Char) : Option UInt8 :=
  match decimal? cs with
  | none => none
  | some n =>
    if cs.length ≤ 3 ∧ n < 256 ∧ (cs.head? ≠ some '0' ∨ cs.length = 1) then some n.toUInt8 else none

/-- Four octets. -/
def readV4? (cs : List Char) : Option Ip :=
  match (Pieces.pieces '.' cs).mapM octet? with
  | some [a, b, c, d] => some (.v4 a b c d)
  | _ => none

/-- A group of up to four digits. -/
def group? (cs : List Char) : Option UInt16 :=
  if cs.isEmpty ∨ 4 < cs.length then none else (Hex.number? cs).map Nat.toUInt16

/-- Groups with a colon between them, none for no text. The last may be a
short address that stands for two. -/
def groups? (endsHere : Bool) (cs : List Char) : Option (List UInt16) :=
  if cs.isEmpty then some []
  else
    let parts := Pieces.pieces ':' cs
    match parts.getLast?.bind readV4?, endsHere with
    | some (.v4 a b c d), true => do
      let front ← parts.dropLast.mapM group?
      some (front ++ [(256 * a.toNat + b.toNat).toUInt16, (256 * c.toNat + d.toNat).toUInt16])
    | _, _ => parts.mapM group?

/-- What stands before and after the first pair of colons. -/
def cutColons : List Char → List Char × Option (List Char)
  | ':' :: ':' :: r => ([], some r)
  | c :: r =>
    let (before, after) := cutColons r
    (c :: before, after)
  | [] => ([], none)

/-- Eight groups, or fewer around one pair of colons. -/
def readV6? (cs : List Char) : Option Ip :=
  match cutColons cs with
  | (all, none) => do
    let groups ← groups? true all
    if groups.length = 8 then some (.v6 groups) else none
  | (front, some back) => do
    let front ← groups? false front
    let back ← groups? true back
    let given := front.length + back.length
    if given < 8 then some (.v6 (front ++ List.replicate (8 - given) 0 ++ back)) else none

/-- The number that digits spell in the base that they start with. -/
def number? : List Char → Option Nat
  | [] => none
  | '0' :: 'x' :: cs | '0' :: 'X' :: cs => Hex.number? cs
  | '0' :: cs =>
    cs.foldlM (fun n c => if '0' ≤ c ∧ c ≤ '7' then some (8 * n + (c.toNat - 0x30)) else none) 0
  | cs => decimal? cs

/-- The number of one to four parts, of which the last fills all octets
that are left. -/
def ofParts? : List Nat → Option Nat
  | [n] => if n < Nat.pow 256 4 then some n else none
  | [a, n] => if a < 256 ∧ n < Nat.pow 256 3 then some (a * Nat.pow 256 3 + n) else none
  | [a, b, n] =>
    if a < 256 ∧ b < 256 ∧ n < Nat.pow 256 2 then some ((a * 256 + b) * Nat.pow 256 2 + n) else none
  | [a, b, c, n] =>
    if a < 256 ∧ b < 256 ∧ c < 256 ∧ n < 256 then some (((a * 256 + b) * 256 + c) * 256 + n)
    else none
  | _ => none

/-- A short address in one of the loose forms. -/
def readLoose? (cs : List Char) : Option Ip := do
  let n ← ofParts? (← (Pieces.pieces '.' cs).mapM number?)
  some (.v4 (n / Nat.pow 256 3).toUInt8 (n / Nat.pow 256 2).toUInt8 (n / 256).toUInt8 n.toUInt8)

end Ip

end CredentialRotation
