import CredentialRotation.Asn1.Element
import CredentialRotation.Time.Calendar

/-!
# Certificates

An X.509 certificate is read as far as it takes to know that it is one,
and whether its holder may issue others. Octets after a certificate, and
elements after those that a part of it must have, are passed over. An
extension must have the form of one; what it says counts only where it
is about the holder's right to issue, and is given once.
-/

namespace CredentialRotation

open Asn1 (Element)

/-- What is known of a certificate. -/
structure X509 where
  isAuthority : Bool
deriving DecidableEq, Repr

namespace X509

/-- The content of a sequence at the start of octets, and what follows
it. -/
def sequence? (bs : Bytes) : Option (Bytes × Bytes) := do
  let (e, r) ← Asn1.next? bs
  if e.isUniversal true 16 then some (e.content, r) else none

/-- The content of a universal element `n` without elements inside, and
what follows it. -/
def primitive? (n : Nat) (bs : Bytes) : Option (Bytes × Bytes) := do
  let (e, r) ← Asn1.next? bs
  some (← e.primitive? n, r)

/-- What follows a string of bits, whose first octet counts the bits that
the last one has too many. -/
def bitString? (bs : Bytes) : Option Bytes := do
  let (content, r) ← primitive? 3 bs
  match content with
  | [] => none
  | unused :: _ => if unused < 8 then some r else none

/-- An algorithm with its parameters. -/
def algorithm? (bs : Bytes) : Option Bytes := do
  let (content, r) ← sequence? bs
  let _ ← primitive? 6 content
  some r

/-- What follows an element of the context-specific number `n`, or the
octets themselves if there is none. -/
def skipContext (n : Nat) (bs : Bytes) : Bytes :=
  match Asn1.next? bs with
  | some (e, r) => if e.tag.tagClass = .context ∧ e.tag.number = n then r else bs
  | none => bs

/-- A version, which may be left out. -/
def version? (bs : Bytes) : Option Bytes := do
  match Asn1.next? bs with
  | some (e, r) =>
    if e.tag.tagClass = .context ∧ e.tag.number = 0 then do
      let (v, _) ← Asn1.next? e.content
      let _ ← v.natural? (Nat.pow 2 32 - 1)
      some r
    else some bs
  | none => none

/-! ## Dates -/

/-- The number that `n` digits at the start of octets spell. -/
def digits? (n : Nat) (bs : Bytes) : Option (Nat × Bytes) :=
  let ds := bs.take n
  if ds.length = n ∧ ds.all (fun b => 0x30 ≤ b && b ≤ 0x39) then
    some (ds.foldl (fun k b => 10 * k + (b.toNat - 0x30)) 0, bs.drop n)
  else none

/-- The offset of a date from universal time. -/
def isZone (bs : Bytes) : Bool :=
  match bs with
  | [0x5A] => true
  | sign :: r => (sign = 0x2B || sign = 0x2D) && r.length = 4 && (digits? 4 r).isSome
  | [] => false

/-- The rest of a date after its year. -/
def dateRest? (year : Nat) (bs : Bytes) : Option Unit := do
  let (month, r) ← digits? 2 bs
  let (day, r) ← digits? 2 r
  let (hour, r) ← digits? 2 r
  let (minute, r) ← digits? 2 r
  let (second, r) := (digits? 2 r).getD (0, r)
  if Calendar.Date.isValid ⟨year, month, day⟩ ∧ hour < 24 ∧ minute < 60 ∧ second < 60 ∧ isZone r then
    some ()
  else none

/-- A date with two digits of the year or with four. -/
def date? (bs : Bytes) : Option Bytes := do
  let (e, r) ← Asn1.next? bs
  if e.isUniversal false 23 then do
    let (year, rest) ← digits? 2 e.content
    dateRest? (if year ≥ 50 then 1900 + year else 2000 + year) rest
    some r
  else if e.isUniversal false 24 then do
    let (year, rest) ← digits? 4 e.content
    dateRest? year rest
    some r
  else none

/-! ## Extensions -/

/-- The identifier of the extension about the right to issue. -/
def basicConstraintsId : List Nat := [2, 5, 29, 19]

/-- A truth value in its distinguished encoding. -/
def flag? (e : Element) : Option Bool :=
  match e.primitive? 1 with
  | some [0x00] => some false
  | some [0xff] => some true
  | _ => none

/-- The right to issue that an extension grants. -/
def mayIssue? (bs : Bytes) : Option Bool := do
  let (e, _) ← Asn1.next? bs
  match ← e.sequence? with
  | [] => some false
  | [x] =>
    match flag? x with
    | some b => some b
    | none => (x.natural? (Nat.pow 2 32 - 1)).map fun _ => false
  | [x, depth] => do
    let b ← flag? x
    let _ ← depth.natural? (Nat.pow 2 32 - 1)
    some b
  | _ => none

/-- An extension: its identifier, and its value. -/
def extension? (e : Element) : Option (List Nat × Bytes) := do
  if !e.isUniversal true 16 then none
  let (id, r) ← Asn1.next? e.content
  let id ← id.identifier?
  let r := match primitive? 1 r with
    | some ([_], r) => r
    | _ => r
  let (value, _) ← primitive? 4 r
  some (id, value)

/-- The extensions of a certificate. -/
def extensions? (bs : Bytes) : Option (List (List Nat × Bytes)) :=
  if bs.isEmpty then some []
  else do
    let (e, r) ← Asn1.next? bs
    if e.tag.number = 3 ∧ r.isEmpty then do
      (← (← Asn1.single? e.content).sequence?).mapM extension?
    else none

/-- Whether extensions grant the right to issue, once. -/
def grantsIssue (es : List (List Nat × Bytes)) : Bool :=
  match es.filter (·.1 = basicConstraintsId) with
  | [(_, value)] => mayIssue? value = some true
  | _ => false

/-! ## The whole -/

/-- The public key of a certificate, and what follows it in the part that
is signed. -/
def keyAndRest? (der : Bytes) : Option (Bytes × Bytes) := do
  let (content, _) ← sequence? der
  let (body, r) ← sequence? content
  let r ← algorithm? r
  let _ ← bitString? r
  let b ← version? body
  let (_, b) ← primitive? 2 b
  let b ← algorithm? b
  let (_, b) ← sequence? b
  let (validity, b) ← sequence? b
  let v ← date? validity
  let _ ← date? v
  let (_, b) ← sequence? b
  sequence? b

/-- The certificate that octets start with. -/
def read? (der : Bytes) : Option X509 := do
  let (key, b) ← keyAndRest? der
  let k ← algorithm? key
  let _ ← bitString? k
  let es ← extensions? (skipContext 2 (skipContext 1 b))
  some ⟨grantsIssue es⟩

/-- The public key of a certificate: its algorithm with all octets, and
its bits. -/
def publicKey? (der : Bytes) : Option (Bytes × Bytes) := do
  let (key, _) ← keyAndRest? der
  let (algorithm, r) ← Asn1.next? key
  let (bits, _) ← primitive? 3 r
  some (algorithm.octets, bits)

end X509

end CredentialRotation
