import CredentialRotation.Text.Utf8

/-!
# Distinguished encoding

Keys and certificates come as nested elements: a tag, a length and that
many octets of content. The encoding is the distinguished one, in which
lengths are definite and as short as they can be, and the members of a
set are in order. An element is read where it is needed; what nobody
reads is only skipped over.
-/

namespace CredentialRotation

namespace Asn1

/-- Where the number of a tag has its meaning. -/
inductive TagClass
  | universal
  | application
  | context
  | custom
deriving DecidableEq, Repr

/-- What an element is. -/
structure Tag where
  tagClass : TagClass
  constructed : Bool
  number : Nat
deriving DecidableEq, Repr

/-- An element, with all its octets. -/
structure Element where
  tag : Tag
  content : Bytes
  octets : Bytes
deriving DecidableEq, Repr

/-- The class in the first two bits of a tag. -/
def TagClass.ofBits (n : Nat) : TagClass :=
  if n = 0 then .universal else if n = 1 then .application else if n = 2 then .context else .custom

/-- A number in groups of seven bits, each but the last with the high bit
set. -/
def groups? (n : Nat) : Bytes → Option (Nat × Bytes)
  | [] => none
  | b :: r =>
    let n := n * 128 + b.toNat % 128
    if b < 0x80 then some (n, r) else groups? n r

/-- A tag. A number that fits the first octet has to stand there. -/
def tag? : Bytes → Option (Tag × Bytes)
  | [] => none
  | b :: r =>
    let tag (n : Nat) : Tag := ⟨.ofBits (b.toNat / 64), b.toNat / 32 % 2 = 1, n⟩
    if b.toNat % 32 = 31 then
      match groups? 0 r with
      | some (n, r) => if n < 31 then none else some (tag n, r)
      | none => none
    else some (tag (b.toNat % 32), r)

/-- The number that octets spell, the most significant first. -/
def natural (bs : Bytes) : Nat := bs.foldl (fun n b => 256 * n + b.toNat) 0

/-- A length. One that fits seven bits has to stand in one octet. -/
def length? : Bytes → Option (Nat × Bytes)
  | [] => none
  | b :: r =>
    let count := b.toNat - 128
    if b < 0x80 then some (b.toNat, r)
    else if b = 0x80 ∨ b = 0xff ∨ r.length < count then none
    else
      let n := natural (r.take count)
      if n < 128 then none else some (n, r.drop count)

/-- The element that octets start with, and what follows it. -/
def next? (bs : Bytes) : Option (Element × Bytes) := do
  let (tag, r) ← tag? bs
  let (n, r) ← length? r
  if r.length < n then none
  else
    let rest := r.drop n
    some (⟨tag, r.take n, bs.take (bs.length - rest.length)⟩, rest)

/-- The element that octets are. -/
def single? (bs : Bytes) : Option Element :=
  match next? bs with
  | some (e, []) => some e
  | _ => none

/-- The elements that octets are, one after another, up to `fuel` of
them. -/
def upTo? : Nat → Bytes → Option (List Element)
  | _, [] => some []
  | 0, _ :: _ => none
  | fuel + 1, bs => do
    let (e, r) ← next? bs
    let es ← upTo? fuel r
    some (e :: es)

/-- The elements that octets are, one after another. -/
def all? (bs : Bytes) : Option (List Element) := upTo? bs.length bs

namespace Element

variable (e : Element)

/-- Whether an element is of the universal type `n`. -/
def isUniversal (constructed : Bool) (n : Nat) : Bool :=
  e.tag = ⟨.universal, constructed, n⟩

/-- The content of an element of the universal type `n` that has no
elements inside. -/
def primitive? (n : Nat) : Option Bytes :=
  if e.isUniversal false n then some e.content else none

/-- The members of a sequence. -/
def sequence? : Option (List Element) :=
  if e.isUniversal true 16 then all? e.content else none

/-- Whether strings of octets are in order. -/
def areSorted : List Bytes → Bool
  | a :: b :: r => decide (a ≤ b) && areSorted (b :: r)
  | _ => true

/-- The members of a set, which have to be in order. -/
def set? : Option (List Element) :=
  if e.isUniversal true 17 then
    (all? e.content).filter fun es => areSorted (es.map (·.octets))
  else none

/-- The one element inside a context-specific element `n`. -/
def explicit? (n : Nat) : Option Element :=
  if e.tag = ⟨.context, true, n⟩ then single? e.content else none

/-- The content of a context-specific element `n` that has no elements
inside. -/
def implicit? (n : Nat) : Option Bytes :=
  if e.tag = ⟨.context, false, n⟩ then some e.content else none

/-- The octets of a string of octets. -/
def octetString? : Option Bytes := e.primitive? 4

/-- Whether an element is null. -/
def isNull : Bool := e.primitive? 5 = some []

/-- The value of an integer that is not negative, in as few octets as it
takes and at most `most`. -/
def natural? (most : Nat) : Option Nat :=
  match e.primitive? 2 with
  | none => none
  | some [] => none
  | some [a] => if a < 0x80 ∧ a.toNat ≤ most then some a.toNat else none
  | some (a :: b :: r) =>
    let n := Asn1.natural (a :: b :: r)
    if a < 0x80 ∧ ¬(a = 0 ∧ b < 0x80) ∧ n ≤ most then some n else none

/-- The arcs of an object identifier as they are written, each within
sixty-four bits. -/
def arcs? : Nat → Bytes → Option (List Nat)
  | 0, [] => some []
  | _ + 1, [] => none
  | n, b :: r =>
    let m := n * 128 + b.toNat % 128
    if m ≥ Nat.pow 2 64 then none
    else if b < 0x80 then (arcs? 0 r).map (m :: ·)
    else arcs? m r

/-- An object identifier. The first number written stands for two. -/
def identifier? : Option (List Nat) :=
  match e.primitive? 6 with
  | none => none
  | some bs =>
    if bs.head? = none ∨ bs.head? = some 0x80 ∨ bs.getLast?.any (0x80 ≤ ·) then none
    else
      match arcs? 0 bs with
      | some (a :: r) =>
        let root := min (a / 40) 2
        some (root :: (a - 40 * root) :: r)
      | _ => none

end Element

end Asn1

end CredentialRotation
