import CredentialRotation.Certificate.Error
import CredentialRotation.Certificate.Password

/-!
# Containers

A PKCS#12 container holds bags, some in the clear and some locked, and
a code that authenticates the whole. `Container.bags?` opens every part
of it; a part that cannot be opened makes the container unreadable. Of
the bags, the locked keys and the certificates are of use. A key that
cannot be opened is passed over.
-/

namespace CredentialRotation

open Asn1 (Element)

/-- A part of a container. -/
inductive ContainerPart
  | clear (content : Bytes)
  | locked (lock : Lock) (content : Bytes)
  | other
deriving DecidableEq, Repr

/-- The code that authenticates a container. -/
structure ContainerCode where
  code : Bytes
  salt : Bytes
  rounds : Nat
deriving DecidableEq, Repr

/-- What a bag holds. -/
inductive Bag
  | key (lock : Lock) (content : Bytes)
  | certificate (der : Bytes)
  | other
deriving DecidableEq, Repr

/-- A container, its code included if it has one. -/
structure Container where
  content : ContainerPart
  code : Option ContainerCode
deriving DecidableEq, Repr

namespace ContainerPart

/-- The identifiers of clear and of locked parts. -/
def clearId : List Nat := [1, 2, 840, 113549, 1, 7, 1]
@[inherit_doc clearId] def lockedId : List Nat := [1, 2, 840, 113549, 1, 7, 6]

/-- The locked content in an element. -/
def lockedContent? (e : Element) : Option ContainerPart := do
  match ← e.sequence? with
  | [version, content] => do
    let _ ← version.natural? 255
    match ← content.sequence? with
    | [id, lock, text] => do
      let _ ← id.identifier?
      some (.locked (← Lock.read? lock) (← text.implicit? 0))
    | _ => none
  | _ => none

/-- The part in an element. -/
def read? (e : Element) : Option ContainerPart := do
  match ← e.sequence? with
  | [id, content] => do
    let id ← id.identifier?
    let content ← content.explicit? 0
    if id = clearId then content.octetString?.map .clear
    else if id = lockedId then lockedContent? content
    else some .other
  | _ => none

/-- What is in a part. -/
def opened? (part : ContainerPart) (password : Bytes) : Option Bytes :=
  match part with
  | .clear content => some content
  | .locked lock content => lock.opened? password content
  | .other => none

end ContainerPart

namespace ContainerCode

/-- The code in an element. -/
def read? (e : Element) : Option ContainerCode := do
  match ← e.sequence? with
  | [info, salt, rounds] => do
    match ← info.sequence? with
    | [lock, code] => do
      let _ ← Lock.read? lock
      some ⟨← code.octetString?, ← salt.octetString?, ← rounds.natural? (Nat.pow 2 32 - 1)⟩
    | _ => none
  | _ => none

/-- Whether a code is the one for `content` under a password. -/
def verifies (c : ContainerCode) (password content : Bytes) : Bool :=
  c.code = Digest.Sha1.keyed (Password.derive .authentication 20 password c.salt c.rounds) content

end ContainerCode

namespace Bag

/-- The identifiers of bags with locked keys and with certificates. -/
def keyId : List Nat := [1, 2, 840, 113549, 1, 12, 10, 1, 2]
@[inherit_doc keyId] def certificateId : List Nat := [1, 2, 840, 113549, 1, 12, 10, 1, 3]

/-- The identifiers of the two kinds of certificates. -/
def x509Id : List Nat := [1, 2, 840, 113549, 1, 9, 22, 1]
@[inherit_doc x509Id] def sdsiId : List Nat := [1, 2, 840, 113549, 1, 9, 22, 2]

/-- The identifiers of the attributes that are looked at. -/
def nameId : List Nat := [1, 2, 840, 113549, 1, 9, 20]
@[inherit_doc nameId] def keyLinkId : List Nat := [1, 2, 840, 113549, 1, 9, 21]

/-- The certificate in an element. -/
def certificate? (e : Element) : Option Bag := do
  match ← e.sequence? with
  | [id, content] => do
    let id ← id.identifier?
    let content ← content.explicit? 0
    if id = x509Id then content.octetString?.map .certificate
    else if id = sdsiId then
      (content.primitive? 22).bind fun bs => if bs.all (· < 0x80) then some .other else none
    else none
  | _ => none

/-- The locked key in an element. -/
def key? (e : Element) : Option Bag := do
  match ← e.sequence? with
  | [lock, content] => some (.key (← Lock.read? lock) (← content.octetString?))
  | _ => none

/-- The sixteen-bit units of octets. -/
def units? : Bytes → Option (List Nat)
  | [] => some []
  | [_] => none
  | a :: b :: r => (units? r).map ((256 * a.toNat + b.toNat) :: ·)

/-- Whether every high surrogate is followed by a low one, and no low one
stands alone. -/
def arePaired : List Nat → Bool
  | [] => true
  | [a] => !(0xD800 ≤ a && a < 0xE000)
  | a :: b :: r =>
    if 0xD800 ≤ a && a < 0xDC00 then 0xDC00 ≤ b && b < 0xE000 && arePaired r
    else !(0xDC00 ≤ a && a < 0xE000) && arePaired (b :: r)

/-- A name, in sixteen-bit units. -/
def name? (e : Element) : Option Unit := do
  let us ← units? (← e.primitive? 30)
  if arePaired us then some () else none

/-- A list that is not empty. -/
def filled? {α : Type} (xs : List α) : Option Unit := if xs.isEmpty then none else some ()

/-- An attribute, which is looked at no further than whether it is one. -/
def attribute? (e : Element) : Option Unit := do
  match ← e.sequence? with
  | [id, values] => do
    let id ← id.identifier?
    let values ← values.set?
    if id = nameId then filled? (← values.mapM name?)
    else if id = keyLinkId then filled? (← values.mapM Element.octetString?)
    else some ()
  | _ => none

/-- The bag of the type `id` in an element. -/
def content? (id : List Nat) (e : Element) : Option Bag :=
  if id = certificateId then certificate? e
  else if id = keyId then key? e
  else some .other

/-- The bag in an element. -/
def read? (e : Element) : Option Bag := do
  let bag (id content : Element) : Option Bag := do
    content? (← id.identifier?) (← content.explicit? 0)
  match ← e.sequence? with
  | [id, content] => bag id content
  | [id, content, attributes] => do
    let b ← bag id content
    let _ ← (← attributes.set?).mapM attribute?
    some b
  | _ => none

end Bag

namespace Container

/-- The container that octets are. -/
def read? (bs : Bytes) : Option Container := do
  match ← (← Asn1.single? bs).sequence? with
  | [version, content] => do
    let _ ← version.natural? 255
    some ⟨← ContainerPart.read? content, none⟩
  | [version, content, code] => do
    let _ ← version.natural? 255
    some ⟨← ContainerPart.read? content, some (← ContainerCode.read? code)⟩
  | _ => none

/-- Whether a password fits a container. One without a code fits any. -/
def verifies (c : Container) (password : Bytes) : Bool :=
  match c.code with
  | none => true
  | some code =>
    match c.content.opened? password with
    | none => false
    | some content => code.verifies password content

/-- The bags of one opened part. -/
def partBags? (content : Bytes) : Option (List Bag) := do
  (← (← Asn1.single? content).sequence?).mapM Bag.read?

/-- The bags of a container. -/
def bags? (c : Container) (password : Bytes) : Option (List Bag) := do
  let content ← c.content.opened? password
  let parts ← (← (← Asn1.single? content).sequence?).mapM ContainerPart.read?
  let contents ← parts.mapM (·.opened? password)
  (contents.mapM partBags?).map List.flatten

/-- The keys in bags that a password opens. -/
def keys (password : Bytes) (bags : List Bag) : List Bytes :=
  bags.filterMap fun
    | .key lock content => lock.opened? password content
    | _ => none

/-- The certificates in bags. -/
def certificates (bags : List Bag) : List Bytes :=
  bags.filterMap fun
    | .certificate der => some der
    | _ => none

end Container

end CredentialRotation
