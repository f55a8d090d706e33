import CredentialRotation.Asn1.Element

/-!
# Private keys

A private key comes in an envelope that names its algorithm. A key on an
elliptic curve states its public half beside the private one, and the
private key of RSA contains it; a key of Ed25519 does not have it at
hand. What is stated has to be what the certificate is about, or else the
key is not the one that belongs to it.
-/

namespace CredentialRotation.PrivateKey

open Asn1 (Element)

/-- The curves, each with the length of a coordinate. -/
def curves : List (List Nat × Nat) :=
  [([1, 2, 840, 10045, 3, 1, 7], 32), ([1, 3, 132, 0, 34], 48)]

/-- The identifiers of the algorithms. -/
def ellipticId : List Nat := [1, 2, 840, 10045, 2, 1]
@[inherit_doc ellipticId] def rsaId : List Nat := [1, 2, 840, 113549, 1, 1, 1]
@[inherit_doc ellipticId] def ed25519Id : List Nat := [1, 3, 101, 112]

/-- A key in its envelope: the algorithm, and what is kept for it. -/
def open? (der : Bytes) : Option (Element × Bytes) := do
  match ← (← Asn1.single? der).sequence? with
  | version :: algorithm :: body :: _ =>
    let _ ← version.natural? 1
    some (algorithm, ← body.octetString?)
  | _ => none

/-- The bits of the public half of a key on a curve whose coordinates have
a length. -/
def ellipticBits? (length : Nat) (body : Bytes) : Option Bytes := do
  match ← (← Asn1.single? body).sequence? with
  | version :: secret :: rest =>
    let secret ← secret.octetString?
    let bits ← (← rest.findSome? (·.explicit? 1)).primitive? 3
    if version.natural? 1 = some 1 ∧ secret.length = length ∧ bits.length = 2 * length + 2 ∧
        bits.take 2 = [0x00, 0x04] then some bits
    else none
  | _ => none

/-- The octets of a sequence of short or long content. -/
def sequenceOctets (content : Bytes) : Bytes :=
  let n := content.length
  let length : Bytes :=
    if n < 128 then [n.toUInt8]
    else if n < 256 then [0x81, n.toUInt8]
    else [0x82, (n / 256).toUInt8, n.toUInt8]
  0x30 :: length ++ content

/-- The bits of the public half of a key of RSA. -/
def rsaBits? (body : Bytes) : Option Bytes := do
  match ← (← Asn1.single? body).sequence? with
  | version :: modulus :: exponent :: rest =>
    if version.natural? 0 = some 0 ∧ 6 ≤ rest.length ∧ 256 ≤ modulus.content.length then
      some (0x00 :: sequenceOctets (modulus.octets ++ exponent.octets))
    else none
  | _ => none

/-- The public half of a key, if it states one: the algorithm with all
octets, and the bits. The outer `none` is a key that cannot be used. -/
def publicKey? (der : Bytes) : Option (Option (Bytes × Bytes)) := do
  let (algorithm, body) ← open? der
  match (← algorithm.sequence?).map (·.identifier?) with
  | [some id, some curve] =>
    let (_, length) ← curves.find? (·.1 = curve)
    if id = ellipticId then (ellipticBits? length body).map fun bits => some (algorithm.octets, bits)
    else none
  | [some id, none] =>
    if id = rsaId then (rsaBits? body).map fun bits => some (algorithm.octets, bits) else none
  | [some id] =>
    if id = ed25519Id ∧ ((Asn1.single? body).bind (·.octetString?)).any (·.length = 32) then some none
    else none
  | _ => none

/-- Whether a key can be used with a certificate's public key. -/
def fits (der : Bytes) (certified : Bytes × Bytes) : Bool :=
  match publicKey? der with
  | none => false
  | some none => true
  | some (some stated) => stated = certified

end CredentialRotation.PrivateKey
