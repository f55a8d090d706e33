import CredentialRotation.Certificate.Container
import CredentialRotation.Certificate.Key
import CredentialRotation.Certificate.X509
import CredentialRotation.Text.Description
import CredentialRotation.Text.Pem

/-!
# Client identities

A client proves who it is by a private key and a chain of certificates,
the first of which is its own. `ClientIdentity.ofParts` takes the first
key of a container and reads its certificates, and `choose?` puts them in
order: first the first one whose holder may not issue others, or else the
one that came first, and then the others as they came.
-/

namespace CredentialRotation

/-- A container with the password that opens it. -/
structure UserCertificate where
  container : Bytes
  password : String
deriving DecidableEq

/-- What is said about a container where others can see it: its size. -/
def UserCertificate.describe (u : UserCertificate) : String :=
  Description.record "UserCertificate" [("pkcs12_len", .bare s!"{u.container.length}"),
    ("password", .hidden)]

/-- A private key with a chain of certificates, the client's own first. -/
structure ClientIdentity where
  key : Bytes
  leaf : Bytes
  issuers : List Bytes
deriving DecidableEq

namespace ClientIdentity

/-- The chain, the client's own certificate first. -/
def chain (i : ClientIdentity) : List Bytes := i.leaf :: i.issuers

/-- What comes before the first member of a list that passes a test, that
member, and what comes after it. -/
def splitFirst? {α : Type} (test : α → Bool) : List α → Option (List α × α × List α)
  | [] => none
  | x :: xs =>
    if test x then some ([], x, xs)
    else (splitFirst? test xs).map fun (before, y, after) => (x :: before, y, after)

/-- The identity of a key and certificates, each with what is known of
it. -/
def choose? (key : Bytes) (certificates : List (Bytes × X509)) : Option ClientIdentity :=
  match splitFirst? (fun c => !c.2.isAuthority) certificates with
  | some (before, leaf, after) => some ⟨key, leaf.1, (before ++ after).map (·.1)⟩
  | none =>
    match certificates with
    | [] => none
    | leaf :: rest => some ⟨key, leaf.1, rest.map (·.1)⟩

/-- The identity made from the keys and the certificates of a container.
The first key is taken. -/
def ofParts (keys certificates : List Bytes) : Except CertificateError ClientIdentity :=
  match keys with
  | [] => .error .missingKey
  | key :: _ =>
    if certificates.isEmpty then .error .missingCertificate
    else
      match certificates.mapM fun der => (X509.read? der).map fun x => (der, x) with
      | none => .error .invalidCertificate
      | some known =>
        match choose? key known with
        | some i => .ok i
        | none => .error .missingCertificate

/-- The identity in a container. -/
def ofContainer (u : UserCertificate) : Except CertificateError ClientIdentity :=
  let password := Password.octets u.password
  match Container.read? u.container with
  | none => .error .undecodable
  | some c =>
    if !c.verifies password then .error .wrongPassword
    else
      match c.bags? password with
      | none => .error .undecodable
      | some bags => ofParts (Container.keys password bags) (Container.certificates bags)

/-! ## In text -/

/-- The kinds of block that an identity is written in. -/
def keyLabel : String := "PRIVATE KEY"
@[inherit_doc keyLabel] def certificateLabel : String := "CERTIFICATE"

/-- The blocks of an identity: the key, and then the chain. -/
def blocks (i : ClientIdentity) : List Pem.Block :=
  ⟨keyLabel, i.key⟩ :: i.chain.map fun der => ⟨certificateLabel, der⟩

/-- An identity in text. -/
def pem (i : ClientIdentity) : List Char := Pem.render i.blocks

/-- Whether blocks are what a connection can present: keys and
certificates, at least one of each. -/
def isPresentable (bs : List Pem.Block) : Bool :=
  bs.all (fun b => b.label = keyLabel || b.label = certificateLabel)
    && bs.any (·.label = keyLabel) && bs.any (·.label = certificateLabel)

/-- The blocks that a connection presents, read back from the text. -/
def toTls (i : ClientIdentity) : Except CertificateError (List Pem.Block) :=
  match Pem.read? i.pem with
  | some bs => if isPresentable bs then .ok bs else .error .unusable
  | none => .error .unusable

/-- Whether a connection can be made with an identity: the key can be used
and is the one that the client's own certificate is about. -/
def isConsistent (i : ClientIdentity) : Bool :=
  (X509.publicKey? i.leaf).any (PrivateKey.fits i.key)

/-- What is said about an identity where others can see it: the length of
its chain. -/
def describe (i : ClientIdentity) : String :=
  Description.excerpt "ClientIdentity" [("chain_len", .bare s!"{i.chain.length}")]

end ClientIdentity

end CredentialRotation
