import CredentialRotation.Asn1.Element
import CredentialRotation.Cipher.Rc2
import CredentialRotation.Cipher.TripleDes
import CredentialRotation.Digest.Sha1

/-!
# Passwords of containers

The keys that lock a container are drawn from its password, a salt and a
count of rounds, for one of three purposes: to encipher, to start a chain
of blocks, and to authenticate. Octets are drawn twenty at a time, each
time after the digests of all rounds, and what they are drawn from is
moved on in between.
-/

namespace CredentialRotation

/-- What octets are drawn for. -/
inductive KeyPurpose
  | cipher
  | start
  | authentication
deriving DecidableEq, Repr

namespace Password

/-- The sixteen-bit units of a character. -/
def units (c : Char) : List Nat :=
  let n := c.toNat
  if n < 0x10000 then [n] else [0xD800 + (n - 0x10000) / 0x400, 0xDC00 + (n - 0x10000) % 0x400]

/-- A password in octets: two for each unit, and two zeros. -/
def octets (s : String) : Bytes :=
  (s.toList.flatMap fun c => (units c).flatMap fun u => [(u / 256).toUInt8, (u % 256).toUInt8])
    ++ [0, 0]

/-- The number of a purpose. -/
def purposeOctet : KeyPurpose → UInt8
  | .cipher => 1
  | .start => 2
  | .authentication => 3

/-- The first `n` octets of a string repeated without end, none if it is
empty. -/
def cycle (bs : Bytes) (n : Nat) : Bytes :=
  if bs.isEmpty then []
  else ((List.replicate (n / bs.length + 1) bs).flatten).take n

/-- A string repeated up to a multiple of sixty-four octets. -/
def cycleToBlocks (bs : Bytes) : Bytes := cycle bs (64 * ((bs.length + 63) / 64))

/-- The digest of the digest, and so on, of a string. -/
def digests : Nat → Bytes → Bytes
  | 0, bs => bs
  | n + 1, bs => digests n (Digest.Sha1.digest bs)

/-- The blocks of sixty-four octets of a string, up to `fuel` of them. -/
def chunks : Nat → Bytes → List Bytes
  | 0, _ => []
  | fuel + 1, bs => if bs.isEmpty then [] else bs.take 64 :: chunks fuel (bs.drop 64)

/-- A block plus a number, as sixty-four octets. -/
def addTo (n : Nat) (block : Bytes) : Bytes :=
  let sum := Asn1.natural block + n
  (List.range block.length).map fun i => (sum / Nat.pow 256 (block.length - 1 - i)).toUInt8

/-- Octets drawn `rounds` digests deep, `count` times over. -/
def draw (id : Bytes) (rounds : Nat) : Nat → Bytes → Bytes
  | 0, _ => []
  | count + 1, source =>
    let drawn := digests rounds (id ++ source)
    let step := Asn1.natural (cycle drawn 64) + 1
    drawn ++ draw id rounds count ((chunks source.length source).flatMap (addTo step))

/-- `size` octets drawn for a purpose. -/
def derive (purpose : KeyPurpose) (size : Nat) (password salt : Bytes) (rounds : Nat) : Bytes :=
  let id := List.replicate 64 (purposeOctet purpose)
  (draw id rounds ((size + 19) / 20) (cycleToBlocks salt ++ cycleToBlocks password)).take size

end Password

/-- The salt and the rounds that a container is locked with. -/
structure LockSettings where
  salt : Bytes
  rounds : Nat
deriving DecidableEq, Repr

/-- How a part of a container is locked. -/
inductive Lock
  | rc2 (settings : LockSettings)
  | tripleDes (settings : LockSettings)
  | digest
  | unknown
deriving DecidableEq, Repr

namespace Lock

/-- The identifiers of the known ways. -/
def rc2Id : List Nat := [1, 2, 840, 113549, 1, 12, 1, 6]
@[inherit_doc rc2Id] def tripleDesId : List Nat := [1, 2, 840, 113549, 1, 12, 1, 3]
@[inherit_doc rc2Id] def digestId : List Nat := [1, 3, 14, 3, 2, 26]

/-- The salt and the rounds in an element. -/
def settings? (e : Asn1.Element) : Option LockSettings := do
  match ← e.sequence? with
  | [salt, rounds] => some ⟨← salt.octetString?, ← rounds.natural? (Nat.pow 2 64 - 1)⟩
  | _ => none

/-- The way of locking that an element names. -/
def read? (e : Asn1.Element) : Option Lock := do
  match ← e.sequence? with
  | [] => none
  | id :: rest => do
    let id ← id.identifier?
    if id = digestId then
      match rest with
      | [] => some .digest
      | [x] => if x.isNull then some .digest else none
      | _ => none
    else if id = rc2Id then
      match rest with
      | [x] => (settings? x).map .rc2
      | _ => none
    else if id = tripleDesId then
      match rest with
      | [x] => (settings? x).map .tripleDes
      | _ => none
    else
      match rest with
      | [] => some .unknown
      | [_] => some .unknown
      | _ => none

/-- What is locked, opened with a password. -/
def opened? (lock : Lock) (password text : Bytes) : Option Bytes :=
  match lock with
  | .rc2 s =>
    Cipher.Rc2.decipher? (Password.derive .cipher 5 password s.salt s.rounds)
      (Password.derive .start 8 password s.salt s.rounds) text
  | .tripleDes s =>
    Cipher.TripleDes.decipher? (Password.derive .cipher 24 password s.salt s.rounds)
      (Password.derive .start 8 password s.salt s.rounds) text
  | .digest => none
  | .unknown => none

end Lock

end CredentialRotation
