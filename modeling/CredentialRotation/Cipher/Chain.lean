import CredentialRotation.Text.Utf8

/-!
# Chained blocks

A text is enciphered in blocks of eight octets, each mixed with the one
before it, and filled up so that the last octet says how many were
added.
-/

namespace CredentialRotation.Cipher

/-- The blocks of eight octets, `none` if the last one is short. -/
def blocks? : Bytes → Option (List Bytes)
  | [] => some []
  | a :: b :: c :: d :: e :: f :: g :: h :: r => (blocks? r).map ([a, b, c, d, e, f, g, h] :: ·)
  | _ => none

/-- The sum without carry of two strings of octets. -/
def mix (xs ys : Bytes) : Bytes := List.zipWith (· ^^^ ·) xs ys

/-- The text of chained blocks, each deciphered by `block` and mixed with
the one before it. -/
def unchain (block : Bytes → Bytes) : Bytes → List Bytes → Bytes
  | _, [] => []
  | last, b :: bs => mix (block b) last ++ unchain block b bs

/-- A text without what it was filled up with. -/
def unfill? (text : Bytes) : Option Bytes :=
  match text.getLast? with
  | none => none
  | some n =>
    let fill := text.drop (text.length - n.toNat)
    if 1 ≤ n ∧ n ≤ 8 ∧ fill.all (· = n) then some (text.take (text.length - n.toNat)) else none

/-- The text of an enciphered one. -/
def decipher? (block : Bytes → Bytes) (start text : Bytes) : Option Bytes :=
  (blocks? text).bind fun bs => unfill? (unchain block start bs)

end CredentialRotation.Cipher
