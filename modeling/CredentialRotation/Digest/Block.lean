import CredentialRotation.Text.Utf8

/-!
# Messages in blocks

The digests in use take a message in blocks of sixty-four octets, filled
up by a one bit, zeros, and the length of the message in bits. Words have
thirty-two bits and are written high octet first.
-/

namespace CredentialRotation.Digest

/-- The octets of a word, high first. -/
def octets (w : UInt32) : Bytes :=
  [(w >>> 24).toUInt8, (w >>> 16).toUInt8, (w >>> 8).toUInt8, w.toUInt8]

/-- The octets of a length in bits, high first. -/
def lengthOctets (bits : Nat) : Bytes :=
  octets (bits / 4294967296).toUInt32 ++ octets (bits % 4294967296).toUInt32

/-- A message filled up to whole blocks. -/
def filled (message : Bytes) : Bytes :=
  let n := message.length
  message ++ 0x80 :: List.replicate ((119 - n % 64) % 64) 0 ++ lengthOctets (8 * n)

/-- The words of octets, taken four at a time. -/
def words : Bytes → List UInt32
  | a :: b :: c :: d :: r =>
    (a.toUInt32 <<< 24 ||| b.toUInt32 <<< 16 ||| c.toUInt32 <<< 8 ||| d.toUInt32) :: words r
  | _ => []

/-- A list in pieces of sixteen, for a list no longer than `fuel`. -/
def blocks : Nat → List UInt32 → List (List UInt32)
  | 0, _ => []
  | _ + 1, [] => []
  | fuel + 1, ws => ws.take 16 :: blocks fuel (ws.drop 16)

/-- The blocks of a message. -/
def messageBlocks (message : Bytes) : List (List UInt32) :=
  let ws := words (filled message)
  blocks ws.length ws

/-- A word turned left by `n` bits. -/
def rotateLeft (w : UInt32) (n : UInt32) : UInt32 :=
  w <<< n ||| w >>> (32 - n)

/-- A word turned right by `n` bits. -/
def rotateRight (w : UInt32) (n : UInt32) : UInt32 :=
  w >>> n ||| w <<< (32 - n)

end CredentialRotation.Digest
