import CredentialRotation.Digest.Block

/-!
# SHA-1

The digest of twenty octets that key containers are sealed with, and the
keyed digest made from it.
-/

namespace CredentialRotation.Digest.Sha1

/-- The five words a digest is made of. -/
structure State where
  a : UInt32
  b : UInt32
  c : UInt32
  d : UInt32
  e : UInt32
deriving DecidableEq

/-- The words before the first block. -/
def start : State := ⟨0x67452301, 0xefcdab89, 0x98badcfe, 0x10325476, 0xc3d2e1f0⟩

/-- A schedule, last first, continued by `n` words. -/
def extend : Nat → List UInt32 → List UInt32
  | 0, ws => ws
  | n + 1, ws =>
    let w (n : Nat) : UInt32 := ws.getD (n - 1) 0
    extend n (rotateLeft (w 3 ^^^ w 8 ^^^ w 14 ^^^ w 16) 1 :: ws)

/-- One round, the `n`-th, with a word of the schedule. -/
def step (s : State) (n : Nat) (w : UInt32) : State :=
  let (f, k) : UInt32 × UInt32 :=
    if n < 20 then ((s.b &&& s.c) ||| (~~~s.b &&& s.d), 0x5a827999)
    else if n < 40 then (s.b ^^^ s.c ^^^ s.d, 0x6ed9eba1)
    else if n < 60 then ((s.b &&& s.c) ||| (s.b &&& s.d) ||| (s.c &&& s.d), 0x8f1bbcdc)
    else (s.b ^^^ s.c ^^^ s.d, 0xca62c1d6)
  ⟨rotateLeft s.a 5 + f + s.e + k + w, s.a, rotateLeft s.b 30, s.c, s.d⟩

/-- The words after a block. -/
def compress (s : State) (block : List UInt32) : State :=
  let ws := (extend 64 block.reverse).reverse
  let t := (ws.zipIdx).foldl (fun t e => step t e.2 e.1) s
  ⟨s.a + t.a, s.b + t.b, s.c + t.c, s.d + t.d, s.e + t.e⟩

/-- The digest of a message. -/
def digest (message : Bytes) : Bytes :=
  let s := (messageBlocks message).foldl compress start
  [s.a, s.b, s.c, s.d, s.e].flatMap Digest.octets

/-- The keyed digest of a message. A key longer than a block counts by
its digest. -/
def keyed (key message : Bytes) : Bytes :=
  let key := if key.length > 64 then digest key else key
  let key := key ++ List.replicate (64 - key.length) 0
  digest (key.map (· ^^^ 0x5C) ++ digest (key.map (· ^^^ 0x36) ++ message))

end CredentialRotation.Digest.Sha1
