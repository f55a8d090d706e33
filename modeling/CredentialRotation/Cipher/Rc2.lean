import CredentialRotation.Cipher.Chain

/-!
# RC2

The block cipher RC2, for deciphering: eight octets at a time as four
words of sixteen bits, with a key of any length whose strength is its
length.
-/

namespace CredentialRotation.Cipher.Rc2

/-- The permutation of octets that keys are spread with. -/
def spread : Array UInt8 := #[
  0xd9, 0x78, 0xf9, 0xc4, 0x19, 0xdd, 0xb5, 0xed, 0x28, 0xe9, 0xfd, 0x79, 0x4a, 0xa0, 0xd8, 0x9d,
  0xc6, 0x7e, 0x37, 0x83, 0x2b, 0x76, 0x53, 0x8e, 0x62, 0x4c, 0x64, 0x88, 0x44, 0x8b, 0xfb, 0xa2,
  0x17, 0x9a, 0x59, 0xf5, 0x87, 0xb3, 0x4f, 0x13, 0x61, 0x45, 0x6d, 0x8d, 0x09, 0x81, 0x7d, 0x32,
  0xbd, 0x8f, 0x40, 0xeb, 0x86, 0xb7, 0x7b, 0x0b, 0xf0, 0x95, 0x21, 0x22, 0x5c, 0x6b, 0x4e, 0x82,
  0x54, 0xd6, 0x65, 0x93, 0xce, 0x60, 0xb2, 0x1c, 0x73, 0x56, 0xc0, 0x14, 0xa7, 0x8c, 0xf1, 0xdc,
  0x12, 0x75, 0xca, 0x1f, 0x3b, 0xbe, 0xe4, 0xd1, 0x42, 0x3d, 0xd4, 0x30, 0xa3, 0x3c, 0xb6, 0x26,
  0x6f, 0xbf, 0x0e, 0xda, 0x46, 0x69, 0x07, 0x57, 0x27, 0xf2, 0x1d, 0x9b, 0xbc, 0x94, 0x43, 0x03,
  0xf8, 0x11, 0xc7, 0xf6, 0x90, 0xef, 0x3e, 0xe7, 0x06, 0xc3, 0xd5, 0x2f, 0xc8, 0x66, 0x1e, 0xd7,
  0x08, 0xe8, 0xea, 0xde, 0x80, 0x52, 0xee, 0xf7, 0x84, 0xaa, 0x72, 0xac, 0x35, 0x4d, 0x6a, 0x2a,
  0x96, 0x1a, 0xd2, 0x71, 0x5a, 0x15, 0x49, 0x74, 0x4b, 0x9f, 0xd0, 0x5e, 0x04, 0x18, 0xa4, 0xec,
  0xc2, 0xe0, 0x41, 0x6e, 0x0f, 0x51, 0xcb, 0xcc, 0x24, 0x91, 0xaf, 0x50, 0xa1, 0xf4, 0x70, 0x39,
  0x99, 0x7c, 0x3a, 0x85, 0x23, 0xb8, 0xb4, 0x7a, 0xfc, 0x02, 0x36, 0x5b, 0x25, 0x55, 0x97, 0x31,
  0x2d, 0x5d, 0xfa, 0x98, 0xe3, 0x8a, 0x92, 0xae, 0x05, 0xdf, 0x29, 0x10, 0x67, 0x6c, 0xba, 0xc9,
  0xd3, 0x00, 0xe6, 0xcf, 0xe1, 0x9e, 0xa8, 0x2c, 0x63, 0x16, 0x01, 0x3f, 0x58, 0xe2, 0x89, 0xa9,
  0x0d, 0x38, 0x34, 0x1b, 0xab, 0x33, 0xff, 0xb0, 0xbb, 0x48, 0x0c, 0x5f, 0xb9, 0xb1, 0xcd, 0x2e,
  0xc5, 0xf3, 0xdb, 0x47, 0xe5, 0xa5, 0x9c, 0x77, 0x0a, 0xa6, 0x20, 0x68, 0xfe, 0x7f, 0xc1, 0xad]

/-- The octet that `spread` puts in the place of another. -/
def spreadAt (b : UInt8) : UInt8 := spread.getD b.toNat 0

/-- A key grown by one octet at a time up to `128`. -/
def grow (size : Nat) : Nat → Array UInt8 → Array UInt8
  | 0, key => key
  | n + 1, key =>
    let i := key.size
    grow size n (key.push (spreadAt (key.getD (i - 1) 0 + key.getD (i - size) 0)))

/-- The octets below `n` of a grown key, each made from those above it. -/
def fold (size : Nat) : Nat → Array UInt8 → Array UInt8
  | 0, key => key
  | n + 1, key =>
    fold size n (key.setIfInBounds n (spreadAt (key.getD (n + 1) 0 ^^^ key.getD (n + size) 0)))

/-- The sixty-four words of a key. -/
def expand (key : Bytes) : Array UInt16 :=
  let size := key.length
  let grown := grow size (128 - size) key.toArray
  let top := 128 - size
  let folded := fold size top (grown.setIfInBounds top (spreadAt (grown.getD top 0)))
  (Array.range 64).map fun i =>
    (folded.getD (2 * i) 0).toUInt16 + (folded.getD (2 * i + 1) 0).toUInt16 * 256

/-- A word turned right. -/
def turnRight (w : UInt16) (n : UInt16) : UInt16 := (w >>> n) ||| (w <<< (16 - n))

/-- Four words. -/
structure State where
  a : UInt16
  b : UInt16
  c : UInt16
  d : UInt16

/-- A mixing round undone, with the key words from `j` down. -/
def unmix (key : Array UInt16) (j : Nat) (s : State) : State :=
  let k (i : Nat) : UInt16 := key.getD (j - i) 0
  let d := turnRight s.d 5 - k 0 - (s.c &&& s.b) - (~~~s.c &&& s.a)
  let c := turnRight s.c 3 - k 1 - (s.b &&& s.a) - (~~~s.b &&& d)
  let b := turnRight s.b 2 - k 2 - (s.a &&& d) - (~~~s.a &&& c)
  let a := turnRight s.a 1 - k 3 - (d &&& c) - (~~~d &&& b)
  ⟨a, b, c, d⟩

/-- A mashing round undone. -/
def unmash (key : Array UInt16) (s : State) : State :=
  let k (w : UInt16) : UInt16 := key.getD (w.toNat % 64) 0
  let d := s.d - k s.c
  let c := s.c - k s.b
  let b := s.b - k s.a
  let a := s.a - k d
  ⟨a, b, c, d⟩

/-- All sixteen mixing rounds undone, and the two mashing rounds after
the fifth and the eleventh. -/
def unmixAll (key : Array UInt16) (s : State) : State :=
  (List.range 16).foldl (fun s i =>
    let s := unmix key (63 - 4 * i) s
    if i = 4 ∨ i = 10 then unmash key s else s) s

/-- A block deciphered. -/
def block (key : Array UInt16) : Bytes → Bytes
  | [a₀, a₁, b₀, b₁, c₀, c₁, d₀, d₁] =>
    let word (l h : UInt8) : UInt16 := l.toUInt16 + h.toUInt16 * 256
    let octets (w : UInt16) : Bytes := [w.toUInt8, (w >>> 8).toUInt8]
    let s := unmixAll key ⟨word a₀ a₁, word b₀ b₁, word c₀ c₁, word d₀ d₁⟩
    octets s.a ++ octets s.b ++ octets s.c ++ octets s.d
  | other => other

/-- The text of an enciphered one. -/
def decipher? (key start text : Bytes) : Option Bytes :=
  let words := expand key
  Cipher.decipher? (block words) start text

end CredentialRotation.Cipher.Rc2
