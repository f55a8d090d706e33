import CredentialRotation.Proofs.Text.Utf8
import CredentialRotation.Web.Percent

/-!
# Percent escapes, read and written

Escaping changes nothing for a reader of escapes (`decode_encode`), so
octets are read back exactly if nothing in them reads as an escape. A
reader makes no octets of its own (`length_decode_le`).
-/

namespace CredentialRotation.Percent

variable {b : UInt8} {rest : Bytes}

/-- The octet of an upper-case digit. -/
def digit (n : Nat) : UInt8 := (Hex.upperDigit n).toNat.toUInt8

theorem upperDigit_lt : ∀ n < 16, (Hex.upperDigit n).toNat < 0x80 := by decide

theorem value?_upperDigit : ∀ n < 16, Hex.value? (Hex.upperDigit n) = some n := by decide

theorem not_mem_digit : ∀ n < 16, digit n ∉ ([0x26, 0x2B, 0x3D] : Bytes) := by decide

theorem ofNat_digit {n : Nat} (h : n < 16) : Char.ofNat (digit n).toNat = Hex.upperDigit n := by
  have hlt := upperDigit_lt n h
  rw [digit, Nat.toUInt8, UInt8.toNat_ofNat', Nat.mod_eq_of_lt (by omega), Char.ofNat_toNat]

/-- The octets of an escape. -/
theorem encode_escape (b : UInt8) :
    Utf8.encode (escape b) = [0x25, digit (b.toNat / 16), digit (b.toNat % 16)] := by
  have hb := b.toNat_lt
  simp only [escape, Utf8.encode, List.flatMap_cons, List.flatMap_nil,
    Utf8.encodeChar_of_lt (upperDigit_lt (b.toNat / 16) (by omega)),
    Utf8.encodeChar_of_lt (upperDigit_lt (b.toNat % 16) (by omega))]
  rfl

/-- The two digits of an escape spell its octet. -/
theorem octet?_digit (b : UInt8) :
    octet? (digit (b.toNat / 16)) (digit (b.toNat % 16)) = some b := by
  have hb := b.toNat_lt
  have hhigh : b.toNat / 16 < 16 := by omega
  have hlow : b.toNat % 16 < 16 := by omega
  have hwhole : 16 * (b.toNat / 16) + b.toNat % 16 = b.toNat := by omega
  simp only [octet?, ofNat_digit hhigh, ofNat_digit hlow, value?_upperDigit _ hhigh,
    value?_upperDigit _ hlow, Option.bind_eq_bind, Option.bind_some, hwhole]
  exact congrArg some UInt8.ofNat_toNat

/-- No percent sign is a digit of an escape. -/
theorem octet?_percent (x : UInt8) : octet? 0x25 x = none ∧ octet? x 0x25 = none := by
  have hsign : Hex.value? (Char.ofNat (UInt8.toNat 0x25)) = none := by decide
  constructor
  · rw [octet?, hsign]
    rfl
  · rw [octet?, hsign]
    cases Hex.value? (Char.ofNat x.toNat) <;> rfl

/-! ## Reading -/

/-- An octet that is no percent sign is read as it is. -/
theorem decode_cons (h : b ≠ 0x25) : decode (b :: rest) = b :: decode rest := by
  rw [decode]
  intro _ _ _ hb
  exact absurd hb h

/-- An escape is read as its octet. -/
theorem decode_escape (b : UInt8) (rest : Bytes) :
    decode (0x25 :: digit (b.toNat / 16) :: digit (b.toNat % 16) :: rest) = b :: decode rest := by
  rw [decode, octet?_digit]

/-- A percent sign that starts no escape is read as it is. -/
theorem decode_percent (h : ∀ x y r, rest = x :: y :: r → octet? x y = none) :
    decode (0x25 :: rest) = 0x25 :: decode rest := by
  cases rest with
  | nil => rfl
  | cons x rest =>
    cases rest with
    | nil => rfl
    | cons y r => rw [decode, h x y r rfl]

/-- Reading makes octets of its own of nothing. -/
theorem length_decode_le (bs : Bytes) : (decode bs).length ≤ bs.length := by
  induction bs using decode.induct with
  | case1 h l r b hb ih =>
    simp only [decode, hb, List.length_cons]
    omega
  | case2 h l r hnone ih =>
    simp only [decode, hnone, List.length_cons] at ih ⊢
    omega
  | case3 b r hnone ih =>
    rw [decode]
    · exact Nat.succ_le_succ ih
    · exact hnone
  | case4 => exact Nat.le_refl 0

/-! ## Writing -/

variable {plain : UInt8 → Bool}

/-- How an octet is written where those that are `plain` stand as they
are. -/
def octets (plain : UInt8 → Bool) (b : UInt8) : Bytes := Utf8.encode (encode plain [b])

theorem encode_encode (bs : Bytes) :
    Utf8.encode (encode plain bs) = bs.flatMap (octets plain) := by
  induction bs with
  | nil => rfl
  | cons b bs ih =>
    rw [List.flatMap_cons, ← ih, octets, encode, encode, encode, List.flatMap_cons,
      List.flatMap_singleton, Utf8.encode, List.flatMap_append]
    rfl

theorem octets_of_plain (hlt : b.toNat < 0x80) (hb : plain b = true) : octets plain b = [b] := by
  have hback := Utf8.toNat_ofNat_of_lt b.toNat hlt
  simp [octets, encode, hb, Utf8.encode, hback,
    Utf8.encodeChar_of_lt (c := Char.ofNat b.toNat) (by omega)]

theorem octets_of_not_plain (hb : plain b = false) :
    octets plain b = [0x25, digit (b.toNat / 16), digit (b.toNat % 16)] := by
  simp [octets, encode, hb, encode_escape]

/-- Where percent signs and digits stand as they are, and nothing does
that takes more than one octet. -/
structure Transparent (plain : UInt8 → Bool) : Prop where
  lt_of_plain : ∀ b, plain b = true → b.toNat < 0x80
  percent : plain 0x25 = true
  digit : ∀ b, Hex.value? (Char.ofNat b.toNat) ≠ none → plain b = true

namespace Transparent

variable {bs r : Bytes} {x y : UInt8}

/-- The two digits of an escape are plain. -/
theorem plain_of_octet? (h : Transparent plain) (hxy : octet? x y = some b) :
    plain x = true ∧ plain y = true := by
  unfold octet? at hxy
  refine ⟨h.digit x fun hx => ?_, h.digit y fun hy => ?_⟩
  · rw [hx] at hxy
    cases hxy
  · rw [hy] at hxy
    cases hx : Hex.value? (Char.ofNat x.toNat) <;> rw [hx] at hxy <;> cases hxy

/-- Two digits that follow a percent sign were there before the octets
were written. -/
theorem eq_of_octets (h : Transparent plain) (hwritten : bs.flatMap (octets plain) = x :: y :: r) :
    octet? x y = none ∨ ∃ r', bs = x :: y :: r' := by
  have hstep : ∀ b : UInt8, ∀ rest s : Bytes, ∀ z, octets plain b ++ rest = z :: s →
      z = 0x25 ∨ (z = b ∧ rest = s) := by
    intro b rest s z hz
    cases hb : plain b with
    | false =>
      rw [octets_of_not_plain hb] at hz
      exact Or.inl (List.cons.inj hz).1.symm
    | true =>
      rw [octets_of_plain (h.lt_of_plain b hb) hb, List.singleton_append] at hz
      exact Or.inr ⟨(List.cons.inj hz).1.symm, (List.cons.inj hz).2⟩
  cases bs with
  | nil => cases hwritten
  | cons b bs =>
    rw [List.flatMap_cons] at hwritten
    rcases hstep _ _ _ _ hwritten with rfl | ⟨rfl, hrest⟩
    · exact Or.inl (octet?_percent y).1
    · cases bs with
      | nil => cases hrest
      | cons b' bs =>
        rw [List.flatMap_cons] at hrest
        rcases hstep _ _ _ _ hrest with rfl | ⟨rfl, -⟩
        · exact Or.inl (octet?_percent x).2
        · exact Or.inr ⟨bs, rfl⟩

/-- **Writing and reading escapes is reading them.** -/
theorem decode_encode (h : Transparent plain) (bs : Bytes) :
    decode (Utf8.encode (encode plain bs)) = decode bs := by
  rw [encode_encode]
  have hpercent : octets plain 0x25 = [0x25] := octets_of_plain (by decide) h.percent
  induction bs using decode.induct with
  | case1 x y r b hb ih =>
    obtain ⟨hx, hy⟩ := h.plain_of_octet? hb
    simp only [List.flatMap_cons, hpercent, octets_of_plain (h.lt_of_plain x hx) hx,
      octets_of_plain (h.lt_of_plain y hy) hy, List.singleton_append, decode, hb, ih]
  | case2 x y r hnone ih =>
    rw [decode, hnone, List.flatMap_cons, hpercent, List.singleton_append]
    dsimp only
    rw [decode_percent, ih]
    intro x' y' r' hwritten
    rcases h.eq_of_octets hwritten with hnone' | ⟨r'', heq⟩
    · exact hnone'
    · simp only [List.cons.injEq] at heq
      obtain ⟨rfl, rfl, -⟩ := heq
      exact hnone
  | case3 b r hfew ih =>
    have hread : decode (b :: r) = b :: decode r := by
      rw [decode]
      exact hfew
    rw [hread, List.flatMap_cons]
    by_cases hb : b = 0x25
    · -- fewer than two octets follow the percent sign
      subst hb
      rw [hpercent, List.singleton_append, decode_percent, ih]
      intro x y r' hwritten
      rcases h.eq_of_octets hwritten with hnone | ⟨r'', heq⟩
      · exact hnone
      · exact absurd heq (hfew x y r'' rfl)
    · cases hplain : plain b with
      | true =>
        rw [octets_of_plain (h.lt_of_plain b hplain) hplain, List.singleton_append,
          decode_cons hb, ih]
      | false =>
        rw [octets_of_not_plain hplain]
        exact (decode_escape b _).trans (congrArg _ ih)
  | case4 => rfl

end Transparent

end CredentialRotation.Percent
