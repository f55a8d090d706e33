import CredentialRotation.Text.Base64

/-!
# Base64 round trips

What is written in base64 is read back, whatever octets it was. Three
octets are four digits of six bits, and a last group of one or two octets
has digits whose spare bits are zero. A reader that asks for all of that
finds it in every written form.

Of an alphabet no more is needed than that it tells its digits apart from
each other and from the fill (`Alphabet.IsSound`).
-/

namespace CredentialRotation.Base64

/-- An alphabet whose digits can be read back. -/
structure Alphabet.IsSound (a : Alphabet) : Prop where
  value?_digit : ∀ n < 64, a.value? (a.digit n) = some n
  digit_ne_fill : ∀ n < 64, a.digit n ≠ '='

theorem isSound_standard : standard.IsSound :=
  ⟨by decide +kernel, by decide +kernel⟩

theorem isSound_urlSafe : urlSafe.IsSound :=
  ⟨by decide +kernel, by decide +kernel⟩

variable {a : Alphabet}

/-- An octet is what its number says. -/
theorem toUInt8_eq {x : UInt8} {n : Nat} (h : n = x.toNat) : n.toUInt8 = x := by
  rw [h]
  exact UInt8.ofNat_toNat

section Groups

variable (h : a.IsSound)

include h

/-- Two digits for the last octet. -/
theorem decodeLast?_pair (x : UInt8) :
    decodeLast? a [a.digit (x.toNat * 16 / 64), a.digit (x.toNat * 16 % 64)] = some [x] := by
  have hx := x.toNat_lt
  have hspare : x.toNat * 16 % 64 % 16 = 0 := by omega
  have hoctet : (x.toNat * 16 / 64 * 4 + x.toNat * 16 % 64 / 16).toUInt8 = x :=
    toUInt8_eq (by omega)
  simp only [decodeLast?, h.value?_digit (x.toNat * 16 / 64) (by omega),
    h.value?_digit (x.toNat * 16 % 64) (by omega), Option.bind_eq_bind, Option.bind_some,
    if_pos hspare, hoctet]

/-- Three digits for the last two octets. -/
theorem decodeLast?_triple (x y : UInt8) (n : Nat)
    (hn : n = (x.toNat * 256 + y.toNat) * 4) :
    decodeLast? a [a.digit (n / 4096), a.digit (n / 64 % 64), a.digit (n % 64)]
      = some [x, y] := by
  have hx := x.toNat_lt
  have hy := y.toNat_lt
  have hspare : n % 64 % 4 = 0 := by omega
  have hfirst : (n / 4096 * 4 + n / 64 % 64 / 16).toUInt8 = x := toUInt8_eq (by omega)
  have hsecond : (n / 64 % 64 % 16 * 16 + n % 64 / 4).toUInt8 = y := toUInt8_eq (by omega)
  simp only [decodeLast?, h.value?_digit (n / 4096) (by omega),
    h.value?_digit (n / 64 % 64) (by omega), h.value?_digit (n % 64) (by omega),
    Option.bind_eq_bind, Option.bind_some, if_pos hspare, hfirst, hsecond]

/-- Four digits for three octets before others. -/
theorem decode?_group (x y z : UInt8) (n : Nat)
    (hn : n = x.toNat * 65536 + y.toNat * 256 + z.toNat) (rest : List Char) :
    decode? a (a.digit (n / 262144) :: a.digit (n / 4096 % 64) :: a.digit (n / 64 % 64)
        :: a.digit (n % 64) :: rest)
      = (decode? a rest).map fun tail => x :: y :: z :: tail := by
  have hx := x.toNat_lt
  have hy := y.toNat_lt
  have hz := z.toNat_lt
  -- the last digit of a full group is not taken for a fill
  have hfull : ¬(a.padded && decide (a.digit (n % 64) = '=')) = true := by
    simp [h.digit_ne_fill (n % 64) (by omega)]
  have hfirst : (n / 262144 * 4 + n / 4096 % 64 / 16).toUInt8 = x := toUInt8_eq (by omega)
  have hsecond : (n / 4096 % 64 % 16 * 16 + n / 64 % 64 / 4).toUInt8 = y :=
    toUInt8_eq (by omega)
  have hthird : (n / 64 % 64 % 4 * 64 + n % 64).toUInt8 = z := toUInt8_eq (by omega)
  rw [decode?, if_neg hfull]
  simp only [h.value?_digit (n / 262144) (by omega), h.value?_digit (n / 4096 % 64) (by omega),
    h.value?_digit (n / 64 % 64) (by omega), h.value?_digit (n % 64) (by omega),
    Option.bind_eq_bind, Option.bind_some, hfirst, hsecond, hthird]
  cases decode? a rest <;> rfl

end Groups

/-- **What is written is read back.** -/
theorem decode?_encode (h : a.IsSound) (bs : Bytes) : decode? a (encode a bs) = some bs := by
  fun_induction encode a bs with
  | case1 => cases hpad : a.padded <;> simp [decode?, decodeLast?, hpad]
  | case2 x n =>
    cases hpad : a.padded with
    | true => simpa [Alphabet.fill, hpad, decode?, n] using decodeLast?_pair h x
    | false => simpa [Alphabet.fill, hpad, decode?, n] using decodeLast?_pair h x
  | case3 x y n =>
    have hlast := decodeLast?_triple h x y n rfl
    cases hpad : a.padded with
    | true =>
      have hne := h.digit_ne_fill (n % 64) (by omega)
      simpa [Alphabet.fill, hpad, decode?, hne] using hlast
    | false => simpa [Alphabet.fill, hpad, decode?] using hlast
  | case4 x y z r n ih => rw [decode?_group h x y z n rfl, ih, Option.map_some]

/-- Without fill, every six bits of the octets are a digit, and so are
those that are left. -/
theorem length_encode (h : a.padded = false) (bs : Bytes) :
    (encode a bs).length = (4 * bs.length + 2) / 3 := by
  fun_induction encode a bs with
  | case1 => rfl
  | case2 x n => simp [Alphabet.fill, h]
  | case3 x y n => simp [Alphabet.fill, h]
  | case4 x y z r n ih =>
    simp only [List.length_cons, ih]
    omega

/-- What is written are digits, and fill where the alphabet has it. -/
theorem digit_or_fill_of_mem_encode {bs : Bytes} {c : Char} (hc : c ∈ encode a bs) :
    (∃ n < 64, a.digit n = c) ∨ a.padded = true ∧ c = '=' := by
  have hfill {n : Nat} (hc : c ∈ a.fill n) : a.padded = true ∧ c = '=' := by
    unfold Alphabet.fill at hc
    split at hc
    · next hpad => exact ⟨hpad, List.eq_of_mem_replicate hc⟩
    · cases hc
  fun_induction encode a bs with
  | case1 => cases hc
  | case2 x n =>
    have hx := x.toNat_lt
    simp only [List.mem_append, List.mem_cons, List.not_mem_nil, or_false] at hc
    rcases hc with (rfl | rfl) | hc
    · exact Or.inl ⟨n / 64, by omega, rfl⟩
    · exact Or.inl ⟨n % 64, by omega, rfl⟩
    · exact Or.inr (hfill hc)
  | case3 x y n =>
    have hx := x.toNat_lt
    have hy := y.toNat_lt
    simp only [List.mem_append, List.mem_cons, List.not_mem_nil, or_false] at hc
    rcases hc with (rfl | rfl | rfl) | hc
    · exact Or.inl ⟨n / 4096, by omega, rfl⟩
    · exact Or.inl ⟨n / 64 % 64, by omega, rfl⟩
    · exact Or.inl ⟨n % 64, by omega, rfl⟩
    · exact Or.inr (hfill hc)
  | case4 x y z r n ih =>
    have hx := x.toNat_lt
    have hy := y.toNat_lt
    have hz := z.toNat_lt
    simp only [List.mem_cons] at hc
    rcases hc with rfl | rfl | rfl | rfl | hc
    · exact Or.inl ⟨n / 262144, by omega, rfl⟩
    · exact Or.inl ⟨n / 4096 % 64, by omega, rfl⟩
    · exact Or.inl ⟨n / 64 % 64, by omega, rfl⟩
    · exact Or.inl ⟨n % 64, by omega, rfl⟩
    · exact ih hc

/-- Without fill, what is written are digits. -/
theorem exists_digit_of_mem_encode (h : a.padded = false) {bs : Bytes} {c : Char}
    (hc : c ∈ encode a bs) : ∃ n < 64, a.digit n = c := by
  rcases digit_or_fill_of_mem_encode hc with hdigit | ⟨hpad, -⟩
  · exact hdigit
  · rw [h] at hpad
    cases hpad

end CredentialRotation.Base64
