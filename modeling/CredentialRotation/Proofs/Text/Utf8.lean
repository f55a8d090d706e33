import CredentialRotation.Text.Utf8
import CredentialRotation.Proofs.Result

/-!
# UTF-8 round trips

The octets of a text spell that text, to a strict reader and to a
forgiving one. A character is read octet by octet: `lead?` recovers its
high bits from the first octet, and each step of `finish` six more.
-/

namespace CredentialRotation

namespace Utf8

variable {lo hi : UInt8} {k n acc : Nat} {c : Char} {r : Bytes}

/-! ## First octets -/

theorem lead?_one : ∀ k < 0x80, lead? k.toUInt8 = some (0x80, 0xBF, 0, k) := by decide

theorem lead?_two : ∀ k < 32, k < 2 ∨ lead? (0xC0 + k).toUInt8 = some (0x80, 0xBF, 1, k) := by
  decide

theorem lead?_three : ∀ k < 16, lead? (0xE0 + k).toUInt8
    = some (if k = 0 then 0xA0 else 0x80, if k = 13 then 0x9F else 0xBF, 2, k) := by decide

theorem lead?_four : ∀ k < 5, lead? (0xF0 + k).toUInt8
    = some (if k = 0 then 0x90 else 0x80, if k = 4 then 0x8F else 0xBF, 3, k) := by decide

/-! ## Octets that follow -/

/-- An octet that follows adds its six bits, if the bounds admit it. -/
theorem finish_cons (hk : k < 64) (hlo : lo.toNat ≤ 0x80 + k) (hhi : 0x80 + k ≤ hi.toNat) :
    finish lo hi (n + 1) acc ((0x80 + k).toUInt8 :: r) = finish 0x80 0xBF n (acc * 64 + k) r := by
  have hval : (0x80 + k).toUInt8.toNat = 0x80 + k := by
    rw [Nat.toUInt8, UInt8.toNat_ofNat']
    omega
  have hsub : 0x80 + k - 0x80 = k := by omega
  rw [finish, if_pos ⟨by rwa [UInt8.le_iff_toNat_le, hval], by rwa [UInt8.le_iff_toNat_le, hval]⟩,
    hval, hsub]

/-- Octets that follow the first two meet no special bounds. -/
theorem finish_cons' (hk : k < 64) :
    finish 0x80 0xBF (n + 1) acc ((0x80 + k).toUInt8 :: r)
      = finish 0x80 0xBF n (acc * 64 + k) r := by
  refine finish_cons hk (Nat.le_add_right _ _) ?_
  show 0x80 + k ≤ 0xBF
  omega

/-! ## Characters and texts -/

/-- The character of a number below `0x80` has that number. -/
theorem toNat_ofNat_of_lt : ∀ n < 0x80, (Char.ofNat n).toNat = n := by decide

/-- The octet of a character below `0x80` is its number. -/
theorem encodeChar_of_lt (h : c.toNat < 0x80) : encodeChar c = [c.toNat.toUInt8] := by
  rw [encodeChar, if_pos h]

/-- The number of a character is no surrogate. -/
theorem toNat_char (c : Char) : c.toNat < 0xD800 ∨ (0xDFFF < c.toNat ∧ c.toNat < 0x110000) :=
  c.valid

/-- A first octet and the octets that finish its character spell it. -/
theorem symbols_cons {a : UInt8} {m : Nat} {rest : Bytes} (ha : lead? a = some (lo, hi, n, acc))
    (hfinish : finish lo hi n acc r = (some m, rest)) (hm : m = c.toNat) :
    symbols (a :: r) = some c :: symbols rest := by
  rw [symbols, ha]
  simp only [hfinish, Option.map_some, hm, Char.ofNat_toNat]

/-- **The octets of a character spell it**, whatever follows. -/
theorem symbols_encodeChar : symbols (encodeChar c ++ r) = some c :: symbols r := by
  have hc := toNat_char c
  unfold encodeChar
  dsimp only
  generalize hn : c.toNat = n at hc ⊢
  -- one case for each number of octets
  split
  · next h1 =>
    exact symbols_cons (lead?_one n h1) rfl hn.symm
  · split
    · next h1 h2 =>
      have hfirst := (lead?_two (n / 64) (by omega)).resolve_left (by omega)
      rw [List.cons_append, List.singleton_append]
      refine symbols_cons hfirst ?_ (m := n / 64 * 64 + n % 64) (by omega)
      rw [finish_cons' (by omega), finish]
    · split
      · next h1 h2 h3 =>
        rw [List.cons_append, List.cons_append, List.singleton_append]
        refine symbols_cons (lead?_three (n / 4096) (by omega)) ?_
          (m := (n / 4096 * 64 + n / 64 % 64) * 64 + n % 64) (by omega)
        -- no shorter form and no surrogate: the second octet is in bounds
        have hlo : (if n / 4096 = 0 then (0xA0 : UInt8) else 0x80).toNat ≤ 0x80 + n / 64 % 64 := by
          split
          · show 0xA0 ≤ 0x80 + n / 64 % 64
            omega
          · exact Nat.le_add_right _ _
        have hhi : 0x80 + n / 64 % 64 ≤ (if n / 4096 = 13 then (0x9F : UInt8) else 0xBF).toNat := by
          split
          · show 0x80 + n / 64 % 64 ≤ 0x9F
            omega
          · show 0x80 + n / 64 % 64 ≤ 0xBF
            omega
        rw [finish_cons (by omega) hlo hhi, finish_cons' (by omega), finish]
      · next h1 h2 h3 =>
        rw [List.cons_append, List.cons_append, List.cons_append, List.singleton_append]
        refine symbols_cons (lead?_four (n / 262144) (by omega)) ?_
          (m := ((n / 262144 * 64 + n / 4096 % 64) * 64 + n / 64 % 64) * 64 + n % 64) (by omega)
        -- no shorter form and no number past the last character
        have hlo : (if n / 262144 = 0 then (0x90 : UInt8) else 0x80).toNat
            ≤ 0x80 + n / 4096 % 64 := by
          split
          · show 0x90 ≤ 0x80 + n / 4096 % 64
            omega
          · exact Nat.le_add_right _ _
        have hhi : 0x80 + n / 4096 % 64
            ≤ (if n / 262144 = 4 then (0x8F : UInt8) else 0xBF).toNat := by
          split
          · show 0x80 + n / 4096 % 64 ≤ 0x8F
            omega
          · show 0x80 + n / 4096 % 64 ≤ 0xBF
            omega
        rw [finish_cons (by omega) hlo hhi, finish_cons' (by omega), finish_cons' (by omega),
          finish]

/-- **The octets of a text spell it.** -/
theorem symbols_encode (cs : List Char) : symbols (encode cs) = cs.map some := by
  induction cs with
  | nil => simp [encode, symbols]
  | cons c cs ih =>
    rw [encode, List.flatMap_cons, symbols_encodeChar, ← encode, ih, List.map_cons]

theorem decodeLossy_encode (cs : List Char) : decodeLossy (encode cs) = cs := by
  rw [decodeLossy, symbols_encode, List.map_map]
  exact List.map_id cs

theorem decode?_encode (cs : List Char) : decode? (encode cs) = some cs := by
  rw [decode?, symbols_encode]
  exact mapM_map_eq_some fun _ _ => rfl

/-- Different texts have different octets. -/
theorem encode_injective {cs cs' : List Char} (h : encode cs = encode cs') : cs = cs' := by
  rw [← decodeLossy_encode cs, h, decodeLossy_encode]

/-! ## What octets a text has -/

@[simp] theorem encode_nil : encode [] = [] := rfl

@[simp] theorem encode_cons (c : Char) (cs : List Char) :
    encode (c :: cs) = encodeChar c ++ encode cs := rfl

@[simp] theorem encode_append (cs cs' : List Char) : encode (cs ++ cs') = encode cs ++ encode cs' :=
  List.flatMap_append

/-- Each character has an octet. -/
theorem length_encodeChar_pos (c : Char) : 0 < (encodeChar c).length := by
  simp only [encodeChar]
  split
  · exact Nat.zero_lt_succ _
  · split
    · exact Nat.zero_lt_succ _
    · split <;> exact Nat.zero_lt_succ _

/-- An octet below `0x80` is a character by itself. -/
theorem toNat_of_mem_encodeChar {b : UInt8} (hb : b ∈ encodeChar c) (hlt : b.toNat < 0x80) :
    c.toNat = b.toNat := by
  have hc := toNat_char c
  simp only [encodeChar] at hb
  split at hb
  · obtain rfl := List.mem_singleton.1 hb
    rw [Nat.toUInt8, UInt8.toNat_ofNat']
    omega
  · -- the octets of any other character have the highest bit
    have hhigh : ∀ n, 0x80 ≤ n → n < 256 → b = n.toUInt8 → c.toNat = b.toNat := by
      rintro n hge hn rfl
      rw [Nat.toUInt8, UInt8.toNat_ofNat'] at hlt
      omega
    split at hb
    · simp only [List.mem_cons, List.not_mem_nil, or_false] at hb
      rcases hb with hb | hb <;> exact hhigh _ (by omega) (by omega) hb
    · split at hb
      · simp only [List.mem_cons, List.not_mem_nil, or_false] at hb
        rcases hb with hb | hb | hb <;> exact hhigh _ (by omega) (by omega) hb
      · simp only [List.mem_cons, List.not_mem_nil, or_false] at hb
        rcases hb with hb | hb | hb | hb <;> exact hhigh _ (by omega) (by omega) hb

theorem mem_of_mem_encode {b : UInt8} {cs : List Char} (hb : b ∈ encode cs)
    (hlt : b.toNat < 0x80) : Char.ofNat b.toNat ∈ cs := by
  obtain ⟨c, hc, hb⟩ := List.mem_flatMap.1 hb
  rw [← toNat_of_mem_encodeChar hb hlt, Char.ofNat_toNat]
  exact hc

/-- **Nothing is left out of a text whose octets are as many.** -/
theorem length_encode_of_sublist {cs cs' : List Char} (h : cs.Sublist cs') :
    (encode cs).length ≤ (encode cs').length
      ∧ ((encode cs').length ≤ (encode cs).length → cs = cs') := by
  induction h with
  | slnil => exact ⟨Nat.le_refl _, fun _ => rfl⟩
  | cons c _ ih =>
    have := length_encodeChar_pos c
    simp only [encode_cons, List.length_append]
    exact ⟨by omega, fun hle => by omega⟩
  | cons_cons c _ ih =>
    simp only [encode_cons, List.length_append, Nat.add_le_add_iff_left]
    exact ⟨ih.1, fun hle => congrArg _ (ih.2 hle)⟩

end Utf8

theorem Bytes.ofString_injective {s t : String} (h : Bytes.ofString s = Bytes.ofString t) :
    s = t :=
  String.toList_inj.1 (Utf8.encode_injective h)

/-- What holds of the octets up to `0xFF` holds of all. -/
theorem Bytes.forall_octet {P : UInt8 → Prop} (h : ∀ n < 256, P (UInt8.ofNat n)) (b : UInt8) :
    P b := by
  have hb := h b.toNat b.toNat_lt
  rwa [UInt8.ofNat_toNat] at hb

theorem Bytes.ofString_append (s t : String) :
    Bytes.ofString (s ++ t) = Bytes.ofString s ++ Bytes.ofString t := by
  rw [ofString, String.toList_append, Utf8.encode, List.flatMap_append]
  rfl

theorem Bytes.ofString_ofList (cs : List Char) : Bytes.ofString (String.ofList cs)
    = Utf8.encode cs := by
  rw [ofString, String.toList_ofList]

theorem Bytes.text?_ofString (s : String) : (Bytes.ofString s).text? = some s := by
  rw [text?, ofString, Utf8.decode?_encode, Option.map_some, String.ofList_toList]

theorem Bytes.textLossy_ofString (s : String) : (Bytes.ofString s).textLossy = s := by
  rw [textLossy, ofString, Utf8.decodeLossy_encode, String.ofList_toList]

end CredentialRotation
