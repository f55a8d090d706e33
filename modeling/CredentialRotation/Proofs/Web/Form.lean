import CredentialRotation.Proofs.Text.Pieces
import CredentialRotation.Proofs.Web.Percent
import CredentialRotation.Web.Url

/-!
# Form round trips

A form that was written is read back pair by pair, and pairs added to an
address are the last pairs of its query. Each octet of a name or a value
is written as one to three octets, none of them a mark that divides a
form, so the marks that are found are those between the pairs.
-/

namespace CredentialRotation

/-! ## Names and values -/

namespace Form

variable {b : UInt8}

/-- How an octet of a name or a value is written. -/
def octets (b : UInt8) : Bytes :=
  Utf8.encode (if b = 0x20 then ['+'] else Percent.encode isPlain [b])

/-- What a reader of forms takes each octet for. -/
def spaced (b : UInt8) : UInt8 := if b = 0x2B then 0x20 else b

theorem encode_encodeText (s : String) :
    Utf8.encode (encodeText s) = (Bytes.ofString s).flatMap octets :=
  List.flatMap_assoc

/-- What stands as it is takes one octet and is no mark. -/
theorem isPlain_bounds : ∀ b, isPlain b = true →
    b.toNat < 0x80 ∧ b ∉ ([0x20, 0x25, 0x26, 0x2B, 0x3D] : Bytes) :=
  Bytes.forall_octet (by decide +kernel)

/-- The three ways to write an octet: a space, as it is, or escaped. -/
theorem octets_cases (b : UInt8) :
    (b = 0x20 ∧ octets b = [0x2B])
      ∨ (b ∉ ([0x20, 0x25, 0x26, 0x2B, 0x3D] : Bytes) ∧ octets b = [b])
      ∨ octets b = [0x25, Percent.digit (b.toNat / 16), Percent.digit (b.toNat % 16)] := by
  by_cases hsp : b = 0x20
  · exact Or.inl ⟨hsp, by rw [octets, if_pos hsp]; rfl⟩
  · right
    rw [octets, if_neg hsp]
    cases hp : isPlain b with
    | true =>
      obtain ⟨hlt, hmem⟩ := isPlain_bounds b hp
      exact Or.inl ⟨hmem, Percent.octets_of_plain hlt hp⟩
    | false => exact Or.inr (Percent.octets_of_not_plain hp)

/-- No octet is written with a mark that divides a form. -/
theorem not_mem_octets (b : UInt8) : 0x26 ∉ octets b ∧ 0x3D ∉ octets b := by
  have hhigh := Percent.not_mem_digit (b.toNat / 16) (by have := b.toNat_lt; omega)
  have hlow := Percent.not_mem_digit (b.toNat % 16) (by omega)
  simp only [List.mem_cons, List.not_mem_nil, or_false, not_or] at hhigh hlow
  rcases octets_cases b with ⟨-, h⟩ | ⟨hb, h⟩ | h <;> rw [h]
  · decide
  · simp only [List.mem_cons, List.not_mem_nil, or_false, not_or] at hb ⊢
    exact ⟨Ne.symm hb.2.2.1, Ne.symm hb.2.2.2.2⟩
  · simp only [List.mem_cons, List.not_mem_nil, or_false, not_or]
    exact ⟨⟨by decide, Ne.symm hhigh.1, Ne.symm hlow.1⟩, by decide, Ne.symm hhigh.2.2,
      Ne.symm hlow.2.2⟩

/-- What is written for an octet is read as that octet. -/
theorem decode_octets (b : UInt8) (rest : Bytes) :
    Percent.decode ((octets b).map spaced ++ rest) = b :: Percent.decode rest := by
  rcases octets_cases b with ⟨rfl, h⟩ | ⟨hb, h⟩ | h <;> rw [h]
  · exact Percent.decode_cons (by decide)
  · simp only [List.mem_cons, List.not_mem_nil, or_false, not_or] at hb
    rw [List.map_singleton, List.singleton_append, spaced, if_neg hb.2.2.2.1]
    exact Percent.decode_cons hb.2.1
  · have hb := b.toNat_lt
    have hhigh := Percent.not_mem_digit (b.toNat / 16) (by omega)
    have hlow := Percent.not_mem_digit (b.toNat % 16) (by omega)
    simp only [List.mem_cons, List.not_mem_nil, or_false, not_or] at hhigh hlow
    simp only [List.map_cons, List.map_nil, spaced, if_neg hhigh.2.1, if_neg hlow.2.1]
    exact Percent.decode_escape b rest

/-- **A name or a value is read back.** -/
theorem decodeText_encodeText (s : String) : decodeText (Utf8.encode (encodeText s)) = s := by
  have hall : ∀ bs : Bytes, Percent.decode ((bs.flatMap octets).map spaced) = bs := by
    intro bs
    induction bs with
    | nil => simp [Percent.decode]
    | cons b bs ih => rw [List.flatMap_cons, List.map_append, decode_octets, ih]
  rw [encode_encodeText, decodeText]
  show (Percent.decode (((Bytes.ofString s).flatMap octets).map spaced)).textLossy = s
  rw [hall, Bytes.textLossy_ofString]

/-- The marks of a form do not stand in a name or a value. -/
theorem not_mem_encodeText (s : String) :
    0x26 ∉ Utf8.encode (encodeText s) ∧ 0x3D ∉ Utf8.encode (encodeText s) := by
  simp only [encode_encodeText, List.mem_flatMap, not_exists, not_and]
  exact ⟨fun b _ => (not_mem_octets b).1, fun b _ => (not_mem_octets b).2⟩

/-! ## Pairs -/

variable {pair : String × String}

theorem encode_encodePair : Utf8.encode (encodePair pair)
    = Utf8.encode (encodeText pair.1) ++ 0x3D :: Utf8.encode (encodeText pair.2) := by
  rw [encodePair, Utf8.encode, List.flatMap_append, List.flatMap_cons]
  rfl

/-- **A pair is read back.** -/
theorem decodePair_encodePair (pair : String × String) :
    decodePair (Utf8.encode (encodePair pair)) = pair := by
  rw [encode_encodePair, decodePair, Pieces.cutFirst_append (not_mem_encodeText pair.1).2]
  simp only [Option.getD_some, decodeText_encodeText]

/-- A pair is one piece, and not an empty one. -/
theorem encodePair_piece (pair : String × String) :
    0x26 ∉ Utf8.encode (encodePair pair) ∧ Utf8.encode (encodePair pair) ≠ [] := by
  rw [encode_encodePair]
  constructor
  · rw [List.mem_append, List.mem_cons, not_or, not_or]
    exact ⟨(not_mem_encodeText pair.1).1, by decide, (not_mem_encodeText pair.2).1⟩
  · simp

/-- Forms with the mark of pairs between them are read one after the
other. -/
theorem decode_append_mark (bs rest : Bytes) :
    decode (bs ++ 0x26 :: rest) = decode bs ++ decode rest := by
  rw [decode, Pieces.pieces_append_mark, List.filter_append, List.map_append, ← decode, ← decode]

/-- A pair alone is a form. -/
theorem decode_encodePair (pair : String × String) :
    decode (Utf8.encode (encodePair pair)) = [pair] := by
  obtain ⟨hmark, hne⟩ := encodePair_piece pair
  rw [decode, Pieces.pieces_of_not_mem hmark]
  simp [hne, decodePair_encodePair]

/-- **A form is read back.** -/
theorem decode_encode (pairs : List (String × String)) :
    decode (Utf8.encode (encode pairs)) = pairs := by
  induction pairs with
  | nil => rfl
  | cons pair pairs ih =>
    cases pairs with
    | nil => rw [encode, decode_encodePair]
    | cons next pairs =>
      rw [encode, Utf8.encode, List.flatMap_append, List.flatMap_cons]
      · show decode (Utf8.encode (encodePair pair) ++ 0x26 :: Utf8.encode (encode (next :: pairs)))
          = _
        rw [decode_append_mark, decode_encodePair, ih, List.singleton_append]
      · exact List.cons_ne_nil next pairs

end Form

/-! ## Addresses -/

/-- **Pairs that are added to an address are its last.** -/
theorem Url.pairs_addPairs (u : Url) (added : List (String × String)) :
    (u.addPairs added).pairs = u.pairs ++ added := by
  have hgiven : u.pairs = Form.decode (Bytes.ofString (u.query.getD "")) := by
    unfold pairs
    cases u.query <;> rfl
  rw [hgiven, addPairs, pairs]
  dsimp only
  generalize u.query.getD "" = given
  -- a mark is put between the two queries only where neither is empty
  cases hempty : given.isEmpty || added.isEmpty with
  | true =>
    rw [if_pos rfl]
    rw [Bytes.ofString_append, Bytes.ofString_ofList]
    rcases Bool.or_eq_true_iff.1 hempty with h | h
    · obtain rfl := String.isEmpty_iff.1 h
      exact Form.decode_encode added
    · obtain rfl := List.isEmpty_iff.1 h
      simp only [Form.encode, Utf8.encode, List.flatMap_nil, List.append_nil]
  | false =>
    have hmark : Bytes.ofString "&" = [0x26] := rfl
    rw [if_neg Bool.false_ne_true, Bytes.ofString_append, Bytes.ofString_append, hmark,
      Bytes.ofString_ofList, List.append_assoc, List.singleton_append, Form.decode_append_mark,
      Form.decode_encode]

end CredentialRotation
