import CredentialRotation.Proofs.Text.Pieces
import CredentialRotation.Proofs.Web.Percent
import CredentialRotation.Web.Url

/-!
# Along a path

Walking a path goes from piece to piece: to a segment, or up, or nowhere.
A name of a segment stands for octets (`read`), and escaping takes none of
them away and adds none. So walking only ever loses octets, and as many in
the end as there were in the pieces means that every step was to a segment
(`extent_walkAll`).
-/

namespace CredentialRotation.Url

variable {p : List Char} {ps : List (List Char)} {names : List String}

/-! ## Names of segments -/

/-- What stands as it is in a segment is one octet, and percent signs and
digits do. -/
theorem transparent_plainPath : Percent.Transparent plainPath where
  lt_of_plain := Bytes.forall_octet (by decide +kernel)
  percent := by decide
  digit := Bytes.forall_octet (by decide +kernel)

/-- The octets that a name stands for. -/
def read (name : String) : Bytes := Percent.decode (Bytes.ofString name)

/-- Escaping a segment is transparent. -/
theorem read_escaped (p : List Char) :
    read (escaped plainPath p) = Percent.decode (Utf8.encode p) := by
  rw [read, escaped, Bytes.ofString_ofList, transparent_plainPath.decode_encode]

/-- A segment without a slash is escaped without one. -/
theorem slash_not_mem_escaped (h : '/' ∉ p) : '/' ∉ (escaped plainPath p).toList := by
  have hdigit : ∀ n < 16, '/' ≠ Hex.upperDigit n := by decide
  rw [escaped, String.toList_ofList]
  intro hmem
  obtain ⟨b, hb, hmem⟩ := List.mem_flatMap.1 hmem
  have hlt := b.toNat_lt
  split at hmem
  · next hplain =>
    have hascii := transparent_plainPath.lt_of_plain b hplain
    refine h ?_
    rw [List.mem_singleton.1 hmem]
    exact Utf8.mem_of_mem_encode hb hascii
  · simp only [Percent.escape, List.mem_cons, List.not_mem_nil, or_false] at hmem
    rcases hmem with hmem | hmem | hmem
    · exact absurd hmem (by decide)
    · exact hdigit _ (by omega) hmem
    · exact hdigit _ (by omega) hmem

/-! ## Walking -/

theorem walk_of_not_dots {last : Bool} (hhere : isHere p = false) (habove : isAbove p = false) :
    walk names p last = names ++ [escaped plainPath p] := by
  simp [walk, hhere, habove]

theorem walkAll_cons_cons {q : List Char} :
    walkAll names (p :: q :: ps) = walkAll (walk names p false) (q :: ps) := by
  rw [walkAll]
  exact List.cons_ne_nil q ps

/-- Where there are no dots, every piece is a segment. -/
theorem walkAll_of_not_dots (h : ∀ p ∈ ps, isHere p = false ∧ isAbove p = false) :
    walkAll names ps = names ++ ps.map (escaped plainPath) := by
  induction ps generalizing names with
  | nil => simp [walkAll]
  | cons p ps ih =>
    rw [List.forall_mem_cons] at h
    cases ps with
    | nil => rw [walkAll, walk_of_not_dots h.1.1 h.1.2, List.map_singleton]
    | cons q ps =>
      rw [walkAll_cons_cons, walk_of_not_dots h.1.1 h.1.2, ih h.2, List.append_assoc]
      rfl

/-- A step leaves names without a slash. -/
theorem slash_not_mem_walk {last : Bool} (hnames : ∀ n ∈ names, '/' ∉ n.toList) (hp : '/' ∉ p) :
    ∀ n ∈ walk names p last, '/' ∉ n.toList := by
  have hstay : ∀ names : List String, (∀ n ∈ names, '/' ∉ n.toList) →
      ∀ n ∈ (if last then names ++ [""] else names), '/' ∉ n.toList := by
    intro names hnames
    split
    · rw [List.forall_mem_append, List.forall_mem_singleton]
      exact ⟨hnames, by decide⟩
    · exact hnames
  unfold walk
  dsimp only
  split
  · exact hstay _ fun n hn => hnames n (List.dropLast_subset names hn)
  · split
    · exact hstay _ hnames
    · rw [List.forall_mem_append, List.forall_mem_singleton]
      exact ⟨hnames, slash_not_mem_escaped hp⟩

theorem slash_not_mem_walkAll (hnames : ∀ n ∈ names, '/' ∉ n.toList) (hps : ∀ p ∈ ps, '/' ∉ p) :
    ∀ n ∈ walkAll names ps, '/' ∉ n.toList := by
  induction ps generalizing names with
  | nil => simpa [walkAll] using hnames
  | cons p ps ih =>
    rw [List.forall_mem_cons] at hps
    cases ps with
    | nil =>
      rw [walkAll]
      exact slash_not_mem_walk hnames hps.1
    | cons q ps =>
      rw [walkAll_cons_cons]
      exact ih (slash_not_mem_walk hnames hps.1) hps.2

/-! ## Counting -/

/-- How many octets names stand for, with a slash for each. -/
def extent (names : List String) : Nat := (names.flatMap fun n => 0x2F :: read n).length

/-- How many octets pieces have, with a slash for each. -/
def extentOf (ps : List (List Char)) : Nat := (ps.flatMap fun p => 0x2F :: Utf8.encode p).length

theorem extentOf_cons (p : List Char) (ps : List (List Char)) :
    extentOf (p :: ps) = (Utf8.encode p).length + 1 + extentOf ps := by
  rw [extentOf, List.flatMap_cons, List.length_append, List.length_cons, extentOf]

theorem extent_append (names more : List String) :
    extent (names ++ more) = extent names + extent more := by
  simp [extent]

theorem extent_dropLast_le (names : List String) : extent names.dropLast ≤ extent names := by
  rcases List.eq_nil_or_concat names with rfl | ⟨front, n, rfl⟩
  · exact Nat.le_refl _
  · rw [List.concat_eq_append, List.dropLast_concat, extent_append]
    exact Nat.le_add_right _ _

/-- **A step** loses octets, unless it is to a segment. -/
theorem extent_walk (names : List String) (p : List Char) (last : Bool) :
    extent (walk names p last) ≤ extent names + ((Utf8.encode p).length + 1)
      ∧ (extent names + ((Utf8.encode p).length + 1) ≤ extent (walk names p last) →
          isHere p = false ∧ isAbove p = false) := by
  have hstay : ∀ names : List String,
      extent (if last then names ++ [""] else names) ≤ extent names + 1 := by
    intro names
    split
    · rw [extent_append]
      exact Nat.le_refl _
    · exact Nat.le_succ _
  have hsome : isHere p = true ∨ isAbove p = true → 0 < (Utf8.encode p).length := by
    intro hdots
    cases p with
    | nil => exact absurd hdots (by decide)
    | cons c p =>
      have := Utf8.length_encodeChar_pos c
      rw [Utf8.encode_cons, List.length_append]
      omega
  unfold walk
  dsimp only
  split
  · next habove =>
    have := hstay names.dropLast
    have := extent_dropLast_le names
    have := hsome (Or.inr habove)
    omega
  · split
    · next hhere =>
      have := hstay names
      have := hsome (Or.inl hhere)
      omega
    · next habove hhere =>
      have hread : extent [escaped plainPath p] = (Percent.decode (Utf8.encode p)).length + 1 := by
        rw [extent, List.flatMap_singleton, List.length_cons, read_escaped]
      have := Percent.length_decode_le (Utf8.encode p)
      rw [extent_append, hread]
      exact ⟨by omega, fun _ => ⟨by simpa using hhere, by simpa using habove⟩⟩

/-- **A walk** loses octets, unless every piece is a segment. -/
theorem extent_walkAll (names : List String) (ps : List (List Char)) :
    extent (walkAll names ps) ≤ extent names + extentOf ps
      ∧ (extent names + extentOf ps ≤ extent (walkAll names ps) →
          ∀ p ∈ ps, isHere p = false ∧ isAbove p = false) := by
  induction ps generalizing names with
  | nil => simp [walkAll, extentOf]
  | cons p ps ih =>
    cases ps with
    | nil =>
      have hnil : extentOf [] = 0 := rfl
      rw [walkAll, extentOf_cons, hnil, Nat.add_zero, List.forall_mem_singleton]
      exact extent_walk names p true
    | cons q ps =>
      have hstep := extent_walk names p false
      have hrest := ih (walk names p false)
      rw [walkAll_cons_cons, extentOf_cons, List.forall_mem_cons]
      exact ⟨by omega, fun hle => ⟨hstep.2 (by omega), hrest.2 (by omega)⟩⟩

/-- Dividing at slashes loses nothing but the slashes. -/
theorem extentOf_pieces (cs : List Char) :
    extentOf (Pieces.pieces '/' cs) = (Utf8.encode cs).length + 1 := by
  induction cs with
  | nil => rfl
  | cons c cs ih =>
    by_cases hc : c = '/'
    · have hslash : (Utf8.encodeChar '/').length = 1 := by decide
      rw [Pieces.pieces, if_pos hc, extentOf_cons, ih, hc, Utf8.encode_cons, List.length_append,
        hslash, Utf8.encode_nil, List.length_nil]
      omega
    · rw [Pieces.pieces, if_neg hc]
      cases hps : Pieces.pieces '/' cs with
      | nil => exact absurd hps (Pieces.pieces_ne_nil '/' cs)
      | cons q ps =>
        rw [hps, extentOf_cons] at ih
        dsimp only
        rw [extentOf_cons, Utf8.encode_cons, Utf8.encode_cons, List.length_append,
          List.length_append]
        omega

end CredentialRotation.Url
