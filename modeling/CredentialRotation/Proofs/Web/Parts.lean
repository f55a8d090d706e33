import CredentialRotation.Proofs.Web.Path
import Mathlib.Data.List.DropRight
import Mathlib.Data.List.Forall2

/-!
# Addresses of parts

An address is often put together from parts with a slash before each. What
it is then an address of depends on the parts: a slash in one of them makes
two of it, two dots take away the one before, a question mark ends the
path. This file says which parts stand for themselves (`IsSegment`), each
read back from a segment of its own, and that no others do
(`read_walkAll_iff`).

That no others do is counted: reading an address loses octets wherever it
drops or cuts, walks up or takes an escape back, and as many segments as
there are parts, each with the octets of its part, are all that the
address had.
-/

namespace CredentialRotation.Url

variable {p cs place : List Char} {ps : List (List Char)}

/-! ## What is kept of an address -/

/-- The characters that no name of a place holds, and no part of a path:
they end it, divide it, or are dropped. -/
def marks : List Char := ['/', '\\', '?', '#', '\t', '\n', '\r']

/-- Whether a text ends in a character that is kept at the end of an
address. -/
def EndsVisibly (cs : List Char) : Prop := ∀ c ∈ cs.getLast?, isMargin c = false

instance (cs : List Char) : Decidable (EndsVisibly cs) :=
  decidable_of_iff (cs.getLast?.all (!isMargin ·) = true) (by
    rw [EndsVisibly]
    cases cs.getLast? <;> simp)

/-- What is kept of the end of an address. -/
def tidy (cs : List Char) : List Char :=
  (cs.rdropWhile isMargin).filter fun c => c ≠ '\t' ∧ c ≠ '\n' ∧ c ≠ '\r'

/-- What is kept of the end of an address as its path. -/
def onPath (cs : List Char) : List Char :=
  (Pieces.cutFirst '?' (Pieces.cutFirst '#' (tidy cs)).1).1

/-- A path with every backslash taken for a slash. -/
def slashed (cs : List Char) : List Char := cs.map fun c => if c = '\\' then '/' else c

theorem endsVisibly_iff : EndsVisibly cs ↔ cs.rdropWhile isMargin = cs := by
  rw [List.rdropWhile_eq_self_iff]
  constructor
  · intro h hne
    rw [h _ (List.getLast?_eq_some_getLast hne)]
    exact Bool.false_ne_true
  · intro h c hc
    obtain ⟨hne, rfl⟩ := List.mem_getLast?_eq_getLast hc
    exact Bool.eq_false_iff.2 (h hne)

/-- What follows a slash says how a text ends, for a slash is visible. -/
theorem endsVisibly_append_slash (front cs : List Char) :
    EndsVisibly (front ++ '/' :: cs) ↔ EndsVisibly cs := by
  have hlast : (front ++ '/' :: cs).getLast? = some (cs.getLast?.getD '/') := by
    rw [List.getLast?_append, List.getLast?_cons, Option.some_or]
  rw [EndsVisibly, EndsVisibly, hlast]
  cases cs.getLast? with
  | none =>
    have hslash : isMargin '/' = false := by decide
    simp [hslash]
  | some c => exact Iff.rfl

theorem tidy_sublist (cs : List Char) : (tidy cs).Sublist cs :=
  List.filter_sublist.trans (List.rdropWhile_prefix isMargin _).sublist

/-- What is dropped at the end of an address stands behind its last
slash. -/
theorem rdropWhile_append_slash (front cs : List Char) :
    (front ++ '/' :: cs).rdropWhile isMargin = front ++ '/' :: cs.rdropWhile isMargin := by
  rw [List.rdropWhile, List.reverse_append, List.reverse_cons, List.append_assoc,
    List.singleton_append, List.dropWhile_append]
  split
  · next hnil =>
    rw [List.isEmpty_iff] at hnil
    rw [List.rdropWhile, hnil, List.dropWhile_cons_of_neg (by decide), List.reverse_cons,
      List.reverse_reverse]
    rfl
  · rw [List.reverse_append, List.reverse_cons, List.reverse_reverse, List.append_assoc]
    rfl

theorem tidy_append_slash (front cs : List Char) :
    tidy (front ++ '/' :: cs)
      = front.filter (fun c => c ≠ '\t' ∧ c ≠ '\n' ∧ c ≠ '\r') ++ '/' :: tidy cs := by
  rw [tidy, rdropWhile_append_slash, List.filter_append, List.filter_cons_of_pos (by decide)]
  rfl

/-- A whole address is tidied there too, and blanks are dropped at its
start. -/
theorem clean_append_slash (front cs : List Char) :
    clean (front ++ '/' :: cs) = (front.dropWhile isMargin).filter
      (fun c => c ≠ '\t' ∧ c ≠ '\n' ∧ c ≠ '\r') ++ '/' :: tidy cs := by
  have hstart : (front ++ '/' :: cs).dropWhile isMargin
      = front.dropWhile isMargin ++ '/' :: cs := by
    rw [List.dropWhile_append]
    split
    · next hnil =>
      rw [List.isEmpty_iff.1 hnil, List.dropWhile_cons_of_neg (by decide), List.nil_append]
    · rfl
  show tidy ((front ++ '/' :: cs).dropWhile isMargin) = _
  rw [hstart, tidy_append_slash]

theorem tidy_eq_self_iff : tidy cs = cs ↔ EndsVisibly cs ∧ ∀ c ∈ cs, c ∉ ['\t', '\n', '\r'] := by
  have hkeep : ∀ c : Char, (c ≠ '\t' ∧ c ≠ '\n' ∧ c ≠ '\r') ↔ c ∉ ['\t', '\n', '\r'] := by
    simp [not_or]
  rw [endsVisibly_iff]
  constructor
  · intro h
    have hend : cs.rdropWhile isMargin = cs := by
      refine (List.rdropWhile_prefix isMargin _).sublist.antisymm ?_
      conv_lhs => rw [← h]
      exact List.filter_sublist
    rw [tidy, hend, List.filter_eq_self] at h
    exact ⟨hend, fun c hc => (hkeep c).1 (of_decide_eq_true (h c hc))⟩
  · rintro ⟨hend, hkept⟩
    rw [tidy, hend, List.filter_eq_self]
    exact fun c hc => decide_eq_true ((hkeep c).2 (hkept c hc))

theorem onPath_sublist (cs : List Char) : (onPath cs).Sublist cs :=
  ((Pieces.cutFirst_fst '?' _).1.sublist.trans (Pieces.cutFirst_fst '#' _).1.sublist).trans
    (tidy_sublist cs)

/-- All of a text is kept as the path if it ends visibly and has nothing in
it that ends a path or is dropped. -/
theorem onPath_eq_self_iff : onPath cs = cs ↔
    EndsVisibly cs ∧ (∀ c ∈ cs, c ∉ ['\t', '\n', '\r']) ∧ '#' ∉ cs ∧ '?' ∉ cs := by
  rw [← and_assoc, ← tidy_eq_self_iff]
  constructor
  · intro h
    have htidy : tidy cs = cs := by
      refine (tidy_sublist cs).antisymm ?_
      conv_lhs => rw [← h]
      exact (Pieces.cutFirst_fst '?' _).1.sublist.trans (Pieces.cutFirst_fst '#' _).1.sublist
    have hmark : (Pieces.cutFirst '#' cs).1 = cs := by
      refine (Pieces.cutFirst_fst '#' _).1.sublist.antisymm ?_
      conv_lhs => rw [← h, onPath, htidy]
      exact (Pieces.cutFirst_fst '?' _).1.sublist
    rw [onPath, htidy, hmark, Pieces.cutFirst_fst_eq_self_iff] at h
    exact ⟨htidy, Pieces.cutFirst_fst_eq_self_iff.1 hmark, h⟩
  · rintro ⟨htidy, hhash, hask⟩
    rw [onPath, htidy, Pieces.cutFirst_fst_eq_self_iff.2 hhash,
      Pieces.cutFirst_fst_eq_self_iff.2 hask]

/-! ## Parts that stand for themselves -/

/-- A part that is read back from a segment of its own: nothing divides or
ends it, it is no step to here or above, and nothing in it reads as an
escape. -/
structure IsSegment (p : List Char) : Prop where
  unmarked : ∀ c ∈ p, c ∉ marks
  not_here : isHere p = false
  not_above : isAbove p = false
  unescaped : Percent.decode (Utf8.encode p) = Utf8.encode p

instance (p : List Char) : Decidable (IsSegment p) :=
  decidable_of_iff (p.all (· ∉ marks) = true ∧ isHere p = false ∧ isAbove p = false
      ∧ Percent.decode (Utf8.encode p) = Utf8.encode p) (by
    simp only [List.all_eq_true, decide_eq_true_eq]
    exact ⟨fun ⟨hmarks, hhere, habove, hescape⟩ => ⟨hmarks, hhere, habove, hescape⟩,
      fun h => ⟨h.unmarked, h.not_here, h.not_above, h.unescaped⟩⟩)

/-- Parts with a slash before each. -/
def spelled (ps : List (List Char)) : List Char := ps.flatMap fun p => '/' :: p

@[simp] theorem spelled_nil : spelled [] = [] := rfl

@[simp] theorem spelled_cons : spelled (p :: ps) = '/' :: (p ++ spelled ps) := rfl

/-- How parts end is for the last ones to say. -/
theorem endsVisibly_spelled (p : List Char) (ps : List (List Char)) (q : List Char)
    (qs : List (List Char)) :
    EndsVisibly (p ++ spelled (ps ++ q :: qs)) ↔ EndsVisibly (q ++ spelled qs) := by
  have hcut : p ++ spelled (ps ++ q :: qs) = (p ++ spelled ps) ++ '/' :: (q ++ spelled qs) := by
    simp [spelled]
  rw [hcut, endsVisibly_append_slash]

/-- What stands in an address of parts: slashes, and what stands in them. -/
theorem of_mem_spelled {c : Char} (h : c ∈ p ++ spelled ps) : c = '/' ∨ ∃ q ∈ p :: ps, c ∈ q := by
  rcases List.mem_append.1 h with hc | hc
  · exact Or.inr ⟨p, List.mem_cons_self, hc⟩
  · obtain ⟨q, hq, hc⟩ := List.mem_flatMap.1 hc
    exact (List.mem_cons.1 hc).imp_right fun hc => ⟨q, List.mem_cons_of_mem p hq, hc⟩

theorem mem_spelled {c : Char} {q : List Char} (hq : q ∈ p :: ps) (hc : c ∈ q) :
    c ∈ p ++ spelled ps := by
  rcases List.mem_cons.1 hq with rfl | hq
  · exact List.mem_append_left _ hc
  · exact List.mem_append_right _ (List.mem_flatMap.2 ⟨q, hq, List.mem_cons_of_mem _ hc⟩)

/-- The slashes between parts divide them. -/
theorem pieces_spelled (p : List Char) (ps : List (List Char)) :
    Pieces.pieces '/' (p ++ spelled ps) = (p :: ps).flatMap (Pieces.pieces '/') := by
  induction ps generalizing p with
  | nil => simp
  | cons q ps ih => rw [spelled_cons, Pieces.pieces_append_mark, ih, ← List.flatMap_cons]

theorem extentOf_spelled (p : List Char) (ps : List (List Char)) :
    extentOf (p :: ps) = (Utf8.encode (p ++ spelled ps)).length + 1 := by
  have hslash : (Utf8.encodeChar '/').length = 1 := by decide
  induction ps generalizing p with
  | nil => simp [extentOf]
  | cons q ps ih =>
    rw [extentOf_cons, ih, spelled_cons]
    simp only [Utf8.encode_append, Utf8.encode_cons, List.length_append, hslash]
    omega

theorem slashed_spelled (p : List Char) (ps : List (List Char)) :
    slashed (p ++ spelled ps) = slashed p ++ spelled (ps.map slashed) := by
  simp [slashed, spelled, List.map_flatMap, List.flatMap_map]

/-- A slash takes as many octets as a backslash. -/
theorem length_encode_slashed (cs : List Char) :
    (Utf8.encode (slashed cs)).length = (Utf8.encode cs).length := by
  induction cs with
  | nil => rfl
  | cons c cs ih =>
    have hone : (Utf8.encodeChar (if c = '\\' then '/' else c)).length
        = (Utf8.encodeChar c).length := by
      split
      · next h =>
        rw [h]
        decide
      · rfl
    rw [slashed, List.map_cons, ← slashed, Utf8.encode_cons, Utf8.encode_cons, List.length_append,
      List.length_append, hone, ih]

/-- A part that is one piece once backslashes are slashes has neither. -/
theorem not_mem_of_slashed (h : '/' ∉ slashed p) : '/' ∉ p ∧ '\\' ∉ p := by
  have hmap : ∀ c ∈ p, (if c = '\\' then '/' else c) ≠ '/' := fun c hc heq =>
    h (List.mem_map.2 ⟨c, hc, heq⟩)
  exact ⟨fun hmem => hmap _ hmem (by decide), fun hmem => hmap _ hmem (by decide)⟩

/-- Parts without slashes and backslashes are the pieces of their path. -/
theorem pieces_slashed_spelled (h : ∀ q ∈ p :: ps, '/' ∉ q ∧ '\\' ∉ q) :
    Pieces.pieces '/' (slashed (p ++ spelled ps)) = p :: ps := by
  have hone : ∀ q ∈ p :: ps, Pieces.pieces '/' (slashed q) = [q] := by
    intro q hq
    have hslashed : slashed q = q := by
      refine (List.map_congr_left fun c hc => ?_).trans (List.map_id q)
      exact if_neg fun hback : c = '\\' => (h q hq).2 (hback ▸ hc)
    rw [hslashed, Pieces.pieces_of_not_mem (h q hq).1]
  calc Pieces.pieces '/' (slashed (p ++ spelled ps))
      = (p :: ps).flatMap fun q => Pieces.pieces '/' (slashed q) := by
        rw [slashed_spelled, pieces_spelled, ← List.map_cons, List.flatMap_map]
    _ = (p :: ps).flatMap ([·]) := List.flatMap_congr hone
    _ = p :: ps := List.flatMap_singleton' _

/-- Nothing is dropped or cut off of parts that stand for themselves. -/
theorem onPath_of_isSegment (hseg : ∀ q ∈ p :: ps, IsSegment q)
    (hend : EndsVisibly (p ++ spelled ps)) : onPath (p ++ spelled ps) = p ++ spelled ps := by
  have hmarks : ∀ c ∈ p ++ spelled ps, c ∈ marks → c = '/' := fun c hc hmark =>
    (of_mem_spelled hc).resolve_right fun ⟨q, hq, hc⟩ => (hseg q hq).unmarked c hc hmark
  refine onPath_eq_self_iff.2 ⟨hend, fun c hc hbreak => ?_, fun hc => ?_, fun hc => ?_⟩
  · have hmark : c ∈ marks := List.mem_of_mem_drop (i := 4) hbreak
    rw [hmarks c hc hmark] at hbreak
    exact absurd hbreak (by decide)
  · exact absurd (hmarks _ hc (by decide)) (by decide)
  · exact absurd (hmarks _ hc (by decide)) (by decide)

/-- And each is a segment. -/
theorem walkAll_of_isSegment (hseg : ∀ q ∈ p :: ps, IsSegment q)
    (hend : EndsVisibly (p ++ spelled ps)) :
    walkAll [] (Pieces.pieces '/' (slashed (onPath (p ++ spelled ps))))
      = (p :: ps).map (escaped plainPath) := by
  have hnot : ∀ q ∈ p :: ps, '/' ∉ q ∧ '\\' ∉ q := fun q hq =>
    ⟨fun hc => (hseg q hq).unmarked _ hc (by decide),
      fun hc => (hseg q hq).unmarked _ hc (by decide)⟩
  have hdots : ∀ q ∈ p :: ps, isHere q = false ∧ isAbove q = false := fun q hq =>
    ⟨(hseg q hq).not_here, (hseg q hq).not_above⟩
  rw [onPath_of_isSegment hseg hend, pieces_slashed_spelled hnot, walkAll_of_not_dots hdots,
    List.nil_append]

/-- **Nothing is lost** of parts that are read back from the path: there is
as much in the end. -/
theorem onPath_of_read
    (hread : (walkAll [] (Pieces.pieces '/' (slashed (onPath (p ++ spelled ps))))).map read
      = (p :: ps).map Utf8.encode) :
    onPath (p ++ spelled ps) = p ++ spelled ps
      ∧ ∀ q ∈ Pieces.pieces '/' (slashed (p ++ spelled ps)),
        isHere q = false ∧ isAbove q = false := by
  have hextent : extent (walkAll [] (Pieces.pieces '/' (slashed (onPath (p ++ spelled ps)))))
      = extentOf (p :: ps) := by
    have hlengths := congrArg (fun bss => (bss.flatMap (0x2F :: ·)).length) hread
    rw [List.flatMap_map, List.flatMap_map] at hlengths
    exact hlengths
  have hwalk := extent_walkAll [] (Pieces.pieces '/' (slashed (onPath (p ++ spelled ps))))
  have hsub := Utf8.length_encode_of_sublist (onPath_sublist (p ++ spelled ps))
  have hzero : extent [] = 0 := rfl
  rw [extentOf_spelled] at hextent
  rw [extentOf_pieces, length_encode_slashed] at hwalk
  have hkept : onPath (p ++ spelled ps) = p ++ spelled ps := hsub.2 (by omega)
  have hdots := hwalk.2 (by omega)
  rw [hkept] at hdots
  exact ⟨hkept, hdots⟩

/-- Where there are no more pieces than parts, each part is one piece. -/
theorem not_mem_of_length_pieces
    (h : (Pieces.pieces '/' (slashed (p ++ spelled ps))).length = (p :: ps).length) :
    ∀ q ∈ p :: ps, '/' ∉ q ∧ '\\' ∉ q := by
  have hmany : (((p :: ps).map slashed).flatMap (Pieces.pieces '/')).length
      ≤ ((p :: ps).map slashed).length := by
    rw [slashed_spelled, pieces_spelled, ← List.map_cons] at h
    rw [h, List.length_map]
  have hpieces := (Pieces.not_mem_of_length_flatMap_pieces _).2 hmany
  exact fun q hq => not_mem_of_slashed (hpieces _ (List.mem_map_of_mem hq))

/-- **Parts are read back from the path just if they stand for
themselves.** -/
theorem read_walkAll_iff :
    (walkAll [] (Pieces.pieces '/' (slashed (onPath (p ++ spelled ps))))).map read
        = (p :: ps).map Utf8.encode
      ↔ (∀ q ∈ p :: ps, IsSegment q) ∧ EndsVisibly (p ++ spelled ps) := by
  constructor
  · intro hread
    obtain ⟨hkept, hdots⟩ := onPath_of_read hread
    obtain ⟨hend, hbreak, hhash, hask⟩ := onPath_eq_self_iff.1 hkept
    rw [hkept, walkAll_of_not_dots hdots, List.nil_append] at hread
    have hlength := congrArg List.length hread
    rw [List.length_map, List.length_map, List.length_map] at hlength
    have hnot := not_mem_of_length_pieces hlength
    rw [pieces_slashed_spelled hnot] at hread hdots
    rw [List.map_map, List.map_inj_left] at hread
    refine ⟨fun q hq => ⟨fun c hc hmark => ?_, (hdots q hq).1, (hdots q hq).2, ?_⟩, hend⟩
    · have hmem := mem_spelled hq hc
      rcases List.mem_cons.1 hmark with rfl | hmark
      · exact (hnot q hq).1 hc
      rcases List.mem_cons.1 hmark with rfl | hmark
      · exact (hnot q hq).2 hc
      rcases List.mem_cons.1 hmark with rfl | hmark
      · exact hask hmem
      rcases List.mem_cons.1 hmark with rfl | hmark
      · exact hhash hmem
      · exact hbreak c hmem hmark
    · have hq := hread q hq
      rwa [Function.comp_apply, read_escaped] at hq
  · rintro ⟨hseg, hend⟩
    rw [walkAll_of_isSegment hseg hend, List.map_map]
    refine List.map_congr_left fun q hq => ?_
    rw [Function.comp_apply, read_escaped, (hseg q hq).unescaped]

/-! ## Addresses of parts -/

/-- An address on the web: its scheme, a place and what follows the slash. -/
def web (place cs : List Char) : List Char :=
  ['h', 't', 't', 'p', ':', '/', '/'] ++ place ++ '/' :: cs

theorem clean_web (hplace : ∀ c ∈ place, c ∉ marks) :
    clean (web place cs) = web place (tidy cs) := by
  have hmargin : (['h', 't', 't', 'p', ':', '/', '/'] ++ place).dropWhile isMargin
      = ['h', 't', 't', 'p', ':', '/', '/'] ++ place := rfl
  have hkept : ∀ c ∈ ['h', 't', 't', 'p', ':', '/', '/'] ++ place,
      decide (c ≠ '\t' ∧ c ≠ '\n' ∧ c ≠ '\r') = true := by
    rw [List.forall_mem_append]
    refine ⟨List.all_eq_true.1 (by decide), fun c hc => ?_⟩
    have hmark := hplace c hc
    simp only [marks, List.mem_cons, List.not_mem_nil, or_false, not_or] at hmark
    exact decide_eq_true hmark.2.2.2.2
  rw [web, clean_append_slash, hmargin, List.filter_eq_self.2 hkept]
  rfl

/-- The scheme is cut off at the first colon. -/
theorem scheme?_web (place cs : List Char) :
    scheme? (web place cs) = some ("http", ['/', '/'] ++ place ++ '/' :: cs) := by
  have hnot : ':' ∉ ['h', 't', 't', 'p'] := by decide
  have hcut := Pieces.cutFirst_append hnot (['/', '/'] ++ place ++ '/' :: cs)
  have hweb : web place cs
      = ['h', 't', 't', 'p'] ++ ':' :: (['/', '/'] ++ place ++ '/' :: cs) := by
    simp [web]
  rw [hweb, scheme?, hcut]
  rfl

/-- What ends a path is first met behind the place. -/
theorem cutFirst_place (hplace : ∀ c ∈ place, c ∉ marks) {mark : Char} (hmark : mark ∈ ['?', '#'])
    (cs : List Char) : Pieces.cutFirst mark (['/', '/'] ++ place ++ '/' :: cs)
      = (['/', '/'] ++ place ++ '/' :: (Pieces.cutFirst mark cs).1,
          (Pieces.cutFirst mark cs).2) := by
  have hslash : mark ≠ '/' := by
    rintro rfl
    exact absurd hmark (by decide)
  have hnot : mark ∉ ['/', '/'] ++ place ++ ['/'] := by
    simp only [List.mem_append, List.mem_cons, List.not_mem_nil, or_false, hslash, false_or]
    exact fun hmem =>
      hplace mark hmem (List.mem_of_mem_drop (i := 2) (List.mem_append_left _ hmark))
  have hcut := Pieces.cutFirst_append_of_not_mem hnot cs
  simpa using hcut

/-- The place stands between the slashes. -/
theorem place?_web (hplace : ∀ c ∈ place, c ∉ marks) (hne : place ≠ []) (cs : List Char) :
    place? "http" (['/', '/'] ++ place ++ '/' :: cs)
      = (authority? "http" place).map fun a =>
        (some a, .segments (walkAll [] (Pieces.pieces '/' (slashed cs)))) := by
  have hopen : ∀ c ∈ place, isSlash true c = false := by
    intro c hc
    have hmark := hplace c hc
    simp only [marks, List.mem_cons, List.not_mem_nil, or_false, not_or] at hmark
    simp [isSlash, hmark.1, hmark.2.1]
  have hdrop : (['/', '/'] ++ place ++ '/' :: cs).dropWhile (isSlash true)
      = place ++ '/' :: cs := by
    obtain ⟨c, place, rfl⟩ := List.exists_cons_of_ne_nil hne
    have hc := hopen c List.mem_cons_self
    show ((c :: place) ++ '/' :: cs).dropWhile (isSlash true) = _
    rw [List.cons_append, List.dropWhile_cons_of_neg (by rw [hc]; exact Bool.false_ne_true)]
  have htake : (place ++ '/' :: cs).takeWhile (fun c => !isSlash true c) = place := by
    rw [List.takeWhile_append_of_pos fun c hc => by rw [hopen c hc]; rfl,
      List.takeWhile_cons_of_neg (by decide), List.append_nil]
  have hspecial : isSpecial "http" = true := by decide
  have hfile : decide ("http" = "file") = false := by decide
  have hnotFile : decide ("http" ≠ "file") = true := by decide
  have hsome : place.isEmpty = false := List.isEmpty_eq_false_iff.2 hne
  simp only [place?, hspecial, hfile, hnotFile, Bool.and_self, if_true, hdrop, htake, hsome,
    Bool.false_and, Bool.false_eq_true, if_false, List.drop_left]
  cases authority? "http" place with
  | none => rfl
  | some a => rfl

/-- What an address of the web is an address of. -/
theorem ofChars?_web (hplace : ∀ c ∈ place, c ∉ marks) (hne : place ≠ []) (cs : List Char) :
    ofChars? (web place cs) = (authority? "http" place).map fun a =>
      { scheme := "http"
        authority := some a
        path := .segments (walkAll [] (Pieces.pieces '/' (slashed (onPath cs))))
        query := (Pieces.cutFirst '?' (Pieces.cutFirst '#' (tidy cs)).1).2.map
          (escaped (plainQuery true))
        fragment := (Pieces.cutFirst '#' (tidy cs)).2.map (escaped plainFragment) } := by
  rw [ofChars?, clean_web hplace, scheme?_web]
  simp only [Option.bind_eq_bind, Option.bind_some, cutFirst_place hplace (by decide : '#' ∈ _),
    cutFirst_place hplace (by decide : '?' ∈ _), place?_web hplace hne]
  cases authority? "http" place with
  | none => rfl
  | some a => rfl

/-! ## Reading the path on the wire -/

variable {u : Url} {names : List String}

theorem toList_pathText (h : u.path = .segments names) :
    u.pathText.toList = spelled (names.map String.toList) := by
  rw [pathText, h, String.toList_join, List.flatMap_map, spelled, List.flatMap_map]
  refine List.flatMap_congr fun n _ => ?_
  rw [String.toList_append]
  rfl

/-- Parts without a slash are told from where they stand. -/
theorem spelled_inj {qs : List (List Char)} (hps : ∀ p ∈ ps, '/' ∉ p) (hqs : ∀ q ∈ qs, '/' ∉ q) :
    spelled ps = spelled qs ↔ ps = qs := by
  have hpieces : ∀ ps : List (List Char), (∀ p ∈ ps, '/' ∉ p) →
      Pieces.pieces '/' (spelled ps) = [] :: ps := by
    intro ps hps
    have hdivided := pieces_spelled [] ps
    rw [List.nil_append, List.flatMap_cons] at hdivided
    rw [hdivided, List.flatMap_congr fun p hp => Pieces.pieces_of_not_mem (hps p hp),
      List.flatMap_singleton']
    rfl
  refine ⟨fun heq => ?_, fun heq => congrArg spelled heq⟩
  have hlists := congrArg (Pieces.pieces '/') heq
  rw [hpieces ps hps, hpieces qs hqs] at hlists
  exact (List.cons.inj hlists).2

/-- **Parts that stand for themselves** are the segments on the wire, each
escaped, with no query behind them. -/
theorem pathText_of_isSegment (hplace : ∀ c ∈ place, c ∉ marks) (hne : place ≠ [])
    (hu : ofChars? (web place (p ++ spelled ps)) = some u) (hseg : ∀ q ∈ p :: ps, IsSegment q)
    (hend : EndsVisibly (p ++ spelled ps)) :
    u.query = none
      ∧ u.pathText.toList = spelled ((p :: ps).map fun q => (escaped plainPath q).toList) := by
  obtain ⟨-, hbreak, hhash, hask⟩ := onPath_eq_self_iff.1 (onPath_of_isSegment hseg hend)
  have htidy : tidy (p ++ spelled ps) = p ++ spelled ps := tidy_eq_self_iff.2 ⟨hend, hbreak⟩
  rw [ofChars?_web hplace hne, Option.map_eq_some_iff] at hu
  obtain ⟨a, -, rfl⟩ := hu
  refine ⟨?_, ?_⟩
  · rw [htidy, Pieces.cutFirst_of_not_mem hhash, Pieces.cutFirst_of_not_mem hask]
    rfl
  · rw [toList_pathText rfl, walkAll_of_isSegment hseg hend, List.map_map]
    rfl

/-- A name of a segment on the wire that stands for a part. -/
structure StandsFor (name : String) (part : List Char) : Prop where
  no_slash : '/' ∉ name.toList
  read : read name = Utf8.encode part

instance (name : String) (part : List Char) : Decidable (StandsFor name part) :=
  decidable_of_iff ('/' ∉ name.toList ∧ Url.read name = Utf8.encode part)
    ⟨fun ⟨hslash, hread⟩ => ⟨hslash, hread⟩, fun h => ⟨h.no_slash, h.read⟩⟩

theorem IsSegment.standsFor_escaped (h : IsSegment p) : StandsFor (escaped plainPath p) p where
  no_slash := slash_not_mem_escaped fun hc => h.unmarked _ hc (by decide)
  read := by rw [read_escaped, h.unescaped]

theorem map_read_of_standsFor (h : List.Forall₂ StandsFor names ps) :
    (∀ n ∈ names, '/' ∉ n.toList) ∧ names.map read = ps.map Utf8.encode := by
  induction h with
  | nil => exact ⟨fun n hn => absurd hn List.not_mem_nil, rfl⟩
  | cons hname _ ih =>
    rw [List.forall_mem_cons, List.map_cons, List.map_cons, hname.read, ih.2]
    exact ⟨⟨hname.no_slash, ih.1⟩, rfl⟩

/-- **No other parts** have segments on the wire that stand for them. -/
theorem isSegment_of_standsFor (hplace : ∀ c ∈ place, c ∉ marks) (hne : place ≠ [])
    (hu : ofChars? (web place (p ++ spelled ps)) = some u)
    (hnames : List.Forall₂ StandsFor names (p :: ps))
    (htext : u.pathText.toList = spelled (names.map String.toList)) :
    (∀ q ∈ p :: ps, IsSegment q) ∧ EndsVisibly (p ++ spelled ps) := by
  obtain ⟨hslash, hread⟩ := map_read_of_standsFor hnames
  rw [ofChars?_web hplace hne, Option.map_eq_some_iff] at hu
  obtain ⟨a, -, rfl⟩ := hu
  rw [toList_pathText rfl, spelled_inj] at htext
  · rw [List.map_inj_right fun _ _ => String.toList_inj.1] at htext
    rwa [← read_walkAll_iff, htext]
  · intro q hq
    obtain ⟨n, hn, rfl⟩ := List.mem_map.1 hq
    exact slash_not_mem_walkAll (fun n hn => absurd hn List.not_mem_nil)
      (fun q hq => Pieces.not_mem_of_mem_pieces hq) n hn
  · intro q hq
    obtain ⟨n, hn, rfl⟩ := List.mem_map.1 hq
    exact hslash n hn

end CredentialRotation.Url
