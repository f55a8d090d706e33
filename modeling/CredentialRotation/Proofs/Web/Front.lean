import CredentialRotation.Proofs.Web.Parts

/-!
# What the front of an address decides

An address leads to a site: a scheme of the web, and where its host is
found and as whom it is asked. Whatever is put behind a name between two
slashes, the site stays the same, and there is one or there is none
(`site?_append`). So a client that puts ids at the end of an address sends
all its requests to one site, or none at all.
-/

namespace CredentialRotation.Url

variable {name front : List Char}

/-- The site an address leads to. -/
def site? (cs : List Char) : Option (String × Option Authority) :=
  ((ofChars? cs).filter isWeb).map fun u => (u.scheme, u.authority)

/-- The part of an address before its query and its fragment. -/
def body (cs : List Char) : List Char :=
  (Pieces.cutFirst '?' (Pieces.cutFirst '#' cs).1).1

/-- The name of a place, which ends at the next slash. -/
def placeName (cs : List Char) : List Char :=
  (cs.dropWhile (isSlash true)).takeWhile fun c => !isSlash true c

/-! ## Steps of the reading -/

/-- There is no scheme where a slash comes before any colon. -/
theorem scheme?_eq_none (hslash : '/' ∈ front) (hcolon : ':' ∉ front) (rest : List Char) :
    scheme? (front ++ rest) = none := by
  rw [scheme?, Pieces.cutFirst_append_of_not_mem hcolon]
  generalize Pieces.cutFirst ':' rest = cut
  obtain ⟨before, after⟩ := cut
  cases front with
  | nil => exact absurd hslash List.not_mem_nil
  | cons c front =>
    cases after with
    | none => rfl
    | some after =>
      refine if_neg fun hname => ?_
      rw [Bool.and_eq_true, List.all_eq_true] at hname
      rcases List.mem_cons.1 hslash with rfl | hmem
      · exact absurd hname.1 (by decide)
      · exact absurd (hname.2 _ (List.mem_append_left _ hmem)) (by decide)

/-- A scheme ends before the first slash. -/
theorem scheme?_append_slash (base rest : List Char) :
    scheme? (base ++ '/' :: rest)
      = (scheme? (base ++ ['/'])).map fun s => (s.1, s.2 ++ rest) := by
  by_cases hcolon : ':' ∈ base
  · obtain ⟨before, after, rfl, hbefore⟩ := List.eq_append_cons_of_mem hcolon
    rw [List.append_assoc, List.append_assoc, List.cons_append, List.cons_append, scheme?, scheme?,
      Pieces.cutFirst_append hbefore, Pieces.cutFirst_append hbefore]
    cases before with
    | nil => rfl
    | cons c before =>
      dsimp only
      split <;> simp
  · have hslash : '/' ∈ base ++ ['/'] := by simp
    have hnot : ':' ∉ base ++ ['/'] := by simp [hcolon]
    have hnone := scheme?_eq_none hslash hnot []
    rw [List.append_nil] at hnone
    rw [hnone, List.append_cons, scheme?_eq_none hslash hnot]
    rfl

/-- A mark is met in a front or behind it. -/
theorem cutFirst_fst_append (mark : Char) (front rest : List Char) :
    (Pieces.cutFirst mark (front ++ rest)).1 = if mark ∈ front
      then (Pieces.cutFirst mark front).1 else front ++ (Pieces.cutFirst mark rest).1 := by
  split
  · next hmem =>
    obtain ⟨before, after, rfl, hbefore⟩ := List.eq_append_cons_of_mem hmem
    rw [List.append_assoc, List.cons_append, Pieces.cutFirst_append hbefore,
      Pieces.cutFirst_append hbefore]
  · next hnot => rw [Pieces.cutFirst_append_of_not_mem hnot]

/-- A place is named before a slash that follows its name. -/
theorem placeName_append_slash (hname : ∃ c ∈ front, isSlash true c = false) (rest : List Char) :
    placeName (front ++ '/' :: rest) = placeName front := by
  have hdrop : (front ++ '/' :: rest).dropWhile (isSlash true)
      = front.dropWhile (isSlash true) ++ '/' :: rest := by
    rw [List.dropWhile_append, if_neg]
    rw [List.isEmpty_iff, List.dropWhile_eq_nil_iff]
    intro hall
    obtain ⟨c, hc, hopen⟩ := hname
    rw [hall c hc] at hopen
    cases hopen
  rw [placeName, hdrop, List.takeWhile_append, List.takeWhile_cons_of_neg (by decide),
    List.append_nil, placeName]
  split
  · next hall => exact (List.takeWhile_prefix _).eq_of_length hall |>.symm
  · rfl

/-- What is read of an address goes on to the next slash at most. -/
theorem placeName_body_append_slash (hname : ∃ c ∈ front, isSlash true c = false)
    (rest : List Char) : placeName (body (front ++ '/' :: rest)) = placeName (body front) := by
  by_cases hhash : '#' ∈ front
  · simp only [body, cutFirst_fst_append, if_pos hhash]
  by_cases hask : '?' ∈ front
  · simp only [body, cutFirst_fst_append, if_neg hhash, if_pos hask,
      Pieces.cutFirst_of_not_mem hhash]
  · have hslash : body (front ++ '/' :: rest) = front ++ '/' :: body rest := by
      simp only [body, cutFirst_fst_append, if_neg hhash, if_neg hask]
      rfl
    rw [hslash, placeName_append_slash hname, body, Pieces.cutFirst_of_not_mem hhash,
      Pieces.cutFirst_of_not_mem hask]

/-- An address with a scheme of the web leads where its place is. -/
theorem place?_map_fst {scheme : String} (hweb : scheme = "http" ∨ scheme = "https")
    (cs : List Char) :
    (place? scheme cs).map Prod.fst = (authority? scheme (placeName cs)).map some := by
  have hspecial : isSpecial scheme = true := by rcases hweb with rfl | rfl <;> decide
  have hfile : decide (scheme = "file") = false := by rcases hweb with rfl | rfl <;> decide
  have hnotFile : decide (scheme ≠ "file") = true := by rcases hweb with rfl | rfl <;> decide
  simp only [place?, hspecial, hfile, hnotFile, Bool.and_self, if_true, Bool.not_true,
    Bool.and_false, Bool.false_and, Bool.false_eq_true, if_false]
  rw [placeName]
  cases authority? scheme _ <;> rfl

/-! ## The site -/

/-- The site is read off the scheme and the name of the place. -/
theorem site?_eq (cs : List Char) : site? cs = (scheme? (clean cs)).bind fun s =>
    if s.1 = "http" ∨ s.1 = "https" then
      (authority? s.1 (placeName (body s.2))).map fun a => (s.1, some a)
    else none := by
  rw [site?, ofChars?]
  cases scheme? (clean cs) with
  | none => rfl
  | some s =>
    obtain ⟨scheme, rest⟩ := s
    simp only [Option.bind_eq_bind, Option.bind_some]
    by_cases hweb : scheme = "http" ∨ scheme = "https"
    · have hplace := place?_map_fst hweb (body rest)
      rw [if_pos hweb]
      rw [body] at hplace ⊢
      cases hp : place? scheme (Pieces.cutFirst '?' (Pieces.cutFirst '#' rest).1).1 with
      | none =>
        rw [hp, Option.map_none, eq_comm, Option.map_eq_none_iff] at hplace
        rw [hplace]
        rfl
      | some p =>
        rw [hp, Option.map_some, eq_comm, Option.map_eq_some_iff] at hplace
        obtain ⟨a, ha, hfst⟩ := hplace
        rw [ha, Option.bind_some, Option.filter_some, if_pos (by simpa [isWeb] using hweb),
          Option.map_some, Option.map_some, hfst]
    · rw [if_neg hweb]
      cases place? scheme _ with
      | none => rfl
      | some p =>
        rw [Option.bind_some, Option.filter_some, if_neg (by simpa [isWeb] using hweb)]
        rfl

/-- **The front of an address decides its site.** -/
theorem site?_append (hname : ∃ c ∈ name, c ∉ marks) (base rest : List Char) :
    site? (base ++ '/' :: (name ++ '/' :: rest)) = site? (base ++ '/' :: (name ++ ['/'])) := by
  obtain ⟨c, hc, hmark⟩ := hname
  simp only [marks, List.mem_cons, List.not_mem_nil, or_false, not_or] at hmark
  obtain ⟨hslash, hback, -, -, hkept⟩ := hmark
  have hopen (front : List Char) : ∃ c ∈ front ++ name.filter
      (fun c => c ≠ '\t' ∧ c ≠ '\n' ∧ c ≠ '\r'), isSlash true c = false :=
    ⟨c, List.mem_append_right _ (List.mem_filter.2 ⟨hc, decide_eq_true hkept⟩), by
      simp [isSlash, hslash, hback]⟩
  rw [site?_eq, site?_eq, clean_append_slash, clean_append_slash, tidy_append_slash,
    tidy_append_slash, scheme?_append_slash, scheme?_append_slash _ (_ ++ _)]
  cases scheme? _ with
  | none => rfl
  | some s =>
    simp only [Option.map_some, Option.bind_some, ← List.append_assoc,
      placeName_body_append_slash (hopen _)]

end CredentialRotation.Url
