import CredentialRotation.Text.Pieces

/-!
# What dividing a list keeps

A mark divides what stands on its two sides apart, so the pieces of a
list that is put together from parts are those of the parts. What is cut
off at a mark is an end of the list, and nothing is cut off where there is
no mark.
-/

namespace CredentialRotation.Pieces

variable {α : Type} [DecidableEq α] {mark : α} {xs p : List α}

/-- A mark divides what stands on its two sides apart. -/
theorem pieces_append_mark (xs rest : List α) :
    pieces mark (xs ++ mark :: rest) = pieces mark xs ++ pieces mark rest := by
  induction xs with
  | nil => simp [pieces]
  | cons x xs ih =>
    by_cases hx : x = mark
    · simp [pieces, hx, ih]
    · have hne := pieces_ne_nil mark xs
      simp only [List.cons_append, pieces, if_neg hx, ih]
      cases h : pieces mark xs with
      | nil => exact absurd h hne
      | cons p ps => rfl

/-- No piece has the mark in it. -/
theorem not_mem_of_mem_pieces (h : p ∈ pieces mark xs) : mark ∉ p := by
  induction xs generalizing p with
  | nil => simp_all [pieces]
  | cons x xs ih =>
    by_cases hx : x = mark
    · simp only [pieces, if_pos hx, List.mem_cons] at h
      rcases h with rfl | h
      · exact List.not_mem_nil
      · exact ih h
    · simp only [pieces, if_neg hx] at h
      cases hps : pieces mark xs with
      | nil => exact absurd hps (pieces_ne_nil mark xs)
      | cons q ps =>
        rw [hps] at ih h
        rcases List.mem_cons.1 h with rfl | h
        · rw [List.mem_cons, not_or]
          exact ⟨Ne.symm hx, ih List.mem_cons_self⟩
        · exact ih (List.mem_cons_of_mem _ h)

/-- **Lists that are no more pieces than they are many** have no mark. -/
theorem not_mem_of_length_flatMap_pieces (xss : List (List α)) :
    xss.length ≤ (xss.flatMap (pieces mark)).length
      ∧ ((xss.flatMap (pieces mark)).length ≤ xss.length → ∀ xs ∈ xss, mark ∉ xs) := by
  induction xss with
  | nil => simp
  | cons xs xss ih =>
    have hpos := List.length_pos_iff.2 (pieces_ne_nil mark xs)
    have hone : mark ∈ xs → 1 < (pieces mark xs).length := by
      intro hmem
      obtain ⟨front, back, rfl⟩ := List.append_of_mem hmem
      have hfront := List.length_pos_iff.2 (pieces_ne_nil mark front)
      have hback := List.length_pos_iff.2 (pieces_ne_nil mark back)
      rw [pieces_append_mark, List.length_append]
      omega
    rw [List.flatMap_cons, List.length_append, List.length_cons, List.forall_mem_cons]
    refine ⟨by omega, fun hle => ⟨fun hmem => ?_, ih.2 (by omega)⟩⟩
    have := hone hmem
    omega

/-- A list without the mark is what stands before the first one. -/
theorem cutFirst_append (h : mark ∉ xs) (rest : List α) :
    cutFirst mark (xs ++ mark :: rest) = (xs, some rest) := by
  induction xs with
  | nil => simp [cutFirst]
  | cons x xs ih =>
    rw [List.mem_cons, not_or] at h
    simp [cutFirst, Ne.symm h.1, ih h.2]

/-- The first mark is not in a front without it. -/
theorem cutFirst_append_of_not_mem (h : mark ∉ xs) (rest : List α) :
    cutFirst mark (xs ++ rest) = (xs ++ (cutFirst mark rest).1, (cutFirst mark rest).2) := by
  induction xs with
  | nil => rfl
  | cons x xs ih =>
    rw [List.mem_cons, not_or] at h
    simp [cutFirst, Ne.symm h.1, ih h.2]

/-- Nothing is cut off where there is no mark. -/
theorem cutFirst_of_not_mem (h : mark ∉ xs) : cutFirst mark xs = (xs, none) := by
  have hcut := cutFirst_append_of_not_mem h []
  rwa [List.append_nil, cutFirst, List.append_nil] at hcut

/-- What stands before the first mark is a front without it. -/
theorem cutFirst_fst (mark : α) (xs : List α) :
    (cutFirst mark xs).1 <+: xs ∧ mark ∉ (cutFirst mark xs).1 := by
  induction xs with
  | nil => exact ⟨List.prefix_rfl, List.not_mem_nil⟩
  | cons x xs ih =>
    by_cases hx : x = mark
    · simp [cutFirst, hx]
    · simp only [cutFirst, if_neg hx, List.prefix_cons_inj, List.mem_cons, not_or]
      exact ⟨ih.1, Ne.symm hx, ih.2⟩

theorem cutFirst_fst_eq_self_iff : (cutFirst mark xs).1 = xs ↔ mark ∉ xs := by
  constructor
  · intro h
    have hnot := (cutFirst_fst mark xs).2
    rwa [h] at hnot
  · intro h
    rw [cutFirst_of_not_mem h]

end CredentialRotation.Pieces
