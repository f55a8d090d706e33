/-!
# Pieces of lists

A list is divided at a mark: at every one (`pieces`), or at the first
(`cutFirst`). No mark stays in the pieces, and joining them with the mark
gives the list back.
-/

namespace CredentialRotation.Pieces

variable {α : Type} [DecidableEq α]

/-- What stands between the marks, one piece more than there are
marks. -/
def pieces (mark : α) : List α → List (List α)
  | [] => [[]]
  | x :: xs =>
    if x = mark then [] :: pieces mark xs
    else
      match pieces mark xs with
      | [] => [[x]]
      | p :: ps => (x :: p) :: ps

/-- What stands before the first mark, and what stands after it if there
is one. -/
def cutFirst (mark : α) : List α → List α × Option (List α)
  | [] => ([], none)
  | x :: xs =>
    if x = mark then ([], some xs)
    else
      let (before, after) := cutFirst mark xs
      (x :: before, after)

/-- What stands before the last mark, if there is one, and what stands
after it. -/
def cutLast (mark : α) (xs : List α) : Option (List α) × List α :=
  let (after, before) := cutFirst mark xs.reverse
  (before.map List.reverse, after.reverse)

theorem pieces_ne_nil (mark : α) (xs : List α) : pieces mark xs ≠ [] := by
  cases xs with
  | nil => simp [pieces]
  | cons x xs =>
    simp only [pieces]
    split
    · simp
    · split <;> simp

/-- A list without the mark is one piece. -/
theorem pieces_of_not_mem {mark : α} {xs : List α} (h : mark ∉ xs) : pieces mark xs = [xs] := by
  induction xs with
  | nil => rfl
  | cons x xs ih =>
    simp only [List.mem_cons, not_or] at h
    simp [pieces, Ne.symm h.1, ih h.2]

end CredentialRotation.Pieces
