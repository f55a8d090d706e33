import CredentialRotation.Text.Blank

/-!
# Cutting blanks off

What has blanks before and after it and none in it is what is left when
the ends are cut off.
-/

namespace CredentialRotation.Text

variable {before core after : List Char}

/-- Nothing is cut off where there is no blank. -/
theorem trimStart_of_not_blank (h : ∀ c ∈ core, isBlank c = false) (hne : core ≠ [])
    (rest : List Char) : trimStart (core ++ rest) = core ++ rest := by
  cases core with
  | nil => exact absurd rfl hne
  | cons c core =>
    have hc := h c List.mem_cons_self
    exact List.dropWhile_cons_of_neg (by rw [hc]; exact Bool.false_ne_true)

/-- **Only the blanks at the ends are cut off.** -/
theorem trim_append (hbefore : ∀ c ∈ before, isBlank c = true)
    (hcore : ∀ c ∈ core, isBlank c = false) (hne : core ≠ [])
    (hafter : ∀ c ∈ after, isBlank c = true) : trim (before ++ core ++ after) = core := by
  have hstart : trimStart (before ++ core ++ after) = core ++ after := by
    rw [List.append_assoc, trimStart, List.dropWhile_append_of_pos hbefore]
    exact trimStart_of_not_blank hcore hne after
  have hend : trimStart (after.reverse ++ core.reverse) = core.reverse := by
    rw [trimStart, List.dropWhile_append_of_pos fun c hc => hafter c (List.mem_reverse.1 hc)]
    have hcore' : trimStart (core.reverse ++ []) = core.reverse ++ [] := trimStart_of_not_blank
      (fun c hc => hcore c (List.mem_reverse.1 hc)) (mt List.reverse_eq_nil_iff.1 hne) []
    rwa [List.append_nil] at hcore'
  rw [trim, hstart, trimEnd, List.reverse_append]
  exact (congrArg List.reverse hend).trans (List.reverse_reverse core)

end CredentialRotation.Text
