import CredentialRotation.Number.Numeral
import Mathlib.Algebra.Group.Nat.Defs

/-!
# Decimal digits

What is written as a number in decimal is a run of digits with no zero to
spare, and the run spells the number. Filled up with zeros it keeps its
value, and has the width that was asked for unless the number needs more.
-/

namespace CredentialRotation.Number

variable {n width : Nat} {c : Char}

/-! ## Runs -/

theorem run_eq_ofDigitChars (cs : List Char) : Numeral.run cs = Nat.ofDigitChars 10 cs 0 :=
  Nat.ofDigitChars_eq_foldl.symm

/-- **The digits of a number spell it.** -/
@[simp] theorem run_decimal (n : Nat) : Numeral.run (decimal n) = n := by
  rw [run_eq_ofDigitChars, decimal, Nat.ofDigitChars_ten_toDigits]

/-- So do they with zeros before them. -/
theorem run_zeros_append (zeros n : Nat) :
    Numeral.run (List.replicate zeros '0' ++ decimal n) = n := by
  rw [run_eq_ofDigitChars, Nat.ofDigitChars_append, Nat.ofDigitChars_replicate_zero, Nat.mul_zero,
    decimal, Nat.ofDigitChars_ten_toDigits]

@[simp] theorem run_decimalPadded (width n : Nat) : Numeral.run (decimalPadded width n) = n :=
  run_zeros_append _ n

/-! ## Digits -/

theorem decimal_ne_nil (n : Nat) : decimal n ≠ [] := Nat.toDigits_ne_nil

theorem isDigit_of_mem_decimal (h : c ∈ decimal n) : c.isDigit = true :=
  Nat.isDigit_of_mem_toDigits (by decide) (by decide) h

theorem isDigit_of_mem_zeros_append {zeros : Nat}
    (h : c ∈ List.replicate zeros '0' ++ decimal n) : c.isDigit = true := by
  rcases List.mem_append.1 h with h | h
  · obtain rfl := (List.mem_replicate.1 h).2
    rfl
  · exact isDigit_of_mem_decimal h

theorem isDigit_of_mem_decimalPadded (h : c ∈ decimalPadded width n) : c.isDigit = true :=
  isDigit_of_mem_zeros_append h

theorem zeros_append_ne_nil (zeros n : Nat) : List.replicate zeros '0' ++ decimal n ≠ [] :=
  List.append_ne_nil_of_right_ne_nil _ (decimal_ne_nil n)

theorem decimalPadded_ne_nil (width n : Nat) : decimalPadded width n ≠ [] :=
  zeros_append_ne_nil _ n

/-- A number starts with a digit, -/
theorem exists_decimal_eq_cons (n : Nat) : ∃ c cs, decimal n = c :: cs ∧ c.isDigit = true := by
  cases h : decimal n with
  | nil => exact absurd h (decimal_ne_nil n)
  | cons c cs => exact ⟨c, cs, rfl, isDigit_of_mem_decimal (h ▸ List.mem_cons_self)⟩

/-- filled up or not. -/
theorem exists_decimalPadded_eq_cons (width n : Nat) :
    ∃ c cs, decimalPadded width n = c :: cs ∧ c.isDigit = true := by
  cases h : decimalPadded width n with
  | nil => exact absurd h (decimalPadded_ne_nil width n)
  | cons c cs => exact ⟨c, cs, rfl, isDigit_of_mem_decimalPadded (h ▸ List.mem_cons_self)⟩

/-- **The width is kept** by every number that does not need more. -/
theorem length_decimalPadded (hw : 0 < width) (hn : n < 10 ^ width) :
    (decimalPadded width n).length = width := by
  have hle : (decimal n).length ≤ width :=
    (Nat.length_toDigits_le_iff (by decide) hw).2 hn
  rw [decimalPadded, List.length_append, List.length_replicate]
  omega

/-- The first digit of a number is a zero only where it is the number. -/
theorem decimal_eq_of_head? (h : (decimal n).head? = some '0') : decimal n = ['0'] := by
  induction n using Nat.strongRecOn with
  | ind n ih =>
    by_cases hn : n < 10
    · rw [decimal, Nat.toDigits_of_lt_base hn] at h ⊢
      rw [List.head?_cons] at h
      rw [Option.some.inj h]
    · -- the first digit of a longer number is that of its tenth
      have hsplit : decimal n = decimal (n / 10) ++ [(n % 10).digitChar] :=
        Nat.toDigits_of_base_le (by decide) (by omega)
      have hhead : (decimal (n / 10)).head? = some '0' := by
        rw [hsplit] at h
        cases hfirst : decimal (n / 10) with
        | nil => exact absurd hfirst (decimal_ne_nil _)
        | cons x xs =>
          rw [hfirst] at h
          exact h
      have hzero := congrArg Numeral.run (ih (n / 10) (by omega) hhead)
      rw [run_decimal] at hzero
      have : Numeral.run ['0'] = 0 := rfl
      omega

end CredentialRotation.Number
