import CredentialRotation.Proofs.Number.Rounding
import CredentialRotation.Proofs.Number.Decimal

/-!
# Large numbers stay large

How far a number is from zero is lost only in part when it is rounded:
half of it is left (`atLeast_round`), and whoever cuts a large number to
an integer of sixty-four bits gets a large integer
(`AtLeast.le_natAbs_truncate`). That is enough to see that a number out of
a range comes out of none of its representations inside it.
-/

namespace CredentialRotation.Number.Binary64

variable {num den m n : ℕ} {e f g : ℤ} {q r x : ℚ} {s t negative : Bool} {b c : Binary64}

/-- A number of either sign that is at least so far from zero. -/
def AtLeast (q : ℚ) : Binary64 → Prop
  | .finite _ m e => q ≤ m * 2 ^ e
  | .infinite _ => True
  | .nan => False

namespace AtLeast

theorem mono (h : AtLeast q b) (hr : r ≤ q) : AtLeast r b := by
  cases b with
  | finite s m e => exact hr.trans h
  | infinite s => trivial
  | nan => exact h

theorem neg (h : AtLeast q b) : AtLeast q b.neg := by
  cases b <;> exact h

/-- **A large number is cut to a large integer.** -/
theorem le_natAbs_truncate (h : AtLeast q b) (hq : 2 ^ 50 ≤ q) : 2 ^ 50 ≤ (truncate b).natAbs := by
  cases b with
  | finite s m e =>
    have hpos : 0 < (quotient m e).2 := by
      unfold quotient
      split <;> simp
    have hlarge : 2 ^ 50 ≤ (quotient m e).1 / (quotient m e).2 := by
      have hpos' : (0 : ℚ) < (quotient m e).2 := by exact_mod_cast hpos
      have hvalue := hq.trans h
      rw [← quotient_div, le_div_iff₀ hpos'] at hvalue
      rw [Nat.le_div_iff_mul_le hpos]
      exact_mod_cast hvalue
    simp only [truncate, int64Min, int64Max]
    cases s <;> simp only [if_true, Bool.false_eq_true, if_false] <;> omega
  | infinite s => cases s <;> decide
  | nan => exact h.elim

end AtLeast

/-! ## Rounded numbers -/

/-- Rounding leaves half of a number at least. -/
theorem RoundsTo.half_le (hx : RoundsTo q g x) (hq : 1 ≤ q) : q / 2 ≤ x := by
  have hstep : (2 : ℚ) ^ g ≤ q := by
    rcases hx.fine with hmin | hle
    · rw [hmin]
      exact (zpow_le_one_of_nonpos₀ one_le_two (by decide)).trans hq
    · exact (zpow_le_zpow_right₀ one_le_two (by omega)).trans hle
  have := (abs_le.1 hx.near).1
  linarith

/-- **Half of a quotient is left** when it is rounded, even past the
largest numbers. -/
theorem atLeast_round (hden : den ≠ 0) (h : 1 ≤ (num : ℚ) / den) :
    AtLeast (num / den / 2) (round negative num den) := by
  have hnum : num ≠ 0 := by
    rintro rfl
    norm_num at h
  have hhalf := (roundsTo_gridCount hnum hden).half_le h
  rw [round_eq hnum]
  split_ifs with hcarry
  · trivial
  · -- with a digit too many, every other step is taken
    rw [hcarry] at hhalf
    refine hhalf.trans_eq ?_
    rw [zpow_add_one₀ two_ne_zero]
    push_cast [Nat.pow_eq]
    ring
  · trivial
  · exact hhalf

theorem atLeast_round_one (hn : n ≠ 0) : AtLeast (n / 2) (round negative n 1) := by
  have hone : (1 : ℚ) ≤ (n : ℚ) / (1 : ℕ) := by
    rw [Nat.cast_one, div_one]
    exact_mod_cast Nat.one_le_iff_ne_zero.2 hn
  have hround : AtLeast (n / (1 : ℕ) / 2) (round negative n 1) := atLeast_round one_ne_zero hone
  rwa [Nat.cast_one, div_one] at hround

theorem atLeast_ofInt {n : ℤ} (hn : n ≠ 0) : AtLeast (n.natAbs / 2) (ofInt n) := by
  have hround : AtLeast (n.natAbs / 2) (ofNat n.natAbs) := atLeast_round_one (by omega)
  unfold ofInt
  split
  · exact hround.neg
  · exact hround

/-- Decimals without a fraction are large, or too large. -/
theorem atLeast_ofDecimal (hn : n ≠ 0) (k : ℕ) :
    AtLeast (n * 10 ^ k / 2) (ofDecimal negative n k) := by
  have hscaled : AtLeast ((n * Nat.pow 10 k : ℕ) / 2) (round negative (n * Nat.pow 10 k) 1) :=
    atLeast_round_one (Nat.mul_ne_zero hn (Nat.pow_pos (by decide)).ne')
  rw [ofDecimal, if_neg hn]
  dsimp only
  split
  · trivial
  · rw [if_neg (by omega), if_neg (by omega)]
    simpa using hscaled

/-- **A product of large numbers is large.** -/
theorem AtLeast.mul (hb : AtLeast q b) (hc : AtLeast r c) (hq : 1 ≤ q) (hr : 1 ≤ r)
    (hfinite : (b.mul c).isFinite = true) : AtLeast (q * r / 2) (b.mul c) := by
  cases b with
  | infinite | nan => cases hfinite
  | finite s m e =>
    cases c with
    | infinite | nan => cases hfinite
    | finite t n f =>
      have hproduct :
          q * r ≤ ((quotient (m * n) (e + f)).1 : ℚ) / (quotient (m * n) (e + f)).2 := by
        rw [quotient_div, zpow_add₀ two_ne_zero]
        push_cast
        calc q * r ≤ (m * 2 ^ e) * (n * 2 ^ f) :=
              mul_le_mul hb hc (zero_le_one.trans hr) ((zero_le_one.trans hq).trans hb)
          _ = m * n * (2 ^ e * 2 ^ f) := by ring
      have hden : (quotient (m * n) (e + f)).2 ≠ 0 := by
        unfold quotient
        split <;> simp
      have hone := (one_le_mul_of_one_le_of_one_le hq hr).trans hproduct
      exact (atLeast_round hden hone).mono (by linarith)

end CredentialRotation.Number.Binary64
