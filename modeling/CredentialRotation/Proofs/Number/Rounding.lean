import CredentialRotation.Number.Binary64
import Mathlib.Algebra.Order.Field.Power
import Mathlib.Algebra.Order.Floor.Semifield
import Mathlib.Data.Rat.Floor
import Mathlib.Tactic.FieldSimp
import Mathlib.Tactic.Linarith
import Mathlib.Tactic.NormNum
import Mathlib.Tactic.Positivity

/-!
# Rounding to binary numbers

A quotient is rounded to the multiples of a power of two, the grid, which
is as fine as a mantissa of fifty-three digits allows. `RoundsTo` says
what comes out: a point of that grid, at most half a step away. From it
follow the facts that arithmetic in binary numbers is used with: how far
the result can be off, that what needs no more than fifty-three digits
stays as it is, that what is large becomes an integer, and how far the
nearest integer can be off.

`exists_round`, `exists_ofNat` and `exists_div` say of quotients, naturals
and the division of numbers that they are rounded in this sense, short of
the largest numbers; `nearestInt_finite` is the integer nearest to a
number.
-/

namespace CredentialRotation.Number.Binary64

variable {num den m n d : ℕ} {e f g k : ℤ} {q x : ℚ} {negative : Bool}

/-! ## Grids -/

/-- `x` is `q` rounded to the grid of the multiples of `2 ^ g`. The grid is
as fine as fifty-three binary digits allow, or that of the numbers closest
to zero. -/
structure RoundsTo (q : ℚ) (g : ℤ) (x : ℚ) : Prop where
  minExponent_le : minExponent ≤ g
  lt : q < 2 ^ (g + 53)
  fine : g = minExponent ∨ 2 ^ (g + 52) ≤ q
  onGrid : ∃ n : ℕ, x = n * 2 ^ g
  near : |x - q| ≤ 2 ^ g / 2

namespace RoundsTo

/-- The grid for numbers below a power of two. -/
theorem exponent_le (hx : RoundsTo q g x) (hk : minExponent ≤ k) (hq : q < 2 ^ (k + 53)) :
    g ≤ k := by
  rcases hx.fine with hmin | hle
  · omega
  · have := (zpow_lt_zpow_iff_right₀ (one_lt_two : (1 : ℚ) < 2)).1 (hle.trans_lt hq)
    omega

/-- **How far rounding can be off**: half a step of the grid. -/
theorem abs_sub_le (hx : RoundsTo q g x) (hk : minExponent ≤ k) (hq : q < 2 ^ (k + 53)) :
    |x - q| ≤ 2 ^ k / 2 := by
  have hgk : (2 : ℚ) ^ g ≤ 2 ^ k :=
    zpow_le_zpow_right₀ one_le_two (hx.exponent_le hk hq)
  linarith [hx.near]

/-- **Numbers of fifty-three digits stay as they are.** -/
theorem eq_of_dyadic (hx : RoundsTo q g x) (hm : m < 2 ^ 53) (hk : minExponent ≤ k)
    (hq : q = m * 2 ^ k) : x = q := by
  have hlt : q < 2 ^ (k + 53) := by
    have hm' : (m : ℚ) < 2 ^ (53 : ℤ) := by exact_mod_cast hm
    rw [hq, add_comm, zpow_add₀ two_ne_zero]
    exact mul_lt_mul_of_pos_right hm' (zpow_pos two_pos k)
  obtain ⟨i, rfl⟩ := Int.le.dest (hx.exponent_le hk hlt)
  obtain ⟨n, hn⟩ := hx.onGrid
  have hstep : (0 : ℚ) < 2 ^ g := zpow_pos two_pos g
  have hgrid : q = ((m * 2 ^ i : ℕ) : ℚ) * 2 ^ g := by
    rw [hq, zpow_add₀ two_ne_zero, zpow_natCast]
    push_cast
    ring
  -- two points of the grid that are half a step apart are one
  have hnear : |((n : ℚ) - (m * 2 ^ i : ℕ)) * 2 ^ g| ≤ 2 ^ g / 2 := by
    rw [sub_mul, ← hn, ← hgrid]
    exact hx.near
  rw [abs_mul, abs_of_pos hstep] at hnear
  have hhalf : |(n : ℚ) - (m * 2 ^ i : ℕ)| < 1 := by
    by_contra hfar
    nlinarith
  have hlt' : |(n : ℤ) - (m * 2 ^ i : ℕ)| < 1 := by exact_mod_cast hhalf
  have heq : n = m * 2 ^ i := by
    have := Int.abs_lt_one_iff.1 hlt'
    omega
  rw [hn, hgrid, heq]

theorem nonneg (hx : RoundsTo q g x) : 0 ≤ x := by
  obtain ⟨n, rfl⟩ := hx.onGrid
  exact mul_nonneg n.cast_nonneg (zpow_pos two_pos g).le

/-- **From `2 ^ 52` on** the grid has integers only. -/
theorem exists_natCast (hx : RoundsTo q g x) (hq : 2 ^ (52 : ℤ) ≤ q) : ∃ n : ℕ, x = n := by
  obtain ⟨n, hn⟩ := hx.onGrid
  have hg : 0 ≤ g := by
    have := (zpow_lt_zpow_iff_right₀ (one_lt_two : (1 : ℚ) < 2)).1 (hq.trans_lt hx.lt)
    omega
  obtain ⟨i, rfl⟩ := Int.eq_ofNat_of_zero_le hg
  exact ⟨n * 2 ^ i, by rw [hn]; simp⟩

/-- The integer nearest to a rounded number is at most one off. From
`2 ^ 52` on rounding leaves an integer, and below the two steps are a
quarter and a half. -/
theorem abs_floor_sub_le (hx : RoundsTo q g x) (hq : q < 2 ^ (54 : ℤ)) :
    |(⌊x + 1 / 2⌋₊ : ℚ) - q| ≤ 1 := by
  rcases le_or_gt (2 ^ (52 : ℤ)) q with hlarge | hsmall
  · obtain ⟨i, rfl⟩ := hx.exists_natCast hlarge
    have hfloor : ⌊(i : ℚ) + 1 / 2⌋₊ = i := by
      rw [Nat.floor_eq_iff (by positivity)]
      constructor <;> linarith
    rw [hfloor]
    simpa using hx.abs_sub_le (k := 1) (by decide) hq
  · have hquarter : |x - q| ≤ 1 / 4 :=
      (hx.abs_sub_le (k := -1) (by decide) (by simpa using hsmall)).trans_eq (by norm_num)
    have hfloor := Nat.floor_le (add_nonneg hx.nonneg (by norm_num : (0 : ℚ) ≤ 1 / 2))
    have hfloor' := Nat.lt_floor_add_one (x + 1 / 2)
    rw [abs_le] at hquarter ⊢
    constructor <;> linarith

end RoundsTo

/-! ## Scaling -/

theorem scaled_snd_pos (num : ℕ) (e : ℤ) (hden : den ≠ 0) : 0 < (scaled num den e).2 := by
  have hpos := Nat.pos_of_ne_zero hden
  unfold scaled
  split
  · exact hpos
  · exact Nat.mul_pos hpos (Nat.pow_pos two_pos)

/-- Scaling divides by a power of two. -/
theorem scaled_div (num den : ℕ) (e : ℤ) :
    ((scaled num den e).1 : ℚ) / (scaled num den e).2 = num / den / 2 ^ e := by
  unfold scaled
  split
  · next hneg =>
    obtain ⟨i, rfl⟩ := Int.exists_eq_neg_ofNat hneg.le
    simp [zpow_neg, mul_div_right_comm]
  · next hnonneg =>
    obtain ⟨i, rfl⟩ := Int.eq_ofNat_of_zero_le (not_lt.1 hnonneg)
    simp [div_div]

/-- The natural nearest to a quotient is at most a half away. -/
theorem abs_nearest_sub_le (hd : 0 < d) : |(nearest n d : ℚ) - n / d| ≤ 1 / 2 := by
  have hd' : (0 : ℚ) < d := by exact_mod_cast hd
  have hsplit : (d : ℚ) * (n / d : ℕ) + (n % d : ℕ) = n := by exact_mod_cast Nat.div_add_mod n d
  have hdiv : (n : ℚ) / d = (n / d : ℕ) + ((n % d : ℕ) : ℚ) / d := by
    rw [← hsplit]
    field_simp
  have hrest : 0 ≤ ((n % d : ℕ) : ℚ) / d := by positivity
  have hrest' : ((n % d : ℕ) : ℚ) / d < 1 :=
    (div_lt_one hd').2 (by exact_mod_cast Nat.mod_lt n hd)
  rw [hdiv, abs_le]
  rcases lt_trichotomy (2 * (n % d)) d with hlow | htie | hhigh
  · have : ((n % d : ℕ) : ℚ) / d < 1 / 2 := by
      rw [div_lt_div_iff₀ hd' two_pos]
      exact_mod_cast (by omega : n % d * 2 < 1 * d)
    simp only [nearest, hlow, if_true]
    constructor <;> linarith
  · have : ((n % d : ℕ) : ℚ) / d = 1 / 2 := by
      rw [div_eq_div_iff hd'.ne' two_ne_zero]
      exact_mod_cast (by omega : n % d * 2 = 1 * d)
    have hbit : ((n / d % 2 : ℕ) : ℚ) ≤ 1 := by
      exact_mod_cast Nat.le_of_lt_succ (Nat.mod_lt _ two_pos)
    have hbit' : (0 : ℚ) ≤ (n / d % 2 : ℕ) := Nat.cast_nonneg _
    simp only [nearest, htie, lt_irrefl, if_false, if_true, Nat.cast_add]
    constructor <;> linarith
  · have : 1 / 2 < ((n % d : ℕ) : ℚ) / d := by
      rw [div_lt_div_iff₀ two_pos hd']
      exact_mod_cast (by omega : 1 * d < n % d * 2)
    simp only [nearest, hhigh.not_gt, hhigh.ne', if_false, Nat.cast_add, Nat.cast_one]
    constructor <;> linarith

/-! ## Rounding quotients -/

/-- The exponent of the grid that a quotient is rounded to. -/
def gridExponent (num den : ℕ) : ℤ :=
  let e : ℤ := (Nat.log2 num : ℤ) - (Nat.log2 den : ℤ) - 53
  max (if (scaled num den e).1 / (scaled num den e).2 ≥ Nat.pow 2 53 then e + 1 else e) minExponent

/-- How many steps of the grid a quotient is rounded to. -/
def gridCount (num den : ℕ) : ℕ :=
  nearest (scaled num den (gridExponent num den)).1 (scaled num den (gridExponent num den)).2

/-- Rounding counts the steps of the grid, and takes every other step where
the count has a digit too many. -/
theorem round_eq (hnum : num ≠ 0) : round negative num den =
    if gridCount num den = Nat.pow 2 53 then
      if gridExponent num den + 1 > maxExponent then .infinite negative
      else .finite negative (Nat.pow 2 52) (gridExponent num den + 1)
    else if gridExponent num den > maxExponent then .infinite negative
    else .finite negative (gridCount num den) (gridExponent num den) := by
  rw [round, if_neg hnum]
  by_cases hcarry : gridCount num den = Nat.pow 2 53
  · rw [if_pos hcarry]
    simp only [gridCount, gridExponent] at hcarry
    simp only [hcarry, if_true]
    rfl
  · rw [if_neg hcarry]
    simp only [gridCount, gridExponent] at hcarry
    simp only [hcarry, if_false]
    rfl

/-- The two logarithms leave a quotient within two powers of two. -/
theorem quotient_bounds (hnum : num ≠ 0) (hden : den ≠ 0) :
    let e : ℤ := (Nat.log2 num : ℤ) - (Nat.log2 den : ℤ) - 53
    (2 : ℚ) ^ (e + 52) ≤ num / den ∧ (num : ℚ) / den < 2 ^ (e + 54) := by
  intro e
  have hden' : (0 : ℚ) < den := by exact_mod_cast Nat.pos_of_ne_zero hden
  have hnumlow : (2 : ℚ) ^ Nat.log2 num ≤ num := by exact_mod_cast Nat.log2_self_le hnum
  have hnumhigh : (num : ℚ) < 2 ^ (Nat.log2 num + 1) := by exact_mod_cast Nat.lt_log2_self
  have hdenlow : (2 : ℚ) ^ Nat.log2 den ≤ den := by exact_mod_cast Nat.log2_self_le hden
  have hdenhigh : (den : ℚ) < 2 ^ (Nat.log2 den + 1) := by exact_mod_cast Nat.lt_log2_self
  constructor
  · rw [le_div_iff₀ hden']
    calc (2 : ℚ) ^ (e + 52) * den
        ≤ 2 ^ (e + 52) * 2 ^ (Nat.log2 den + 1) :=
          mul_le_mul_of_nonneg_left hdenhigh.le (zpow_pos two_pos _).le
      _ = 2 ^ Nat.log2 num := by
          rw [← zpow_natCast, ← zpow_natCast, ← zpow_add₀ two_ne_zero]
          congr 1
          simp only [e]
          push_cast
          ring
      _ ≤ num := hnumlow
  · rw [div_lt_iff₀ hden']
    calc (num : ℚ) < 2 ^ (Nat.log2 num + 1) := hnumhigh
      _ = 2 ^ (e + 54) * 2 ^ Nat.log2 den := by
          rw [← zpow_natCast, ← zpow_natCast, ← zpow_add₀ two_ne_zero]
          congr 1
          simp only [e]
          push_cast
          ring
      _ ≤ 2 ^ (e + 54) * den := mul_le_mul_of_nonneg_left hdenlow (zpow_pos two_pos _).le

/-- When a scaled quotient has more than fifty-three digits. -/
theorem scaled_wide_iff (hden : den ≠ 0) :
    (scaled num den e).1 / (scaled num den e).2 ≥ Nat.pow 2 53 ↔
      (2 : ℚ) ^ (e + 53) ≤ num / den := by
  have hpos := scaled_snd_pos num e hden
  have hpos' : (0 : ℚ) < (scaled num den e).2 := by exact_mod_cast hpos
  rw [ge_iff_le, Nat.le_div_iff_mul_le hpos, add_comm e, zpow_add₀ two_ne_zero,
    ← le_div_iff₀ (zpow_pos two_pos e), ← scaled_div, le_div_iff₀ hpos']
  norm_cast

/-- **The grid is as fine as it should be.** -/
theorem gridExponent_spec (hnum : num ≠ 0) (hden : den ≠ 0) :
    minExponent ≤ gridExponent num den ∧ (num : ℚ) / den < 2 ^ (gridExponent num den + 53)
      ∧ (gridExponent num den = minExponent
        ∨ (2 : ℚ) ^ (gridExponent num den + 52) ≤ num / den) := by
  obtain ⟨hlow, hhigh⟩ := quotient_bounds hnum hden
  -- before the cut at the smallest exponent, the grid has the digits wanted
  obtain ⟨e, he, hlt, hle⟩ : ∃ e, gridExponent num den = max e minExponent ∧
      (num : ℚ) / den < 2 ^ (e + 53) ∧ (2 : ℚ) ^ (e + 52) ≤ num / den := by
    by_cases hwide : (2 : ℚ) ^ ((Nat.log2 num : ℤ) - Nat.log2 den - 53 + 53) ≤ num / den
    · refine ⟨_, congrArg (max · minExponent) (if_pos ((scaled_wide_iff hden).2 hwide)), ?_, ?_⟩
      · rwa [add_assoc]
      · rwa [add_assoc]
    · exact ⟨_, congrArg (max · minExponent) (if_neg (mt (scaled_wide_iff hden).1 hwide)),
        not_le.1 hwide, hlow⟩
  rw [he]
  refine ⟨le_max_right _ _, hlt.trans_le (zpow_le_zpow_right₀ one_le_two ?_), ?_⟩
  · have := le_max_left e minExponent
    omega
  · rcases max_choice e minExponent with hmax | hmax <;> rw [hmax]
    · exact .inr hle
    · exact .inl rfl

/-- The steps that are counted make up the quotient rounded. -/
theorem roundsTo_gridCount (hnum : num ≠ 0) (hden : den ≠ 0) :
    RoundsTo (num / den) (gridExponent num den) (gridCount num den * 2 ^ gridExponent num den) := by
  obtain ⟨hmin, hlt, hfine⟩ := gridExponent_spec hnum hden
  refine ⟨hmin, hlt, hfine, ⟨_, rfl⟩, ?_⟩
  have hstep : (0 : ℚ) < 2 ^ gridExponent num den := zpow_pos two_pos _
  have hcount := abs_nearest_sub_le (n := (scaled num den (gridExponent num den)).1)
    (scaled_snd_pos num (gridExponent num den) hden)
  rw [scaled_div] at hcount
  calc |(gridCount num den : ℚ) * 2 ^ gridExponent num den - num / den|
      = |(gridCount num den : ℚ) - num / den / 2 ^ gridExponent num den|
          * 2 ^ gridExponent num den := by
        rw [← abs_of_pos hstep, ← abs_mul, abs_of_pos hstep, sub_mul, div_mul_cancel₀ _ hstep.ne']
    _ ≤ 1 / 2 * 2 ^ gridExponent num den := mul_le_mul_of_nonneg_right hcount hstep.le
    _ = 2 ^ gridExponent num den / 2 := by ring

/-- **Rounding rounds.** Short of the largest numbers it gives a finite
number. -/
theorem exists_round (hden : den ≠ 0) (hk : k ≤ 1023) (hlt : (num : ℚ) / den < 2 ^ k) :
    ∃ m e g, round negative num den = .finite negative m e
      ∧ RoundsTo (num / den) g (m * 2 ^ e) := by
  by_cases hnum : num = 0
  · refine ⟨0, minExponent, minExponent, by rw [round, if_pos hnum]; rfl, le_rfl, ?_,
      .inl rfl, ⟨0, by simp⟩, ?_⟩
    · simpa [hnum] using zpow_pos (two_pos : (0 : ℚ) < 2) (minExponent + 53)
    · simpa [hnum] using (half_pos (zpow_pos (two_pos : (0 : ℚ) < 2) minExponent)).le
  have hrounds := roundsTo_gridCount hnum hden
  have hmax : gridExponent num den < maxExponent := by
    rcases hrounds.fine with hmin | hle
    · simp [hmin, minExponent, maxExponent]
    · have := (zpow_lt_zpow_iff_right₀ (one_lt_two : (1 : ℚ) < 2)).1 (hle.trans_lt hlt)
      simp only [maxExponent]
      omega
  rw [round_eq hnum]
  by_cases hcarry : gridCount num den = Nat.pow 2 53
  · refine ⟨Nat.pow 2 52, gridExponent num den + 1, gridExponent num den, ?_, ?_⟩
    · rw [if_pos hcarry, if_neg (by omega)]
    · rw [hcarry] at hrounds
      have hsame : ((Nat.pow 2 52 : ℕ) : ℚ) * 2 ^ (gridExponent num den + 1)
          = (Nat.pow 2 53 : ℕ) * 2 ^ gridExponent num den := by
        rw [zpow_add_one₀ two_ne_zero]
        push_cast [Nat.pow_eq]
        ring
      rwa [hsame]
  · exact ⟨_, _, _, by rw [if_neg hcarry, if_neg hmax.not_gt], hrounds⟩

/-- The number nearest to a natural rounds it. -/
theorem exists_ofNat (hk : k ≤ 1023) (hlt : (n : ℚ) < 2 ^ k) :
    ∃ m e g, ofNat n = .finite false m e ∧ RoundsTo n g (m * 2 ^ e) := by
  have hone : (n : ℚ) / (1 : ℕ) = n := by rw [Nat.cast_one, div_one]
  obtain ⟨m, e, g, hm, hx⟩ : ∃ m e g, round false n 1 = .finite false m e
      ∧ RoundsTo (n / (1 : ℕ)) g (m * 2 ^ e) :=
    exists_round one_ne_zero hk (by rwa [hone])
  exact ⟨m, e, g, hm, by rwa [hone] at hx⟩

/-- **Division rounds** the quotient of two numbers. -/
theorem exists_div {s t : Bool} (hn : n ≠ 0) (hk : k ≤ 1023)
    (hlt : (m : ℚ) * 2 ^ e / (n * 2 ^ f) < 2 ^ k) :
    ∃ i h g, div (.finite s m e) (.finite t n f) = .finite (s != t) i h
      ∧ RoundsTo (m * 2 ^ e / (n * 2 ^ f)) g (i * 2 ^ h) := by
  have hquotient : ((scaled m n (f - e)).1 : ℚ) / (scaled m n (f - e)).2
      = m * 2 ^ e / (n * 2 ^ f) := by
    have := zpow_pos (two_pos : (0 : ℚ) < 2) e
    have := zpow_pos (two_pos : (0 : ℚ) < 2) f
    rw [scaled_div, zpow_sub₀ two_ne_zero]
    field_simp
  rw [← hquotient] at hlt ⊢
  exact exists_round (scaled_snd_pos m (f - e) hn).ne' hk hlt

/-! ## The nearest integer -/

/-- The fraction that a number is. -/
theorem quotient_div (m : ℕ) (e : ℤ) :
    ((quotient m e).1 : ℚ) / (quotient m e).2 = m * 2 ^ e := by
  unfold quotient
  split
  · next hneg =>
    obtain ⟨i, rfl⟩ := Int.exists_eq_neg_ofNat hneg.le
    simp [zpow_neg, div_eq_mul_inv]
  · next hnonneg =>
    obtain ⟨i, rfl⟩ := Int.eq_ofNat_of_zero_le (not_lt.1 hnonneg)
    simp

/-- The integer nearest to a number, a half upwards. -/
theorem nearestInt_finite (m : ℕ) (e : ℤ) :
    nearestInt (.finite false m e) = min int64Max ⌊(m : ℚ) * 2 ^ e + 1 / 2⌋₊ := by
  have hpos : (quotient m e).2 ≠ 0 := by
    unfold quotient
    split <;> simp
  have hfloor : (m : ℚ) * 2 ^ e + 1 / 2
      = ((2 * (quotient m e).1 + (quotient m e).2 : ℕ) : ℚ) / (2 * (quotient m e).2 : ℕ) := by
    rw [← quotient_div]
    push_cast
    field_simp
  rw [hfloor, Nat.floor_div_eq_div]
  rfl

/-! ## The other sign -/

variable {b : Binary64} {i : ℤ}

theorem neg_neg (b : Binary64) : b.neg.neg = b := by
  cases b <;> simp [neg]

theorem round_not (negative : Bool) (num den : ℕ) :
    round (!negative) num den = (round negative num den).neg := by
  by_cases hnum : num = 0
  · simp only [round, hnum, if_true]
    rfl
  · rw [round_eq hnum, round_eq hnum]
    split_ifs <;> rfl

/-- Division of the other sign has the other sign. -/
theorem div_neg_left (b c : Binary64) : div b.neg c = (div b c).neg := by
  cases b with
  | finite s m e =>
    cases c with
    | finite t n f =>
      simp only [neg, div, Bool.not_bne]
      exact round_not _ _ _
    | infinite | nan => rfl
  | infinite | nan => rfl

/-- There is one zero among the integers, so it has no other sign. -/
theorem ofInt_neg (hi : i ≠ 0) : ofInt (-i) = (ofInt i).neg := by
  unfold ofInt
  rw [Int.natAbs_neg]
  rcases lt_or_gt_of_ne hi with hneg | hpos
  · rw [if_neg (by omega), if_pos hneg, neg_neg]
  · rw [if_pos (by omega), if_neg (by omega)]

/-- The integer nearest to the other sign, short of the ends. -/
theorem nearestInt_neg (h : |nearestInt b| < int64Max) : nearestInt b.neg = -nearestInt b := by
  cases b with
  | finite s m e =>
    rw [abs_lt] at h
    cases s <;> simp only [nearestInt, neg, int64Min, int64Max] at h ⊢ <;> grind
  | infinite s => cases s <;> simp [nearestInt, int64Min, int64Max] at h
  | nan => rfl

end CredentialRotation.Number.Binary64
