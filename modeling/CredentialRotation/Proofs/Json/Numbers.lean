import CredentialRotation.Document.Json
import CredentialRotation.Proofs.Json.Values
import CredentialRotation.Proofs.Number.Magnitude
import CredentialRotation.Proofs.Number.Numerals
import CredentialRotation.Proofs.Time.Seconds

/-!
# Integers that no machine word holds

A reader of numbers keeps the first digits that fit a word and counts the
others, and multiplies by a power of ten in the end. It rounds twice on
the way, so that what it gives need not be the nearest number; but it is
large, or there is none at all (`atLeast_of_numeric?`).
-/

namespace CredentialRotation.Json

open Number Number.Binary64

variable {c : Char} {cs : List Char} {n : Int} {m : Nat} {x y : Binary64} {num : Numeric}

/-! ## Digits that fit -/

theorem wholeDigits_concat (cs : List Char) (c : Char) : wholeDigits (cs ++ [c]) =
    let m := 10 * (wholeDigits cs).1 + (c.toNat - 0x30)
    if (wholeDigits cs).2 = 0 ∧ m ≤ nat64Max then (m, 0)
    else ((wholeDigits cs).1, (wholeDigits cs).2 + 1) := by
  rw [wholeDigits, List.foldl_append]
  rfl

theorem toNat_sub_le (h : c.isDigit = true) : c.toNat - 0x30 ≤ 9 := by
  have hc : c.toNat ≤ 57 := by
    simp only [Char.isDigit, Bool.and_eq_true, decide_eq_true_eq, UInt32.le_iff_toNat_le] at h
    exact h.2
  omega

/-- What is kept and what is counted: all digits fit, or the next one
would not have, and the others are so many places. -/
theorem wholeDigits_spec (h : Digits cs) :
    (wholeDigits cs).1 ≤ nat64Max
      ∧ ((wholeDigits cs).2 = 0 → (wholeDigits cs).1 = Numeral.run cs)
      ∧ ((wholeDigits cs).2 ≠ 0 → nat64Max < 10 * (wholeDigits cs).1 + 10) := by
  induction cs using List.reverseRecOn with
  | nil => exact ⟨Nat.zero_le _, fun _ => rfl, fun h => absurd rfl h⟩
  | append_singleton cs c ih =>
    obtain ⟨hcs, hc⟩ := List.forall_mem_append.1 h
    obtain ⟨hfits, hall, hnext⟩ := ih hcs
    have hdigit := toNat_sub_le (hc c List.mem_cons_self)
    have hrun : Numeral.run (cs ++ [c]) = 10 * Numeral.run cs + (c.toNat - 0x30) := by
      rw [Numeral.run, List.foldl_append]
      rfl
    rw [wholeDigits_concat, hrun]
    dsimp only
    split
    · next hfit => exact ⟨hfit.2, fun _ => by rw [hall hfit.1], fun hne => absurd rfl hne⟩
    · next hfit =>
      refine ⟨hfits, fun hzero => absurd hzero (by simp), fun _ => ?_⟩
      by_cases hzero : (wholeDigits cs).2 = 0
      · have := not_and.1 hfit hzero
        dsimp only
        omega
      · exact hnext hzero

/-- A number too large for a word leaves digits over, and many are kept. -/
theorem wholeDigits_of_large (h : Digits cs) (hlarge : nat64Max < Numeral.run cs) :
    (wholeDigits cs).2 ≠ 0 ∧ 2 ^ 60 ≤ (wholeDigits cs).1 := by
  obtain ⟨hfits, hall, hnext⟩ := wholeDigits_spec h
  have hne : (wholeDigits cs).2 ≠ 0 := by
    intro hzero
    rw [hall hzero] at hfits
    omega
  have hlow := hnext hne
  simp only [nat64Max] at hlow
  exact ⟨hne, by omega⟩

/-! ## Numbers that are large -/

theorem isZero_of_atLeast {q : ℚ} (h : AtLeast q x) (hq : 0 < q) : x.isZero = false := by
  cases x with
  | finite s m e =>
    refine decide_eq_false ?_
    rintro rfl
    have hvalue := hq.trans_le h
    simp at hvalue
  | infinite | nan => rfl

/-- To scale a large number up leaves a large number, if any. -/
theorem atLeast_scale? (hx : AtLeast (2 ^ 59) x) (hm : m ≠ 0) (h : scale? x m = some y) :
    AtLeast (2 ^ 50) y := by
  have hten : (10 : ℚ) ≤ 10 ^ m := le_self_pow₀ (by norm_num) hm
  have hpower : AtLeast (10 ^ m / 2) (powerOfTen m) := by
    have hone : AtLeast ((1 : ℕ) * 10 ^ m / 2) (powerOfTen m) := atLeast_ofDecimal one_ne_zero m
    rwa [Nat.cast_one, one_mul] at hone
  unfold scale? at h
  rw [if_pos (Int.natCast_nonneg m)] at h
  split at h
  · obtain ⟨hy, hfinite⟩ := Option.filter_eq_some_iff.1 h
    obtain rfl := Option.some.inj hy
    refine (hx.mul hpower (by norm_num) (by linarith) hfinite).mono ?_
    linarith
  · rw [isZero_of_atLeast hx (by norm_num), if_neg Bool.false_ne_true] at h
    cases h

/-- **An integer that no word holds is read as a large number**, if it is
read at all. -/
theorem atLeast_of_numeric? (hn : n < int64Min ∨ (nat64Max : Int) < n)
    (h : (lexeme n).numeric? = some num) : ∃ x, num = .binary x ∧ AtLeast (2 ^ 50) x := by
  simp only [Lexeme.numeric?, lexeme, List.isEmpty_nil, Option.isNone_none, Bool.and_self,
    if_true, run_decimal] at h
  split at h
  · next hle =>
    -- below zero there are numbers of sixty-four bits that no word with a sign holds
    have hneg : n < int64Min := by
      omega
    have hmin : n ≤ -2 ^ 63 := by
      simp only [int64Min] at hneg
      omega
    have hpos : n.natAbs ≠ 0 := by omega
    rw [if_neg (by simpa using (by omega : n < 0)), if_pos (.inr (by omega))] at h
    obtain rfl := Option.some.inj h
    have hround : AtLeast (n.natAbs / 2) (ofNat n.natAbs) := atLeast_round_one hpos
    have hlarge : (2 : ℚ) ^ 63 ≤ n.natAbs := by
      exact_mod_cast (by omega : 2 ^ 63 ≤ n.natAbs)
    exact ⟨_, rfl, (hround.mono (by linarith)).neg⟩
  · next hlarge =>
    obtain ⟨x, hx, rfl⟩ := Option.map_eq_some_iff.1 h
    refine ⟨x, rfl, ?_⟩
    have hdigits : Digits (decimal n.natAbs) := fun _ => isDigit_of_mem_decimal
    obtain ⟨hdropped, hkept⟩ := wholeDigits_of_large hdigits (by rw [run_decimal]; omega)
    simp only [Lexeme.binary?, fractionDigits, Nat.cast_zero, sub_zero] at hx
    obtain ⟨y, hy, rfl⟩ := Option.map_eq_some_iff.1 hx
    have hround : AtLeast ((wholeDigits (decimal n.natAbs)).1 / 2)
        (ofNat (wholeDigits (decimal n.natAbs)).1) := atLeast_round_one (by omega)
    have hkept' : (2 : ℚ) ^ 60 ≤ (wholeDigits (decimal n.natAbs)).1 := by exact_mod_cast hkept
    have hscaled := atLeast_scale? (hround.mono (by linarith)) hdropped hy
    split
    · exact hscaled.neg
    · exact hscaled

/-- **What an integer is read as where a word with a sign is asked for**:
itself, if the word holds it, and else nothing. -/
theorem integer?_lexeme {s : Int} : Node.integer? true (.number (lexeme n)) = some s ↔
    s = n ∧ int64Min ≤ n ∧ n ≤ int64Max := by
  by_cases hfits : int64Min ≤ n ∧ n ≤ nat64Max
  · simp only [Node.integer?, numeric?_lexeme hfits.1 hfits.2, if_true,
      Option.ite_none_right_eq_some, Option.some.injEq]
    rw [and_comm, eq_comm]
  · have hbeyond : ¬(int64Min ≤ n ∧ n ≤ int64Max) := by
      simp only [int64Max, nat64Max] at hfits ⊢
      omega
    have hnone : Node.integer? true (.number (lexeme n)) = none := by
      rw [Node.integer?]
      split
      · next m hm =>
        obtain ⟨x, hx, -⟩ := atLeast_of_numeric? (by omega) hm
        cases hx
      · rfl
    simp only [hnone, hbeyond, and_false, reduceCtorEq]

/-- **So an integer is a span if there is one of so many seconds**, however
large it is. -/
theorem span?_lexeme {d : Span} :
    Readable.span? (Node.number (lexeme n)) = some d ↔ d.nanos = n * nanosPerSecond := by
  constructor
  · intro h
    obtain ⟨s, hs, hd⟩ := Option.bind_eq_some_iff.1 h
    obtain ⟨rfl, -⟩ := integer?_lexeme.1 hs
    exact Span.nanos_of_ofSeconds? hd
  · intro h
    have hseconds := Span.ofSeconds?_eq_some_iff.2 h
    have hbounds := Span.exists_ofSeconds?_iff.1 ⟨d, hseconds⟩
    have hread : Readable.integer? true (Node.number (lexeme n)) = some n := by
      refine integer?_lexeme.2 ⟨rfl, ?_⟩
      simp only [Span.maxSeconds, int64Min, int64Max] at hbounds ⊢
      omega
    rw [Readable.span?, hread, Option.bind_some, hseconds]

end CredentialRotation.Json
