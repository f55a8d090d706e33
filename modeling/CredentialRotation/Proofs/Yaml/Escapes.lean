import CredentialRotation.Yaml.Printer
import CredentialRotation.Proofs.Text.Utf8
import Mathlib.Algebra.Group.Nat.Defs

/-!
# Escapes in double quotes

Between double quotes a character is written as it is or as an escape: a
letter, or a letter that announces so many hexadecimal digits. What was
written can be told from what follows it, character by character
(`unescape?_escape`), so a text can be told from what it is written as
(`flatMap_escape_injective`).
-/

namespace CredentialRotation

/-! ## Hexadecimal digits -/

namespace Hex

variable {n k : Nat}

theorem value?_toUpper_digitChar :
    ∀ d < 16, value? (Nat.digitChar d).toUpper = some d := by decide

theorem number?_append (cs ds : List Char) : number? (cs ++ ds) =
    (number? cs).bind fun n => ds.foldlM (fun n c => (value? c).map (16 * n + ·)) n := by
  rw [number?, List.foldlM_append]
  rfl

/-- **The digits of a number spell it.** -/
theorem number?_upperDigits (n : Nat) : number? (upperDigits n) = some n := by
  induction n using Nat.strongRecOn with
  | ind n ih =>
    by_cases hn : n < 16
    · rw [upperDigits, Nat.toDigits_of_lt_base hn]
      simp [number?, value?_toUpper_digitChar n hn]
    · have hsplit : upperDigits n = upperDigits (n / 16) ++ [(Nat.digitChar (n % 16)).toUpper] := by
        rw [upperDigits, Nat.toDigits_of_base_le (by decide) (by omega), List.map_append]
        rfl
      rw [hsplit, number?_append, ih (n / 16) (by omega)]
      simp [value?_toUpper_digitChar (n % 16) (Nat.mod_lt _ (by decide)), Nat.div_add_mod]

/-- So do they with zeros before them. -/
theorem number?_zeros (k n : Nat) :
    number? (List.replicate k '0' ++ upperDigits n) = some n := by
  have hzeros : number? (List.replicate k '0') = some 0 := by
    induction k with
    | zero => rfl
    | succ k ih =>
      rw [List.replicate_succ', number?_append, ih]
      rfl
  rw [number?_append, hzeros]
  exact number?_upperDigits n

theorem length_upperDigits_le (hk : 0 < k) (h : n < 16 ^ k) : (upperDigits n).length ≤ k := by
  rw [upperDigits, List.length_map]
  exact (Nat.length_toDigits_le_iff (by decide) hk).2 h

end Hex

namespace Yaml

open Yaml.Token (escape? escapeDigits?)

/-! ## Reading an escape -/

/-- The character that stands first between double quotes, and what
follows it. -/
def unescape? : List Char → Option (Char × List Char)
  | '\\' :: x :: r =>
    match escapeDigits? x with
    | some k => (Hex.number? (r.take k)).map fun n => (Char.ofNat n, r.drop k)
    | none => (escape? x).map (·, r)
  | [] => none
  | c :: r => some (c, r)

theorem unescape?_of_ne {c : Char} (hc : c ≠ '\\') (r : List Char) :
    unescape? (c :: r) = some (c, r) := by
  unfold unescape?
  split <;> simp_all

/-- A number has as many digits as its letter announces. -/
theorem unescape?_number {x : Char} {k : Nat} (c : Char) (hx : escapeDigits? x = some k)
    (hk : 0 < k) (hc : c.toNat < 16 ^ k) (r : List Char) :
    unescape? ('\\' :: x :: (List.replicate (k - (Hex.upperDigits c.toNat).length) '0'
      ++ Hex.upperDigits c.toNat) ++ r) = some (c, r) := by
  have hle := Hex.length_upperDigits_le hk hc
  have hlength : (List.replicate (k - (Hex.upperDigits c.toNat).length) '0'
      ++ Hex.upperDigits c.toNat).length = k := by
    rw [List.length_append, List.length_replicate]
    omega
  simp only [unescape?, List.cons_append, hx, List.take_left' hlength, List.drop_left' hlength,
    Hex.number?_zeros, Option.map_some, Char.ofNat_toNat]

/-- **A character is read back**, whatever follows it. -/
theorem unescape?_escape (c : Char) (r : List Char) :
    unescape? (escape c ++ r) = some (c, r) := by
  by_cases hplain : (isPrintable c && !isBreak c && c ≠ '"' && c ≠ '\\') = true
  · rw [show escape c = [c] from if_pos hplain]
    simp only [Bool.and_eq_true, decide_eq_true_eq] at hplain
    exact unescape?_of_ne hplain.2 r
  · rw [show escape c = _ from if_neg hplain]
    -- a letter for each of fifteen characters, and a number for all others
    split
    case h_16 =>
      have hmax : c.toNat < 16 ^ 8 := by
        have := Utf8.toNat_char c
        omega
      by_cases hx : c.toNat ≤ 0xFF
      · rw [if_pos hx]
        exact unescape?_number c rfl (by decide) (by omega) r
      · rw [if_neg hx]
        by_cases hu : c.toNat ≤ 0xFFFF
        · rw [if_pos hu]
          exact unescape?_number c rfl (by decide) (by omega) r
        · rw [if_neg hu]
          exact unescape?_number c rfl (by decide) hmax r
    all_goals rfl

/-- **Different texts are written differently** between double quotes. -/
theorem flatMap_escape_injective {cs ds : List Char}
    (h : cs.flatMap escape = ds.flatMap escape) : cs = ds := by
  induction cs generalizing ds with
  | nil =>
    cases ds with
    | nil => rfl
    | cons d ds =>
      have hd := unescape?_escape d (ds.flatMap escape)
      rw [← List.flatMap_cons, ← h] at hd
      cases hd
  | cons c cs ih =>
    have hc := unescape?_escape c (cs.flatMap escape)
    rw [← List.flatMap_cons, h] at hc
    cases ds with
    | nil => cases hc
    | cons d ds =>
      rw [List.flatMap_cons, unescape?_escape, Option.some.injEq, Prod.mk.injEq] at hc
      rw [hc.1, ih hc.2.symm]

end Yaml

end CredentialRotation
