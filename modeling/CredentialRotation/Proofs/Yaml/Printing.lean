import CredentialRotation.Proofs.Yaml.Scalars

/-!
# Telling printed values apart

Two values that differ in one string differ in their texts. At the string
itself the pages come apart (`exists_written`, `Written.injective`), and
whatever is written after it starts with an indentation, behind which the
two pages are one page on top of two texts: they stay apart
(`Apart.putItems`, `Apart.putEntries`).
-/

namespace CredentialRotation.Yaml

open Yaml.Page

variable {p q : Page} {v w : Value} {cs ds : List Char}

/-- Two pages that differ at the start of the next line, wherever it
starts. -/
def Apart (p q : Page) : Prop := ∀ n, (p.indent n).out ≠ (q.indent n).out

/-- Two values that are the same but for one string in them. -/
inductive Differs : Value → Value → Prop
  | string {s t : String} (h : s ≠ t) : Differs (.string s) (.string t)
  | tagged (name : String) {v w : Value} (h : Differs v w) :
    Differs (.tagged name v) (.tagged name w)
  | item (before : List Value) {v w : Value} (after : List Value) (h : Differs v w) :
    Differs (.sequence (before ++ v :: after)) (.sequence (before ++ w :: after))
  | entry (before : List (Value × Value)) (k : Value) {v w : Value}
    (after : List (Value × Value)) (h : Differs v w) :
    Differs (.mapping (before ++ (k, v) :: after)) (.mapping (before ++ (k, w) :: after))

namespace Value

/-! ## One after another -/

theorem put_sequence {parent : Int} {inMapping : Bool} {xs : List Value} (hne : xs ≠ []) :
    put parent inMapping (.sequence xs) p = putItems
      (if parent < 0 then 0 else if inMapping && !p.fresh then parent else parent + 2) xs p := by
  cases xs with
  | nil => exact absurd rfl hne
  | cons x xs => rw [put]

theorem put_mapping {parent : Int} {inMapping : Bool} {ms : List (Value × Value)} (hne : ms ≠ []) :
    put parent inMapping (.mapping ms) p
      = putEntries (if parent < 0 then 0 else parent + 2) ms p := by
  cases ms with
  | nil => exact absurd rfl hne
  | cons m ms => rw [put]

theorem putItems_append (column : Int) (before after : List Value) (p : Page) :
    putItems column (before ++ after) p = putItems column after (putItems column before p) := by
  induction before generalizing p with
  | nil => rfl
  | cons x before ih => exact ih _

theorem putEntries_append (column : Int) (before after : List (Value × Value)) (p : Page) :
    putEntries column (before ++ after) p
      = putEntries column after (putEntries column before p) := by
  induction before generalizing p with
  | nil => rfl
  | cons m before ih => exact ih _

/-- Items begin with an indentation, and forget what stands before it. -/
theorem putItems_cons (column : Int) (x : Value) (xs : List Value) (p : Page) :
    putItems column (x :: xs) p = (putItems column (x :: xs) ⟨[], column.toNat, true, true⟩).atop
      (p.indent column.toNat).out := by
  rw [← putItems_atop, ← indent_eq_atop, putItems, putItems, indent_indent]

/-- So do entries. -/
theorem putEntries_cons (column : Int) (m : Value × Value) (ms : List (Value × Value)) (p : Page) :
    putEntries column (m :: ms) p
      = (putEntries column (m :: ms) ⟨[], column.toNat, true, true⟩).atop
        (p.indent column.toNat).out := by
  rw [← putEntries_atop, ← indent_eq_atop, putEntries, putEntries, indent_indent]

end Value

/-! ## Staying apart -/

theorem Apart.atop (page : Page) {base base' : List Char} (h : base ≠ base') :
    Apart (page.atop base) (page.atop base') := by
  intro n heq
  rw [indent_atop, indent_atop, out_atop, out_atop] at heq
  exact h (List.append_cancel_left heq)

theorem Apart.putItems (h : Apart p q) (column : Int) (xs : List Value) :
    Apart (Value.putItems column xs p) (Value.putItems column xs q) := by
  cases xs with
  | nil => exact h
  | cons x xs =>
    rw [Value.putItems_cons, Value.putItems_cons column x xs q]
    exact .atop _ (h _)

theorem Apart.putEntries (h : Apart p q) (column : Int) (ms : List (Value × Value)) :
    Apart (Value.putEntries column ms p) (Value.putEntries column ms q) := by
  cases ms with
  | nil => exact h
  | cons m ms =>
    rw [Value.putEntries_cons, Value.putEntries_cons column m ms q]
    exact .atop _ (h _)

/-- Different strings come apart. -/
theorem apart_putScalar (parent : Int) (h : cs ≠ ds) (p : Page) :
    Apart (putScalar parent (.ofString cs) cs p) (putScalar parent (.ofString ds) ds p) := by
  have hn : 0 < if parent < 0 then 2 else (parent + 2).toNat := by
    split <;> omega
  obtain ⟨style, text, hwritten, hout⟩ := exists_written parent cs hn rfl
  obtain ⟨style', text', hwritten', hout'⟩ := exists_written parent ds hn rfl
  intro m heq
  rw [hout, hout', List.append_assoc, List.append_assoc, List.append_cancel_left_eq,
    List.append_cancel_right_eq, List.reverse_inj, List.append_cancel_left_eq] at heq
  rw [heq] at hwritten
  exact h (hwritten.injective hwritten')

/-- **Two values that differ in a string come apart** on any page. -/
theorem Differs.apart (h : Differs v w) (parent : Int) (inMapping : Bool) (p : Page) :
    Apart (v.put parent inMapping p) (w.put parent inMapping p) := by
  induction h generalizing parent inMapping p with
  | @string s t hst =>
    simp only [Value.put]
    exact apart_putScalar parent (mt String.toList_inj.1 hst) p
  | tagged name _ ih => exact ih _ _ _
  | item before after _ ih =>
    rw [Value.put_sequence (by simp), Value.put_sequence (by simp), Value.putItems_append,
      Value.putItems_append, Value.putItems, Value.putItems]
    exact (ih _ _ _).putItems _ after
  | entry before k after _ ih =>
    rw [Value.put_mapping (by simp), Value.put_mapping (by simp), Value.putEntries_append,
      Value.putEntries_append, Value.putEntries, Value.putEntries]
    exact (ih _ _ _).putEntries _ after

/-- **Their texts differ.** -/
theorem Differs.print?_ne (h : Differs v w) (hv : v.print? = some cs) (hw : w.print? = some ds) :
    cs ≠ ds := by
  unfold Value.print? at hv hw
  obtain ⟨-, hcs⟩ := Option.ite_none_right_eq_some.1 hv
  obtain ⟨-, hds⟩ := Option.ite_none_right_eq_some.1 hw
  rintro rfl
  refine h.apart (-1) false .start 0 (List.reverse_inj.1 ?_)
  rw [Option.some.inj hcs, Option.some.inj hds]

end CredentialRotation.Yaml
