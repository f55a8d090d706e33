import CredentialRotation.Yaml.Printer

/-!
# What stands on a page

Each way of writing on a page is told by one equation: what it adds, and
which column and which marks it leaves (`putAll_eq`, `mark_eq`,
`indent_eq`). None of them looks back at what is written already, so that
writing on top of a text is writing, on top of that text
(`Value.put_atop`). An indentation forgets the rest of the page too:
after it two pages differ by what stands on them alone.
-/

namespace CredentialRotation.Yaml

variable {p q : Page} {base cs : List Char} {n : Nat}

namespace Page

theorem putAll_eq (cs : List Char) (p : Page) :
    p.putAll cs = ⟨cs.reverse ++ p.out, p.column + cs.length, p.blank, p.fresh⟩ := by
  induction cs generalizing p with
  | nil => rfl
  | cons c cs ih =>
    show (p.put c).putAll cs = _
    rw [ih]
    simp [put, Nat.add_assoc, Nat.add_comm 1]

theorem mark_eq (p : Page) (cs : List Char) (needs keepsFresh : Bool) :
    p.mark cs needs keepsFresh =
      ⟨cs.reverse ++ (if needs && !p.blank then [' '] else []) ++ p.out,
        p.column + (if needs && !p.blank then 1 else 0) + cs.length, false,
        p.fresh && keepsFresh⟩ := by
  unfold mark
  by_cases h : (needs && !p.blank) = true
  · simp only [h, if_true, putAll_eq, put]
    simp
  · simp only [h, putAll_eq]
    simp

/-- Whether an indentation starts a new line. -/
def breaksLine (p : Page) (n : Nat) : Bool :=
  !p.fresh || n < p.column || (p.column = n && !p.blank)

theorem indent_eq (p : Page) (n : Nat) : p.indent n =
    ⟨(if p.breaksLine n then List.replicate n ' ' ++ ['\n'] else List.replicate (n - p.column) ' ')
      ++ p.out, n, true, true⟩ := by
  unfold indent
  by_cases h : p.breaksLine n = true
  · have h' := h
    unfold breaksLine at h'
    simp only [h, h', if_true, putBreak, putAll_eq]
    simp
  · have h' := h
    unfold breaksLine at h'
    simp only [h, h', putAll_eq]
    have hle : p.column ≤ n := by
      simp only [Bool.or_eq_true, not_or, decide_eq_true_eq] at h'
      omega
    simp [hle]

/-- At the start of a line an indentation stays on the line. -/
theorem indent_of_fresh (hfresh : p.fresh = true) (hcolumn : p.column = 0)
    (hn : 0 < n ∨ p.blank = true) :
    p.indent n = ⟨List.replicate n ' ' ++ p.out, n, true, true⟩ := by
  have hstays : p.breaksLine n = false := by
    simp only [breaksLine, hfresh, hcolumn, Bool.or_eq_false_iff, Bool.not_true,
      decide_eq_false_iff_not, Nat.not_lt_zero, not_false_eq_true, true_and]
    rcases hn with hn | hn
    · rw [decide_eq_false (by omega), Bool.false_and]
    · rw [hn, Bool.not_true, Bool.and_false]
  rw [indent_eq, hstays, hcolumn]
  rfl

/-- Behind anything else it starts one. -/
theorem indent_of_not_fresh (hfresh : p.fresh = false) :
    p.indent n = ⟨List.replicate n ' ' ++ '\n' :: p.out, n, true, true⟩ := by
  have hbreaks : p.breaksLine n = true := by
    simp [breaksLine, hfresh]
  rw [indent_eq, hbreaks, if_pos rfl, List.append_assoc]
  rfl

/-- To indent twice is to indent once. -/
@[simp] theorem indent_indent (p : Page) (n : Nat) : (p.indent n).indent n = p.indent n := by
  rw [indent_eq p, indent_eq]
  simp [breaksLine]

/-! ## On top of a text -/

/-- A page on top of a text. -/
def atop (p : Page) (base : List Char) : Page := { p with out := p.out ++ base }

@[simp] theorem out_atop : (p.atop base).out = p.out ++ base := rfl

/-- An indented page is an empty one on top of what stands on it. -/
theorem indent_eq_atop (p : Page) (n : Nat) :
    p.indent n = (⟨[], n, true, true⟩ : Page).atop (p.indent n).out := by
  rw [indent_eq]
  rfl

theorem put_atop (c : Char) : (p.atop base).put c = (p.put c).atop base := rfl

theorem putBreak_atop (c : Char) : (p.atop base).putBreak c = (p.putBreak c).atop base := rfl

theorem closed_atop : (p.atop base).closed = p.closed.atop base := rfl

theorem putAll_atop : (p.atop base).putAll cs = (p.putAll cs).atop base := by
  rw [putAll_eq, putAll_eq]
  exact congrArg (Page.mk · _ _ _) (List.append_assoc _ _ _).symm

theorem mark_atop (needs keepsFresh : Bool) :
    (p.atop base).mark cs needs keepsFresh = (p.mark cs needs keepsFresh).atop base := by
  rw [mark_eq, mark_eq]
  exact congrArg (Page.mk · _ _ _) (List.append_assoc _ _ _).symm

theorem indent_atop : (p.atop base).indent n = (p.indent n).atop base := by
  rw [indent_eq, indent_eq]
  exact congrArg (Page.mk · _ _ _) (List.append_assoc _ _ _).symm

theorem mk_atop (out : List Char) (column : Nat) (blank fresh : Bool) :
    Page.mk (out ++ base) column blank fresh = (Page.mk out column blank fresh).atop base := rfl

theorem ite_atop (c : Prop) [Decidable c] :
    (if c then p.atop base else q.atop base) = (if c then p else q).atop base := by
  split <;> rfl

end Page

open Yaml.Page

/-! ## Scalars and values on top of a text -/

theorem putPlain_eq (cs : List Char) (p : Page) : putPlain cs p =
    ⟨cs.reverse ++ (if !p.blank && !cs.isEmpty then [' '] else []) ++ p.out,
      p.column + (if !p.blank && !cs.isEmpty then 1 else 0) + cs.length, false, false⟩ := by
  unfold putPlain
  by_cases h : (!p.blank && !cs.isEmpty) = true
  · simp only [h, if_true, putAll_eq, put, closed]
    simp
  · simp only [h, putAll_eq, closed]
    simp

theorem putPlain_atop : putPlain cs (p.atop base) = (putPlain cs p).atop base := by
  rw [putPlain_eq, putPlain_eq]
  exact congrArg (Page.mk · _ _ _) (List.append_assoc _ _ _).symm

theorem putSingleChars_atop (after : Bool) :
    putSingleChars n after cs (p.atop base) = (putSingleChars n after cs p).atop base := by
  induction cs generalizing after p with
  | nil => simp only [putSingleChars, indent_atop, ite_atop]
  | cons c cs ih =>
    simp only [putSingleChars, put_atop, putBreak_atop, indent_atop, ite_atop, out_atop, mk_atop,
      ih]
    rfl

theorem putLiteralChars_atop (after : Bool) :
    putLiteralChars n after cs (p.atop base) = (putLiteralChars n after cs p).atop base := by
  induction cs generalizing after p with
  | nil => rfl
  | cons c cs ih =>
    simp only [putLiteralChars, put_atop, putBreak_atop, indent_atop, ite_atop, out_atop, mk_atop,
      ih]
    rfl

theorem putSingle_atop : putSingle n cs (p.atop base) = (putSingle n cs p).atop base := by
  simp only [putSingle, mark_atop, putSingleChars_atop, closed_atop]

theorem putDouble_atop : putDouble cs (p.atop base) = (putDouble cs p).atop base := by
  simp only [putDouble, mark_atop, putAll_atop, closed_atop]

theorem putLiteral_atop : putLiteral n cs (p.atop base) = (putLiteral n cs p).atop base := by
  simp only [putLiteral, mark_atop, putBreak_atop, out_atop, mk_atop, putLiteralChars_atop]
  rfl

theorem putScalar_atop (parent : Int) (wish : Wish) :
    putScalar parent wish cs (p.atop base) = (putScalar parent wish cs p).atop base := by
  cases wish <;> simp only [putScalar, putPlain_atop, putSingle_atop, putDouble_atop,
    putLiteral_atop, ite_atop]

theorem putTag_atop (name : String) : putTag name (p.atop base) = (putTag name p).atop base := by
  obtain ⟨out, column, blank, fresh⟩ := p
  cases blank <;> simp only [putTag, ← mk_atop, putAll_eq, put, closed] <;> simp

namespace Value

mutual

/-- **Nothing looks back.** A value is written on top of a text as it is
written on a page of its own. -/
theorem put_atop : ∀ (v : Value) (parent : Int) (inMapping : Bool) (p : Page) (base : List Char),
    put parent inMapping v (p.atop base) = (put parent inMapping v p).atop base
  | .null, _, _, _, _ | .bool _, _, _, _, _ | .number _, _, _, _, _ | .string _, _, _, _, _ => by
    simp only [put, putScalar_atop]
  | .sequence [], _, _, _, _ | .mapping [], _, _, _, _ => by
    simp only [put, mark_atop]
  | .sequence (x :: xs), _, _, _, _ => by
    simp only [put, putItems_atop (x :: xs)]
    rfl
  | .mapping (m :: ms), _, _, _, _ => by
    simp only [put, putEntries_atop (m :: ms)]
  | .tagged name v, _, _, _, _ => by
    simp only [put, putTag_atop, put_atop v]

theorem putItems_atop : ∀ (xs : List Value) (column : Int) (p : Page) (base : List Char),
    putItems column xs (p.atop base) = (putItems column xs p).atop base
  | [], _, _, _ => rfl
  | x :: xs, _, _, _ => by
    simp only [putItems, indent_atop, mark_atop, put_atop x, putItems_atop xs]

theorem putEntries_atop :
    ∀ (ms : List (Value × Value)) (column : Int) (p : Page) (base : List Char),
    putEntries column ms (p.atop base) = (putEntries column ms p).atop base
  | [], _, _, _ => rfl
  | (k, v) :: ms, _, _, _ => by
    simp only [putEntries, indent_atop, mark_atop, put_atop k, ite_atop, put_atop v,
      putEntries_atop ms]

end

end Value

end CredentialRotation.Yaml
