import CredentialRotation.Proofs.Text.Pieces
import CredentialRotation.Proofs.Yaml.Escapes
import CredentialRotation.Proofs.Yaml.Page

/-!
# Strings on a page

A string is written as it is, in quotes of either kind, or as a literal
block. `Written` says for each of the four what is written up to the
start of the next line, and `exists_written` that this is what stands on
the page. The first character tells the four apart, and what follows it
tells the string: no two strings are written in the same way
(`Written.injective`).
-/

namespace CredentialRotation.Yaml

open Yaml.Page

variable {cs ds : List Char} {c d : Char} {n : Nat} {p : Page} {after : Bool}
  {spell : Char → List Char}

/-! ## Texts of several lines -/

/-- The blanks a line begins with at the column `n`, if one begins. -/
def beginning (n : Nat) (after : Bool) : List Char := if after then List.replicate n ' ' else []

/-- A text whose lines stand at the column `n`, behind a break or not, with
each character but the breaks as `spell` spells it. -/
def linesText (spell : Char → List Char) (n : Nat) : Bool → List Char → List Char
  | _, [] => []
  | after, c :: cs =>
    if isBreak c then c :: linesText spell n true cs
    else beginning n after ++ (spell c ++ linesText spell n false cs)

/-- Whether the last character is a break, `after` where there is
none. -/
def endsLine : Bool → List Char → Bool
  | after, [] => after
  | _, c :: cs => endsLine (isBreak c) cs

/-- A quote between single quotes is written twice. -/
def spellQuoted (c : Char) : List Char := if c = '\'' then ['\'', '\''] else [c]

/-- The first line of a literal block, behind its sign. -/
def blockHeader (cs : List Char) : List Char :=
  (if cs.head?.any (fun c => c = ' ' || isBreak c) then ['2'] else []) ++ chompSign cs

/-- How a string is written whose lines stand at the column `n`: a style,
and the text up to the start of the next line. -/
inductive Written (n : Nat) : Style → List Char → List Char → Prop
  /-- As it is, where no mark of the syntax stands first. -/
  | plain {c : Char} {r : List Char} (hc : isLeadingSign c = false) :
    Written n .plain (c :: r) (c :: r ++ ['\n'])
  /-- In single quotes. -/
  | singleQuoted {cs : List Char} :
    Written n .singleQuoted cs
      ('\'' :: (linesText spellQuoted n false cs ++ beginning n (endsLine false cs))
        ++ ['\'', '\n'])
  /-- In double quotes. -/
  | doubleQuoted {cs : List Char} :
    Written n .doubleQuoted cs ('"' :: cs.flatMap escape ++ ['"', '\n'])
  /-- As a block of lines. The last one is ended where the string does not
  end it. -/
  | literal {cs : List Char} (hne : cs ≠ []) :
    Written n .literal cs ('|' :: blockHeader cs ++ '\n' :: (linesText (fun c => [c]) n true cs
      ++ if endsLine true cs then [] else ['\n']))

/-! ## What stands on the page -/

/-- The blank before a scalar, unless one stands there. -/
def lead (p : Page) : List Char := if p.blank then [] else [' ']

theorem hasPair_cons_eq_false {f g : Char → Bool} (h : hasPair f g (c :: cs) = false) :
    hasPair f g cs = false ∧ (f c = true → cs.head?.any g = false) := by
  cases cs with
  | nil => exact ⟨rfl, fun _ => rfl⟩
  | cons d cs =>
    rw [show hasPair f g (c :: d :: cs) = (f c && g d || hasPair f g (d :: cs)) from rfl,
      Bool.or_eq_false_iff] at h
    exact ⟨h.2, fun hc => by simpa [hc] using h.1⟩

/-- A page stands at the start of a line, behind a break, or else somewhere
on a line. -/
structure Stands (p : Page) (after : Bool) : Prop where
  fresh : p.fresh = after
  column : after = true → p.column = 0

theorem Stands.of_not_fresh (h : p.fresh = false) : Stands p false :=
  ⟨h, fun htrue => Bool.noConfusion htrue⟩

theorem Stands.of_break (p : Page) (c : Char) (blank : Bool) :
    Stands { p.putBreak c with blank := blank, fresh := true } true :=
  ⟨rfl, fun _ => rfl⟩

/-- Behind a break a line begins with its indentation. -/
theorem out_begun (hp : Stands p after) (hn : 0 < n ∨ p.blank = true) :
    (if after then p.indent n else p).out = (beginning n after).reverse ++ p.out := by
  cases after with
  | false => rfl
  | true =>
    rw [if_pos rfl, indent_of_fresh hp.fresh (hp.column rfl) hn]
    simp [beginning]

/-- What is written between single quotes, if no space stands behind a
break. -/
theorem out_putSingleChars (hn : 0 < n) (hp : Stands p after) (hfeed : '\n' ∉ cs)
    (hspace : hasPair isBreak (· = ' ') cs = false)
    (hhead : after = true → cs.head?.any (· = ' ') = false) :
    (putSingleChars n after cs p).out
      = (linesText spellQuoted n after cs ++ beginning n (endsLine after cs)).reverse ++ p.out := by
  induction cs generalizing after p with
  | nil =>
    rw [putSingleChars, out_begun hp (.inl hn)]
    rfl
  | cons c cs ih =>
    obtain ⟨hne, hfeed'⟩ := not_or.1 (mt List.mem_cons.2 hfeed)
    obtain ⟨hspace', hnext⟩ := hasPair_cons_eq_false hspace
    by_cases hc : c = ' '
    · obtain rfl : after = false := by
        cases after
        · rfl
        · simp [hc] at hhead
      subst hc
      rw [putSingleChars, if_pos rfl, ih (p := p.put ' ') (.of_not_fresh hp.fresh) hfeed' hspace'
        (absurd · Bool.false_ne_true)]
      simp [put, linesText, isBreak, beginning, spellQuoted, endsLine]
    · by_cases hbreak : isBreak c = true
      · have hstays : (!after && decide (c = '\n')) = false := by
          simp [Ne.symm hne]
        rw [putSingleChars, if_neg hc, if_pos hbreak, linesText, if_pos hbreak, endsLine, hbreak]
        simp only [hstays]
        refine (ih (.of_break p c p.blank) hfeed' hspace' fun _ => hnext hbreak).trans ?_
        simp [putBreak]
      · have hbegun := out_begun hp (.inl hn)
        rw [putSingleChars, if_neg hc, if_neg hbreak, linesText, if_neg hbreak]
        rw [Bool.not_eq_true] at hbreak
        rw [endsLine, hbreak]
        refine (ih (.of_not_fresh rfl) hfeed' hspace' (absurd · Bool.false_ne_true)).trans ?_
        by_cases hquote : c = '\'' <;> simp [hquote, put, hbegun, spellQuoted]

/-- What is written as the lines of a literal block, and where it ends. -/
theorem putLiteralChars_eq (hblank : p.blank = true) (hp : Stands p after) :
    ∃ column, putLiteralChars n after cs p
        = ⟨(linesText (fun c => [c]) n after cs).reverse ++ p.out, column, true, endsLine after cs⟩
      ∧ (endsLine after cs = true → column = 0) := by
  induction cs generalizing after p with
  | nil =>
    refine ⟨p.column, ?_, hp.column⟩
    rw [putLiteralChars, linesText, endsLine, ← hblank, ← hp.fresh]
    rfl
  | cons c cs ih =>
    by_cases hbreak : isBreak c = true
    · obtain ⟨column, heq, hzero⟩ := ih (p := { p.putBreak c with fresh := true }) hblank
        (.of_break p c p.blank)
      refine ⟨column, ?_, by rwa [endsLine, hbreak]⟩
      rw [putLiteralChars, if_pos hbreak, linesText, if_pos hbreak, endsLine, hbreak, heq]
      simp [putBreak]
    · have hbegun := out_begun (n := n) hp (.inr hblank)
      have hblank' : (if after then p.indent n else p).blank = true := by
        cases after
        · exact hblank
        · rw [if_pos rfl, indent_eq]
      obtain ⟨column, heq, hzero⟩ := ih
        (p := { (if after then p.indent n else p).put c with fresh := false }) hblank'
        (.of_not_fresh rfl)
      rw [putLiteralChars, if_neg hbreak, linesText, if_neg hbreak]
      rw [Bool.not_eq_true] at hbreak
      rw [endsLine, hbreak]
      refine ⟨column, heq.trans ?_, hzero⟩
      simp [put, hbegun]

section

variable {m : Nat}

theorem out_indent_putPlain (hne : cs ≠ []) : ((putPlain cs p).indent m).out
    = List.replicate m ' ' ++ (lead p ++ (cs ++ ['\n'])).reverse ++ p.out := by
  rw [putPlain_eq, indent_of_not_fresh rfl]
  cases h : p.blank <;> simp [lead, h, hne]

theorem out_indent_putSingle (hn : 0 < n) (hfeed : '\n' ∉ cs)
    (hspace : hasPair isBreak (· = ' ') cs = false) : ((putSingle n cs p).indent m).out
      = List.replicate m ' '
        ++ (lead p ++ ('\'' :: (linesText spellQuoted n false cs
          ++ beginning n (endsLine false cs)) ++ ['\'', '\n'])).reverse
        ++ p.out := by
  have hfresh : (p.mark ['\''] true false).fresh = false := by
    rw [mark_eq, Bool.and_false]
  have hchars := out_putSingleChars hn (.of_not_fresh hfresh) hfeed hspace
    (absurd · Bool.false_ne_true)
  rw [putSingle, indent_of_not_fresh rfl]
  simp only [closed, mark_eq (putSingleChars _ _ _ _), hchars]
  rw [mark_eq]
  cases h : p.blank <;> simp [lead, h]

theorem out_indent_putDouble : ((putDouble cs p).indent m).out
    = List.replicate m ' ' ++ (lead p ++ ('"' :: cs.flatMap escape ++ ['"', '\n'])).reverse
      ++ p.out := by
  rw [putDouble, indent_of_not_fresh rfl]
  simp only [closed, mark_eq, putAll_eq]
  cases h : p.blank <;> simp [lead, h]

theorem out_indent_putLiteral : ((putLiteral n cs p).indent m).out
    = List.replicate m ' '
      ++ (lead p ++ ('|' :: blockHeader cs ++ '\n' :: (linesText (fun c => [c]) n true cs
        ++ if endsLine true cs then [] else ['\n']))).reverse
      ++ p.out := by
  have hstands := Stands.of_break (p.mark ('|' :: blockHeader cs) true false) '\n' true
  obtain ⟨column, heq, hzero⟩ := @putLiteralChars_eq cs n _ true rfl hstands
  have hout : (putLiteral n cs p).indent m = _ := congrArg (Page.indent · m) heq
  rw [hout]
  cases hends : endsLine true cs with
  | false =>
    rw [indent_of_not_fresh rfl]
    simp only [putBreak, mark_eq]
    cases h : p.blank <;> simp [lead, h]
  | true =>
    rw [indent_of_fresh rfl (hzero hends) (.inr rfl)]
    simp only [putBreak, mark_eq]
    cases h : p.blank <;> simp [lead, h]

end

/-! ## What the characters allow -/

theorem isLeadingSign_eq_false (h : (Traits.ofChars (c :: cs)).plain = true) :
    isLeadingSign c = false := by
  have hmark : hasMark (c :: cs) = false := by
    simp only [Traits.ofChars, List.isEmpty_cons, Bool.false_eq_true, if_false, Bool.not_eq_true',
      Bool.or_eq_false_iff] at h
    exact h.2
  simp only [hasMark, Bool.or_eq_false_iff] at hmark
  exact hmark.1.1.1.1.1

theorem hasPair_isBreak_eq_false (h : (Traits.ofChars cs).singleQuoted = true) :
    hasPair isBreak (· = ' ') cs = false := by
  cases cs with
  | nil => rfl
  | cons c cs =>
    simp only [Traits.ofChars, List.isEmpty_cons, Bool.false_eq_true, if_false, Bool.not_eq_true',
      Bool.or_eq_false_iff] at h
    exact h.1.1

/-- Any string has a way to be written, and that is what stands on the page
at the start of the next line. -/
theorem exists_written (parent : Int) (cs : List Char) (hn : 0 < n)
    (hcolumn : (if parent < 0 then 2 else (parent + 2).toNat) = n) :
    ∃ style text, Written n style cs text ∧ ∀ p m,
      ((putScalar parent (.ofString cs) cs p).indent m).out
        = List.replicate m ' ' ++ (lead p ++ text).reverse ++ p.out := by
  have hdouble : ∃ style text, Written n style cs text ∧ ∀ p m, ((putDouble cs p).indent m).out
      = List.replicate m ' ' ++ (lead p ++ text).reverse ++ p.out :=
    ⟨_, _, .doubleQuoted, fun _ _ => out_indent_putDouble⟩
  unfold putScalar Wish.ofString
  rw [hcolumn]
  by_cases hfeed : '\n' ∈ cs
  · rw [if_pos hfeed]
    by_cases hblock : (Traits.ofChars cs).block = true
    · simp only [hblock, if_true]
      exact ⟨_, _, .literal (List.ne_nil_of_mem hfeed), fun _ _ => out_indent_putLiteral⟩
    · simp only [hblock]
      exact hdouble
  · rw [if_neg hfeed]
    have hquoted : ∃ style text, Written n style cs text ∧ ∀ p m,
        ((if (Traits.ofChars cs).singleQuoted then putSingle n cs p
          else putDouble cs p).indent m).out
          = List.replicate m ' ' ++ (lead p ++ text).reverse ++ p.out := by
      by_cases hsingle : (Traits.ofChars cs).singleQuoted = true
      · simp only [hsingle, if_true]
        exact ⟨_, _, .singleQuoted, fun _ _ =>
          out_indent_putSingle hn hfeed (hasPair_isBreak_eq_false hsingle)⟩
      · simp only [hsingle]
        exact hdouble
    by_cases hambiguous : isAmbiguous cs = true
    · rw [if_pos hambiguous]
      exact hquoted
    · rw [if_neg hambiguous]
      by_cases hplain : (Traits.ofChars cs).plain = true
      · simp only [hplain, if_true]
        -- the empty string is ambiguous
        cases cs with
        | nil => exact absurd rfl hambiguous
        | cons c cs =>
          exact ⟨_, _, .plain (isLeadingSign_eq_false hplain), fun _ _ =>
            out_indent_putPlain (List.cons_ne_nil _ _)⟩
      · simp only [hplain]
        exact hquoted

/-! ## Telling strings apart -/

/-- The style that the first character of what is written tells. -/
def styleOf (c : Char) : Style :=
  if c = '\'' then .singleQuoted else if c = '"' then .doubleQuoted
  else if c = '|' then .literal else .plain

theorem Written.style_eq {style : Style} {text : List Char} (h : Written n style cs text) :
    ∃ c r, text = c :: r ∧ styleOf c = style := by
  cases h with
  | @plain c r hc =>
    refine ⟨c, _, rfl, ?_⟩
    have hne : ∀ d, isLeadingSign d = true → c ≠ d := by
      rintro d hd rfl
      rw [hc] at hd
      cases hd
    rw [styleOf, if_neg (hne _ rfl), if_neg (hne _ rfl), if_neg (hne _ rfl)]
  | singleQuoted => exact ⟨_, _, rfl, rfl⟩
  | doubleQuoted => exact ⟨_, _, rfl, rfl⟩
  | literal => exact ⟨_, _, rfl, rfl⟩

/-- A spelling that begins with its character and can be told from what
follows it. -/
structure IsSpelling (spell : Char → List Char) : Prop where
  head : ∀ c, ∃ r, spell c = c :: r
  unique : ∀ {c d r s}, spell c ++ r = spell d ++ s → c = d ∧ r = s

theorem isSpelling_singleton : IsSpelling fun c => [c] :=
  ⟨fun _ => ⟨[], rfl⟩, List.cons.inj⟩

theorem isSpelling_spellQuoted : IsSpelling spellQuoted where
  head c := by
    by_cases hc : c = '\''
    · exact ⟨['\''], by rw [spellQuoted, if_pos hc, hc]⟩
    · exact ⟨[], by rw [spellQuoted, if_neg hc]⟩
  unique {c d r s} h := by
    unfold spellQuoted at h
    by_cases hc : c = '\'' <;> by_cases hd : d = '\'' <;> grind

/-- What is no break does not begin with one, indented or not. -/
theorem exists_begun (hspell : IsSpelling spell) (hc : isBreak c = false) (after : Bool)
    (rest : List Char) :
    ∃ x r, beginning n after ++ (spell c ++ rest) = x :: r ∧ isBreak x = false := by
  obtain ⟨r, hr⟩ := hspell.head c
  rw [hr]
  cases after with
  | false => exact ⟨c, _, rfl, hc⟩
  | true =>
    cases n with
    | zero => exact ⟨c, _, rfl, hc⟩
    | succ n => exact ⟨' ', _, rfl, rfl⟩

/-- The first character of a text can be told from what follows it. -/
theorem linesText_cons_inj (hspell : IsSpelling spell) {rest rest' : List Char}
    (h : linesText spell n after (c :: cs) ++ rest = linesText spell n after (d :: ds) ++ rest') :
    c = d
      ∧ linesText spell n (isBreak c) cs ++ rest = linesText spell n (isBreak c) ds ++ rest' := by
  simp only [linesText] at h
  cases hc : isBreak c <;> cases hd : isBreak d <;> simp only [hc, hd, if_true] at h
  · rw [if_neg nofun, if_neg nofun, List.append_assoc, List.append_assoc, List.append_assoc,
      List.append_assoc, List.append_cancel_left_eq] at h
    exact hspell.unique h
  · obtain ⟨x, r, hx, hbreak⟩ :=
      exists_begun (n := n) hspell hc after (linesText spell n false cs)
    rw [if_neg nofun, hx] at h
    rw [(List.cons.inj h).1, hd] at hbreak
    cases hbreak
  · obtain ⟨x, r, hx, hbreak⟩ :=
      exists_begun (n := n) hspell hd after (linesText spell n false ds)
    rw [if_neg nofun, hx] at h
    rw [← (List.cons.inj h).1, hc] at hbreak
    cases hbreak
  · exact List.cons.inj h

/-- Nothing but the blanks of one line is less than a line. -/
theorem beginning_ne_linesText (hspell : IsSpelling spell) {k : Nat} (hk : k ≤ n)
    (rest : List Char) : beginning k after ≠ linesText spell n after (d :: ds) ++ rest := by
  intro h
  rw [linesText] at h
  by_cases hd : isBreak d = true
  · rw [if_pos hd] at h
    have hmem : d ∈ beginning k after := by
      rw [h]
      exact List.mem_cons_self
    have hblank : d = ' ' := by
      cases after with
      | false => cases hmem
      | true => exact (List.mem_replicate.1 hmem).2
    subst hblank
    cases hd
  · rw [if_neg hd] at h
    obtain ⟨r, hr⟩ := hspell.head d
    have hlength := congrArg List.length h
    rw [hr] at hlength
    cases after <;> simp [beginning] at hlength
    omega

/-- **Different texts have different lines**, with or without the blanks of
a last line that is empty. -/
theorem linesText_injective (hspell : IsSpelling spell) {k : Nat} (hk : k ≤ n)
    (h : linesText spell n after cs ++ beginning k (endsLine after cs)
      = linesText spell n after ds ++ beginning k (endsLine after ds)) : cs = ds := by
  induction cs generalizing after ds with
  | nil =>
    cases ds with
    | nil => rfl
    | cons d ds => exact absurd h (beginning_ne_linesText hspell hk _)
  | cons c cs ih =>
    cases ds with
    | nil => exact absurd h.symm (beginning_ne_linesText hspell hk _)
    | cons d ds =>
      obtain ⟨rfl, h⟩ := linesText_cons_inj hspell h
      rw [ih h]

theorem endsLine_concat (after : Bool) (cs : List Char) (c : Char) :
    endsLine after (cs ++ [c]) = isBreak c := by
  induction cs generalizing after with
  | nil => rfl
  | cons _ _ ih => exact ih _

theorem not_mem_blockHeader (cs : List Char) : '\n' ∉ blockHeader cs := by
  unfold blockHeader chompSign
  split <;> split <;> (try split) <;> (try split) <;> simp

/-- The header of a block tells whether its string ends with a break. -/
theorem mem_blockHeader_iff (hne : cs ≠ []) :
    '-' ∈ blockHeader cs ↔ endsLine after cs = false := by
  obtain ⟨ds, c, hcs⟩ := (List.eq_nil_or_concat cs).resolve_left hne
  rw [List.concat_eq_append] at hcs
  subst hcs
  have hhint : '-' ∉
      (if (ds ++ [c]).head?.any (fun c => c = ' ' || isBreak c) then ['2'] else []) := by
    split <;> simp
  rw [endsLine_concat, blockHeader, List.mem_append, or_iff_right hhint, chompSign,
    List.reverse_append]
  rcases ds.reverse with _ | ⟨d, r⟩
  · by_cases hc : isBreak c = true <;> simp [hc]
  · by_cases hc : isBreak c = true <;> by_cases hd : isBreak d = true <;> simp [hc, hd]

/-- The lines of a block can be told from its text. -/
theorem block_injective (hcs : cs ≠ []) (hds : ds ≠ [])
    (h : blockHeader cs ++ '\n' :: (linesText (fun c => [c]) n true cs
        ++ if endsLine true cs then [] else ['\n'])
      = blockHeader ds ++ '\n' :: (linesText (fun c => [c]) n true ds
        ++ if endsLine true ds then [] else ['\n'])) : cs = ds := by
  obtain ⟨hheader, hlines⟩ : blockHeader cs = blockHeader ds ∧ _ := by
    have hcut := congrArg (Pieces.cutFirst '\n') h
    rw [Pieces.cutFirst_append (not_mem_blockHeader cs),
      Pieces.cutFirst_append (not_mem_blockHeader ds), Prod.mk.injEq, Option.some.injEq] at hcut
    exact hcut
  have hends : endsLine true cs = endsLine true ds := by
    have hiff : endsLine true cs = false ↔ endsLine true ds = false := by
      rw [← mem_blockHeader_iff hcs, ← mem_blockHeader_iff hds, hheader]
    rwa [Bool.eq_iff_iff, ← Decidable.not_iff_not, Bool.not_eq_true, Bool.not_eq_true]
  rw [hends] at hlines
  have hlines' : linesText (fun c => [c]) n true cs ++ beginning 0 (endsLine true cs)
      = linesText (fun c => [c]) n true ds ++ beginning 0 (endsLine true ds) := by
    rw [List.append_cancel_right hlines, hends]
  exact linesText_injective isSpelling_singleton (Nat.zero_le n) hlines'

/-- **No two strings are written in the same way.** -/
theorem Written.injective {style style' : Style} {text : List Char}
    (h : Written n style cs text) (h' : Written n style' ds text) : cs = ds := by
  obtain ⟨c, r, htext, rfl⟩ := h.style_eq
  obtain ⟨c', r', htext', hstyle⟩ := h'.style_eq
  obtain rfl : c = c' := (List.cons.inj (htext.symm.trans htext')).1
  rw [← hstyle] at h'
  generalize styleOf c = style at *
  generalize hsame : text = text' at h'
  cases h <;> cases h'
  case plain.plain => exact List.append_cancel_right hsame
  case singleQuoted.singleQuoted =>
    exact linesText_injective isSpelling_spellQuoted (Nat.le_refl n)
      (List.cons.inj (List.append_cancel_right hsame)).2
  case doubleQuoted.doubleQuoted =>
    exact flatMap_escape_injective (List.cons.inj (List.append_cancel_right hsame)).2
  case literal.literal hcs hds =>
    exact block_injective hcs hds (List.cons.inj hsame).2

end CredentialRotation.Yaml
