import CredentialRotation.Text.Pem
import CredentialRotation.Proofs.Text.Base64
import Mathlib.Data.List.Forall2

/-!
# Armour round trips

Blocks of octets that are written as text are read back, as many as there
were and in their order. `Armours` says what the lines of one block are
without the steps of the writer: between the line that begins the block
and the one that ends it stands its content in base64, in lines that are
full up to the last (`IsWrapped`), and nothing else.

Reading is told by lines, and three facts keep them apart: no line holds
a line feed, a line that begins a block gives its label away, and no line
of base64 is one that ends a block.
-/

namespace CredentialRotation.Pem

/-- Lines as a body has them: none is empty, none is longer than
sixty-four characters, and all but the last have just that many. -/
structure IsWrapped (body : List (List Char)) : Prop where
  bounds : ∀ line ∈ body, 1 ≤ line.length ∧ line.length ≤ 64
  full : ∀ line ∈ body.dropLast, line.length = 64

/-- `Armours b text`: the lines `text` are those of the block `b`. -/
def Armours (b : Block) (text : List (List Char)) : Prop :=
  ∃ body, text = beginLine b.label :: body ++ [endLine b.label]
    ∧ Base64.decode? Base64.standard body.flatten = some b.content ∧ IsWrapped body

variable {fuel : Nat} {cs line : List Char} {ls body rest : List (List Char)} {label : String}
  {b : Block} {bs : List Block}

/-! ## Bodies -/

@[simp] theorem wrap_nil (fuel : Nat) : wrap fuel [] = [] := by
  cases fuel <;> rfl

theorem wrap_succ (h : cs ≠ []) :
    wrap (fuel + 1) cs = cs.take lineLength :: wrap fuel (cs.drop lineLength) := by
  rw [wrap, if_neg (by simpa using h)]

/-- Nothing is lost in lines. -/
theorem flatten_wrap (h : cs.length ≤ fuel) : (wrap fuel cs).flatten = cs := by
  induction fuel generalizing cs with
  | zero => rw [List.length_eq_zero_iff.1 (Nat.le_zero.1 h), wrap_nil, List.flatten_nil]
  | succ fuel ih =>
    by_cases hcs : cs = []
    · rw [hcs, wrap_nil, List.flatten_nil]
    · have hlength := List.length_pos_iff.2 hcs
      have hdrop : (cs.drop lineLength).length ≤ fuel := by
        rw [List.length_drop, lineLength]
        omega
      rw [wrap_succ hcs, List.flatten_cons, ih hdrop, List.take_append_drop]

/-- **Lines are full** up to the last. -/
theorem isWrapped_wrap (fuel : Nat) (cs : List Char) : IsWrapped (wrap fuel cs) := by
  induction fuel generalizing cs with
  | zero => exact ⟨by simp [wrap], by simp [wrap]⟩
  | succ fuel ih =>
    by_cases hcs : cs = []
    · rw [hcs, wrap_nil]
      exact ⟨by simp, by simp⟩
    · have hlength := List.length_pos_iff.2 hcs
      obtain ⟨hbounds, hfull⟩ := ih (cs.drop lineLength)
      have htake : (cs.take lineLength).length = min 64 cs.length := List.length_take
      rw [wrap_succ hcs]
      refine ⟨List.forall_mem_cons.2 ⟨by omega, hbounds⟩, ?_⟩
      by_cases hrest : wrap fuel (cs.drop lineLength) = []
      · simp [hrest]
      · -- a line that another comes after had more to take from
        have hmore : lineLength < cs.length := by
          by_contra hle
          rw [List.drop_eq_nil_of_le (Nat.le_of_not_lt hle), wrap_nil] at hrest
          exact hrest rfl
        rw [lineLength] at hmore
        rw [List.dropLast_cons_of_ne_nil hrest]
        exact List.forall_mem_cons.2 ⟨by omega, hfull⟩

/-- The base64 of a block is its lines in one. -/
theorem flatten_bodyLines (b : Block) :
    b.bodyLines.flatten = Base64.encode Base64.standard b.content :=
  flatten_wrap (Nat.le_refl _)

/-- The lines of a block are its armour. -/
theorem armours_lines (b : Block) : Armours b b.lines := by
  refine ⟨b.bodyLines, rfl, ?_, isWrapped_wrap _ _⟩
  rw [flatten_bodyLines, Base64.decode?_encode Base64.isSound_standard]

/-- A line of base64 has neither a dash nor a line feed. -/
theorem not_mem_of_mem_bodyLines (h : line ∈ b.bodyLines) : '-' ∉ line ∧ '\n' ∉ line := by
  have hdigit : ∀ n < 64, Base64.standard.digit n ≠ '-' ∧ Base64.standard.digit n ≠ '\n' := by
    decide +kernel
  have hchar : ∀ c ∈ line, c ≠ '-' ∧ c ≠ '\n' := by
    intro c hc
    have hmem : c ∈ b.bodyLines.flatten := List.mem_flatten.2 ⟨line, h, hc⟩
    rw [flatten_bodyLines] at hmem
    rcases Base64.digit_or_fill_of_mem_encode hmem with ⟨n, hn, rfl⟩ | ⟨-, rfl⟩
    · exact hdigit n hn
    · decide
  exact ⟨fun hc => (hchar _ hc).1 rfl, fun hc => (hchar _ hc).2 rfl⟩

/-! ## Lines -/

theorem lines_append (h : '\n' ∉ line) (cs : List Char) :
    lines (line ++ '\n' :: cs) = line :: lines cs := by
  induction line with
  | nil => rfl
  | cons c line ih =>
    rw [List.mem_cons, not_or] at h
    rw [List.cons_append, lines, ih h.2]
    exact fun heq => h.1 heq.symm

/-- Lines that are closed one by one are found again, with nothing after
the last. -/
theorem lines_flatMap (h : ∀ line ∈ ls, '\n' ∉ line) :
    lines (ls.flatMap (· ++ ['\n'])) = ls ++ [[]] := by
  induction ls with
  | nil => rfl
  | cons line ls ih =>
    rw [List.forall_mem_cons] at h
    rw [List.flatMap_cons, List.append_assoc, List.singleton_append, lines_append h.1, ih h.2,
      List.cons_append]

/-- No line of a block holds a line feed, if its label holds none. -/
theorem not_mem_of_mem_lines (h : '\n' ∉ b.label.toList) (hline : line ∈ b.lines) :
    '\n' ∉ line := by
  have hframe {start stop : List Char} (hstart : '\n' ∉ start) (hstop : '\n' ∉ stop) :
      '\n' ∉ start ++ b.label.toList ++ stop := by
    simp only [List.mem_append, not_or]
    exact ⟨⟨hstart, h⟩, hstop⟩
  rw [Block.lines, List.cons_append, List.mem_cons, List.mem_append, List.mem_singleton] at hline
  rcases hline with rfl | hline | rfl
  · exact hframe (by decide +kernel) (by decide +kernel)
  · exact (not_mem_of_mem_bodyLines hline).2
  · exact hframe (by decide +kernel) (by decide +kernel)

/-- **The lines of a text** are those of its blocks. -/
theorem lines_render (h : ∀ b ∈ bs, '\n' ∉ b.label.toList) :
    lines (render bs) = bs.flatMap Block.lines ++ [[]] := by
  refine lines_flatMap fun line hline => ?_
  obtain ⟨b, hb, hline⟩ := List.mem_flatMap.1 hline
  exact not_mem_of_mem_lines (h b hb) hline

/-! ## Blocks -/

/-- What stands between two ends of known length. -/
theorem take_drop_append (start cs stop : List Char) :
    ((start ++ cs ++ stop).drop start.length).take
      ((start ++ cs ++ stop).length - start.length - stop.length) = cs := by
  have hlength : (start ++ cs ++ stop).length - start.length - stop.length = cs.length := by
    simp only [List.length_append]
    omega
  rw [hlength, List.append_assoc, List.drop_left, List.take_left]

/-- A line that begins a block gives its label away. -/
theorem beginLabel?_beginLine (label : String) : beginLabel? (beginLine label) = some label := by
  unfold beginLabel? beginLine
  generalize "-----BEGIN ".toList = start
  generalize "-----".toList = stop
  simp only [take_drop_append, if_pos, String.ofList_toList]

/-- What comes before the end of a block is its body. -/
theorem blocks?_append (h : endLine label ∉ body) (cs : List Char) (rest : List (List Char)) :
    blocks? (some (label, cs)) (body ++ rest)
      = blocks? (some (label, cs ++ body.flatten)) rest := by
  induction body generalizing cs with
  | nil => simp
  | cons line body ih =>
    rw [List.mem_cons, not_or] at h
    rw [List.cons_append, blocks?, if_neg (Ne.symm h.1), ih h.2, List.flatten_cons,
      List.append_assoc]

/-- **A block comes off the front.** -/
theorem blocks?_lines (b : Block) (rest : List (List Char)) :
    blocks? none (b.lines ++ rest) = (blocks? none rest).map (b :: ·) := by
  have hdash : '-' ∈ "-----END ".toList := by decide +kernel
  have hbody : endLine b.label ∉ b.bodyLines := fun hmem =>
    (not_mem_of_mem_bodyLines hmem).1 (List.mem_append_left _ (List.mem_append_left _ hdash))
  rw [Block.lines, List.cons_append, List.cons_append, List.append_assoc, blocks?,
    beginLabel?_beginLine]
  dsimp only
  rw [blocks?_append hbody, List.nil_append, flatten_bodyLines, List.singleton_append, blocks?,
    if_pos rfl, Base64.decode?_encode Base64.isSound_standard]
  cases blocks? none rest <;> rfl

theorem blocks?_flatMap (bs : List Block) :
    blocks? none (bs.flatMap Block.lines ++ [[]]) = some bs := by
  induction bs with
  | nil => rfl
  | cons b bs ih =>
    rw [List.flatMap_cons, List.append_assoc, blocks?_lines, ih]
    rfl

/-- **Blocks that are written are read back.** -/
theorem read?_render (h : ∀ b ∈ bs, '\n' ∉ b.label.toList) : read? (render bs) = some bs := by
  rw [read?, lines_render h, blocks?_flatMap]

/-- **What is written** is the armour of one block after the other. -/
theorem exists_armour (h : ∀ b ∈ bs, '\n' ∉ b.label.toList) :
    ∃ texts, lines (render bs) = texts.flatten ++ [[]] ∧ List.Forall₂ Armours bs texts := by
  refine ⟨bs.map Block.lines, ?_, ?_⟩
  · rw [lines_render h, List.flatMap_def]
  · exact List.forall₂_map_right_iff.2 (List.forall₂_same.2 fun b _ => armours_lines b)

end CredentialRotation.Pem
