import CredentialRotation.Proofs.Json.Quoting
import CredentialRotation.Proofs.Number.Decimal
import CredentialRotation.Proofs.Text.Utf8

/-!
# Printed values

The compact text of a value without binary numbers is read back, as the
node that says how the value is written. What follows the text is left
alone, as long as it does not go on with a number that the text ends with.

A reader is given as much fuel as the text has characters, and no part of
a value needs more than its own text is long (`read?_print`).
-/

namespace CredentialRotation

namespace Json

open Number

/-! ## Values within values -/

/-- `y` is `x` itself or stands somewhere in it. -/
inductive Within (y : Json) : Json → Prop
  | refl : Within y y
  | item {x : Json} {xs : List Json} : x ∈ xs → Within y x → Within y (.array xs)
  | member {k : String} {x : Json} {ms : List (String × Json)} :
      (k, x) ∈ ms → Within y x → Within y (.object ms)

/-- A value all of whose numbers are integers. -/
def IsWhole (x : Json) : Prop := ∀ b, ¬Within (.number (.binary b)) x

variable {x y : Json} {xs : List Json} {k : String} {ms : List (String × Json)}

theorem IsWhole.item (h : (array xs).IsWhole) (hx : x ∈ xs) : x.IsWhole :=
  fun b hb => h b (.item hx hb)

theorem IsWhole.member (h : (object ms).IsWhole) (hx : (k, x) ∈ ms) : x.IsWhole :=
  fun b hb => h b (.member hx hb)

theorem isWhole_string (s : String) : (string s).IsWhole := by
  rintro b ⟨⟩

theorem isWhole_ofInt (n : Int) : (ofInt n).IsWhole := by
  rintro b ⟨⟩

theorem isWhole_object (h : ∀ m ∈ ms, m.2.IsWhole) : (object ms).IsWhole := by
  rintro b (_ | _ | ⟨hm, hb⟩)
  exact h _ hm b hb

/-! ## Nodes of values -/

/-- How an integer is written. -/
def lexeme (n : Int) : Lexeme := ⟨decide (n < 0), decimal n.natAbs, [], none⟩

mutual

/-- How a value is written. Binary numbers are left out of account. -/
def node : Json → Node
  | .null => .null
  | .bool b => .bool b
  | .number (.integer n) => .number (lexeme n)
  | .number (.binary _) => .null
  | .string s => .string (some s)
  | .array xs => .array (nodes xs)
  | .object ms => .object (memberNodes ms)

/-- How items are written. -/
def nodes : List Json → List Node
  | [] => []
  | x :: xs => node x :: nodes xs

/-- How members are written. -/
def memberNodes : List (String × Json) → List (Option String × Node)
  | [] => []
  | (k, x) :: ms => (some k, node x) :: memberNodes ms

end

theorem nodes_eq_map (xs : List Json) : nodes xs = xs.map node := by
  induction xs with
  | nil => rfl
  | cons x xs ih => rw [nodes, ih, List.map_cons]

theorem memberNodes_eq_map (ms : List (String × Json)) :
    memberNodes ms = ms.map fun m => (some m.1, m.2.node) := by
  induction ms with
  | nil => rfl
  | cons m ms ih => rw [memberNodes, ih, List.map_cons]

/-! ## Numbers -/

/-- What follows a value does not go on with a number. -/
def Breaks (r : List Symbol) : Prop :=
  ∀ c r', r = some c :: r' → c.isDigit = false ∧ c ≠ '.' ∧ c ≠ 'e' ∧ c ≠ 'E'

variable {c : Char} {cs : List Char} {r : List Symbol}

theorem breaks_nil : Breaks [] := fun _ _ h => by cases h

theorem breaks_cons (h : c.isDigit = false ∧ c ≠ '.' ∧ c ≠ 'e' ∧ c ≠ 'E') :
    Breaks (some c :: r) := by
  intro c' r' heq
  obtain rfl : c = c' := Option.some.inj (List.cons.inj heq).1
  exact h

theorem digits_append (hcs : ∀ c ∈ cs, c.isDigit = true) (hr : Breaks r) :
    digits (cs.map some ++ r) = (cs, r) := by
  induction cs with
  | nil =>
    rw [List.map_nil, List.nil_append]
    match r with
    | [] => rfl
    | none :: r' => rfl
    | some c :: r' => rw [digits, if_neg (by rw [(hr c r' rfl).1]; exact Bool.false_ne_true)]
  | cons c cs ih =>
    rw [List.forall_mem_cons] at hcs
    rw [List.map_cons, List.cons_append, digits, if_pos hcs.1, ih hcs.2]

theorem fraction?_of_breaks (hr : Breaks r) : fraction? r = some ([], r) := by
  unfold fraction?
  split
  · exact absurd rfl (hr _ _ rfl).2.1
  · rfl

theorem exponent?_of_breaks (hr : Breaks r) : exponent? r = some (none, r) := by
  unfold exponent?
  split
  · next c r' =>
    obtain ⟨-, -, he, hE⟩ := hr c r' rfl
    rw [if_neg (not_or.2 ⟨he, hE⟩)]
  · rfl

/-- **The digits of a number are a number.** -/
theorem number?_decimal (negative : Bool) (n : Nat) (hr : Breaks r) :
    number? negative ((decimal n).map some ++ r) = some (⟨negative, decimal n, [], none⟩, r) := by
  have hzero : ((decimal n).isEmpty
      || ((decimal n).head? == some '0' && decide ((decimal n).length > 1))) = false := by
    rw [Bool.or_eq_false_iff, List.isEmpty_eq_false_iff, Bool.and_eq_false_imp]
    refine ⟨decimal_ne_nil n, fun hhead => ?_⟩
    rw [decimal_eq_of_head? (beq_iff_eq.1 hhead)]
    rfl
  simp only [number?, digits_append (fun _ => isDigit_of_mem_decimal) hr, hzero,
    fraction?_of_breaks hr, exponent?_of_breaks hr, Bool.false_eq_true, if_false, bind,
    Option.bind]

/-! ## How a value starts -/

theorem skipBlanks_cons {s : Symbol} (h : isBlank s = false) :
    skipBlanks (s :: r) = s :: r := by
  rw [skipBlanks, List.dropWhile_cons_of_neg (by rw [h]; exact Bool.false_ne_true)]

theorem ne_of_isDigit {d : Char} (hc : c.isDigit = true) (hd : d.isDigit = false) : c ≠ d := by
  rintro rfl
  rw [hc] at hd
  cases hd

theorem isBlank_of_isDigit (hc : c.isDigit = true) : isBlank (some c) = false := by
  have hspace := ne_of_isDigit (d := ' ') hc rfl
  have hline := ne_of_isDigit (d := '\n') hc rfl
  have htab := ne_of_isDigit (d := '\t') hc rfl
  have hreturn := ne_of_isDigit (d := '\r') hc rfl
  simp [isBlank, hspace, hline, htab, hreturn]

/-- A digit starts a number. -/
theorem read?_digit {fuel : Nat} (hc : c.isDigit = true) :
    Node.read? (fuel + 1) (some c :: r)
      = (number? false (some c :: r)).map fun (n, r) => (.number n, r) := by
  rw [Node.read?, skipBlanks_cons (isBlank_of_isDigit hc)]
  split <;> first
    | (next h => exact absurd (Option.some.inj (List.cons.inj h).1) (ne_of_isDigit hc rfl))
    | rfl

/-- **An integer is read back.** -/
theorem read?_integer (n : Int) (hr : Breaks r) {fuel : Nat} :
    Node.read? (fuel + 1) ((signedDecimal n).map some ++ r) = some (.number (lexeme n), r) := by
  unfold signedDecimal lexeme
  split
  · next hneg =>
    rw [List.map_cons, List.cons_append, Node.read?, skipBlanks_cons rfl]
    simp only [number?_decimal true _ hr, Option.map_some, hneg, decide_true]
  · next hneg =>
    have hnum := number?_decimal false n.natAbs hr
    obtain ⟨c, cs, hd, hc⟩ := exists_decimal_eq_cons n.natAbs
    rw [hd, List.map_cons, List.cons_append] at hnum
    rw [hd, List.map_cons, List.cons_append, read?_digit hc, hnum, Option.map_some,
      decide_eq_false hneg]

/-- A written value starts with a character that is no blank and closes
no array. -/
theorem exists_print_eq_cons (h : x.IsWhole) :
    ∃ c cs, x.print = c :: cs ∧ isBlank (some c) = false ∧ c ≠ ']' := by
  cases x with
  | null => exact ⟨_, _, rfl, by decide, by decide⟩
  | bool b => cases b <;> exact ⟨_, _, rfl, by decide, by decide⟩
  | number n =>
    cases n with
    | binary b => exact absurd .refl (h b)
    | integer n =>
      rw [print, Numeric.text, signedDecimal]
      split
      · exact ⟨_, _, rfl, by decide, by decide⟩
      · obtain ⟨c, cs, hd, hc⟩ := exists_decimal_eq_cons n.natAbs
        exact ⟨c, cs, hd, isBlank_of_isDigit hc, ne_of_isDigit hc rfl⟩
  | string s => exact ⟨_, _, rfl, by decide, by decide⟩
  | array xs => exact ⟨_, _, rfl, by decide, by decide⟩
  | object ms => exact ⟨_, _, rfl, by decide, by decide⟩

/-! ## Arrays and objects -/

theorem joinComma_printItems (x y : Json) (ys : List Json) :
    joinComma (printItems (x :: y :: ys))
      = x.print ++ ',' :: joinComma (printItems (y :: ys)) := rfl

/-- Items start as the first of them does. -/
theorem exists_items_eq_cons (h : (array (x :: xs)).IsWhole) :
    ∃ c cs, joinComma (printItems (x :: xs)) = c :: cs ∧ isBlank (some c) = false ∧ c ≠ ']' := by
  obtain ⟨c, cs, hcs, hblank, hne⟩ := exists_print_eq_cons (h.item List.mem_cons_self)
  cases xs with
  | nil => exact ⟨c, cs, hcs, hblank, hne⟩
  | cons y ys => exact ⟨c, _, by rw [joinComma_printItems, hcs, List.cons_append], hblank, hne⟩

/-- Items follow what opens an array and does not close it at once. -/
theorem read?_bracket {fuel : Nat} (hblank : isBlank (some c) = false) (hne : c ≠ ']') :
    Node.read? (fuel + 1) (some '[' :: some c :: r)
      = (Node.readItems? fuel (some c :: r)).map fun (xs, r) => (.array xs, r) := by
  rw [Node.read?, skipBlanks_cons rfl]
  simp only [skipBlanks_cons hblank]
  split
  · next h => exact absurd (Option.some.inj (List.cons.inj h).1) hne
  · rfl

/-- Members follow what opens an object, if a name follows it. -/
theorem read?_brace {fuel : Nat} :
    Node.read? (fuel + 1) (some '{' :: some '"' :: r)
      = (Node.readMembers? fuel (some '"' :: r)).map fun (ms, r) => (.object ms, r) := rfl

variable {node : Node} {fuel : Nat} {s : List Symbol}

/-- The last item of an array. -/
theorem readItems?_last (h : Node.read? fuel s = some (node, some ']' :: r)) :
    Node.readItems? (fuel + 1) s = some ([node], r) := by
  rw [Node.readItems?, h]
  rfl

/-- An item before others. -/
theorem readItems?_comma (h : Node.read? fuel s = some (node, some ',' :: r)) :
    Node.readItems? (fuel + 1) s
      = (Node.readItems? fuel r).map fun (xs, r) => (node :: xs, r) := by
  rw [Node.readItems?, h]
  rfl

/-- A written string is what stands between its quotes. -/
theorem map_printString (k : String) : (printString k).map some ++ r
    = some '"' :: ((k.toList.flatMap escapeChar).map some ++ some '"' :: r) := by
  simp [printString]

/-- The last member of an object. -/
theorem readMembers?_last (h : Node.read? fuel s = some (node, some '}' :: r)) :
    Node.readMembers? (fuel + 1) ((printString k).map some ++ some ':' :: s)
      = some ([(some k, node)], r) := by
  have hcolon : skipBlanks (some ':' :: s) = some ':' :: s := rfl
  have hbrace : skipBlanks (some '}' :: r) = some '}' :: r := rfl
  rw [map_printString, Node.readMembers?, skipBlanks_cons rfl]
  simp only [string?_escaped, hcolon, h, hbrace]

/-- A member before others. -/
theorem readMembers?_comma (h : Node.read? fuel s = some (node, some ',' :: r)) :
    Node.readMembers? (fuel + 1) ((printString k).map some ++ some ':' :: s)
      = (Node.readMembers? fuel r).map fun (ms, r) => ((some k, node) :: ms, r) := by
  have hcolon : skipBlanks (some ':' :: s) = some ':' :: s := rfl
  have hcomma : skipBlanks (some ',' :: r) = some ',' :: r := rfl
  rw [map_printString, Node.readMembers?, skipBlanks_cons rfl]
  simp only [string?_escaped, hcolon, h, hcomma]

/-! ## Values -/

/-- With so much fuel the text of a value is read as its node, whatever
follows. -/
def ReadsWith (fuel : Nat) (x : Json) : Prop :=
  ∀ r, Breaks r → Node.read? fuel (x.print.map some ++ r) = some (x.node, r)

/-- Items are read where each of them is. -/
theorem readItems?_print (x : Json) (xs : List Json)
    (h : ∀ y ∈ x :: xs, ∀ k < fuel, y.print.length ≤ k → ReadsWith k y)
    (hfuel : (joinComma (printItems (x :: xs))).length < fuel) :
    Node.readItems? fuel ((joinComma (printItems (x :: xs))).map some ++ some ']' :: r)
      = some (nodes (x :: xs), r) := by
  induction xs generalizing x fuel with
  | nil =>
    obtain ⟨fuel, rfl⟩ : ∃ k, fuel = k + 1 := ⟨fuel - 1, by omega⟩
    rw [printItems, printItems, joinComma] at hfuel ⊢
    have hx := h x List.mem_cons_self fuel (by omega) (by omega)
    exact readItems?_last (hx _ (breaks_cons (by decide)))
  | cons y ys ih =>
    obtain ⟨fuel, rfl⟩ : ∃ k, fuel = k + 1 := ⟨fuel - 1, by omega⟩
    rw [joinComma_printItems, List.length_append, List.length_cons] at hfuel
    have hx := h x List.mem_cons_self fuel (by omega) (by omega)
    have hys : Node.readItems? fuel
        ((joinComma (printItems (y :: ys))).map some ++ some ']' :: r)
        = some (nodes (y :: ys), r) :=
      ih y (fun z hz k hk => h z (List.mem_cons_of_mem _ hz) k (by omega)) (by omega)
    rw [joinComma_printItems, List.map_append, List.append_assoc, List.map_cons, List.cons_append,
      readItems?_comma (hx _ (breaks_cons (by decide))), hys]
    rfl

/-- Members are read where the value of each of them is. -/
theorem readMembers?_print (k : String) (x : Json) (ms : List (String × Json))
    (h : ∀ m ∈ (k, x) :: ms, ∀ n < fuel, m.2.print.length ≤ n → ReadsWith n m.2)
    (hfuel : (joinComma (printMembers ((k, x) :: ms))).length < fuel) :
    Node.readMembers? fuel ((joinComma (printMembers ((k, x) :: ms))).map some ++ some '}' :: r)
      = some (memberNodes ((k, x) :: ms), r) := by
  induction ms generalizing k x fuel with
  | nil =>
    obtain ⟨fuel, rfl⟩ : ∃ n, fuel = n + 1 := ⟨fuel - 1, by omega⟩
    rw [printMembers, printMembers, joinComma, List.length_append, List.length_cons] at hfuel
    have hx := h (k, x) List.mem_cons_self fuel (by omega) (by dsimp only; omega)
    rw [printMembers, printMembers, joinComma, List.map_append, List.append_assoc, List.map_cons,
      List.cons_append]
    exact readMembers?_last (hx _ (breaks_cons (by decide)))
  | cons m ms ih =>
    obtain ⟨l, y⟩ := m
    obtain ⟨fuel, rfl⟩ : ∃ n, fuel = n + 1 := ⟨fuel - 1, by omega⟩
    have hjoin : joinComma (printMembers ((k, x) :: (l, y) :: ms))
        = printString k ++ ':' ::
          (x.print ++ ',' :: joinComma (printMembers ((l, y) :: ms))) := by
      simp [printMembers, joinComma]
    rw [hjoin, List.length_append, List.length_cons, List.length_append, List.length_cons] at hfuel
    have hx := h (k, x) List.mem_cons_self fuel (by omega) (by dsimp only; omega)
    have hms : Node.readMembers? fuel
        ((joinComma (printMembers ((l, y) :: ms))).map some ++ some '}' :: r)
        = some (memberNodes ((l, y) :: ms), r) :=
      ih l y (fun m hm n hn => h m (List.mem_cons_of_mem _ hm) n (by omega)) (by omega)
    rw [hjoin, List.map_append, List.append_assoc, List.map_cons, List.cons_append, List.map_append,
      List.append_assoc, List.map_cons, List.cons_append,
      readMembers?_comma (hx _ (breaks_cons (by decide))), hms]
    rfl

/-- **The text of a value is read as its node**, whatever follows, with as
much fuel as the text is long. -/
theorem read?_print (h : x.IsWhole) (hfuel : x.print.length ≤ fuel) : x.ReadsWith fuel := by
  -- what stands within a value is read with less fuel
  induction fuel using Nat.strongRecOn generalizing x with
  | ind fuel ih =>
    intro r hr
    obtain ⟨c, cs, hprint, -⟩ := exists_print_eq_cons h
    obtain ⟨fuel, rfl⟩ : ∃ k, fuel = k + 1 :=
      ⟨fuel - 1, by rw [hprint, List.length_cons] at hfuel; omega⟩
    cases x with
    | null => rfl
    | bool b => cases b <;> rfl
    | number n =>
      cases n with
      | integer n => exact read?_integer n hr
      | binary b => exact absurd .refl (h b)
    | string s =>
      rw [print, map_printString, Node.read?, skipBlanks_cons rfl]
      simp only [string?_escaped, Option.map_some, Json.node]
    | array xs =>
      cases xs with
      | nil => rfl
      | cons x xs =>
        rw [print, List.length_append, List.length_cons, List.length_singleton] at hfuel
        have hitems := readItems?_print (r := r) x xs
          (fun y hy k hk hlen => ih k (by omega) (h.item hy) hlen)
          (show (joinComma (printItems (x :: xs))).length < fuel by omega)
        obtain ⟨c, cs, hcs, hblank, hne⟩ := exists_items_eq_cons h
        rw [hcs, List.map_cons, List.cons_append] at hitems
        rw [print, hcs, List.map_append]
        simp only [List.map_cons, List.cons_append, List.map_nil, List.append_assoc,
          List.nil_append]
        rw [read?_bracket hblank hne, hitems]
        rfl
    | object ms =>
      cases ms with
      | nil => rfl
      | cons m ms =>
        obtain ⟨k, x⟩ := m
        rw [print, List.length_append, List.length_cons, List.length_singleton] at hfuel
        have hmembers := readMembers?_print (r := r) k x ms
          (fun m hm n hn hlen => ih n (by omega) (h.member hm) hlen)
          (show (joinComma (printMembers ((k, x) :: ms))).length < fuel by omega)
        obtain ⟨cs, hcs⟩ : ∃ cs, joinComma (printMembers ((k, x) :: ms)) = '"' :: cs := by
          cases ms <;> exact ⟨_, rfl⟩
        rw [hcs, List.map_cons, List.cons_append] at hmembers
        rw [print, hcs, List.map_append]
        simp only [List.map_cons, List.cons_append, List.map_nil, List.append_assoc,
          List.nil_append]
        rw [read?_brace, hmembers]
        rfl

/-! ## Texts -/

theorem Node.ofSymbols?_print (h : x.IsWhole) :
    Node.ofSymbols? (x.print.map some) = some x.node := by
  have hread := read?_print h (Nat.le_succ x.print.length) [] breaks_nil
  rw [List.append_nil] at hread
  rw [Node.ofSymbols?, List.length_map, hread]
  rfl

/-- **A text is read as the node of its value**, -/
theorem Node.ofText?_text (h : x.IsWhole) : Node.ofText? x.text = some x.node := by
  rw [Node.ofText?, text, String.toList_ofList, Node.ofSymbols?_print h]

/-- and so are its octets. -/
theorem Node.ofBytes?_text (h : x.IsWhole) :
    Node.ofBytes? (Bytes.ofString x.text) = some x.node := by
  rw [Node.ofBytes?, text, Bytes.ofString_ofList, Utf8.symbols_encode, Node.ofSymbols?_print h]

end Json

end CredentialRotation
