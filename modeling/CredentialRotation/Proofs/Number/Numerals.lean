import CredentialRotation.Proofs.Number.Decimal
import CredentialRotation.Proofs.Time.Written

/-!
# What spells a number

The grammar of the numerals in text: `IsNumeral` is an optional sign,
digits with an optional point among them, and an optional exponent. The
reader takes what the grammar describes and nothing else
(`exists_read?_iff`), and besides it words for the infinities and for what
is undefined (`binary64?_of_not_isNumeral`).

An integer in decimal, with a sign that may be spared and with zeros
before it, is read as that integer (`integer?_of_spells`) and as the
numeral of that integer (`read?_of_spells`).
-/

namespace CredentialRotation.Number

open Instant (NoDigit takeWhile_isDigit dropWhile_isDigit noDigit_cons)

variable {c d : Char} {cs ds word : List Char} {n : Int}

/-! ## Digits -/

/-- A run of decimal digits, which may be empty. -/
def Digits (cs : List Char) : Prop := ∀ c ∈ cs, c.isDigit = true

/-- A run that is not empty. -/
def IsRun (cs : List Char) : Prop := cs ≠ [] ∧ Digits cs

theorem digits_cons : Digits (c :: cs) ↔ c.isDigit = true ∧ Digits cs := List.forall_mem_cons

theorem digit?_ten (c : Char) :
    digit? 10 c = if c.isDigit then some (c.toNat - 0x30) else none := by
  unfold digit? Hex.value?
  by_cases hdigit : '0' ≤ c ∧ c ≤ '9'
  · have hc : c.isDigit = true := by
      simpa [Char.isDigit, Char.le_def] using hdigit
    have hlt : c.toNat - 0x30 < 10 := by
      have h9 : c.toNat ≤ 57 := hdigit.2
      omega
    rw [if_pos hdigit, if_pos hc, Option.filter_some, if_pos (by simpa using hlt)]
  · have hc : c.isDigit ≠ true := by
      simpa [Char.isDigit, Char.le_def] using hdigit
    rw [if_neg hdigit, if_neg hc]
    -- the letters count from ten on
    split
    · next ha =>
      have hlow : 97 ≤ c.toNat := ha.1
      simp; omega
    · split
      · next hA =>
        have hlow : 65 ≤ c.toNat := hA.1
        simp; omega
      · rfl

theorem foldlM_digit?_eq_some_iff (cs : List Char) (m n : Nat) :
    cs.foldlM (fun n c => (digit? 10 c).map (10 * n + ·)) m = some n ↔
      Digits cs ∧ cs.foldl (fun n c => 10 * n + (c.toNat - 0x30)) m = n := by
  induction cs generalizing m with
  | nil => simp [Digits]
  | cons c cs ih =>
    rw [List.foldlM_cons, digit?_ten, digits_cons, List.foldl_cons]
    by_cases hc : c.isDigit = true
    · simp only [hc, if_true, Option.map_some, Option.bind_eq_bind, Option.bind_some, true_and, ih]
    · simp [hc]

/-- A number is a run of digits, and is what they spell. -/
theorem natural?_eq_some_iff {n : Nat} :
    natural? 10 cs = some n ↔ IsRun cs ∧ Numeral.run cs = n := by
  unfold natural? IsRun
  by_cases hne : cs = []
  · simp [hne]
  · rw [if_neg (by simpa using hne), foldlM_digit?_eq_some_iff, and_assoc, and_iff_right hne]
    rfl

/-! ## Signs -/

/-- What has a sign before it, or none. -/
inductive Signed (P : List Char → Prop) : List Char → Prop
  | unsigned {cs : List Char} (h : P cs) : Signed P cs
  | plus {cs : List Char} (h : P cs) : Signed P ('+' :: cs)
  | minus {cs : List Char} (h : P cs) : Signed P ('-' :: cs)

/-- A text that does not begin with a sign. -/
def NoSign (cs : List Char) : Prop := ∀ c, cs.head? = some c → c ≠ '+' ∧ c ≠ '-'

theorem noSign_of_isDigit (h : c.isDigit = true) : NoSign (c :: cs) := by
  rintro d ⟨⟩
  constructor <;> rintro rfl <;> cases h

theorem integer?_of_noSign (h : NoSign cs) : integer? 10 cs = (natural? 10 cs).map Int.ofNat := by
  unfold integer?
  split
  · exact absurd rfl (h _ rfl).1
  · exact absurd rfl (h _ rfl).2
  · rfl

theorem noSign_of_digits (h : Digits cs) : NoSign cs := by
  cases cs with
  | nil => exact fun _ h => nomatch h
  | cons c cs => exact noSign_of_isDigit (digits_cons.1 h).1

/-- An integer is a number with a sign or without. -/
theorem exists_integer?_iff :
    (∃ n, integer? 10 cs = some n) ↔ Signed IsRun cs := by
  constructor
  · rintro ⟨n, h⟩
    unfold integer? at h
    split at h <;> obtain ⟨m, hm, -⟩ := Option.map_eq_some_iff.1 h
    · exact .plus (natural?_eq_some_iff.1 hm).1
    · exact .minus (natural?_eq_some_iff.1 hm).1
    · exact .unsigned (natural?_eq_some_iff.1 hm).1
  · rintro (h | h | h) <;> have hnatural := natural?_eq_some_iff.2 ⟨h, rfl⟩
    · rw [integer?_of_noSign (noSign_of_digits h.2), hnatural]
      exact ⟨_, rfl⟩
    · rw [integer?, hnatural]
      exact ⟨_, rfl⟩
    · rw [integer?, hnatural]
      exact ⟨_, rfl⟩

/-! ## Numerals -/

/-- An exponent, which may be absent. -/
inductive IsExponent : List Char → Prop
  | absent : IsExponent []
  | present {e : Char} {cs : List Char} (he : e = 'e' ∨ e = 'E')
      (h : Signed IsRun cs) : IsExponent (e :: cs)

/-- A numeral without a sign: digits, or digits on one side of a point at
least, and an exponent. -/
inductive IsUnsigned : List Char → Prop
  | whole {ds x : List Char} (hne : ds ≠ []) (h : Digits ds) (hx : IsExponent x) :
      IsUnsigned (ds ++ x)
  | fraction {ds part x : List Char} (hne : ds ≠ [] ∨ part ≠ []) (h : Digits ds)
      (hpart : Digits part) (hx : IsExponent x) : IsUnsigned (ds ++ '.' :: (part ++ x))

/-- A decimal numeral: a sign, digits with a point, an exponent; all but a
digit may be absent. -/
def IsNumeral (cs : List Char) : Prop := Signed IsUnsigned cs

theorem exists_exponent?_iff : (∃ e, Numeral.exponent? cs = some e) ↔ IsExponent cs := by
  constructor
  · rintro ⟨n, h⟩
    cases cs with
    | nil => exact .absent
    | cons c cs =>
      rw [Numeral.exponent?] at h
      obtain ⟨he, h⟩ := Option.ite_none_right_eq_some.1 h
      exact .present he (exists_integer?_iff.1 ⟨n, h⟩)
  · rintro (_ | ⟨he, h⟩)
    · exact ⟨0, rfl⟩
    · rw [Numeral.exponent?, if_pos he]
      exact exists_integer?_iff.2 h

theorem noDigit_of_isExponent (h : IsExponent cs) : NoDigit cs := by
  cases h with
  | absent => exact fun _ h => nomatch h
  | present he => rcases he with rfl | rfl <;> exact noDigit_cons rfl

theorem unsigned?_whole {x : List Char} (hne : ds ≠ []) (h : Digits ds) (hx : IsExponent x) :
    Numeral.unsigned? (ds ++ x)
      = (Numeral.exponent? x).map fun e => (Numeral.run ds, e) := by
  have hno := noDigit_of_isExponent hx
  unfold Numeral.unsigned?
  rw [takeWhile_isDigit h hno, dropWhile_isDigit h hno]
  cases hx with
  | absent => simp [hne]
  | present he => rcases he with rfl | rfl <;> simp [hne]

theorem unsigned?_fraction {part x : List Char} (hne : ds ≠ [] ∨ part ≠ []) (h : Digits ds)
    (hpart : Digits part) (hx : IsExponent x) : Numeral.unsigned? (ds ++ '.' :: (part ++ x))
      = (Numeral.exponent? x).map fun e => (Numeral.run (ds ++ part), e - (part.length : Int)) := by
  have hpoint : NoDigit ('.' :: (part ++ x)) := noDigit_cons rfl
  have hno := noDigit_of_isExponent hx
  have hfull : (ds.isEmpty && part.isEmpty) = false := by
    rcases hne with hne | hne <;> simp [hne]
  simp only [Numeral.unsigned?, takeWhile_isDigit h hpoint, dropWhile_isDigit h hpoint,
    takeWhile_isDigit hpart hno, dropWhile_isDigit hpart hno, hfull]
  rfl

theorem exists_unsigned?_iff : (∃ v, Numeral.unsigned? cs = some v) ↔ IsUnsigned cs := by
  constructor
  · rintro ⟨v, h⟩
    have hsplit := List.takeWhile_append_dropWhile (p := Char.isDigit) (l := cs)
    have hdigits (cs : List Char) : Digits (cs.takeWhile Char.isDigit) :=
      List.all_eq_true.1 List.all_takeWhile
    simp only [Numeral.unsigned?] at h
    split at h
    · next rest hrest =>
      split at h
      · cases h
      · next hne =>
        obtain ⟨e, he, -⟩ := Option.map_eq_some_iff.1 h
        have hunsigned := IsUnsigned.fraction (by grind) (hdigits cs) (hdigits rest)
          (exists_exponent?_iff.1 ⟨e, he⟩)
        rwa [List.takeWhile_append_dropWhile, ← hrest, hsplit] at hunsigned
    · split at h
      · cases h
      · next hne =>
        obtain ⟨e, he, -⟩ := Option.map_eq_some_iff.1 h
        have hunsigned := IsUnsigned.whole (by simpa using hne) (hdigits cs)
          (exists_exponent?_iff.1 ⟨e, he⟩)
        rwa [hsplit] at hunsigned
  · rintro (⟨hne, h, hx⟩ | ⟨hne, h, hpart, hx⟩) <;>
      obtain ⟨e, he⟩ := exists_exponent?_iff.2 hx
    · rw [unsigned?_whole hne h hx, he]
      exact ⟨_, rfl⟩
    · rw [unsigned?_fraction hne h hpart hx, he]
      exact ⟨_, rfl⟩

theorem noSign_of_isUnsigned (h : IsUnsigned cs) : NoSign cs := by
  cases h with
  | @whole ds x hne h =>
    cases ds with
    | nil => exact absurd rfl hne
    | cons c ds => exact noSign_of_isDigit (digits_cons.1 h).1
  | @fraction ds part x hne h =>
    cases ds with
    | nil =>
      rintro c ⟨⟩
      decide
    | cons c ds => exact noSign_of_isDigit (digits_cons.1 h).1

theorem read?_of_noSign (h : NoSign cs) :
    Numeral.read? cs = (Numeral.unsigned? cs).map fun (d, e) => ⟨false, d, e⟩ := by
  unfold Numeral.read?
  split
  · exact absurd rfl (h _ rfl).1
  · exact absurd rfl (h _ rfl).2
  · rfl

/-- **The reader takes the numerals of the grammar**, and nothing else. -/
theorem exists_read?_iff : (∃ v, Numeral.read? cs = some v) ↔ IsNumeral cs := by
  constructor
  · rintro ⟨v, h⟩
    unfold Numeral.read? at h
    split at h <;> obtain ⟨u, hu, -⟩ := Option.map_eq_some_iff.1 h
    · exact .plus (exists_unsigned?_iff.1 ⟨u, hu⟩)
    · exact .minus (exists_unsigned?_iff.1 ⟨u, hu⟩)
    · exact .unsigned (exists_unsigned?_iff.1 ⟨u, hu⟩)
  · rintro (h | h | h) <;> obtain ⟨u, hu⟩ := exists_unsigned?_iff.2 h
    · rw [read?_of_noSign (noSign_of_isUnsigned h), hu]
      exact ⟨_, rfl⟩
    · rw [Numeral.read?, hu]
      exact ⟨_, rfl⟩
    · rw [Numeral.read?, hu]
      exact ⟨_, rfl⟩

instance (cs : List Char) : Decidable (IsNumeral cs) :=
  decidable_of_iff ((Numeral.read? cs).isSome = true)
    (Option.isSome_iff_exists.trans exists_read?_iff)

/-! ## Integers -/

/-- An integer in decimal: its digits with zeros before them, and before
those a sign, which may be spared from zero on. Zero may have either
sign. -/
inductive Spells : Int → List Char → Prop
  | unsigned (zeros n : Nat) : Spells n (List.replicate zeros '0' ++ decimal n)
  | plus (zeros n : Nat) : Spells n ('+' :: (List.replicate zeros '0' ++ decimal n))
  | minus (zeros n : Nat) : Spells (-n) ('-' :: (List.replicate zeros '0' ++ decimal n))

theorem digits_zeros_append (zeros n : Nat) : Digits (List.replicate zeros '0' ++ decimal n) :=
  fun _ => isDigit_of_mem_zeros_append

theorem natural?_zeros_append (zeros n : Nat) :
    natural? 10 (List.replicate zeros '0' ++ decimal n) = some n :=
  natural?_eq_some_iff.2
    ⟨⟨zeros_append_ne_nil zeros n, digits_zeros_append zeros n⟩, run_zeros_append zeros n⟩

/-- **An integer is read** from what spells it. -/
theorem integer?_of_spells (h : Spells n cs) : integer? 10 cs = some n := by
  cases h with
  | unsigned zeros n =>
    rw [integer?_of_noSign (noSign_of_digits (digits_zeros_append zeros n)), natural?_zeros_append]
    rfl
  | plus zeros n =>
    rw [integer?, natural?_zeros_append]
    rfl
  | minus zeros n =>
    rw [integer?, natural?_zeros_append]
    rfl

theorem unsigned?_zeros_append (zeros n : Nat) :
    Numeral.unsigned? (List.replicate zeros '0' ++ decimal n) = some (n, 0) := by
  have hwhole := unsigned?_whole (zeros_append_ne_nil zeros n) (digits_zeros_append zeros n) .absent
  rwa [List.append_nil, run_zeros_append] at hwhole

/-- So is its numeral. -/
theorem read?_of_spells (h : Spells n cs) (hn : n ≠ 0) :
    Numeral.read? cs = some ⟨decide (n < 0), n.natAbs, 0⟩ := by
  cases h with
  | unsigned zeros n =>
    rw [read?_of_noSign (noSign_of_digits (digits_zeros_append zeros n)), unsigned?_zeros_append]
    simp
  | plus zeros n =>
    rw [Numeral.read?, unsigned?_zeros_append]
    simp
  | minus zeros n =>
    rw [Numeral.read?, unsigned?_zeros_append]
    have hpos : 0 < n := by omega
    simp [hpos]

/-- An integer is a numeral. -/
theorem isNumeral_of_integer? (h : integer? 10 cs = some n) : IsNumeral cs := by
  have hwhole {ds : List Char} (hds : IsRun ds) : IsUnsigned ds := by
    have hunsigned := IsUnsigned.whole hds.1 hds.2 .absent
    rwa [List.append_nil] at hunsigned
  cases exists_integer?_iff.1 ⟨n, h⟩ with
  | unsigned hds => exact .unsigned (hwhole hds)
  | plus hds => exact .plus (hwhole hds)
  | minus hds => exact .minus (hwhole hds)

/-- A sign and digits have no blank among them. -/
theorem isBlank_of_spells (h : Spells n cs) : ∀ c ∈ cs, Text.isBlank c = false := by
  have hdigits (zeros n : Nat) : ∀ c ∈ List.replicate zeros '0' ++ decimal n,
      Text.isBlank c = false :=
    fun c hc => Instant.isBlank_of_isDigit (digits_zeros_append _ _ c hc)
  cases h with
  | unsigned zeros n => exact hdigits zeros n
  | plus zeros n | minus zeros n => exact List.forall_mem_cons.2 ⟨rfl, hdigits zeros n⟩

/-! ## Words -/

/-- The word for what is no number, in any case and with any sign. -/
def IsNan (cs : List Char) : Prop :=
  cs.map Char.toLower ∈ [['n', 'a', 'n'], ['+', 'n', 'a', 'n'], ['-', 'n', 'a', 'n']]

instance (cs : List Char) : Decidable (IsNan cs) :=
  inferInstanceAs (Decidable (_ ∈ _))

/-- Signs have no case. -/
theorem toLower_eq_sign (hd : d = '+' ∨ d = '-') (h : c.toLower = d) : c = d := by
  delta Char.toLower at h
  split at h
  · next hupper =>
    have hlow : 65 ≤ c.val.toNat := hupper.1
    have hhigh : c.val.toNat ≤ 90 := hupper.2
    have hval : (c.val.toNat + 32) % 2 ^ 32 = d.val.toNat := by
      rw [← h]
      exact (UInt32.toNat_add c.val 32).symm
    have hsign : d.val.toNat ≤ 45 := by
      rcases hd with rfl | rfl <;> decide
    omega
  · exact h

/-- What a word is read as: what is undefined, an infinity, or nothing. -/
theorem wordValue?_eq (negative : Bool) (word : List Char) : wordValue? negative word =
    if word.map Char.toLower = ['n', 'a', 'n'] then some .nan
    else if word.map Char.toLower ∈ [['i', 'n', 'f'], ['i', 'n', 'f', 'i', 'n', 'i', 't', 'y']] then
      some (.infinite negative)
    else none := by
  have hlist (s : String) : String.ofList (word.map Char.toLower) = s ↔
      word.map Char.toLower = s.toList := by
    rw [← String.toList_inj, String.toList_ofList]
  unfold wordValue?
  split
  · next h => simp [(hlist _).1 h]
  · next h => simp [(hlist _).1 h]
  · next h => simp [(hlist _).1 h]
  · next hinf hinfinity hnan =>
    have hnan' : word.map Char.toLower ≠ ['n', 'a', 'n'] := mt (hlist "nan").2 hnan
    have hinf' : word.map Char.toLower ≠ ['i', 'n', 'f'] := mt (hlist "inf").2 hinf
    have hinfinity' : word.map Char.toLower ≠ ['i', 'n', 'f', 'i', 'n', 'i', 't', 'y'] :=
      mt (hlist "infinity").2 hinfinity
    simp [hnan', hinf', hinfinity']

/-- The words behind a sign are those without. -/
theorem isNan_cons_iff (hd : d = '+' ∨ d = '-') :
    IsNan (d :: word) ↔ word.map Char.toLower = ['n', 'a', 'n'] := by
  have hsame : d.toLower = d := by
    rcases hd with rfl | rfl <;> rfl
  rcases hd with rfl | rfl <;> simp [IsNan, hsame]

theorem isNan_iff_of_noSign (h : NoSign cs) :
    IsNan cs ↔ cs.map Char.toLower = ['n', 'a', 'n'] := by
  have hsign {d : Char} (hd : d = '+' ∨ d = '-') (word : List Char) :
      cs.map Char.toLower ≠ d :: word := by
    intro heq
    obtain ⟨c, r, rfl, hc, -⟩ := List.map_eq_cons_iff.1 heq
    obtain rfl := toLower_eq_sign hd hc
    exact hd.elim (h _ rfl).1 (h _ rfl).2
  simp [IsNan, hsign (.inl rfl), hsign (.inr rfl)]

/-- **What is read where no numeral stands**: the word for what is no
number, the words for the infinities, and nothing else. -/
theorem binary64?_of_not_isNumeral (h : ¬ IsNumeral cs) :
    (IsNan cs → binary64? cs = some .nan)
      ∧ (¬ IsNan cs → ∀ b, binary64? cs = some b → ∃ negative, b = .infinite negative) := by
  have hread : Numeral.read? cs = none :=
    Option.eq_none_iff_forall_ne_some.2 fun v hv => h (exists_read?_iff.1 ⟨v, hv⟩)
  have hword (negative : Bool) (word : List Char) :
      (word.map Char.toLower = ['n', 'a', 'n'] → wordValue? negative word = some .nan)
        ∧ (word.map Char.toLower ≠ ['n', 'a', 'n'] →
          ∀ b, wordValue? negative word = some b → ∃ negative, b = .infinite negative) := by
    rw [wordValue?_eq]
    refine ⟨fun hnan => if_pos hnan, fun hnan b hb => ?_⟩
    rw [if_neg hnan] at hb
    exact ⟨negative, (Option.some.inj (Option.ite_none_right_eq_some.1 hb).2).symm⟩
  unfold binary64?
  rw [hread]
  dsimp only
  split
  · rw [isNan_cons_iff (.inl rfl)]
    exact hword false _
  · rw [isNan_cons_iff (.inr rfl)]
    exact hword true _
  · next hplus hminus =>
    rw [isNan_iff_of_noSign]
    · exact hword false _
    · intro c hc
      obtain ⟨word, rfl⟩ := List.head?_eq_some_iff.1 hc
      exact ⟨fun heq => hplus word (by rw [heq]), fun heq => hminus word (by rw [heq])⟩

end CredentialRotation.Number
