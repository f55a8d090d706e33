import CredentialRotation.Proofs.Json.Numbers
import CredentialRotation.Proofs.Text.Blank
import CredentialRotation.Proofs.Token.Validity
import CredentialRotation.Rotation.Judge

/-!
# What is a date

A claim may hold an integer as a number or as a text, and numbers of
documents are of several kinds. Whichever it is, the seconds that are read
are that integer (`seconds?_of_holds`), unless no word of sixty-four bits
holds it; then they are something else, but as far from the calendar as
the integer.

A text that is no numeral is no date, and a token with such a claim counts
at no instant and is always due. One word is an exception: `nan` is read
as a number that is undefined, cutting it leaves zero, and so a claim with
that word holds the start of 1970 (`valid_since_nan`).
-/

namespace CredentialRotation.Claims

open Number Number.Binary64

variable {c : Claims} {claim : DateClaim} {n k : Int} {x : Json} {s : String}
  {digits : List Char}

/-- A value of a claim that holds an integer. -/
inductive Holds (n : Int) : Json → Prop
  /-- As an integer of a document, which has sixty-four bits with a sign or
  without. -/
  | integer (hmin : int64Min ≤ n) (hmax : n ≤ nat64Max) : Holds n (.number (.integer n))
  /-- As the nearest binary number, past those integers. -/
  | nearest (h : n < int64Min ∨ (nat64Max : Int) < n) : Holds n (.number (.binary (.ofInt n)))
  /-- As the number that its digits in a document are read as. -/
  | read {num : Numeric} (h : (Json.lexeme n).numeric? = some num) : Holds n (.number num)
  /-- As a text with blanks before and after it. -/
  | text {before digits after : List Char} (hbefore : ∀ c ∈ before, Text.isBlank c = true)
      (h : Spells n digits) (hafter : ∀ c ∈ after, Text.isBlank c = true) :
      Holds n (.string (String.ofList (before ++ digits ++ after)))

/-! ## Seconds -/

/-- `k` is what is read where `n` is held: `n` itself, or something large
in the place of something that no word holds. -/
def ReadAs (n k : Int) : Prop :=
  k = n ∨ ((n < int64Min ∨ int64Max < n) ∧ 2 ^ 50 ≤ k.natAbs)

theorem readAs_truncate {q : ℚ} {b : Binary64} (hn : n < int64Min ∨ int64Max < n)
    (hb : AtLeast q b) (hq : 2 ^ 50 ≤ q) : ReadAs n b.truncate :=
  .inr ⟨hn, hb.le_natAbs_truncate hq⟩

theorem readAs_of_half {b : Binary64} (hn : n < int64Min ∨ int64Max < n)
    (hb : AtLeast (n.natAbs / 2) b) : ReadAs n b.truncate := by
  refine readAs_truncate hn hb ?_
  have hlarge : 2 ^ 51 ≤ n.natAbs := by
    simp only [int64Min, int64Max] at hn
    omega
  have hlarge' : (2 : ℚ) ^ 51 ≤ n.natAbs := by exact_mod_cast hlarge
  linarith

theorem ne_zero_of_beyond (hn : n < int64Min ∨ int64Max < n) : n ≠ 0 := by
  rintro rfl
  revert hn
  decide

theorem readAs_integer (n : Int) : ReadAs n (numberSeconds (.integer n)) := by
  unfold numberSeconds
  by_cases hn : int64Min ≤ n ∧ n ≤ int64Max
  · simp only [if_pos hn]
    exact .inl rfl
  · simp only [if_neg hn]
    have hbeyond : n < int64Min ∨ int64Max < n := by omega
    exact readAs_of_half hbeyond (atLeast_ofInt (ne_zero_of_beyond hbeyond))

theorem exists_binary64?_of_spells (h : Spells n digits) (hn : n < int64Min ∨ int64Max < n) :
    ∃ b, binary64? digits = some b ∧ AtLeast (n.natAbs / 2) b := by
  have hne := ne_zero_of_beyond hn
  refine ⟨_, by unfold binary64?; rw [read?_of_spells h hne], ?_⟩
  have hdecimal : AtLeast (n.natAbs * 10 ^ 0 / 2) (ofDecimal (decide (n < 0)) n.natAbs (0 : ℕ)) :=
    atLeast_ofDecimal (Int.natAbs_ne_zero.2 hne) 0
  rwa [pow_zero, mul_one] at hdecimal

/-- What is held is read. -/
theorem seconds?_of_holds (h : Holds n x) : ∃ k, seconds? x = some k ∧ ReadAs n k := by
  cases h with
  | integer => exact ⟨_, rfl, readAs_integer n⟩
  | nearest hn =>
    have hbeyond : n < int64Min ∨ int64Max < n := by
      simp only [int64Max, nat64Max] at hn ⊢
      omega
    exact ⟨_, rfl, readAs_of_half hbeyond (atLeast_ofInt (ne_zero_of_beyond hbeyond))⟩
  | @read num hread =>
    by_cases hn : int64Min ≤ n ∧ n ≤ nat64Max
    · rw [Json.numeric?_lexeme hn.1 hn.2] at hread
      obtain rfl := Option.some.inj hread
      exact ⟨_, rfl, readAs_integer n⟩
    · obtain ⟨b, rfl, hb⟩ := Json.atLeast_of_numeric? (by omega) hread
      refine ⟨_, rfl, readAs_truncate ?_ hb le_rfl⟩
      simp only [int64Max, nat64Max] at hn ⊢
      omega
  | @text before digits after hbefore hdigits hafter =>
    have hne : digits ≠ [] := by
      cases hdigits <;> simp [decimal_ne_nil]
    have htrim := Text.trim_append hbefore (isBlank_of_spells hdigits) hne hafter
    simp only [seconds?, textSeconds?, String.toList_ofList, htrim, integerIn?,
      integer?_of_spells hdigits, Option.filter_some, Bool.and_eq_true, decide_eq_true_eq]
    by_cases hn : int64Min ≤ n ∧ n ≤ int64Max
    · simp only [if_pos hn]
      exact ⟨n, rfl, .inl rfl⟩
    · simp only [if_neg hn]
      obtain ⟨b, hb, hlarge⟩ := exists_binary64?_of_spells hdigits (by omega)
      exact ⟨_, by rw [hb, Option.map_some], readAs_of_half (by omega) hlarge⟩

/-! ## Dates -/

theorem ofSeconds?_eq_none (h : k < Instant.minSecs ∨ Instant.maxSecs < k) :
    Instant.ofSeconds? k = none := by
  rw [Instant.ofSeconds?, Instant.ofParts?, dif_neg]
  omega

theorem date_of_instant? (hget : c.get claim.name = some x) : c.date claim =
    match instant? x with
    | some t => .ok (some t)
    | none => .error (.date claim) := by
  cases h : instant? x <;> simp [date, hget, h]

/-- **A date is the integer that is held**, however it is held: the start
of that second where the calendar has it, and no date otherwise. -/
theorem date_of_holds (c : Claims) (claim : DateClaim) (n : Int) (x : Json)
    (hget : c.get claim.name = some x) (hx : Holds n x) :
    (-8334601228800 ≤ n ∧ n ≤ 8210266876799 →
        ∃ t, c.date claim = .ok (some t) ∧ t.secs = n ∧ t.nanos = 0)
      ∧ (¬(-8334601228800 ≤ n ∧ n ≤ 8210266876799) → c.date claim = .error (.date claim)) := by
  obtain ⟨k, hk, hread⟩ := seconds?_of_holds hx
  rw [date_of_instant? hget, instant?, hk, Option.bind_some]
  constructor
  · rintro ⟨hmin, hmax⟩
    obtain rfl : k = n := by
      refine hread.resolve_right fun hbeyond => ?_
      have := hbeyond.1
      simp only [int64Min, int64Max] at this
      omega
    refine ⟨⟨k, 0, hmin, hmax, by decide, .inl (by decide)⟩, ?_, rfl, rfl⟩
    rw [Instant.ofSeconds?, Instant.ofParts?, dif_pos]
    exact ⟨⟨hmin, hmax⟩, by decide, .inl (by decide)⟩
  · intro hout
    have hout' : k < Instant.minSecs ∨ Instant.maxSecs < k := by
      simp only [Instant.minSecs, Instant.maxSecs]
      rcases hread with rfl | ⟨-, hlarge⟩ <;> omega
    rw [ofSeconds?_eq_none hout']

/-- At work: the last second as a text with everything around it, and the
number of a document whose digits are the first integer past two words. -/
theorem date_of_holds_both_kinds :
    let c : Claims := ⟨[("exp", .string " +0008210266876799\t"),
      ("iat", .number (.binary (.ofInt 340282366920938463463374607431768211456)))]⟩
    (∃ t, c.date .exp = .ok (some t) ∧ t.secs = 8210266876799 ∧ t.nanos = 0)
      ∧ c.date .iat = .error (.date .iat) := by
  intro c
  have htext : " +0008210266876799\t" = String.ofList
      ([' '] ++ ('+' :: (List.replicate 3 '0' ++ decimal 8210266876799)) ++ ['\t']) := by
    decide +kernel
  have hexp : Holds 8210266876799 (.string " +0008210266876799\t") := by
    rw [htext]
    exact .text (List.forall_mem_singleton.2 rfl) (.plus 3 8210266876799)
      (List.forall_mem_singleton.2 rfl)
  have hiat : Holds 340282366920938463463374607431768211456
      (.number (.binary (.ofInt 340282366920938463463374607431768211456))) :=
    .nearest (.inr (by decide))
  exact ⟨(date_of_holds c .exp _ _ rfl hexp).1 (by decide),
    (date_of_holds c .iat _ _ rfl hiat).2 (by decide)⟩

/-! ## Texts that are no numeral -/

/-- What is read where no numeral stands is zero or out of every range. -/
theorem seconds?_of_not_isNumeral (hs : ¬ IsNumeral (Text.trim s.toList)) :
    (IsNan (Text.trim s.toList) → seconds? (.string s) = some 0)
      ∧ (¬ IsNan (Text.trim s.toList) →
        ∀ k, seconds? (.string s) = some k → k = int64Min ∨ k = int64Max) := by
  have hinteger : integerIn? 10 int64Min int64Max (Text.trim s.toList) = none := by
    rw [integerIn?, Option.filter_eq_none_iff]
    exact fun n hn => absurd (isNumeral_of_integer? hn) hs
  obtain ⟨hnan, hword⟩ := binary64?_of_not_isNumeral hs
  simp only [seconds?, textSeconds?, hinteger]
  refine ⟨fun h => by rw [hnan h]; rfl, fun h k hk => ?_⟩
  obtain ⟨b, hb, rfl⟩ := Option.map_eq_some_iff.1 hk
  obtain ⟨negative, rfl⟩ := hword h b hb
  cases negative
  · exact .inr rfl
  · exact .inl rfl

/-- Where a date cannot be read no instant is one at which the token
counts. -/
theorem isValidAt_of_date_error {e : TokenError} (h : c.date claim = .error e) (now : Instant) :
    c.isValidAt now = false := by
  rw [← Bool.not_eq_true, isValidAt_iff]
  intro hcurrent
  obtain ⟨x, hx⟩ := hcurrent.readable claim
  rw [h] at hx
  cases hx

/-- **A text that is no numeral is no date**, unless it is the word for
what is no number. No instant is one at which the token counts, and its
judge finds it due at every instant and by a window of any length. With
that word the date is the start of 1970. -/
theorem date_of_not_isNumeral (c : Claims) (claim : DateClaim) (s : String)
    (hget : c.get claim.name = some (.string s)) (hs : ¬ IsNumeral (Text.trim s.toList)) :
    (c.date claim = .error (.date claim) ↔ ¬ IsNan (Text.trim s.toList))
      ∧ (IsNan (Text.trim s.toList) → c.date claim = .ok (some .epoch))
      ∧ (¬ IsNan (Text.trim s.toList) → (∀ now, ∃ e, c.validate now = .error e)
        ∧ ∀ token, Token.claims token = .ok c →
          ∃ j, Judge.ofToken token = .ok j ∧ ∀ now d, j.isDue now d = true) := by
  obtain ⟨hnan, hword⟩ := seconds?_of_not_isNumeral hs
  have hdate := date_of_instant? hget
  have hepoch : IsNan (Text.trim s.toList) → c.date claim = .ok (some .epoch) := by
    intro h
    rw [hdate, instant?, hnan h]
    rfl
  have herror : ¬ IsNan (Text.trim s.toList) → c.date claim = .error (.date claim) := by
    intro h
    rw [hdate, instant?]
    cases hseconds : seconds? (.string s) with
    | none => rfl
    | some k =>
      have hout : k < Instant.minSecs ∨ Instant.maxSecs < k := by
        rcases hword h k hseconds with rfl | rfl <;> decide
      rw [Option.bind_some, ofSeconds?_eq_none hout]
  refine ⟨⟨fun h hspelled => ?_, herror⟩, hepoch, fun h => ⟨fun now => ?_, fun token htoken => ?_⟩⟩
  · rw [hepoch hspelled] at h
    cases h
  · have hinvalid := isValidAt_of_date_error (herror h) now
    unfold isValidAt at hinvalid
    cases hvalidate : c.validate now with
    | ok u => simp [hvalidate] at hinvalid
    | error e => exact ⟨e, rfl⟩
  · refine ⟨⟨c⟩, by rw [Judge.ofToken, htoken], fun now d => ?_⟩
    simp [Judge.isDue, isValidAt_of_date_error (herror h) now]

/-- At work: a word, behind blanks, is no date of issue. -/
theorem date_of_not_isNumeral_word :
    let c : Claims := ⟨[("exp", .ofInt 1700003600), ("iat", .string " infinity ")]⟩
    c.date .iat = .error (.date .iat) ∧ ∀ now, ∃ e, c.validate now = .error e := by
  intro c
  obtain ⟨herror, -, hnever⟩ :=
    date_of_not_isNumeral c .iat " infinity " rfl (by decide +kernel)
  have hnan : ¬ IsNan (Text.trim " infinity ".toList) := by decide +kernel
  exact ⟨herror.2 hnan, (hnever hnan).1⟩

/-- **What is no number is a date.** A token that was issued at `NaN` is
valid, and is not due. -/
theorem valid_since_nan :
    let c : Claims := ⟨[("exp", .ofInt 1700003600), ("iat", .string "NaN")]⟩
    let now : Instant := ⟨1700000000, 0, by decide, by decide, by decide, by decide⟩
    ¬ IsNumeral (Text.trim "NaN".toList) ∧ c.date .iat = .ok (some .epoch)
      ∧ c.validate now = .ok () ∧ (⟨c⟩ : Judge).isDue now .zero = false := by
  decide +kernel

end CredentialRotation.Claims
