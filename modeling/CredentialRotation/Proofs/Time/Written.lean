import CredentialRotation.Time.Rfc3339
import CredentialRotation.Proofs.Number.Decimal
import CredentialRotation.Proofs.Time.Calendar
import CredentialRotation.Proofs.Time.Shift

/-!
# Instants as they are written

The text of an instant denotes that instant and no other, whatever its
year, in a leap second or not, and to the nanosecond. Each field is a run
of digits that something other than a digit ends, so it is read as it was
written; what is left is that the date and the time of day make up the
second they were taken from (`ofFields?_dateOfDay`).
-/

namespace CredentialRotation.Instant

open Number

variable {c : Char} {ds r : List Char} {most width n : Nat} {layout : Layout}

/-! ## Runs of digits -/

/-- A text that does not start with a digit. -/
def NoDigit (r : List Char) : Prop := ∀ c, r.head? = some c → c.isDigit = false

theorem noDigit_cons (h : c.isDigit = false) : NoDigit (c :: r) := by
  rintro d ⟨⟩
  exact h

theorem NoDigit.take (h : NoDigit r) (k : Nat) : NoDigit (r.take k) := by
  intro c hc
  rw [List.head?_take] at hc
  split at hc
  · cases hc
  · exact h c hc

theorem takeWhile_isDigit (hds : ∀ c ∈ ds, c.isDigit = true) (hr : NoDigit r) :
    (ds ++ r).takeWhile Char.isDigit = ds := by
  rw [List.takeWhile_append_of_pos hds]
  cases r with
  | nil => exact List.append_nil _
  | cons c r =>
    rw [List.takeWhile_cons_of_neg (by rw [hr c rfl]; exact Bool.false_ne_true), List.append_nil]

theorem dropWhile_isDigit (hds : ∀ c ∈ ds, c.isDigit = true) (hr : NoDigit r) :
    (ds ++ r).dropWhile Char.isDigit = r := by
  rw [List.dropWhile_append_of_pos hds]
  cases r with
  | nil => rfl
  | cons c r => rw [List.dropWhile_cons_of_neg (by rw [hr c rfl]; exact Bool.false_ne_true)]

/-- **A run of digits is read to its end.** -/
theorem digits?_append (hds : ∀ c ∈ ds, c.isDigit = true) (hne : ds ≠ []) (hlen : ds.length ≤ most)
    (hr : NoDigit r) : digits? most (ds ++ r) = some (Numeral.run ds, r) := by
  have htake : ((ds ++ r).take most).takeWhile Char.isDigit = ds := by
    rw [List.take_append, List.take_of_length_le hlen]
    exact takeWhile_isDigit hds (hr.take _)
  rw [digits?, htake, List.isEmpty_eq_false_iff.2 hne, List.drop_left]
  rfl

/-! ## Blanks -/

theorem isBlank_of_isDigit (h : c.isDigit = true) : Text.isBlank c = false := by
  have hc : 48 ≤ c.toNat ∧ c.toNat ≤ 57 := by
    simpa [Char.isDigit, UInt32.le_iff_toNat_le] using h
  unfold Text.isBlank
  simp only [Bool.or_eq_false_iff, Bool.and_eq_false_imp, decide_eq_true_eq,
    decide_eq_false_iff_not]
  omega

theorem trimStart_cons (h : Text.isBlank c = false) : Text.trimStart (c :: r) = c :: r := by
  rw [Text.trimStart, List.dropWhile_cons_of_neg (by rw [h]; exact Bool.false_ne_true)]

theorem mark?_cons (h : Text.isBlank c = false) : mark? c (c :: r) = some r := by
  rw [mark?, trimStart_cons h]
  exact if_pos rfl

theorem trimStart_decimalPadded : Text.trimStart (decimalPadded width n ++ r)
    = decimalPadded width n ++ r := by
  obtain ⟨c, cs, hds, hc⟩ := exists_decimalPadded_eq_cons width n
  rw [hds, List.cons_append, trimStart_cons (isBlank_of_isDigit hc)]

/-! ## Fields -/

theorem digits?_decimalPadded (hlen : (decimalPadded width n).length ≤ most) (hr : NoDigit r) :
    digits? most (decimalPadded width n ++ r) = some (n, r) := by
  rw [digits?_append (fun _ => isDigit_of_mem_decimalPadded) (decimalPadded_ne_nil _ _) hlen hr,
    run_decimalPadded]

/-- Two digits are read as the number they were. -/
theorem field?_decimalPadded (hn : n < 100) (hr : NoDigit r) :
    field? (decimalPadded 2 n ++ r) = some (n, r) := by
  rw [field?, trimStart_decimalPadded]
  exact digits?_decimalPadded (Nat.le_of_eq (length_decimalPadded (by decide) hn)) hr

/-- **A year is read as it was**, with a sign or without. -/
theorem year?_yearText (y : Int) (hr : NoDigit r) : year? (yearText y ++ r) = some (y, r) := by
  have hall {n : Nat} : (decimalPadded 4 n).length ≤ (decimalPadded 4 n ++ r).length := by
    rw [List.length_append]
    exact Nat.le_add_right _ _
  unfold yearText
  split
  · next hy =>
    have hlen : (decimalPadded 4 y.toNat).length ≤ 4 :=
      Nat.le_of_eq (length_decimalPadded (by decide) (by omega))
    have hread := digits?_decimalPadded hlen hr
    obtain ⟨c, cs, hds, hc⟩ := exists_decimalPadded_eq_cons 4 y.toNat
    rw [year?, trimStart_decimalPadded]
    rw [hds, List.cons_append] at hread ⊢
    -- a digit is no sign
    split
    · next heq => exact absurd hc (by rw [(List.cons.inj heq).1]; decide)
    · next heq => exact absurd hc (by rw [(List.cons.inj heq).1]; decide)
    · simp only [hread, Option.map_some, Int.toNat_of_nonneg hy.1]
  · next hy =>
    by_cases hneg : y < 0
    · have habs : -(y.natAbs : Int) = y := by omega
      rw [if_pos hneg, List.cons_append, year?, trimStart_cons rfl]
      simp only [digits?_decimalPadded hall hr, Option.map_some, habs]
    · have habs : (y.natAbs : Int) = y := by omega
      rw [if_neg hneg, List.cons_append, year?, trimStart_cons rfl]
      simp only [digits?_decimalPadded hall hr, Option.map_some, habs]

/-- A fraction of so many digits. -/
theorem fraction?_dot (hw : 0 < width) (hw' : width ≤ 9) (hn : n < 10 ^ width) (hr : NoDigit r) :
    fraction? ('.' :: decimalPadded width n ++ r) = some (n * 10 ^ (9 - width), r) := by
  have hlen := length_decimalPadded hw hn
  have hds : ∀ c ∈ decimalPadded width n, c.isDigit = true :=
    fun _ => isDigit_of_mem_decimalPadded
  have hnine : (decimalPadded width n).take 9 = decimalPadded width n :=
    List.take_of_length_le (by omega)
  have hrun := run_decimalPadded width n
  rw [Numeral.run] at hrun
  rw [List.cons_append, fraction?]
  simp only [takeWhile_isDigit hds hr, dropWhile_isDigit hds hr, hnine, hlen, hrun,
    List.isEmpty_eq_false_iff.2 (decimalPadded_ne_nil width n)]
  rfl

/-- **A fraction is read to the nanosecond.** -/
theorem fraction?_fractionText (hn : n < 1000000000) (hr : NoDigit r) (hdot : r.head? ≠ some '.') :
    fraction? (fractionText n ++ r) = some (n, r) := by
  unfold fractionText
  split
  · next hzero =>
    rw [hzero, List.nil_append]
    unfold fraction?
    split
    · exact absurd rfl hdot
    · rfl
  · split
    · next hmod =>
      have heq : n / 1000000 * 10 ^ (9 - 3) = n := by omega
      rw [fraction?_dot (by decide) (by decide) (by omega) hr, heq]
    · split
      · next hmod =>
        have heq : n / 1000 * 10 ^ (9 - 6) = n := by omega
        rw [fraction?_dot (by decide) (by decide) (by omega) hr, heq]
      · have heq : n * 10 ^ (9 - 9) = n := by omega
        rw [fraction?_dot (by decide) (by decide) (by omega) hr, heq]

/-! ## Layouts -/

/-- A layout whose texts can be read. -/
structure Layout.IsReadable (layout : Layout) : Prop where
  separator : layout.separator = 'T' ∨ layout.separator = ' '
  noDigit : NoDigit layout.suffix.toList
  noDot : layout.suffix.toList.head? ≠ some '.'
  offset : offset? (Text.trimStart layout.suffix.toList) = some (0, [])

theorem isReadable_documentLayout : documentLayout.IsReadable :=
  ⟨.inl rfl, noDigit_cons rfl, by decide, by decide⟩

/-! ## Instants -/

/-- The fields of a text are read as they were written. -/
theorem read?_fields (h : layout.IsReadable) {y : Int} {month day hour minute second nanos : Nat}
    (hmonth : month < 100) (hday : day < 100) (hhour : hour < 100) (hminute : minute < 100)
    (hsecond : second < 100) (hnanos : nanos < 1000000000) :
    read? (yearText y ++ '-' :: decimalPadded 2 month ++ '-' :: decimalPadded 2 day
        ++ layout.separator :: decimalPadded 2 hour ++ ':' :: decimalPadded 2 minute
        ++ ':' :: decimalPadded 2 second ++ fractionText nanos ++ layout.suffix.toList)
      = ofFields? ⟨y, month, day⟩ hour minute second nanos 0 := by
  have hdash : ∀ r, NoDigit ('-' :: r) := fun _ => noDigit_cons rfl
  have hdash' : ∀ r, mark? '-' ('-' :: r) = some r := fun _ => mark?_cons rfl
  have hcolon : ∀ r, NoDigit (':' :: r) := fun _ => noDigit_cons rfl
  have hcolon' : ∀ r, mark? ':' (':' :: r) = some r := fun _ => mark?_cons rfl
  have hseparator : ∀ r, NoDigit (layout.separator :: r) := by
    intro r
    rcases h.separator with hsep | hsep <;> rw [hsep] <;> exact noDigit_cons rfl
  -- a fraction starts with a point, and where there is none the suffix follows
  have hfraction : NoDigit (fractionText nanos ++ layout.suffix.toList) := by
    unfold fractionText
    split
    · exact h.noDigit
    · split
      · exact noDigit_cons rfl
      · split <;> exact noDigit_cons rfl
  simp only [List.append_assoc, List.cons_append]
  rw [read?, year?_yearText y (hdash _)]
  simp only [Option.bind_eq_bind, Option.bind_some, hdash', field?_decimalPadded hmonth (hdash _),
    field?_decimalPadded hday (hseparator _)]
  rcases h.separator with hsep | hsep <;> rw [hsep] <;>
  · simp only [Option.bind_some, hcolon', field?_decimalPadded hhour (hcolon _),
      field?_decimalPadded hminute (hcolon _), field?_decimalPadded hsecond hfraction,
      fraction?_fractionText hnanos h.noDigit h.noDot, h.offset]
    rfl

variable (t : Instant)

/-- The date of a day and a time of it make up the second they were taken
from. -/
theorem ofFields?_dateOfDay {hour minute second nanos : Nat}
    (htime : (hour * 3600 + minute * 60 + min second 59 : Nat) = t.secs % 86400)
    (hhour : hour ≤ 23) (hminute : minute ≤ 59) (hsecond : second ≤ 60)
    (hnanos : t.nanos = if second = 60 then nanos + 1000000000 else nanos) :
    ofFields? (Calendar.dateOfDay (t.secs / 86400)) hour minute second nanos 0 = some t := by
  have hge := t.secs_ge
  have hle := t.secs_le
  have hyear : Calendar.minYear ≤ (Calendar.dateOfDay (t.secs / 86400)).year
      ∧ (Calendar.dateOfDay (t.secs / 86400)).year ≤ Calendar.maxYear :=
    Calendar.year_dateOfDay_bounds (Int.ediv_le_ediv (by decide) hge)
      (Int.ediv_le_ediv (by decide) hle)
  rw [ofFields?, if_pos ⟨Calendar.isValid_dateOfDay _, hyear.1, hyear.2, hhour, hminute, hsecond,
    by decide, by decide⟩, Calendar.dayOfDate_dateOfDay]
  dsimp only
  split
  · next hsixty =>
    rw [if_pos hsixty] at hnanos
    exact ofParts?_eq_some_iff.2 ⟨by omega, hnanos⟩
  · next hsixty =>
    rw [if_neg hsixty] at hnanos
    exact ofParts?_eq_some_iff.2 ⟨by omega, hnanos⟩

/-- **An instant is read back from its text.** -/
theorem read?_render (h : layout.IsReadable) : read? (t.render layout) = some t := by
  obtain ⟨-, hmonth, -, hday⟩ :=
    Calendar.Date.isValid_iff.1 (Calendar.isValid_dateOfDay (t.secs / 86400))
  have hdays := Calendar.daysInMonth_le (Calendar.dateOfDay (t.secs / 86400)).year
    (Calendar.dateOfDay (t.secs / 86400)).month
  have hlt := t.nanos_lt
  unfold render
  cases hleap : t.isLeap with
  | false =>
    rw [isLeap_eq_false_iff] at hleap
    refine (read?_fields h (by omega) (by omega) (by omega) (by omega) (by omega) hleap).trans ?_
    exact ofFields?_dateOfDay t (by omega) (by omega) (by omega) (by omega)
      (if_neg (by omega)).symm
  | true =>
    have hge : 1000000000 ≤ t.nanos := by simpa [isLeap] using hleap
    have hends := t.leap_ends_minute
    refine (read?_fields h (by omega) (by omega) (by omega) (by omega) (by omega) (by omega)).trans
      ?_
    exact ofFields?_dateOfDay t (by omega) (by omega) (by omega) (by omega) (by
      rw [if_pos (by omega)]
      omega)

theorem ofText?_text : ofText? t.text = some t := by
  rw [ofText?, text, String.toList_ofList, read?_render t isReadable_documentLayout]

end CredentialRotation.Instant
