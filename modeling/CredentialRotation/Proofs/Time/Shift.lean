import CredentialRotation.Time.Instant

/-!
# Order and shifts of instants

Instants are ordered by second and then by nanosecond, so a leap second
comes after the second that it prolongs. A shift to later leaves a leap
second as if it had started in the second before it: `base` counts the
nanoseconds that way, and `add?_eq_some_iff` says where such a shift ends.
`Within` bounds how far one instant is past another by such a shift, and
`within_iff_since_le` compares it with the difference of the two.
-/

namespace CredentialRotation

namespace Instant

variable {t u v : Instant} {d : Span} {n : Int}

/-! ## The order -/

instance : Std.IsLinearOrder Instant where
  le_refl t := by rw [le_def]; omega
  le_trans t u v := by simp only [le_def]; omega
  le_antisymm t u := by
    rcases t with ⟨s, m⟩
    rcases u with ⟨s', m'⟩
    simp only [le_def, mk.injEq]
    omega
  le_total t u := by simp only [le_def]; omega

instance : Std.LawfulOrderLT Instant where
  lt_iff t u := by simp only [le_def, lt_def]; omega

theorem isLeap_eq_false_iff : t.isLeap = false ↔ t.nanos < 1000000000 := by
  simp [isLeap]

/-- Outside leap seconds the order is that of the nanoseconds. -/
theorem le_iff_total_le (ht : t.isLeap = false) (hu : u.isLeap = false) :
    t ≤ u ↔ t.total ≤ u.total := by
  rw [isLeap_eq_false_iff] at ht hu
  simp only [le_def, total, nanosPerSecond]
  omega

/-- And so is its strict part. -/
theorem lt_iff_total_lt (ht : t.isLeap = false) (hu : u.isLeap = false) :
    t < u ↔ t.total < u.total := by
  rw [isLeap_eq_false_iff] at ht hu
  simp only [lt_def, total, nanosPerSecond]
  omega

/-! ## Nanoseconds and instants -/

/-- The instant of a second and a nanosecond is the one that has them. -/
theorem ofParts?_eq_some_iff {s : Int} {m : Nat} :
    ofParts? s m = some t ↔ t.secs = s ∧ t.nanos = m := by
  rcases t with ⟨s', m', hs, hs', hm, hl⟩
  unfold ofParts?
  split
  · simp only [Option.some.injEq, mk.injEq]
    omega
  · next hout =>
    simp only [reduceCtorEq, false_iff]
    rintro ⟨rfl, rfl⟩
    exact hout ⟨⟨hs, hs'⟩, hm, hl⟩

/-- The instants of a count of nanoseconds are those outside leap seconds
that have it. -/
theorem ofTotal?_eq_some_iff : ofTotal? n = some t ↔ t.isLeap = false ∧ t.total = n := by
  rw [ofTotal?, ofParts?_eq_some_iff, isLeap_eq_false_iff]
  simp only [total, nanosPerSecond]
  omega

/-- Every count of nanoseconds of the calendar has an instant. -/
theorem exists_ofTotal? (hmin : minSecs * nanosPerSecond ≤ n)
    (hmax : n < (maxSecs + 1) * nanosPerSecond) : ∃ t, ofTotal? n = some t := by
  simp only [minSecs, maxSecs, nanosPerSecond] at hmin hmax
  refine ⟨⟨n / nanosPerSecond, (n % nanosPerSecond).toNat, ?_, ?_, ?_, Or.inl ?_⟩,
    ofParts?_eq_some_iff.2 ⟨rfl, rfl⟩⟩ <;>
  · simp only [minSecs, maxSecs, nanosPerSecond]
    omega

/-! ## Shifts to later -/

/-- Nanoseconds since the start of 1970, a leap second counted as the
second before it. -/
def base (t : Instant) : Int := t.secs * nanosPerSecond + (t.nanos % 1000000000 : Nat)

theorem base_eq_total (h : t.isLeap = false) : t.base = t.total := by
  rw [isLeap_eq_false_iff] at h
  simp only [base, total, Nat.mod_eq_of_lt h]

/-- **Where a shift to later ends.** It stays in a leap second that has
room for it, and counts nanoseconds otherwise. -/
theorem add?_eq_some_iff (hd : 0 ≤ d.nanos) :
    t.add? d = some v ↔
      (t.isLeap = true ∧ t.nanos + d.nanos < 2000000000 ∧ v.secs = t.secs
        ∧ v.nanos = t.nanos + d.nanos)
      ∨ ((t.isLeap = false ∨ 2000000000 ≤ t.nanos + d.nanos) ∧ v.isLeap = false
        ∧ v.total = t.base + d.nanos) := by
  have hs : d.wholeSeconds = d.nanos / 1000000000 := Int.tdiv_eq_ediv_of_nonneg hd
  have hf : d.fractionNanos = d.nanos % 1000000000 := Int.tmod_eq_emod_of_nonneg hd
  have := t.nanos_lt
  cases hl : t.isLeap with
  | false =>
    simp only [add?, hl, Bool.false_eq_true, if_false, ofTotal?_eq_some_iff, base_eq_total hl,
      false_and, false_or, true_or, true_and]
  | true =>
    have hge : 1000000000 ≤ t.nanos := by simpa [isLeap] using hl
    have hb : t.base = t.total - nanosPerSecond := by
      simp only [base, total, nanosPerSecond]
      omega
    simp only [add?, hl, if_true, hs, hf, Bool.true_eq_false, false_or, true_and]
    split
    · -- the shift is past the end of the leap second
      have hout : 2000000000 ≤ t.nanos + d.nanos := by omega
      rw [ofTotal?_eq_some_iff, hb, or_iff_right (fun h => absurd h.1 (by omega))]
      simp only [hout, true_and]
    · -- there is room: the fraction is the whole of the shift
      rw [if_neg (by omega), ofParts?_eq_some_iff]
      omega

/-- A shift to later that ends before the calendar does has an end. -/
theorem exists_add? (hd : 0 ≤ d.nanos)
    (h : t.base + d.nanos < (maxSecs + 1) * nanosPerSecond) : ∃ v, t.add? d = some v := by
  have := t.secs_ge
  by_cases hroom : t.isLeap = true ∧ t.nanos + d.nanos < 2000000000
  · have hge : 1000000000 ≤ t.nanos := by simpa [isLeap] using hroom.1
    have hend := t.leap_ends_minute.resolve_left (by omega)
    exact ⟨⟨t.secs, (t.nanos + d.nanos).toNat, t.secs_ge, t.secs_le, by omega, Or.inr hend⟩,
      (add?_eq_some_iff hd).2 (Or.inl ⟨hroom.1, hroom.2, rfl, by simp; omega⟩)⟩
  · obtain ⟨v, hv⟩ := exists_ofTotal? (n := t.base + d.nanos)
      (by simp only [base, nanosPerSecond]; omega) h
    obtain ⟨hvl, hvt⟩ := ofTotal?_eq_some_iff.1 hv
    refine ⟨v, (add?_eq_some_iff hd).2 (Or.inr ⟨?_, hvl, hvt⟩)⟩
    cases hl : t.isLeap with
    | false => exact Or.inl rfl
    | true => exact Or.inr (by simp only [hl, true_and] at hroom; omega)

/-- A shift to later ends later. -/
theorem lt_of_add? (hd : 0 < d.nanos) (h : t.add? d = some v) : t < v := by
  have := (add?_eq_some_iff (Int.le_of_lt hd)).1 h
  have := t.nanos_lt
  simp only [isLeap, decide_eq_true_eq, decide_eq_false_iff_not, total, base, nanosPerSecond]
    at *
  rw [lt_def]
  omega

/-- **No shift ends early.** In nanoseconds without a range, what has come
to the end of a shift is at least the shift past the start, which counts,
where it is a leap second, as the second before. -/
theorem base_add_le_total (h : t.add? d = some v) (hle : v ≤ u) :
    t.base + d.nanos ≤ u.total := by
  have hparts : 1000000000 * d.wholeSeconds + d.fractionNanos = d.nanos :=
    Int.mul_tdiv_add_tmod d.nanos 1000000000
  have htotal : t.base ≤ t.total := by
    simp only [base, total]
    omega
  -- outside a leap second the end counts in full, and whatever follows it counts more
  have hend : ∀ n, ofTotal? n = some v → n ≤ u.total := by
    intro n hn
    obtain ⟨hv, rfl⟩ := ofTotal?_eq_some_iff.1 hn
    rw [isLeap_eq_false_iff] at hv
    rw [le_def] at hle
    simp only [total, nanosPerSecond]
    omega
  simp only [add?] at h
  split at h
  · next hleap =>
    have hge : 1000000000 ≤ t.nanos := by simpa [isLeap] using hleap
    have hbase : t.base = t.total - nanosPerSecond := by
      have := t.nanos_lt
      simp only [base, total, nanosPerSecond]
      omega
    split at h
    · rw [hbase]
      exact hend _ h
    · split at h
      · exact Int.le_trans (Int.add_le_add_right htotal _) (hend _ h)
      · -- the shift stays in the leap second, or goes back within it
        obtain ⟨hsecs, hnanos⟩ := ofParts?_eq_some_iff.1 h
        have := v.nanos_lt
        rw [le_def] at hle
        simp only [hbase, total, nanosPerSecond]
        omega
  · exact Int.le_trans (Int.add_le_add_right htotal _) (hend _ h)

/-! ## Reach -/

/-- `u` is at most `n` nanoseconds past `t`: not after the instant that a
shift of `t` by so many ends at. Where the shift ends after the calendar
does, every instant is in reach. -/
def Within (t : Instant) (n : Int) (u : Instant) : Prop :=
  ∀ d : Span, d.nanos = n → ∀ v, t.add? d = some v → u ≤ v

/-- The difference of two instants outside leap seconds is that of their
nanoseconds. -/
theorem nanos_since (ht : t.isLeap = false) (hu : u.isLeap = false) :
    (u.since t).nanos = u.total - t.total := by
  simp only [since, leapBetween, ht, hu, total, nanosPerSecond, Bool.false_eq_true, and_false,
    if_false]
  omega

/-- **Outside leap seconds reach is difference.** -/
theorem within_iff_since_le (hn : 0 ≤ n) (ht : t.isLeap = false) (hu : u.isLeap = false) :
    t.Within n u ↔ (u.since t).nanos ≤ n := by
  have hb := base_eq_total ht
  have hbound := (u.since t).le_max
  rw [nanos_since ht hu] at hbound ⊢
  constructor
  · intro h
    by_cases hspan : n ≤ Span.maxNanos
    · have hd : 0 ≤ (⟨n, by omega, hspan⟩ : Span).nanos := hn
      by_cases hmax : t.base + n < (maxSecs + 1) * nanosPerSecond
      · obtain ⟨v, hv⟩ := exists_add? hd hmax
        have hle := h _ rfl v hv
        rcases (add?_eq_some_iff hd).1 hv with ⟨hl, -⟩ | ⟨-, hvl, hvt⟩
        · rw [ht] at hl
          cases hl
        · rw [le_iff_total_le hu hvl] at hle
          dsimp only at hvt
          omega
      · -- the calendar ends before the shift does
        rw [isLeap_eq_false_iff] at hu
        have := u.secs_le
        simp only [total, nanosPerSecond] at *
        omega
    · -- no span is that long
      omega
  · rintro h d rfl v hv
    rcases (add?_eq_some_iff hn).1 hv with ⟨hl, -⟩ | ⟨-, hvl, hvt⟩
    · rw [ht] at hl
      cases hl
    · rw [le_iff_total_le hu hvl]
      omega

/-- **Two spans that make up a third, one after the other.** From an
instant before `c` shifted by `short`, what is left of `long` does not
reach the end of `c` shifted by `long`. -/
theorem lt_of_within {c now next e : Instant} {short long : Span} (h₁ : 0 ≤ short.nanos)
    (h₂ : short.nanos ≤ long.nanos) (hc : c ≤ now) (he : c.add? long = some e)
    (hnow : ∀ v, c.add? short = some v → now < v)
    (hnext : now.Within (long.nanos - short.nanos) next) : next < e := by
  have hlong : 0 ≤ long.nanos := by omega
  have hend := (add?_eq_some_iff hlong).1 he
  have hemax := e.secs_le
  have hcmax := c.secs_le
  have hcnanos := c.nanos_lt
  simp only [isLeap, decide_eq_true_eq, decide_eq_false_iff_not, total, base, nanosPerSecond]
    at hend
  -- the short shift ends in the calendar because the long one does
  obtain ⟨v, hv⟩ : ∃ v, c.add? short = some v := by
    refine exists_add? h₁ ?_
    simp only [base, nanosPerSecond]
    omega
  have hlt := hnow v hv
  have hfirst := (add?_eq_some_iff h₁).1 hv
  have hvmax := v.secs_le
  have hnownanos := now.nanos_lt
  simp only [isLeap, decide_eq_true_eq, decide_eq_false_iff_not, total, base, nanosPerSecond]
    at hfirst
  rw [lt_def] at hlt
  rw [le_def] at hc
  -- and so does the rest of it, which starts before the short one has ended
  have hmin := long.ge_min
  have hmax := long.le_max
  let rest : Span := ⟨long.nanos - short.nanos, by omega, by omega⟩
  have hrest : rest.nanos = long.nanos - short.nanos := rfl
  have h₃ : 0 ≤ rest.nanos := by omega
  obtain ⟨w, hw⟩ : ∃ w, now.add? rest = some w := by
    refine exists_add? h₃ ?_
    simp only [base, nanosPerSecond]
    omega
  have hsecond := (add?_eq_some_iff h₃).1 hw
  simp only [isLeap, decide_eq_true_eq, decide_eq_false_iff_not, total, base, nanosPerSecond]
    at hsecond
  refine Std.lt_of_le_of_lt (hnext rest hrest w hw) ?_
  rw [lt_def]
  omega

end Instant

end CredentialRotation
