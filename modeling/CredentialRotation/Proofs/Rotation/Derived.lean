import CredentialRotation.Proofs.Rotation.Published
import CredentialRotation.Proofs.Time.Ends

/-!
# Derived statuses

A status publishes the dates of a credential in whole seconds, and a
window worked out from what it publishes. A date is cut by way of its
nanoseconds since 1970, as an integer of sixty-four bits. Near 1970 that
makes it the start of its second; a date for which the integer does not
suffice stays as it is, fraction and all (`isFloor_floorSecond_iff`).

The window needs no whole seconds. It is there for a life that has a third
of at least a nanosecond, and lies within that life and so within the
calendar (`exists_opens`). For dates in whole seconds that means that the
one is before the other.
-/

namespace CredentialRotation

/-- A third is not more than the third. -/
theorem Span.three_mul_third_le {d : Span} (hd : 0 ≤ d.nanos) : 3 * d.third.nanos ≤ d.nanos := by
  have hseconds : 0 ≤ d.nanos / 1000000000 * 1000000000 := by omega
  simp only [third, floorSeconds, floorNanos, nanosPerSecond, Int.tdiv_eq_ediv_of_nonneg hseconds]
  omega

namespace Instant

variable {t u issued expires : Instant}

/-! ## Whole seconds -/

/-- `u` is `t` rounded down to a whole second. -/
def IsFloor (u t : Instant) : Prop := u.secs = t.secs ∧ u.nanos = 0

/-- Near enough to 1970 for its nanoseconds to be an integer of sixty-four
bits. -/
def IsNear (t : Instant) : Prop := Number.int64Min ≤ t.total ∧ t.total ≤ Number.int64Max

instance (u t : Instant) : Decidable (u.IsFloor t) :=
  inferInstanceAs (Decidable (u.secs = t.secs ∧ u.nanos = 0))

theorem floorSecond_of_not_isNear (h : ¬t.IsNear) : t.floorSecond = t := if_neg h

theorem isFloor_floorSecond_of_isNear (ht : t.isLeap = false) (h : t.IsNear) :
    t.floorSecond.IsFloor t := by
  rw [IsNear] at h
  rw [floorSecond, if_pos h]
  exact ⟨rfl, if_neg (by rw [ht]; exact Bool.false_ne_true)⟩

/-- **Which dates are cut**: those near 1970, and those that need not
be. -/
theorem isFloor_floorSecond_iff (ht : t.isLeap = false) :
    t.floorSecond.IsFloor t ↔ t.IsNear ∨ t.nanos = 0 := by
  by_cases hnear : t.IsNear
  · simp only [isFloor_floorSecond_of_isNear ht hnear, hnear, true_or]
  · simp only [floorSecond_of_not_isNear hnear, hnear, false_or, IsFloor, true_and]

theorem isLeap_floorSecond (ht : t.isLeap = false) : t.floorSecond.isLeap = false := by
  by_cases hnear : t.IsNear
  · rw [isLeap_eq_false_iff, (isFloor_floorSecond_of_isNear ht hnear).2]
    decide
  · rw [floorSecond_of_not_isNear hnear, ht]

/-- A date that has been cut is not cut again. -/
theorem floorSecond_floorSecond (ht : t.isLeap = false) :
    t.floorSecond.floorSecond = t.floorSecond := by
  by_cases hnear : t.IsNear
  · exact floorSecond_of_nanos (isFloor_floorSecond_of_isNear ht hnear).2
  · rw [floorSecond_of_not_isNear hnear, floorSecond_of_not_isNear hnear]

/-! ## Windows -/

/-- A window has a length for a life of three nanoseconds or more. -/
theorem isPositive_rotationWindow_iff (hi : issued.isLeap = false) (he : expires.isLeap = false) :
    (rotationWindow issued expires).isPositive = true ↔ issued.total + 3 ≤ expires.total := by
  rw [rotationWindow, Span.isPositive_third_iff, nanos_since hi he]
  omega

/-- In whole seconds three nanoseconds are no more than one. -/
theorem total_add_three_le_iff (hi : issued.nanos = 0) (he : expires.nanos = 0) :
    issued.total + 3 ≤ expires.total ↔ issued < expires := by
  simp only [lt_def, total, hi, he, nanosPerSecond]
  omega

/-- **A window opens within the life** that it is the third of, and ends
with it. -/
theorem exists_opens (hi : issued.isLeap = false) (he : expires.isLeap = false)
    (h : issued.total + 3 ≤ expires.total) :
    ∃ opens, expires.sub? (rotationWindow issued expires) = some opens
      ∧ issued < opens ∧ opens < expires
      ∧ opens.add? (rotationWindow issued expires) = some expires := by
  have hlife := nanos_since hi he
  have hpos : 0 < (rotationWindow issued expires).nanos :=
    of_decide_eq_true ((isPositive_rotationWindow_iff hi he).2 h)
  have hthird : 3 * (rotationWindow issued expires).nanos ≤ expires.total - issued.total := by
    rw [← hlife]
    exact Span.three_mul_third_le (by omega)
  have hfirst := firstTotal_le_total (t := issued)
  have hend := total_lt_endTotal he
  obtain ⟨opens, hopens⟩ := exists_ofTotal?
    (n := expires.total - (rotationWindow issued expires).nanos)
    (by rw [← firstTotal]; omega) (by rw [← endTotal]; omega)
  obtain ⟨hleap, htotal⟩ := ofTotal?_eq_some_iff.1 hopens
  refine ⟨opens, by rw [sub?_eq_ofTotal? he, hopens], ?_, ?_, ?_⟩
  · rw [lt_iff_total_lt hi hleap]
    omega
  · rw [lt_iff_total_lt hleap he]
    omega
  · rw [add?_eq_ofTotal? hleap, ofTotal?_eq_some_iff]
    exact ⟨he, by omega⟩

end Instant

namespace RotationStatus

variable {issuer : Option String} {issuedAt expiresAt : Option Instant}
variable {issued expires opens : Instant} {d : Span}

/-! ## What is derived -/

/-- The window of two dates that are published, if they have one. -/
def window? (issuedAt expiresAt : Option Instant) : Option Span :=
  issuedAt.bind fun issued => expiresAt.bind fun expires =>
    if (rotationWindow issued expires).isPositive then some (rotationWindow issued expires)
    else none

/-- **A derived status**, field by field. -/
theorem derive_eq : derive issuer issuedAt expiresAt =
    { issuer := issuer
      issuedAt := issuedAt.map Instant.floorSecond
      expiresAt := expiresAt.map Instant.floorSecond
      rotationNotBefore :=
        (window? (issuedAt.map Instant.floorSecond) (expiresAt.map Instant.floorSecond)).bind
          fun d => (expiresAt.map Instant.floorSecond).bind fun expires => expires.sub? d
      rotationDuration :=
        window? (issuedAt.map Instant.floorSecond) (expiresAt.map Instant.floorSecond) } := by
  cases issuedAt with
  | none => rfl
  | some issued =>
    cases expiresAt with
    | none => rfl
    | some expires =>
      simp only [derive, ofLife, window?, Option.map_some, Option.bind_some]
      split <;> rfl

theorem window?_eq_some_iff : window? issuedAt expiresAt = some d ↔
    ∃ issued expires, issuedAt = some issued ∧ expiresAt = some expires
      ∧ (rotationWindow issued expires).isPositive = true
      ∧ rotationWindow issued expires = d := by
  simp [window?, Option.bind_eq_some_iff]

/-- Deriving again changes nothing. -/
theorem derive_derive (hi : ∀ t, issuedAt = some t → t.isLeap = false)
    (he : ∀ t, expiresAt = some t → t.isLeap = false) :
    derive issuer (issuedAt.map Instant.floorSecond) (expiresAt.map Instant.floorSecond)
      = derive issuer issuedAt expiresAt := by
  have hcut : ∀ date : Option Instant, (∀ t, date = some t → t.isLeap = false) →
      (date.map Instant.floorSecond).map Instant.floorSecond = date.map Instant.floorSecond := by
    intro date hdate
    cases date with
    | none => rfl
    | some t => rw [Option.map_some, Option.map_some, Instant.floorSecond_floorSecond (hdate t rfl)]
  rw [derive_eq, derive_eq, hcut _ hi, hcut _ he]

/-- Where a window is published, and which. -/
theorem rotationDuration_derive : (derive issuer issuedAt expiresAt).rotationDuration = some d ↔
    ∃ issued expires, issuedAt.map Instant.floorSecond = some issued
      ∧ expiresAt.map Instant.floorSecond = some expires
      ∧ (rotationWindow issued expires).isPositive = true
      ∧ rotationWindow issued expires = d := by
  rw [derive_eq, window?_eq_some_iff]

/-- What is published about its opening: nothing without a window. -/
theorem rotationNotBefore_derive : (derive issuer issuedAt expiresAt).rotationNotBefore =
    (derive issuer issuedAt expiresAt).rotationDuration.bind fun d =>
      (expiresAt.map Instant.floorSecond).bind fun expires => expires.sub? d := by
  rw [derive_eq]

/-- Published dates are outside leap seconds. -/
theorem isLeap_of_published (ht : ∀ t, issuedAt = some t → t.isLeap = false)
    (h : issuedAt.map Instant.floorSecond = some issued) : issued.isLeap = false := by
  obtain ⟨t, hsome, rfl⟩ := Option.map_eq_some_iff.1 h
  exact Instant.isLeap_floorSecond (ht t hsome)

section

variable (hi : ∀ t, issuedAt = some t → t.isLeap = false)
variable (he : ∀ t, expiresAt = some t → t.isLeap = false)

include hi he

/-- **A window is published** for two dates that are three nanoseconds
apart. -/
theorem isSome_rotationDuration_iff :
    (derive issuer issuedAt expiresAt).rotationDuration.isSome = true ↔
      ∃ issued expires, issuedAt.map Instant.floorSecond = some issued
        ∧ expiresAt.map Instant.floorSecond = some expires
        ∧ issued.total + 3 ≤ expires.total := by
  simp only [Option.isSome_iff_exists, rotationDuration_derive]
  constructor
  · rintro ⟨d, issued, expires, hissued, hexpires, hpos, rfl⟩
    exact ⟨issued, expires, hissued, hexpires, (Instant.isPositive_rotationWindow_iff
      (isLeap_of_published hi hissued) (isLeap_of_published he hexpires)).1 hpos⟩
  · rintro ⟨issued, expires, hissued, hexpires, hlife⟩
    exact ⟨_, issued, expires, hissued, hexpires, (Instant.isPositive_rotationWindow_iff
      (isLeap_of_published hi hissued) (isLeap_of_published he hexpires)).2 hlife, rfl⟩

/-- **It is published with its opening**, which lies within the life. -/
theorem exists_rotationNotBefore (hissued : issuedAt.map Instant.floorSecond = some issued)
    (hexpires : expiresAt.map Instant.floorSecond = some expires)
    (hd : (derive issuer issuedAt expiresAt).rotationDuration = some d) :
    ∃ opens, (derive issuer issuedAt expiresAt).rotationNotBefore = some opens
      ∧ issued < opens ∧ opens < expires ∧ opens.add? d = some expires := by
  rw [rotationNotBefore_derive, hd, hexpires, Option.bind_some, Option.bind_some]
  obtain ⟨issued', expires', hissued', hexpires', hpos, rfl⟩ := rotationDuration_derive.1 hd
  obtain rfl := Option.some.inj (hissued.symm.trans hissued')
  obtain rfl := Option.some.inj (hexpires.symm.trans hexpires')
  have hil := isLeap_of_published hi hissued
  have hel := isLeap_of_published he hexpires
  exact Instant.exists_opens hil hel ((Instant.isPositive_rotationWindow_iff hil hel).1 hpos)

/-- So the two are published together. -/
theorem isSome_rotationNotBefore :
    (derive issuer issuedAt expiresAt).rotationNotBefore.isSome =
      (derive issuer issuedAt expiresAt).rotationDuration.isSome := by
  cases hd : (derive issuer issuedAt expiresAt).rotationDuration with
  | none =>
    rw [rotationNotBefore_derive, hd, Option.bind_none]
    rfl
  | some d =>
    obtain ⟨issued, expires, hissued, hexpires, -, -⟩ := rotationDuration_derive.1 hd
    obtain ⟨opens, hopens, -⟩ := exists_rotationNotBefore hi he hissued hexpires hd
    rw [hopens, Option.isSome_some, Option.isSome_some]

end

/-- **What a derived status says.** For every two dates outside leap seconds
there is a status. It publishes the dates as the starts of their seconds,
if they are near 1970 or are such starts, and else as they are. A window
and the instant that it opens are published together, and just if both
dates are and are at least three nanoseconds apart, which for starts of
seconds means that the one is before the other. The window then opens
within the life and ends with it. Deriving the status again from what it
publishes changes nothing. -/
theorem derived_status (issuer : Option String) (issuedAt expiresAt : Option Instant)
    (hi : ∀ t, issuedAt = some t → t.isLeap = false)
    (he : ∀ t, expiresAt = some t → t.isLeap = false) :
    let s := derive issuer issuedAt expiresAt
    (s.issuer = issuer ∧ s.issuedAt = issuedAt.map Instant.floorSecond
        ∧ s.expiresAt = expiresAt.map Instant.floorSecond)
      ∧ (∀ t : Instant, t.isLeap = false → (t.floorSecond.IsFloor t ↔ t.IsNear ∨ t.nanos = 0)
          ∧ (¬t.IsNear → t.floorSecond = t))
      ∧ s.rotationDuration.isSome = s.rotationNotBefore.isSome
      ∧ (s.rotationDuration.isSome = true ↔ ∃ issued expires, s.issuedAt = some issued
          ∧ s.expiresAt = some expires ∧ issued.total + 3 ≤ expires.total)
      ∧ (∀ issued expires, s.issuedAt = some issued → s.expiresAt = some expires →
          issued.nanos = 0 → expires.nanos = 0 →
            (s.rotationDuration.isSome = true ↔ issued < expires))
      ∧ (∀ issued expires d, s.issuedAt = some issued → s.expiresAt = some expires →
          s.rotationDuration = some d → ∃ opens, s.rotationNotBefore = some opens
            ∧ issued < opens ∧ opens < expires ∧ opens.add? d = some expires)
      ∧ derive s.issuer s.issuedAt s.expiresAt = s := by
  intro s
  have hissuedAt : s.issuedAt = issuedAt.map Instant.floorSecond :=
    congrArg RotationStatus.issuedAt derive_eq
  have hexpiresAt : s.expiresAt = expiresAt.map Instant.floorSecond :=
    congrArg RotationStatus.expiresAt derive_eq
  have hissuer : s.issuer = issuer := congrArg RotationStatus.issuer derive_eq
  rw [hissuer, hissuedAt, hexpiresAt]
  refine ⟨⟨rfl, rfl, rfl⟩, fun t ht => ⟨Instant.isFloor_floorSecond_iff ht,
    Instant.floorSecond_of_not_isNear⟩, (isSome_rotationNotBefore hi he).symm,
    isSome_rotationDuration_iff hi he, ?_,
    fun issued expires d => exists_rotationNotBefore hi he, derive_derive hi he⟩
  intro issued expires hissued hexpires hi₀ he₀
  rw [isSome_rotationDuration_iff hi he, ← Instant.total_add_three_le_iff hi₀ he₀, hissued,
    hexpires]
  simp

/-- At work: of two dates in the year 3000 that are three nanoseconds apart
the fractions are published, and a window of one nanosecond. -/
theorem derived_status_three_nanoseconds :
    let issued : Instant := ⟨32503680000, 999999998, by decide, by decide, by decide, by decide⟩
    let opens : Instant := ⟨32503680001, 0, by decide, by decide, by decide, by decide⟩
    let expires : Instant := ⟨32503680001, 1, by decide, by decide, by decide, by decide⟩
    let d : Span := ⟨1, by decide, by decide⟩
    let s := derive none (some issued) (some expires)
    (∀ t, some issued = some t → t.isLeap = false)
      ∧ (∀ t, some expires = some t → t.isLeap = false)
      ∧ s.issuedAt = some issued ∧ s.expiresAt = some expires
      ∧ s.rotationDuration = some d ∧ s.rotationNotBefore = some opens
      ∧ opens.add? d = some expires ∧ derive s.issuer s.issuedAt s.expiresAt = s := by
  intro issued opens expires d s
  have hi : ∀ t, some issued = some t → t.isLeap = false := by
    intro t ht
    obtain rfl := Option.some.inj ht
    decide
  have he : ∀ t, some expires = some t → t.isLeap = false := by
    intro t ht
    obtain rfl := Option.some.inj ht
    decide
  have hissued : s.issuedAt = some issued := by decide +kernel
  have hexpires : s.expiresAt = some expires := by decide +kernel
  have hd : s.rotationDuration = some d := by decide +kernel
  obtain ⟨-, -, -, -, -, hopens, hagain⟩ := derived_status none (some issued) (some expires) hi he
  obtain ⟨opens', hopens', -, -, hend⟩ := hopens issued expires d hissued hexpires hd
  have hnotBefore : s.rotationNotBefore = some opens := by decide +kernel
  obtain rfl := Option.some.inj (hopens'.symm.trans hnotBefore)
  exact ⟨hi, he, hissued, hexpires, hd, hnotBefore, hend, hagain⟩

/-- In the year 3000 dates are published with their fractions, and of two
dates in one second and the next there is no window if they are a
nanosecond apart. -/
theorem derived_uncut :
    (¬ ∀ (issuer : Option String) (issuedAt expiresAt : Option Instant) (t u : Instant),
        issuedAt = some t → t.isLeap = false →
          (derive issuer issuedAt expiresAt).issuedAt = some u → u.IsFloor t)
      ∧ ¬ ∀ (issuer : Option String) (issued expires u v : Instant), issued.isLeap = false →
          expires.isLeap = false → u.IsFloor issued → v.IsFloor expires →
            ((derive issuer (some issued) (some expires)).rotationDuration.isSome = true ↔
              u < v) := by
  let issued : Instant := ⟨32503680000, 999999999, by decide, by decide, by decide, by decide⟩
  let expires : Instant := ⟨32503680001, 0, by decide, by decide, by decide, by decide⟩
  constructor
  · intro hall
    exact absurd (hall none (some issued) none issued issued rfl (by decide) (by decide +kernel))
      (by decide)
  · intro hall
    let u : Instant := ⟨32503680000, 0, by decide, by decide, by decide, by decide⟩
    exact absurd ((hall none issued expires u expires (by decide) (by decide) (by decide)
      (by decide)).2 (by decide)) (by decide +kernel)

end RotationStatus

end CredentialRotation
