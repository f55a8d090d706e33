import CredentialRotation.Proofs.Binding.Coverage
import CredentialRotation.Proofs.Number.Rounding
import Mathlib.Tactic.NormNum

/-!
# The window to hand over

A policy can be used if its bindings live longer than they are active.
What a service is asked for is not that life but a number of seconds. On
the way there it loses what is short of a millisecond, then the digits a
binary number has no room for, twice, then what is short of a second.

Up to `2 ^ 53` milliseconds, the binary numbers lose nothing that counts,
and the seconds are the nearest ones to the milliseconds
(`ttlSeconds_of_lt`). Anywhere, they are little more than a second and a
half off (`abs_ttlSeconds_sub_le`). What a policy leaves beyond its
interval can be less than that, and then the life asked for may leave
nothing.
-/

namespace CredentialRotation

open Number Number.Binary64

namespace Span

variable {d : Span}

/-- The milliseconds of a span are a natural of less than sixty-four
bits. -/
theorem exists_wholeMillis (hd : 0 ≤ d.nanos) :
    ∃ n : ℕ, d.wholeMillis = n ∧ (n : ℤ) = d.nanos / 1000000 ∧ n < 2 ^ 63 := by
  have hmillis : d.wholeMillis = d.nanos / 1000000 := Int.tdiv_eq_ediv_of_nonneg hd
  have := d.le_max
  simp only [maxNanos] at this
  exact ⟨(d.nanos / 1000000).toNat, by omega, by omega, by omega⟩

/-- The full seconds end within a span, and one more does not. -/
theorem wholeSeconds_le (hd : 0 ≤ d.nanos) :
    d.wholeSeconds * nanosPerSecond ≤ d.nanos
      ∧ d.nanos < (d.wholeSeconds + 1) * nanosPerSecond := by
  have hseconds : d.wholeSeconds = d.nanos / nanosPerSecond := Int.tdiv_eq_ediv_of_nonneg hd
  simp only [hseconds, nanosPerSecond]
  omega

end Span

namespace RotationPolicy

variable {p : RotationPolicy} {n : ℕ}

/-- A policy can be used when its bindings are active for some time, but
not for all of their life. -/
theorem validate_eq_ok_iff : p.validate = .ok () ↔
    0 < p.rotationInterval.nanos ∧ p.rotationInterval.nanos < p.timeToLive.nanos := by
  unfold validate Span.isPositive
  split_ifs <;> simp_all
  omega

/-! ## The seconds asked for -/

/-- **Two roundings.** The milliseconds become a binary number, and its
thousandth another one. The seconds are the integer nearest to that. -/
theorem exists_ttlSeconds (hn : p.timeToLive.wholeMillis = n) (hlt : n < 2 ^ 63) :
    ∃ x f y g, RoundsTo n f x ∧ RoundsTo (x / 1000) g y
      ∧ p.ttlSeconds = min int64Max ⌊y + 1 / 2⌋₊ := by
  have hn' : (n : ℚ) < 2 ^ (63 : ℤ) := by exact_mod_cast hlt
  obtain ⟨m, e, f, hm, hx⟩ := exists_ofNat (by decide) hn'
  have hthousand : (m : ℚ) * 2 ^ e / ((1000 * 2 ^ 43 : ℕ) * 2 ^ (-43 : ℤ))
      = m * 2 ^ e / 1000 := by
    norm_num
  have hnear := (abs_le.1 (hx.abs_sub_le (k := 10) (by decide) (by simpa using hn'))).2
  have hlt' : (m : ℚ) * 2 ^ e / 1000 < 2 ^ (63 : ℤ) := by
    have : (2 : ℚ) ^ (10 : ℤ) ≤ 2 ^ (63 : ℤ) := zpow_le_zpow_right₀ one_le_two (by decide)
    linarith
  obtain ⟨i, h, g, hi, hy⟩ := exists_div (s := false) (t := false) (n := 1000 * 2 ^ 43)
    (f := -43) (k := 63) (by decide) (by decide) (by rwa [hthousand])
  rw [hthousand] at hy
  refine ⟨_, f, _, g, hx, hy, ?_⟩
  have hofInt : ofInt (n : ℤ) = .finite false m e := by simp [ofInt, hm]
  have hofNat : ofNat 1000 = .finite false (1000 * 2 ^ 43) (-43) := by decide
  rw [ttlSeconds, hn, hofInt, hofNat, hi, ← nearestInt_finite]
  rfl

/-- Rounding a thousandth first does not change the nearest integer. -/
theorem floor_thousandth_add_half {g : ℤ} {y : ℚ} (hn : n < 2 ^ 53)
    (hy : RoundsTo (n / 1000) g y) : ⌊y + 1 / 2⌋₊ = (n + 500) / 1000 := by
  obtain ⟨t, ht⟩ : ∃ t, t = (n + 500) / 1000 := ⟨_, rfl⟩
  have hlow : 1000 * t ≤ n + 500 := by omega
  have hhigh : (n : ℚ) + 1 ≤ 1000 * t + 500 := by
    exact_mod_cast (by omega : n + 1 ≤ 1000 * t + 500)
  have hnear : |y - n / 1000| ≤ 1 / 1024 := by
    have hn' : (n : ℚ) < 9007199254740992 := by exact_mod_cast hn
    exact (hy.abs_sub_le (k := -9) (by decide) (by norm_num; linarith)).trans_eq (by norm_num)
  rw [← ht, Nat.floor_eq_iff (by linarith [hy.nonneg])]
  rw [abs_le] at hnear
  refine ⟨?_, by linarith⟩
  rcases hlow.eq_or_lt with htie | hlt
  · -- half way between two seconds nothing is rounded
    have htie' : 1000 * (t : ℚ) = n + 500 := by exact_mod_cast htie
    have hhalf : (n : ℚ) / 1000 = (2 * t - 1 : ℕ) * 2 ^ (-1 : ℤ) := by
      rw [Nat.cast_sub (by omega)]
      norm_num
      linarith
    have hexact := hy.eq_of_dyadic (by omega) (by decide) hhalf
    linarith
  · -- elsewhere the error is less than a thousandth
    have hlt' : 1000 * (t : ℚ) + 1 ≤ n + 500 := by exact_mod_cast hlt
    linarith

/-- **Up to `2 ^ 53` milliseconds**, the seconds asked for are the nearest
ones, a half upwards. -/
theorem ttlSeconds_of_lt (hlife : 0 ≤ p.timeToLive.nanos)
    (hlt : p.timeToLive.wholeMillis < 2 ^ 53) :
    p.ttlSeconds = (p.timeToLive.wholeMillis + 500) / 1000 := by
  obtain ⟨n, hn, -, hbits⟩ := Span.exists_wholeMillis hlife
  rw [hn] at hlt ⊢
  have hlt : n < 2 ^ 53 := by omega
  obtain ⟨x, f, y, g, hx, hy, hseconds⟩ := exists_ttlSeconds hn hbits
  obtain rfl : x = n := hx.eq_of_dyadic (k := 0) hlt (by decide) (by simp)
  rw [hseconds, floor_thousandth_add_half hlt hy]
  simp only [int64Max]
  omega

/-- **Anywhere**, the seconds asked for are at most one off, and half a
second more that the largest numbers of milliseconds lose. -/
theorem abs_ttlSeconds_sub_le (hlife : 0 ≤ p.timeToLive.nanos) :
    |p.ttlSeconds * 1000 - p.timeToLive.wholeMillis| ≤ 1512 := by
  obtain ⟨n, hn, -, hbits⟩ := Span.exists_wholeMillis hlife
  have hn' : (n : ℚ) < 9223372036854775808 := by exact_mod_cast hbits
  obtain ⟨x, f, y, g, hx, hy, hseconds⟩ := exists_ttlSeconds hn hbits
  have hmillis : |x - n| ≤ 512 :=
    (hx.abs_sub_le (k := 10) (by decide) (by norm_num; exact_mod_cast hn')).trans_eq (by norm_num)
  rw [abs_le] at hmillis
  have hone := hy.abs_floor_sub_le (by norm_num; linarith)
  generalize ⌊y + 1 / 2⌋₊ = t at hseconds hone
  rw [abs_le] at hone
  have hlow : (n : ℤ) ≤ t * 1000 + 1512 := by
    have : (n : ℚ) ≤ t * 1000 + 1512 := by linarith
    exact_mod_cast this
  have hhigh : (t : ℤ) * 1000 ≤ n + 1512 := by
    have : (t : ℚ) * 1000 ≤ n + 1512 := by linarith
    exact_mod_cast this
  rw [hn, hseconds, abs_le]
  simp only [int64Max]
  omega

/-! ## The window -/

/-- **The life asked for is more than the interval** exactly where the life
of the policy reaches half a second past the last full second of the
interval. -/
theorem lt_lifeNanos_iff (hinterval : 0 ≤ p.rotationInterval.nanos)
    (hlife : 0 ≤ p.timeToLive.nanos) (hlt : p.timeToLive.wholeMillis < 2 ^ 53) :
    p.rotationInterval.nanos < p.lifeNanos ↔
      p.rotationInterval.wholeSeconds * nanosPerSecond + nanosPerSecond / 2
        ≤ p.timeToLive.nanos := by
  have hfull := Span.wholeSeconds_le hinterval
  obtain ⟨n, hn, hmillis, -⟩ := Span.exists_wholeMillis hlife
  rw [lifeNanos, ttlSeconds_of_lt hlife hlt, hn]
  simp only [nanosPerSecond] at hfull ⊢
  omega

/-- A life of whole seconds is asked for as it is. -/
theorem lifeNanos_of_dvd (hlife : 0 ≤ p.timeToLive.nanos)
    (hlt : p.timeToLive.wholeMillis < 2 ^ 53) (hwhole : nanosPerSecond ∣ p.timeToLive.nanos) :
    p.lifeNanos = p.timeToLive.nanos := by
  obtain ⟨n, hn, hmillis, -⟩ := Span.exists_wholeMillis hlife
  rw [lifeNanos, ttlSeconds_of_lt hlife hlt, hn]
  simp only [nanosPerSecond] at hwhole ⊢
  omega

/-- Two seconds make up for all that is lost. -/
theorem lt_lifeNanos_of_le (hlife : 0 ≤ p.timeToLive.nanos)
    (hwide : p.rotationInterval.nanos + 2 * nanosPerSecond ≤ p.timeToLive.nanos) :
    p.rotationInterval.nanos < p.lifeNanos := by
  obtain ⟨n, hn, hmillis, -⟩ := Span.exists_wholeMillis hlife
  have hoff := abs_le.1 (abs_ttlSeconds_sub_le hlife)
  rw [hn] at hoff
  simp only [lifeNanos, nanosPerSecond] at hwide ⊢
  omega

/-- **What a usable policy leaves.** Whatever its rotator asks for lives
`ttlSeconds`. Up to `2 ^ 53` milliseconds of life, these are the nearest
seconds: there is time to hand over exactly where the life reaches half a
second past the last full second of the interval, and so wherever it is a
whole number of seconds. With two seconds between interval and life, there
always is. -/
theorem handover_of_validate (p : RotationPolicy) (h : p.validate = .ok ()) :
    (∀ r : Rotator, r.policy = p → ∀ bs o resource ttl,
      .create resource ttl ∈ r.requests bs o → ttl = p.ttlSeconds)
    ∧ (p.timeToLive.wholeMillis < 2 ^ 53 →
      p.ttlSeconds = (p.timeToLive.wholeMillis + 500) / 1000
      ∧ (p.rotationInterval.nanos < p.lifeNanos ↔
          p.rotationInterval.wholeSeconds * nanosPerSecond + nanosPerSecond / 2
            ≤ p.timeToLive.nanos)
      ∧ (nanosPerSecond ∣ p.timeToLive.nanos → p.rotationInterval.nanos < p.lifeNanos))
    ∧ (p.rotationInterval.nanos + 2 * nanosPerSecond ≤ p.timeToLive.nanos →
      p.rotationInterval.nanos < p.lifeNanos) := by
  obtain ⟨hpos, hlt⟩ := validate_eq_ok_iff.1 h
  have hlife : 0 ≤ p.timeToLive.nanos := (hpos.trans hlt).le
  refine ⟨?_, fun hmillis => ⟨ttlSeconds_of_lt hlife hmillis,
    lt_lifeNanos_iff hpos.le hlife hmillis, fun hwhole => ?_⟩, lt_lifeNanos_of_le hlife⟩
  · rintro r rfl bs o resource ttl hasked
    exact (Rotator.mem_requests_create.1 hasked).1.2
  · rwa [lifeNanos_of_dvd hlife hmillis hwhole]

/-- Two and a half seconds are asked for as three, which leaves time after
a second and three quarters. So does the life of a policy close to the
longest spans. -/
theorem handover_of_validate_half :
    let p : RotationPolicy :=
      ⟨⟨1750000000, by decide, by decide⟩, ⟨2500000000, by decide, by decide⟩⟩
    let far : RotationPolicy := ⟨⟨9223372036854772000000000, by decide, by decide⟩,
      ⟨9223372036854774500000000, by decide, by decide⟩⟩
    p.validate = .ok () ∧ p.ttlSeconds = 3 ∧ p.rotationInterval.nanos < p.lifeNanos
      ∧ far.validate = .ok () ∧ far.rotationInterval.nanos < far.lifeNanos := by
  intro p far
  obtain ⟨hseconds, hwindow, -⟩ := (handover_of_validate p rfl).2.1 (by decide)
  exact ⟨rfl, hseconds.trans (by decide), hwindow.2 (by decide), rfl,
    (handover_of_validate far rfl).2.2 (by decide)⟩

/-- **No window.** A policy of one and three tenths of a second, and one
and four tenths, can be used. It asks for a life of one second. -/
theorem handover_lost : ¬ ∀ p : RotationPolicy, p.validate = .ok () →
    p.rotationInterval.nanos < p.ttlSeconds * nanosPerSecond := fun h =>
  absurd (h ⟨⟨1300000000, by decide, by decide⟩, ⟨1400000000, by decide, by decide⟩⟩ rfl)
    (by decide)

/-- Past `2 ^ 53` milliseconds not even whole seconds are safe. -/
example :
    let p : RotationPolicy := ⟨⟨9223372036854774000000000, by decide, by decide⟩,
      ⟨9223372036854775000000000, by decide, by decide⟩⟩
    p.validate = .ok () ∧ p.lifeNanos = p.rotationInterval.nanos :=
  ⟨rfl, by decide⟩

end RotationPolicy

end CredentialRotation
