import CredentialRotation.Proofs.Binding.Handover
import CredentialRotation.Proofs.Time.Seconds

/-!
# The nearest second

A service is asked for a life in whole seconds. `IsNearest` says which
number of seconds that should be: the one nearest to the life of the
policy, and of two that are equally near the one further from zero.

The number asked for comes from two roundings in binary floating point.
It is the nearest one as long as these have digits to spare
(`isNearest_ttlSeconds`). Whole seconds survive them for longer, as they
are half a second away from where the nearest second changes
(`ttlSeconds_of_seconds`). Beyond that even they are lost
(`ttlSeconds_lost`).

A life that has the other sign is asked for with the other sign, so all
of this is shown of one sign and carried over (`exists_forwards`).
-/

namespace CredentialRotation

open Number Number.Binary64

namespace Span

variable {d : Span} {s t : ℤ}

/-- Whether a number of seconds is the nearest one to a span, a half away
from zero. -/
def IsNearest (d : Span) (s : ℤ) : Prop :=
  2 * |d.nanos - s * nanosPerSecond| ≤ nanosPerSecond ∧
    (2 * |d.nanos - s * nanosPerSecond| = nanosPerSecond → |d.nanos| < |s * nanosPerSecond|)

instance (d : Span) (s : ℤ) : Decidable (d.IsNearest s) :=
  inferInstanceAs (Decidable (_ ∧ _))

/-- There is one nearest second. -/
theorem IsNearest.unique (hs : d.IsNearest s) (ht : d.IsNearest t) : s = t := by
  simp only [IsNearest, nanosPerSecond, Int.abs_eq_natAbs] at hs ht
  omega

theorem IsNearest.neg (hs : d.IsNearest s) : d.neg.IsNearest (-s) := by
  have hdistance : d.neg.nanos - -s * nanosPerSecond = -(d.nanos - s * nanosPerSecond) := by
    simp only [Span.neg]
    ring
  unfold IsNearest
  rw [hdistance, abs_neg, neg_mul, abs_neg, Span.neg, abs_neg]
  exact hs

/-- A life of whole seconds is nearest to its own number. -/
theorem isNearest_of_seconds (hs : d.nanos = s * nanosPerSecond) : d.IsNearest s := by
  simp [IsNearest, hs, nanosPerSecond]

theorem neg_neg (d : Span) : d.neg.neg = d := by
  cases d
  simp [Span.neg]

theorem wholeMillis_neg (d : Span) : d.neg.wholeMillis = -d.wholeMillis :=
  Int.neg_tdiv _ _

end Span

namespace RotationPolicy

variable {p q : RotationPolicy} {s : ℤ}

/-! ## Signs -/

/-- What is asked for goes by the life alone, and changes its sign with
it. -/
theorem ttlSeconds_neg (hlife : 0 ≤ p.timeToLive.nanos) (hq : q.timeToLive = p.timeToLive.neg) :
    q.ttlSeconds = -p.ttlSeconds := by
  obtain ⟨n, hn, -, hbits⟩ := Span.exists_wholeMillis hlife
  have hoff := abs_ttlSeconds_sub_le hlife
  have hsmall : |p.ttlSeconds| < int64Max := by
    rw [hn] at hoff
    simp only [int64Max, Int.abs_eq_natAbs] at hoff ⊢
    omega
  rcases eq_or_ne p.timeToLive.wholeMillis 0 with hzero | hne
  · have hnothing : ((ofInt 0).div (.ofNat 1000)).nearestInt = 0 := by decide +kernel
    rw [ttlSeconds, ttlSeconds, hq, Span.wholeMillis_neg, hzero, neg_zero, hnothing, neg_zero]
  · rw [ttlSeconds, hq, Span.wholeMillis_neg, ofInt_neg hne, div_neg_left]
    exact nearestInt_neg hsmall

/-- A policy asks for what one with a life forwards in time asks for, or
for that with the other sign. -/
theorem exists_forwards (p : RotationPolicy) : ∃ q : RotationPolicy, 0 ≤ q.timeToLive.nanos ∧
    (p = q ∨ p.timeToLive = q.timeToLive.neg ∧ p.ttlSeconds = -q.ttlSeconds) := by
  rcases le_or_gt 0 p.timeToLive.nanos with hlife | hlife
  · exact ⟨p, hlife, .inl rfl⟩
  · let q : RotationPolicy := { p with timeToLive := p.timeToLive.neg }
    have hq : 0 ≤ q.timeToLive.nanos := neg_nonneg.2 hlife.le
    have hback : p.timeToLive = q.timeToLive.neg := (Span.neg_neg _).symm
    exact ⟨q, hq, .inr ⟨hback, ttlSeconds_neg hq hback⟩⟩

/-! ## The nearest second -/

/-- Where the nearest second changes is a full millisecond, so that what
is short of one does not matter. -/
theorem isNearest_ttlSeconds_of_nonneg (hlife : 0 ≤ p.timeToLive.nanos)
    (hlt : p.timeToLive.wholeMillis < 2 ^ 53) : p.timeToLive.IsNearest p.ttlSeconds := by
  obtain ⟨n, hn, hmillis, -⟩ := Span.exists_wholeMillis hlife
  rw [ttlSeconds_of_lt hlife hlt, hn]
  simp only [Span.IsNearest, nanosPerSecond, Int.abs_eq_natAbs]
  omega

/-- **Up to `2 ^ 53` milliseconds**, the seconds asked for are the nearest
ones. -/
theorem isNearest_ttlSeconds (hlt : |p.timeToLive.wholeMillis| < 2 ^ 53) :
    p.timeToLive.IsNearest p.ttlSeconds := by
  rw [abs_lt] at hlt
  obtain ⟨q, hlife, rfl | ⟨hneg, hseconds⟩⟩ := p.exists_forwards
  · exact isNearest_ttlSeconds_of_nonneg hlife hlt.2
  · rw [hneg, Span.wholeMillis_neg] at hlt
    rw [hneg, hseconds]
    exact (isNearest_ttlSeconds_of_nonneg hlife (by omega)).neg

/-- Below `2 ^ 61` milliseconds, the first rounding is off by an eighth of
a second and the second one by a quarter, which is less than the half that
would matter. -/
theorem ttlSeconds_of_seconds_of_nonneg (hlife : 0 ≤ p.timeToLive.nanos)
    (hs : p.timeToLive.nanos = s * nanosPerSecond) (hlt : s * 1000 < 2 ^ 61) :
    p.ttlSeconds = s := by
  lift s to ℕ using by rw [hs, nanosPerSecond] at hlife; omega
  have hmillis : p.timeToLive.wholeMillis = (s * 1000 : ℕ) := by
    rw [Span.wholeMillis, Int.tdiv_eq_ediv_of_nonneg hlife, hs, nanosPerSecond]
    omega
  obtain ⟨x, f, y, g, hx, hy, hseconds⟩ := exists_ttlSeconds hmillis (by omega)
  have hlt' : ((s * 1000 : ℕ) : ℚ) < 2 ^ (61 : ℤ) := by exact_mod_cast hlt
  have hfirst : |x - (s * 1000 : ℕ)| ≤ 128 :=
    (hx.abs_sub_le (k := 8) (by decide) (by simpa using hlt')).trans_eq (by norm_num)
  rw [abs_le] at hfirst
  push_cast at hfirst hlt'
  have hsecond : |y - x / 1000| ≤ 1 / 4 := by
    refine (hy.abs_sub_le (k := -1) (by decide) ?_).trans_eq (by norm_num)
    norm_num at hlt' ⊢
    linarith
  rw [abs_le] at hsecond
  have hfloor : ⌊y + 1 / 2⌋₊ = s := by
    rw [Nat.floor_eq_iff (by linarith [hy.nonneg])]
    constructor <;> linarith
  rw [hseconds, hfloor]
  simp only [int64Max]
  omega

/-- **Whole seconds** are asked for as they are up to `2 ^ 61`
milliseconds. -/
theorem ttlSeconds_of_seconds (hs : p.timeToLive.nanos = s * nanosPerSecond)
    (hlt : |s| * 1000 < 2 ^ 61) : p.ttlSeconds = s := by
  have hlow : s * 1000 < 2 ^ 61 ∧ -s * 1000 < 2 ^ 61 := by
    rw [Int.abs_eq_natAbs] at hlt
    omega
  obtain ⟨q, hlife, rfl | ⟨hneg, hseconds⟩⟩ := p.exists_forwards
  · exact ttlSeconds_of_seconds_of_nonneg hlife hs hlow.1
  · have hs' : q.timeToLive.nanos = -s * nanosPerSecond := by
      rw [hneg, Span.neg] at hs
      linarith
    rw [hseconds, ttlSeconds_of_seconds_of_nonneg hlife hs' hlow.2]
    omega

/-- **Anywhere**, the seconds asked for are little more than a second and a
half off. -/
theorem abs_ttlSeconds_sub_nanos_lt (p : RotationPolicy) :
    |p.ttlSeconds * nanosPerSecond - p.timeToLive.nanos| < 1513 * 1000000 := by
  obtain ⟨q, hlife, hsign⟩ := p.exists_forwards
  obtain ⟨n, hn, hmillis, -⟩ := Span.exists_wholeMillis hlife
  have hoff := abs_ttlSeconds_sub_le hlife
  rw [hn] at hoff
  have hq : |q.ttlSeconds * nanosPerSecond - q.timeToLive.nanos| < 1513 * 1000000 := by
    simp only [nanosPerSecond, Int.abs_eq_natAbs] at hoff ⊢
    omega
  rcases hsign with rfl | ⟨hneg, hseconds⟩
  · exact hq
  · have hdistance : p.ttlSeconds * nanosPerSecond - p.timeToLive.nanos
        = -(q.ttlSeconds * nanosPerSecond - q.timeToLive.nanos) := by
      rw [hneg, hseconds, Span.neg]
      ring
    rwa [hdistance, abs_neg]

/-! ## What is asked for -/

/-- **The seconds asked for.** Up to `2 ^ 53` milliseconds of life either
way in time they are the nearest ones, a half away from zero. Where the
life was read as a number of seconds, they are that number up to `2 ^ 61`
milliseconds, and a rotator asks for nothing else. For any life, they are
off by less than 1.513 seconds. -/
theorem asked_seconds (p : RotationPolicy) :
    (|p.timeToLive.wholeMillis| < 2 ^ 53 → ∀ s, p.timeToLive.IsNearest s ↔ s = p.ttlSeconds)
    ∧ (∀ s, Span.ofSeconds? s = some p.timeToLive → |s| * 1000 < 2 ^ 61 →
      p.timeToLive.IsNearest s ∧ p.ttlSeconds = s
        ∧ ∀ r : Rotator, r.policy = p → ∀ bs o resource ttl,
          .create resource ttl ∈ r.requests bs o → ttl = s)
    ∧ |p.ttlSeconds * nanosPerSecond - p.timeToLive.nanos| < 1513 * 1000000 := by
  refine ⟨fun hlt s => ⟨fun hs => hs.unique (isNearest_ttlSeconds hlt), ?_⟩, fun s hread hlt => ?_,
    p.abs_ttlSeconds_sub_nanos_lt⟩
  · rintro rfl
    exact isNearest_ttlSeconds hlt
  · have hs : p.timeToLive.nanos = s * nanosPerSecond := Span.nanos_of_ofSeconds? hread
    have hseconds := ttlSeconds_of_seconds hs hlt
    refine ⟨Span.isNearest_of_seconds hs, hseconds, ?_⟩
    rintro r rfl bs o resource ttl hasked
    rw [(Rotator.mem_requests_create.1 hasked).1.2, hseconds]

/-- At work: 90.6 seconds, two and a half seconds backwards, and close to
`2 ^ 61` milliseconds. -/
theorem asked_seconds_both_ways :
    let p : RotationPolicy := ⟨.hour, ⟨90600000000, by decide, by decide⟩⟩
    let back : RotationPolicy := ⟨.hour, ⟨-2500000000, by decide, by decide⟩⟩
    let far : RotationPolicy := ⟨.hour, ⟨2305843009213693000000000, by decide, by decide⟩⟩
    p.ttlSeconds = 91 ∧ back.ttlSeconds = -3 ∧ far.ttlSeconds = 2305843009213693 := by
  intro p back far
  have hp := ((asked_seconds p).1 (by decide) 91).1 (by decide)
  have hback := ((asked_seconds back).1 (by decide) (-3)).1 (by decide)
  have hfar := (asked_seconds far).2.1 2305843009213693 (by decide) (by decide)
  exact ⟨hp.symm, hback.symm, hfar.2.1⟩

/-- **Seconds are lost.** Just past `2 ^ 53` milliseconds, a life that ends
in 0.499 is asked for as if it ended in a half, and the longest life of
whole seconds is asked for with one second less. -/
theorem ttlSeconds_lost : (¬ ∀ p : RotationPolicy, p.timeToLive.IsNearest p.ttlSeconds)
    ∧ ¬ ∀ (p : RotationPolicy) (s : ℤ), Span.ofSeconds? s = some p.timeToLive →
      p.ttlSeconds = s := by
  constructor
  · exact fun h => absurd (h ⟨.hour, ⟨9007199254741499000000, by decide, by decide⟩⟩) (by decide)
  · exact fun h => absurd
      (h ⟨.hour, ⟨9223372036854775000000000, by decide, by decide⟩⟩ 9223372036854775 rfl)
      (by decide)

/-- Just past `2 ^ 61` milliseconds, whole seconds are not safe
either. -/
example : ttlSeconds ⟨.hour, ⟨2305843009213792000000000, by decide, by decide⟩⟩
    = 2305843009213793 := by
  decide

end RotationPolicy

end CredentialRotation
