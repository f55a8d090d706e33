import CredentialRotation.Proofs.Binding.Calls
import CredentialRotation.Proofs.Time.Shift

/-!
# Never without a live binding

Passes that are not too far apart hand over from one binding to the next
without a gap. The binding that is active after a pass is not yet due, so
less than the interval of the policy has gone by since it was issued;
what is left of its life is longer than the time until the next pass.

`Covered` is what every pass leaves behind: bindings that all live as long
as was asked for, one of them active and not due. A pass finds such a
binding or issues one, whatever the service lists, so it restores
`Covered` by itself (`covered_of_rotated`).
-/

namespace CredentialRotation

variable {p : RotationPolicy} {now now' t : Instant} {b : Binding} {bs : List Binding}

/-- The life that a policy asks for, in nanoseconds. -/
def RotationPolicy.lifeNanos (p : RotationPolicy) : Int := p.ttlSeconds * nanosPerSecond

/-- A binding whose deadline the clock has not reached. -/
theorem Binding.isRotationDueAt_eq_false_iff {interval : Span} :
    b.isRotationDueAt now interval = false ↔
      ∀ v, b.createdAt.add? interval = some v → now < v := by
  unfold isRotationDueAt
  cases b.createdAt.add? interval with
  | none => simp
  | some v => simp [Std.not_le]

/-- `expiresAt` ends the life that a policy asks for, counted from
`start`. -/
def RotationPolicy.Ends (p : RotationPolicy) (start expiresAt : Instant) : Prop :=
  ∃ life : Span, life.nanos = p.lifeNanos ∧ start.add? life = some expiresAt

/-- A binding that was issued by `now`, with the life that was asked
for. -/
structure Dated (p : RotationPolicy) (now : Instant) (b : Binding) : Prop where
  created : b.createdAt ≤ now
  expires : p.Ends b.createdAt b.expiresAt

theorem Dated.mono (h : Dated p now b) (hnow : now ≤ now') : Dated p now' b :=
  ⟨Std.le_trans h.created hnow, h.expires⟩

/-- A record after a pass: all its bindings are dated, and one is active
and not due. -/
structure Covered (p : RotationPolicy) (now : Instant) (bs : List Binding) : Prop where
  dated : ∀ b ∈ bs, Dated p now b
  fresh : ∃ b ∈ bs, b.isActive = true ∧ b.isRotationDueAt now p.rotationInterval = false

/-- **No gap until the next pass.** -/
theorem Covered.exists_live (h : Covered p now bs) (hpos : 0 < p.rotationInterval.nanos)
    (hlong : p.rotationInterval.nanos < p.lifeNanos)
    (hreach : now.Within (p.lifeNanos - p.rotationInterval.nanos) now') (ht : t ≤ now') :
    ∃ b ∈ bs, b.isActive = true ∧ t < b.expiresAt := by
  obtain ⟨b, hb, hact, hdue⟩ := h.fresh
  obtain ⟨hcreated, life, hlife, hexpires⟩ := h.dated b hb
  rw [← hlife] at hlong hreach
  refine ⟨b, hb, hact, Std.lt_of_le_of_lt ht ?_⟩
  exact Instant.lt_of_within (Int.le_of_lt hpos) (Int.le_of_lt hlong) hcreated hexpires
    (Binding.isRotationDueAt_eq_false_iff.1 hdue) hreach

/-- What is retained was there before, with the same dates. -/
theorem Ledger.dated_retained {l : Ledger} {ids : List String} (h : ∀ b ∈ bs, Dated p now b) :
    ∀ b ∈ (l.reconcile bs ids now).retained, Dated p now b :=
  forall_retained (fun _ hb => ⟨hb.created, hb.expires⟩) h

namespace Rotator

variable {r : Rotator} {o : Occasion}

/-- **One pass.** Whatever the service lists, a pass that succeeds leaves
a binding that is active and not due. -/
theorem covered_of_rotated (hpos : 0 < r.policy.rotationInterval.nanos)
    (hdated : ∀ b ∈ bs, Dated r.policy o.now b) (hstill : o.later = o.now)
    (hends : ∀ i, o.created = .ok i → r.policy.Ends o.now i.expiresAt) {out : Rotated}
    (hout : r.rotated bs o = .ok out) : Covered r.policy o.now out.bindings := by
  obtain ⟨ids, -, ⟨hact, rfl⟩ | ⟨-, i, hi, rfl⟩⟩ := rotated_eq_ok_iff.1 hout
  · refine ⟨Ledger.dated_retained hdated, ?_⟩
    obtain ⟨b, hb, hb'⟩ := Ledger.hasActive_iff.1 hact
    refine ⟨b, hb, hb', ?_⟩
    -- what is active after settling was found not to be due
    obtain ⟨b', -, -, -, rfl⟩ := Ledger.mem_retained.1 hb
    exact (Ledger.staysActive_iff.1 hb').2.2
  · rw [hstill]
    refine ⟨fun b hb => ?_, ?_⟩
    · rcases List.mem_append.1 hb with hb | hb
      · exact Ledger.dated_retained hdated b hb
      · obtain rfl := List.mem_singleton.1 hb
        exact ⟨Std.le_refl _, hends i hi⟩
    · refine ⟨_, List.mem_append_right _ (List.mem_singleton_self _), rfl, ?_⟩
      exact Binding.isRotationDueAt_eq_false_iff.2 fun v hv => Instant.lt_of_add? hpos hv

/-! ## Runs of passes -/

/-- The record after the first `k` of a sequence of passes, from no
bindings at all. -/
def passed (r : Rotator) (passes : Nat → Occasion) (k : Nat) : List Binding :=
  r.record [] ((List.range k).map fun i => .rotate (passes i))

variable {passes : Nat → Occasion} {n k : Nat}

theorem passed_succ :
    r.passed passes (k + 1) = r.after (r.passed passes k) (.rotate (passes k)) := by
  simp [passed, record, List.range_succ]

/-- The first `n` of a sequence of passes are timely. The clock stands
still during each and does not go back from one to the next. Each
succeeds, and comes no later after the one before than the life asked for
exceeds the interval. A binding that is issued lives as long as was asked
for, from the pass on. -/
structure Timely (r : Rotator) (passes : Nat → Occasion) (n : Nat) : Prop where
  still : ∀ k < n, (passes k).later = (passes k).now
  ordered : ∀ k, k + 1 < n → (passes k).now ≤ (passes (k + 1)).now
  succeeds : ∀ k < n, ∃ out, r.rotated (r.passed passes k) (passes k) = .ok out
  close : ∀ k, k + 1 < n → (passes k).now.Within
    (r.policy.lifeNanos - r.policy.rotationInterval.nanos) (passes (k + 1)).now
  ends : ∀ k < n, ∀ i, (passes k).created = .ok i → r.policy.Ends (passes k).now i.expiresAt

/-- **Every pass.** After each of them the record is covered. -/
theorem covered_passed (hpos : 0 < r.policy.rotationInterval.nanos) (h : r.Timely passes n) :
    ∀ k < n, Covered r.policy (passes k).now (r.passed passes (k + 1)) := by
  intro k
  induction k with
  | zero =>
    intro hk
    obtain ⟨out, hout⟩ := h.succeeds 0 hk
    simp only [passed_succ, after, hout]
    exact covered_of_rotated hpos (fun b hb => absurd hb List.not_mem_nil) (h.still 0 hk)
      (h.ends 0 hk) hout
  | succ k ih =>
    intro hk
    obtain ⟨out, hout⟩ := h.succeeds (k + 1) hk
    have hdated : ∀ b ∈ r.passed passes (k + 1), Dated r.policy (passes (k + 1)).now b :=
      fun b hb => ((ih (by omega)).dated b hb).mono (h.ordered k hk)
    rw [passed_succ, after, hout]
    exact covered_of_rotated hpos hdated (h.still (k + 1) hk) (h.ends (k + 1) hk) hout

/-- **Never without a live binding.** Of a policy with a positive interval
that is shorter than the life it asks for, timely passes leave no gap: at
every instant up to the next pass, the record of a pass has an active
binding whose life is not over. -/
theorem live_between_passes (r : Rotator) (hpos : 0 < r.policy.rotationInterval.nanos)
    (hlong : r.policy.rotationInterval.nanos < r.policy.lifeNanos) (passes : Nat → Occasion)
    (n : Nat) (h : r.Timely passes n) (k : Nat) (hk : k + 1 < n) (t : Instant)
    (ht : t ≤ (passes (k + 1)).now) :
    ∃ b ∈ r.passed passes (k + 1), b.isActive = true ∧ t < b.expiresAt :=
  (covered_passed hpos h k (by omega)).exists_live hpos hlong (h.close k hk) ht

/-- At work: six passes a quarter of an hour apart, as far as the policy
allows. The fifth replaces the binding that the first one issued, which
ends with the sixth. -/
theorem live_between_passes_quarterly :
    let r : Rotator := ⟨{}, "env"⟩
    let second (s : Int) : Instant := (Instant.ofSeconds? s).getD .epoch
    let passes (k : Nat) : Occasion :=
      ⟨second (900 * k), second (900 * k), .ok ["0", "4"],
        .ok ⟨toString k, second (900 * k + 4500), ""⟩⟩
    r.Timely passes 6 ∧ (r.passed passes 5).map (·.id) = ["0", "4"]
      ∧ ∃ b ∈ r.passed passes 5, b.isActive = true ∧ second 4500 < b.expiresAt := by
  intro r second passes
  have hordered : ∀ k < 5, (passes k).now ≤ (passes (k + 1)).now := by decide +kernel
  have hsucceeds : ∀ k < 6, (r.rotated (r.passed passes k) (passes k)).isOk = true := by
    decide +kernel
  have hapart : ∀ k < 5, (passes k).now.isLeap = false ∧ (passes (k + 1)).now.isLeap = false
      ∧ ((passes (k + 1)).now.since (passes k).now).nanos = 900000000000 := by decide +kernel
  have hends : ∀ k < 6, (passes k).now.add? .seventyFiveMinutes
      = some (second (900 * k + 4500)) := by decide +kernel
  have hslack : r.policy.lifeNanos - r.policy.rotationInterval.nanos = 900000000000 := by
    decide +kernel
  have htimely : r.Timely passes 6 := by
    refine ⟨fun _ _ => rfl, fun k hk => hordered k (by omega), fun k hk => ?_, fun k hk => ?_,
      fun k hk i hi => ?_⟩
    · have hok := hsucceeds k hk
      cases h : r.rotated (r.passed passes k) (passes k) with
      | error e =>
        rw [h] at hok
        cases hok
      | ok out => exact ⟨out, rfl⟩
    · obtain ⟨hl, hl', hn⟩ := hapart k (by omega)
      rw [hslack]
      exact (Instant.within_iff_since_le (by omega) hl hl').2 (Int.le_of_eq hn)
    · obtain rfl := Except.ok.inj hi
      refine ⟨.seventyFiveMinutes, by decide +kernel, ?_⟩
      dsimp only
      exact hends k hk
  exact ⟨htimely, by decide,
    live_between_passes r (by decide) (by decide) passes 6 htimely 4 (by decide) (second 4500)
      (by decide)⟩

end Rotator

end CredentialRotation
