import CredentialRotation.Proofs.Binding.Issuing

/-!
# Lives of bindings

A binding should end after it was created. The clock of the rotator says
when it was created and the service when it ends, and nobody compares the
two, so a record keeps to this exactly as long as the service does: every
binding of every record lasts if and only if every binding that is issued
on the way does (`lasts_throughout_iff`). Where the service issues one
whose life is over, the pass takes it for the active one all the same
(`issued_past_its_life`).
-/

namespace CredentialRotation

variable {r : Rotator} {b : Binding} {bs : List Binding} {ids : List String} {now : Instant}
variable {o : Occasion}

/-- A binding that ends after it was created. -/
def Binding.Lasts (b : Binding) : Prop := b.createdAt < b.expiresAt

instance (b : Binding) : Decidable b.Lasts := inferInstanceAs (Decidable (b.createdAt < b.expiresAt))

/-- What the clock showed last in a pass: when a binding was issued, if
one was, and else when the list had come. -/
def Occasion.lastSeen (o : Occasion) (out : Rotated) : Instant :=
  if out.details.isSome then o.later else o.now

namespace Ledger

variable {l : Ledger}

/-- What is retained is not past its life. -/
theorem isExpiredAt_retained (hb : b ∈ (l.reconcile bs ids now).retained) :
    b.isExpiredAt now = false := by
  obtain ⟨b', -, -, hexp, rfl⟩ := mem_retained.1 hb
  exact hexp

end Ledger

namespace Rotator

/-- **A pass that succeeds** leaves an active binding whose life is not
over, unless it has issued one whose life was. -/
theorem exists_live_iff {out : Rotated} (hout : r.rotated bs o = .ok out) :
    (∃ b ∈ out.bindings, b.isActive = true ∧ b.isExpiredAt (o.lastSeen out) = false) ↔
      ∀ b, r.issued? bs o = some b → b.Lasts := by
  obtain ⟨ids, hids, ⟨hact, rfl⟩ | ⟨hnone, i, hi, rfl⟩⟩ := rotated_eq_ok_iff.1 hout
  · obtain ⟨b, hb, hb'⟩ := Ledger.hasActive_iff.1 hact
    have hissued : r.issued? bs o = none := by simp [issued?, hout]
    simp only [hissued, reduceCtorEq, false_implies, implies_true, iff_true]
    exact ⟨b, hb, hb', Ledger.isExpiredAt_retained hb⟩
  · have hissued := issued?_eq_some_iff.2 ⟨ids, hids, hnone, i, hi, rfl⟩
    -- those that were there before are not active
    simp only [hissued, Option.some.injEq, forall_eq', Ledger.record, List.mem_append,
      List.mem_singleton, or_and_right, exists_or, exists_eq_left]
    rw [or_iff_right]
    · simp [Binding.isExpiredAt, Binding.Lasts, Binding.issued, Occasion.lastSeen, Std.not_le]
    · rintro ⟨b, hb, hb', -⟩
      rw [Ledger.hasActive_eq_false_iff.1 hnone b hb] at hb'
      cases hb'

/-- **Bindings last as long as those do that are issued.** From a record
of bindings that last, over any calls: every record on the way is one of
bindings that last if and only if every binding that is issued on the way
lasts. And a pass that succeeds then leaves an active binding whose life
is not over by the clock of that pass, if and only if the one that it
issued, if it issued one, lasts. -/
theorem lasts_throughout_iff (r : Rotator) (bs : List Binding) (hstart : ∀ b ∈ bs, b.Lasts)
    (calls : List Call) :
    ((∀ before, before <+: calls → ∀ b ∈ r.record bs before, b.Lasts) ↔
        ∀ before o b, before ++ [.rotate o] <+: calls →
          r.issued? (r.record bs before) o = some b → b.Lasts)
      ∧ ∀ o out, r.rotated (r.record bs calls) o = .ok out →
          ((∃ b ∈ out.bindings, b.isActive = true ∧ b.isExpiredAt (o.lastSeen out) = false) ↔
            ∀ b, r.issued? (r.record bs calls) o = some b → b.Lasts) := by
  constructor
  · -- settling changes neither end of a life
    exact forall_record_iff (fun _ _ hb => hb) hstart
  · intro o out hout
    exact exists_live_iff hout

/-- At work: a binding that is due gives way to one that lasts, and the
next pass keeps that. -/
theorem lasts_throughout_iff_two_passes :
    let r : Rotator := ⟨{}, "env"⟩
    let second (s : Int) : Instant := (Instant.ofSeconds? s).getD .epoch
    let start : List Binding := [.issued "a" .epoch (second 4500)]
    let calls : List Call :=
      [.rotate ⟨second 3600, second 3601, .ok ["a"], .ok ⟨"b", second 8101, ""⟩⟩,
        .rotate ⟨second 4500, second 4500, .ok ["b", "a"], .error .transport⟩]
    (∀ b ∈ start, b.Lasts)
      ∧ r.record start calls = [.issued "b" (second 3601) (second 8101)]
      ∧ ((∀ before, before <+: calls → ∀ b ∈ r.record start before, b.Lasts) ↔
          ∀ before o b, before ++ [.rotate o] <+: calls →
            r.issued? (r.record start before) o = some b → b.Lasts)
      ∧ ∀ o out, r.rotated (r.record start calls) o = .ok out →
          ((∃ b ∈ out.bindings, b.isActive = true ∧ b.isExpiredAt (o.lastSeen out) = false) ↔
            ∀ b, r.issued? (r.record start calls) o = some b → b.Lasts) := by
  intro r second start calls
  have hstart : ∀ b ∈ start, b.Lasts := by decide
  exact ⟨hstart, by decide, lasts_throughout_iff r start hstart calls⟩

/-- A service that issues a binding which ended a second ago breaks both:
the record has a binding that does not last, and no other one is
active. -/
theorem issued_past_its_life :
    (¬ ∀ (r : Rotator) (bs : List Binding) (calls : List Call), (∀ b ∈ bs, b.Lasts) →
        ∀ b ∈ r.record bs calls, b.Lasts)
      ∧ ¬ ∀ (r : Rotator) (bs : List Binding) (o : Occasion) (out : Rotated),
        (∀ b ∈ bs, b.Lasts) → r.rotated bs o = .ok out →
          ∃ b ∈ out.bindings, b.isActive = true ∧ b.isExpiredAt (o.lastSeen out) = false := by
  let r : Rotator := ⟨{}, "env-1"⟩
  let second (s : Int) : Instant := (Instant.ofSeconds? s).getD .epoch
  let o : Occasion :=
    ⟨second 1700000000, second 1700000000, .ok [], .ok ⟨"b", second 1699999999, ""⟩⟩
  constructor
  · intro hall
    exact absurd (hall r [] [.rotate o] (by decide)) (by decide)
  · intro hall
    let out : Rotated := ⟨[.issued "b" (second 1700000000) (second 1699999999)],
      some (details (.issued "b" (second 1700000000) (second 1699999999)) "")⟩
    have hout : r.rotated [] o = .ok out := by decide
    exact absurd (hall r [] o out (by decide) hout) (by decide)

end Rotator

end CredentialRotation
