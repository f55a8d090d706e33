import CredentialRotation.Proofs.Binding.Calls
import CredentialRotation.Proofs.Time.Shift

/-!
# What the ledger retains

One look of the ledger at a list of bindings, binding by binding. Whether
a binding goes is decided by its id and its end alone; whether one that
stays is still active, by its mark and its deadline alone. The end of a
life counts in both places, since a binding past it is no longer active
and is let go: `settle_of_lt` is where the two meet, and why what is
reported active is among what is retained.
-/

namespace CredentialRotation

variable {l : Ledger} {b : Binding} {bs : List Binding} {ids : List String} {now : Instant}

/-- A life is not over before its end. -/
theorem Binding.isExpiredAt_eq_false_iff : b.isExpiredAt now = false ↔ now < b.expiresAt := by
  rw [isExpiredAt, decide_eq_false_iff_not, Std.not_le]

namespace Ledger

/-- What is left of the bindings that are known and not past their life. -/
theorem kept_eq_decide :
    (b.id ∈ ids && !b.isExpiredAt now) = decide (b.id ∈ ids ∧ now < b.expiresAt) := by
  rw [Bool.decide_and, Bool.eq_iff_iff, Bool.and_eq_true, Bool.and_eq_true, Bool.not_eq_true',
    Binding.isExpiredAt_eq_false_iff, decide_eq_true_iff (p := now < b.expiresAt)]

/-- Before its end only the deadline of a binding counts. -/
theorem settle_of_lt (h : now < b.expiresAt) : l.settle now b =
    { b with isActive := b.isActive && !b.isRotationDueAt now l.policy.rotationInterval } := by
  rw [settle, staysActive, Binding.isExpiredAt_eq_false_iff.2 h, Bool.not_false, Bool.and_true]

/-- **What a look retains, and what it reports.** Retained are exactly the
bindings whose id is known and whose life is not over, in order and as
often as they were there; they keep all but their mark, which stays just
where the binding is not yet due. One is reported active exactly when one
that is retained is. -/
theorem reconcile_spec (l : Ledger) (bs : List Binding) (ids : List String) (now : Instant) :
    (l.reconcile bs ids now).retained
        = (bs.filter fun b => b.id ∈ ids ∧ now < b.expiresAt).map (fun b =>
            { id := b.id
              isActive := b.isActive && !b.isRotationDueAt now l.policy.rotationInterval
              createdAt := b.createdAt
              expiresAt := b.expiresAt })
      ∧ ((l.reconcile bs ids now).hasActive = true ↔
          ∃ b ∈ (l.reconcile bs ids now).retained, b.isActive = true) := by
  refine ⟨?_, hasActive_iff⟩
  rw [retained_eq, List.filter_congr fun b _ => kept_eq_decide]
  refine List.map_congr_left fun b hb => settle_of_lt ?_
  have hkept := of_decide_eq_true (List.mem_filter.1 hb).2
  exact hkept.2

end Ledger

end CredentialRotation
