import CredentialRotation.Proofs.Login.Cause

/-!
# What callers see of a fault

A fault may come in any number of wrappers. `rootCause` is the one plain
fault inside them (`rootCause_eq_iff`), and the failure that callers see
is that of the root cause, however deep it lies (`toFailure_rootCause`).

A caller who wants to know whether to try again can ask the fault or the
failure made of it. Both tell a deadline from a cancellation, and both
from everything else, in the same way (`failure_of_root`).
-/

namespace CredentialRotation

namespace Failure

/-- An operation is interrupted by a deadline or by a cancellation. -/
theorem isInterrupted_iff {f : Failure} :
    f.isInterrupted = true ↔ (∃ activity, f = .timeout activity) ∨ f = .cancelled := by
  cases f <;> simp [isInterrupted]

end Failure

namespace LoginError

/-- `root.Inside e`: `e` is `root` in wrappers, one around the other, or
in none. -/
inductive Inside (root : LoginError) : LoginError → Prop
  /-- Without a wrapper. -/
  | bare : Inside root root
  /-- With one wrapper more. -/
  | wrapped {cause : LoginError} (h : Inside root cause) : Inside root (.authentication cause)

variable {e root : LoginError} {activity : String}

/-! ## The root cause -/

theorem isPlain_rootCause (e : LoginError) : e.rootCause.IsPlain := by
  induction e with
  | authentication cause ih => exact ih
  | _ => simp [rootCause, IsPlain]

theorem inside_rootCause (e : LoginError) : e.rootCause.Inside e := by
  induction e with
  | authentication cause ih => exact .wrapped ih
  | _ => exact .bare

/-- **The root cause** is the plain fault inside all wrappers, and there is
no other. -/
theorem rootCause_eq_iff : e.rootCause = root ↔ root.IsPlain ∧ root.Inside e := by
  constructor
  · rintro rfl
    exact ⟨isPlain_rootCause e, inside_rootCause e⟩
  · rintro ⟨hplain, hinside⟩
    induction hinside with
    | bare => exact rootCause_of_isPlain hplain
    | wrapped _ ih => exact ih

/-! ## The failure -/

/-- **Wrappers do not show** in the failure. -/
theorem toFailure_rootCause (e : LoginError) : e.rootCause.toFailure = e.toFailure := by
  induction e with
  | authentication cause ih => exact ih
  | _ => rfl

/-- No fault of a login is that an object is missing. -/
theorem isNotFound_toFailure (e : LoginError) : e.toFailure.isNotFound = false := by
  induction e with
  | authentication cause ih => exact ih
  | _ => rfl

/-- A deadline shows as one, with what it cut off. -/
theorem toFailure_eq_timeout_iff :
    e.toFailure = .timeout activity ↔ e.rootCause = .timeout activity := by
  induction e with
  | authentication cause ih => exact ih
  | _ => simp [toFailure, rootCause]

/-- A cancellation shows as one. -/
theorem toFailure_eq_cancelled_iff : e.toFailure = .cancelled ↔ e.rootCause = .cancelled := by
  induction e with
  | authentication cause ih => exact ih
  | _ => simp [toFailure, rootCause]

theorem isTimeout_iff : e.isTimeout = true ↔ ∃ activity, e.rootCause = .timeout activity := by
  unfold isTimeout
  cases e.rootCause <;> simp

theorem isCancelled_iff : e.isCancelled = true ↔ e.rootCause = .cancelled := by
  unfold isCancelled
  cases e.rootCause <;> simp

/-- **A fault and its failure agree.** Whatever wrappers a fault is in, the
failure is that of the one plain fault inside them. It is a deadline or a
cancellation just if the fault is, it is interrupted just if the fault is
one of the two, and it is never a missing object. -/
theorem failure_of_root (e : LoginError) :
    (e.rootCause.IsPlain ∧ e.rootCause.Inside e)
      ∧ e.toFailure = e.rootCause.toFailure
      ∧ (e.toFailure.isInterrupted = true ↔ e.isTimeout = true ∨ e.isCancelled = true)
      ∧ ((∃ activity, e.toFailure = .timeout activity) ↔ e.isTimeout = true)
      ∧ (e.toFailure = .cancelled ↔ e.isCancelled = true)
      ∧ e.toFailure.isNotFound = false := by
  have htimeout : (∃ activity, e.toFailure = .timeout activity) ↔ e.isTimeout = true := by
    simp only [toFailure_eq_timeout_iff, isTimeout_iff]
  have hcancelled : e.toFailure = .cancelled ↔ e.isCancelled = true := by
    rw [toFailure_eq_cancelled_iff, isCancelled_iff]
  refine ⟨rootCause_eq_iff.1 rfl, (toFailure_rootCause e).symm, ?_, htimeout, hcancelled,
    isNotFound_toFailure e⟩
  rw [Failure.isInterrupted_iff, htimeout, hcancelled]

end LoginError

end CredentialRotation
