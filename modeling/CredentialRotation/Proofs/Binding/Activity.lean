import CredentialRotation.Proofs.Binding.Calls

/-!
# One active binding

At most one binding of record is active, whatever the service answers and
wherever the clock goes between two calls. Settling never makes a binding
active, so it can only lower the count (`activeCount_retained_le`); a
binding is added only when the count has come down to nothing
(`activeCount_retained_eq_zero`). So a pass that succeeds ends with
exactly one.
-/

namespace CredentialRotation

/-- How many bindings are active. -/
def Binding.activeCount (bs : List Binding) : Nat := bs.countP (·.isActive)

open Binding (activeCount)

/-! ## What the ledger does to the count -/

namespace Ledger

variable {l : Ledger} {bs : List Binding} {ids : List String} {now : Instant}

/-- **Settling makes nothing active.** -/
theorem activeCount_retained_le :
    activeCount (l.reconcile bs ids now).retained ≤ activeCount bs := by
  rw [retained_eq, activeCount, List.countP_map]
  calc
    List.countP ((·.isActive) ∘ l.settle now)
        (bs.filter fun b => b.id ∈ ids && !b.isExpiredAt now)
      ≤ List.countP (·.isActive) (bs.filter fun b => b.id ∈ ids && !b.isExpiredAt now) :=
        List.countP_mono_left fun b _ hb => (staysActive_iff.1 hb).1
    _ ≤ activeCount bs := List.filter_sublist.countP_le

/-- Where none is reported active, none that is retained counts. -/
theorem activeCount_retained_eq_zero (h : (l.reconcile bs ids now).hasActive = false) :
    activeCount (l.reconcile bs ids now).retained = 0 := by
  rw [activeCount, List.countP_eq_zero]
  intro b hb
  rw [hasActive_eq_false_iff.1 h b hb]
  exact Bool.false_ne_true

/-- Where one is reported active, one that is retained counts. -/
theorem activeCount_retained_pos (h : (l.reconcile bs ids now).hasActive = true) :
    0 < activeCount (l.reconcile bs ids now).retained := by
  obtain ⟨b, hb, hact⟩ := hasActive_iff.1 h
  exact List.countP_pos_iff.2 ⟨b, hb, hact⟩

/-- A binding just issued counts. -/
theorem activeCount_record {id : String} {expiresAt : Instant} :
    activeCount (record bs id now expiresAt) = activeCount bs + 1 := by
  simp [activeCount, record, Binding.issued]

end Ledger

/-! ## What calls do to it -/

namespace Rotator

variable {r : Rotator} {bs : List Binding} {o : Occasion}

/-- **One call.** -/
theorem activeCount_after_le_one (h : activeCount bs ≤ 1) (call : Call) :
    activeCount (r.after bs call) ≤ 1 := by
  obtain heq | ⟨ids, -, heq⟩ | ⟨o, ids, b, -, hids, hb, heq⟩ := after_cases r bs call
  · rw [heq]
    exact h
  · rw [heq]
    exact Nat.le_trans Ledger.activeCount_retained_le h
  · obtain ⟨ids', hids', hact, i, -, rfl⟩ := issued?_eq_some_iff.1 hb
    obtain rfl := Except.ok.inj (hids.symm.trans hids')
    refine Nat.le_of_eq ?_
    rw [heq, ← Ledger.record, Ledger.activeCount_record,
      Ledger.activeCount_retained_eq_zero hact]

/-- **A pass that succeeds** ends with one: the one it found, or the one
it added to none. -/
theorem activeCount_rotated (h : activeCount bs ≤ 1) {out : Rotated}
    (hout : r.rotated bs o = .ok out) : activeCount out.bindings = 1 := by
  obtain ⟨ids, -, ⟨hact, rfl⟩ | ⟨hact, i, -, rfl⟩⟩ := rotated_eq_ok_iff.1 hout
  · have hle : activeCount (r.ledger.reconcile bs ids o.now).retained ≤ activeCount bs :=
      Ledger.activeCount_retained_le
    have hpos := Ledger.activeCount_retained_pos hact
    dsimp only
    omega
  · rw [Ledger.activeCount_record, Ledger.activeCount_retained_eq_zero hact]

/-- **One active binding at most, and one after every pass.** From a record
with at most one active binding, over any calls: every record reached has
at most one, a pass that succeeds there leaves exactly one, and a pass
asks for a new binding exactly when it has got a list and none is active
once the record is settled with it. -/
theorem one_active_throughout (r : Rotator) (bs : List Binding) (hstart : activeCount bs ≤ 1)
    (calls : List Call) :
    activeCount (r.record bs calls) ≤ 1
      ∧ (∀ o out, r.rotated (r.record bs calls) o = .ok out → activeCount out.bindings = 1)
      ∧ ∀ o, (∃ resource ttl, .create resource ttl ∈ r.requests (r.record bs calls) o) ↔
          ∃ ids, o.listed = .ok ids
            ∧ ∀ b ∈ (r.ledger.reconcile (r.record bs calls) ids o.now).retained,
              b.isActive = false := by
  have hcount : activeCount (r.record bs calls) ≤ 1 :=
    record_induction (P := fun bs => activeCount bs ≤ 1) hstart
      (fun _ call h => activeCount_after_le_one h call) calls
  refine ⟨hcount, fun o out hout => activeCount_rotated hcount hout, fun o => ?_⟩
  simp only [mem_requests_create, Ledger.hasActive_eq_false_iff]
  constructor
  · rintro ⟨resource, ttl, -, ids, hids, hnone⟩
    exact ⟨ids, hids, hnone⟩
  · rintro ⟨ids, hids, hnone⟩
    exact ⟨r.resource, r.policy.ttlSeconds, ⟨rfl, rfl⟩, ids, hids, hnone⟩

/-- At work: a binding that is past its interval, a service that refuses,
then one that issues while the clock has gone back. -/
theorem one_active_throughout_clock_back :
    let r : Rotator := ⟨{}, "env"⟩
    let old : Binding := .issued "old" .epoch ⟨4500, 0, by decide, by decide, by decide, by decide⟩
    let due : Instant := ⟨3600, 0, by decide, by decide, by decide, by decide⟩
    let calls : List Call :=
      [.rotate ⟨due, due, .ok ["old"], .error .transport⟩,
        .rotate ⟨due, .epoch, .ok ["old"],
          .ok ⟨"new", ⟨4500, 0, by decide, by decide, by decide, by decide⟩, ""⟩⟩,
        .observe ⟨.epoch, .epoch, .ok ["new", "old"], .error .transport⟩]
    activeCount [old] ≤ 1 ∧ (r.record [old] calls).map (·.isActive) = [false, true]
      ∧ activeCount (r.record [old] calls) ≤ 1
      ∧ (∀ o out, r.rotated (r.record [old] calls) o = .ok out → activeCount out.bindings = 1)
      ∧ ∀ o, (∃ resource ttl, .create resource ttl ∈ r.requests (r.record [old] calls) o) ↔
          ∃ ids, o.listed = .ok ids
            ∧ ∀ b ∈ (r.ledger.reconcile (r.record [old] calls) ids o.now).retained,
              b.isActive = false := by
  intro r old due calls
  exact ⟨by decide, by decide, one_active_throughout r [old] (by decide) calls⟩

end Rotator

end CredentialRotation
