import CredentialRotation.Binding.Rotator
import CredentialRotation.Proofs.Dialogue
import Mathlib.Data.List.Induction

/-!
# Calls of a rotator

A rotator is called again and again, each time with the bindings that the
last successful call left. An `Occasion` is what one call meets: what the
clock shows and what the service answers, with nothing said about how the
clock moves from one call to the next. `Rotator.record` is the record
after any number of calls.

`after_cases` says once what a call can do to the record: leave it, settle
it with what the service knows, or settle it and add a binding because
none is active. What calls keep is read off these three
(`record_induction`), and what is true of all bindings of all records goes
by those that are issued on the way (`forall_record_iff`).
-/

namespace CredentialRotation

/-! ## The ledger -/

namespace Ledger

variable {l : Ledger} {bs : List Binding} {ids : List String} {now : Instant} {b : Binding}

/-- Settling changes neither the name nor the life of a binding. -/
@[simp] theorem settle_id : (l.settle now b).id = b.id := rfl
@[inherit_doc settle_id, simp] theorem settle_createdAt :
    (l.settle now b).createdAt = b.createdAt := rfl
@[inherit_doc settle_id, simp] theorem settle_expiresAt :
    (l.settle now b).expiresAt = b.expiresAt := rfl
@[simp] theorem settle_isActive : (l.settle now b).isActive = l.staysActive now b := rfl
@[simp] theorem settle_isExpiredAt : (l.settle now b).isExpiredAt now = b.isExpiredAt now := rfl

/-- What stays active was active, is not past its life and not yet due. -/
theorem staysActive_iff : l.staysActive now b = true ↔
    b.isActive = true ∧ b.isExpiredAt now = false
      ∧ b.isRotationDueAt now l.policy.rotationInterval = false := by
  simp [staysActive, and_assoc]

/-- What is retained: the known bindings that are not past their life,
settled, in order. -/
theorem retained_eq : (l.reconcile bs ids now).retained =
    (bs.filter fun b => b.id ∈ ids && !b.isExpiredAt now).map (l.settle now) := by
  simp only [reconcile, List.filter_map, List.filter_filter]
  congr 1
  refine List.filter_congr fun b _ => ?_
  simp [Bool.and_comm]

theorem mem_retained : b ∈ (l.reconcile bs ids now).retained ↔
    ∃ b' ∈ bs, b'.id ∈ ids ∧ b'.isExpiredAt now = false ∧ l.settle now b' = b := by
  simp [retained_eq, and_assoc]

/-- What settling keeps holds of all that is retained. -/
theorem forall_retained {P : Binding → Prop} (hsettle : ∀ b, P b → P (l.settle now b))
    (h : ∀ b ∈ bs, P b) : ∀ b ∈ (l.reconcile bs ids now).retained, P b := by
  intro b hb
  obtain ⟨b', hb', -, -, rfl⟩ := mem_retained.1 hb
  exact hsettle b' (h b' hb')

/-- A binding is reported active exactly when one that is retained is:
what is past its life is no longer active when it goes. -/
theorem hasActive_iff : (l.reconcile bs ids now).hasActive = true ↔
    ∃ b ∈ (l.reconcile bs ids now).retained, b.isActive = true := by
  simp only [mem_retained]
  constructor
  · intro h
    simp only [reconcile, List.any_map, List.any_filter, List.any_eq_true, Bool.and_eq_true,
      decide_eq_true_eq, Function.comp_apply, settle_isActive] at h
    obtain ⟨b, hb, hid, hact⟩ := h
    exact ⟨l.settle now b, ⟨b, hb, hid, (staysActive_iff.1 hact).2.1, rfl⟩, hact⟩
  · rintro ⟨_, ⟨b, hb, hid, -, rfl⟩, hact⟩
    simp only [reconcile, List.any_map, List.any_filter, List.any_eq_true, Bool.and_eq_true,
      decide_eq_true_eq, Function.comp_apply]
    exact ⟨b, hb, hid, hact⟩

/-- And so none is reported exactly when none that is retained is. -/
theorem hasActive_eq_false_iff : (l.reconcile bs ids now).hasActive = false ↔
    ∀ b ∈ (l.reconcile bs ids now).retained, b.isActive = false := by
  rw [← Bool.not_eq_true, hasActive_iff]
  simp

/-- Of the ids that the service knows only which they are counts. -/
theorem reconcile_congr {ids' : List String} (h : ∀ id, id ∈ ids ↔ id ∈ ids') :
    l.reconcile bs ids now = l.reconcile bs ids' now := by
  simp only [reconcile, h]

end Ledger

/-! ## Calls -/

/-- What a call of a rotator meets: the clock once the service has listed
what it knows and once it has issued a binding, and its answers to both
questions. -/
structure Occasion where
  now : Instant
  later : Instant := now
  listed : Except ServiceError (List String)
  created : Except ServiceError Issued

/-- The service on an occasion. -/
def Occasion.peer (o : Occasion) : (q : ServiceCall) → q.Answer
  | .list _ => o.listed
  | .create .. => o.created
  | .delete .. => .ok ()

/-- A call of a rotator. -/
inductive Call
  | observe (o : Occasion)
  | rotate (o : Occasion)

/-- What a call meets. -/
def Call.occasion : Call → Occasion
  | .observe o => o
  | .rotate o => o

namespace Rotator

variable (r : Rotator) (bs : List Binding) (o : Occasion)

/-- What an observation on an occasion gives. -/
def observed : Except ServiceError Reconciled := (r.observe bs o.now).eval o.peer

/-- What a pass on an occasion gives. -/
def rotated : Except ServiceError Rotated := (r.rotate bs o.now o.later).eval o.peer

/-- The binding that a pass on an occasion issues, if it issues one. -/
def issued? : Option Binding :=
  match r.rotated bs o with
  | .ok out => if out.details.isSome then out.bindings.getLast? else none
  | .error _ => none

/-- What a pass on an occasion asks the service. -/
def requests : List ServiceCall := (r.rotate bs o.now o.later).asked o.peer

/-- The record after a call: what the call leaves, or the record as it was
where the call fails. -/
def after : Call → List Binding
  | .observe o =>
    match r.observed bs o with
    | .ok seen => seen.retained
    | .error _ => bs
  | .rotate o =>
    match r.rotated bs o with
    | .ok out => out.bindings
    | .error _ => bs

/-- The record after calls, one after the other. -/
def record (calls : List Call) : List Binding := calls.foldl r.after bs

variable {r bs o} {ids : List String} {e : ServiceError}

/-! ## What calls do -/

/-- An observation settles the bindings with the list, if there is one. -/
theorem observed_eq :
    r.observed bs o = o.listed.map fun ids => r.ledger.reconcile bs ids o.now := by
  simp only [observed, observe, Dialogue.eval, Occasion.peer]
  cases o.listed <;> rfl

/-- **What a pass gives.** A pass that succeeds got a list, and either a
binding is active then, or the service issued one. -/
theorem rotated_eq_ok_iff {out : Rotated} : r.rotated bs o = .ok out ↔
    ∃ ids, o.listed = .ok ids ∧
      ((r.ledger.reconcile bs ids o.now).hasActive = true
          ∧ out = ⟨(r.ledger.reconcile bs ids o.now).retained, none⟩
        ∨ (r.ledger.reconcile bs ids o.now).hasActive = false
          ∧ ∃ i, o.created = .ok i
            ∧ out = ⟨Ledger.record (r.ledger.reconcile bs ids o.now).retained i.id o.later
                i.expiresAt,
              some (details (.issued i.id o.later i.expiresAt) i.kubeconfig)⟩) := by
  simp only [rotated, rotate, observe, Dialogue.bind_ask, Dialogue.eval, Occasion.peer]
  cases o.listed with
  | error e => simp [Dialogue.eval]
  | ok ids =>
    simp only [Dialogue.bind_done, Except.ok.injEq, exists_eq_left']
    cases (r.ledger.reconcile bs ids o.now).hasActive with
    | true => simp [Dialogue.eval, eq_comm]
    | false =>
      simp only [issue, Bool.false_eq_true, if_false, Dialogue.eval, Occasion.peer, false_and,
        false_or, true_and]
      cases o.created with
      | error e => simp [Dialogue.eval]
      | ok i => simp [Dialogue.eval, eq_comm]

/-- **What a pass asks.** It asks for the list, and for a binding exactly
when it got a list and no binding is active then. -/
theorem mem_requests_create {resource : String} {ttl : Int} :
    .create resource ttl ∈ r.requests bs o ↔
      (resource = r.resource ∧ ttl = r.policy.ttlSeconds)
        ∧ ∃ ids, o.listed = .ok ids ∧ (r.ledger.reconcile bs ids o.now).hasActive = false := by
  simp only [requests, rotate, observe, Dialogue.bind_ask, Dialogue.asked, Occasion.peer,
    List.mem_cons, reduceCtorEq, false_or]
  cases o.listed with
  | error e => simp [Dialogue.asked]
  | ok ids =>
    simp only [Dialogue.bind_done, Except.ok.injEq, exists_eq_left']
    cases (r.ledger.reconcile bs ids o.now).hasActive with
    | true => simp [Dialogue.asked]
    | false =>
      simp only [issue, Bool.false_eq_true, if_false, Dialogue.asked, Occasion.peer]
      cases o.created <;> simp [Dialogue.asked]

/-- A pass fails where the list does, and where a binding is needed and
cannot be had. -/
theorem rotated_eq_error_iff : r.rotated bs o = .error e ↔
    o.listed = .error e ∨ ∃ ids, o.listed = .ok ids
      ∧ (r.ledger.reconcile bs ids o.now).hasActive = false ∧ o.created = .error e := by
  simp only [rotated, rotate, observe, Dialogue.bind_ask, Dialogue.eval, Occasion.peer]
  cases o.listed with
  | error e' => simp [Dialogue.eval]
  | ok ids =>
    simp only [Dialogue.bind_done, Except.ok.injEq, exists_eq_left', reduceCtorEq, false_or]
    cases (r.ledger.reconcile bs ids o.now).hasActive with
    | true => simp [Dialogue.eval]
    | false =>
      simp only [issue, Bool.false_eq_true, if_false, Dialogue.eval, Occasion.peer, true_and]
      cases o.created <;> simp [Dialogue.eval]

/-- A pass that needs a binding asks for the list and then for it. -/
theorem requests_of_needed (hlisted : o.listed = .ok ids)
    (hnone : (r.ledger.reconcile bs ids o.now).hasActive = false) :
    r.requests bs o = [.list r.resource, .create r.resource r.policy.ttlSeconds] := by
  simp only [requests, rotate, observe, Dialogue.bind_ask, Dialogue.asked, Occasion.peer, hlisted,
    Dialogue.bind_done, hnone, Bool.false_eq_true, if_false, issue]
  cases o.created <;> rfl

/-- Any other pass asks for the list alone. -/
theorem requests_of_not_needed
    (h : ∀ ids, o.listed = .ok ids → (r.ledger.reconcile bs ids o.now).hasActive = true) :
    r.requests bs o = [.list r.resource] := by
  simp only [requests, rotate, observe, Dialogue.bind_ask, Dialogue.asked, Occasion.peer]
  cases hlisted : o.listed with
  | error e => rfl
  | ok ids =>
    simp only [Dialogue.bind_done, h ids hlisted, if_true]
    rfl

/-- **When a pass issues a binding**, and which. -/
theorem issued?_eq_some_iff {b : Binding} : r.issued? bs o = some b ↔
    ∃ ids, o.listed = .ok ids ∧ (r.ledger.reconcile bs ids o.now).hasActive = false
      ∧ ∃ i, o.created = .ok i ∧ .issued i.id o.later i.expiresAt = b := by
  constructor
  · intro h
    unfold issued? at h
    cases hout : r.rotated bs o with
    | error e =>
      rw [hout] at h
      cases h
    | ok out =>
      rw [hout] at h
      obtain ⟨ids, hids, ⟨-, rfl⟩ | ⟨hact, i, hi, rfl⟩⟩ := rotated_eq_ok_iff.1 hout
      · cases h
      · exact ⟨ids, hids, hact, i, hi, by simpa [Ledger.record] using h⟩
  · rintro ⟨ids, hids, hact, i, hi, rfl⟩
    have hout := rotated_eq_ok_iff.2 ⟨ids, hids, Or.inr ⟨hact, i, hi, rfl⟩⟩
    simp [issued?, hout, Ledger.record]

/-- **What a call can do to the record.** -/
theorem after_cases (r : Rotator) (bs : List Binding) (call : Call) :
    r.after bs call = bs
      ∨ (∃ ids, call.occasion.listed = .ok ids
          ∧ r.after bs call = (r.ledger.reconcile bs ids call.occasion.now).retained)
      ∨ ∃ o ids b, call = .rotate o ∧ o.listed = .ok ids ∧ r.issued? bs o = some b
          ∧ r.after bs call = (r.ledger.reconcile bs ids o.now).retained ++ [b] := by
  cases call with
  | observe o =>
    simp only [after, observed_eq, Call.occasion]
    cases o.listed with
    | error e => exact Or.inl rfl
    | ok ids => exact Or.inr (Or.inl ⟨ids, rfl, rfl⟩)
  | rotate o =>
    cases h : r.rotated bs o with
    | error e => exact Or.inl (by simp only [after, h])
    | ok out =>
      obtain ⟨ids, hids, ⟨-, rfl⟩ | ⟨hact, i, hi, rfl⟩⟩ := rotated_eq_ok_iff.1 h
      · exact Or.inr (Or.inl ⟨ids, hids, by simp only [after, h, Call.occasion]⟩)
      · exact Or.inr (Or.inr ⟨o, ids, _, rfl, hids,
          issued?_eq_some_iff.2 ⟨ids, hids, hact, i, hi, rfl⟩,
          by simp only [after, h, Ledger.record]⟩)

/-- A binding that a pass issues is active from then on in the record. -/
theorem mem_after_of_issued {b : Binding} (h : r.issued? bs o = some b) :
    b ∈ r.after bs (.rotate o) ∧ b.isActive = true := by
  obtain ⟨ids, hids, hact, i, hi, rfl⟩ := issued?_eq_some_iff.1 h
  have hout := rotated_eq_ok_iff.2 ⟨ids, hids, Or.inr ⟨hact, i, hi, rfl⟩⟩
  simp [after, hout, Ledger.record, Binding.issued]

section Every

variable {P : Binding → Prop} (hsettle : ∀ now b, P b → P (r.ledger.settle now b))

include hsettle

/-- **One call** keeps what settling keeps and the binding has that it
issues, if it issues one. -/
theorem forall_after {call : Call} (h : ∀ b ∈ bs, P b)
    (hissued : ∀ o b, call = .rotate o → r.issued? bs o = some b → P b) :
    ∀ b ∈ r.after bs call, P b := by
  have hretained (ids : List String) (now : Instant) :
      ∀ b ∈ (r.ledger.reconcile bs ids now).retained, P b :=
    Ledger.forall_retained (hsettle now) h
  obtain heq | ⟨ids, -, heq⟩ | ⟨o, ids, b, hcall, -, hb, heq⟩ := after_cases r bs call
  · rw [heq]
    exact h
  · rw [heq]
    exact hretained ids _
  · rw [heq, List.forall_mem_append, List.forall_mem_singleton]
    exact ⟨hretained ids _, hissued o b hcall hb⟩

end Every

theorem record_cons {call : Call} {calls : List Call} :
    r.record bs (call :: calls) = r.record (r.after bs call) calls := rfl

theorem record_append {calls more : List Call} :
    r.record bs (calls ++ more) = r.record (r.record bs calls) more :=
  List.foldl_append

/-- **What every call keeps, calls keep.** -/
theorem record_induction {P : List Binding → Prop} (hstart : P bs)
    (hstep : ∀ bs call, P bs → P (r.after bs call)) (calls : List Call) :
    P (r.record bs calls) := by
  induction calls generalizing bs with
  | nil => exact hstart
  | cons call calls ih => exact ih (hstep bs call hstart)

/-- **Every binding of every record** on the way is as every binding is
that is issued on the way. -/
theorem forall_record_iff {P : Binding → Prop}
    (hsettle : ∀ now b, P b → P (r.ledger.settle now b)) (hstart : ∀ b ∈ bs, P b)
    {calls : List Call} :
    (∀ before, before <+: calls → ∀ b ∈ r.record bs before, P b) ↔
      ∀ before o b, before ++ [.rotate o] <+: calls →
        r.issued? (r.record bs before) o = some b → P b := by
  constructor
  · intro hall before o b hprefix hb
    refine hall _ hprefix b ?_
    rw [record_append, record_cons]
    exact (mem_after_of_issued hb).1
  · intro hissued before
    induction before using List.reverseRecOn with
    | nil => exact fun _ => hstart
    | append_singleton before call ih =>
      intro hprefix
      have hbefore := ih ((List.prefix_append _ _).trans hprefix)
      rw [record_append]
      refine forall_after hsettle hbefore fun o b hcall hb => ?_
      exact hissued before o b (hcall ▸ hprefix) hb

/-! ## Services

The service need not be the one of an occasion: a pass with any service is
a pass on the occasion that its two answers make up. -/

/-- What a rotator meets with a service. -/
def occasion (r : Rotator) (now later : Instant) (service : (q : ServiceCall) → q.Answer) :
    Occasion where
  now
  later
  listed := service (.list r.resource)
  created := service (.create r.resource r.policy.ttlSeconds)

variable {now later : Instant} (service : (q : ServiceCall) → q.Answer)

/-- A pass with a service gives what it gives on the occasion. -/
theorem eval_rotate : (r.rotate bs now later).eval service
    = r.rotated bs (r.occasion now later service) := by
  simp only [rotated, rotate, observe, Dialogue.bind_ask, Dialogue.eval, Occasion.peer, occasion]
  cases service (.list r.resource) with
  | error e => rfl
  | ok ids =>
    simp only [Dialogue.bind_done]
    split
    · rfl
    · simp only [issue, Dialogue.eval, Occasion.peer]
      cases service (.create r.resource r.policy.ttlSeconds) <;> rfl

/-- And asks what it asks there. -/
theorem asked_rotate : (r.rotate bs now later).asked service
    = r.requests bs (r.occasion now later service) := by
  simp only [requests, rotate, observe, Dialogue.bind_ask, Dialogue.asked, Occasion.peer, occasion]
  cases service (.list r.resource) with
  | error e => rfl
  | ok ids =>
    simp only [Dialogue.bind_done]
    split
    · rfl
    · simp only [issue, Dialogue.asked, Occasion.peer]
      cases service (.create r.resource r.policy.ttlSeconds) <;> rfl

end Rotator

end CredentialRotation
