import CredentialRotation.Proofs.Binding.History

/-!
# How often bindings are issued

A binding that a pass has issued is active, and no call takes that from
it before its time: as long as the service lists it, it stays in the
record as it is until its interval has gone by or its life is over
(`mem_record_or_isSpentAt`). A pass issues another one only where none is
active, so the next one waits for that (`issued_again`), whatever else
the record holds and whichever calls fail.
-/

namespace CredentialRotation

variable {r : Rotator} {b b' : Binding} {bs : List Binding} {ids : List String}
variable {now now' : Instant} {o : Occasion}

/-! ## The time of a binding -/

namespace Binding

/-- `b` has been in use for the whole interval, or its life is over. -/
def IsSpentAt (b : Binding) (now : Instant) (interval : Span) : Prop :=
  b.isRotationDueAt now interval = true ∨ b.isExpiredAt now = true

/-- What is spent stays so. -/
theorem IsSpentAt.mono {interval : Span} (hb : b.IsSpentAt now interval) (h : now ≤ now') :
    b.IsSpentAt now' interval :=
  hb.imp (isRotationDueAt_of_le h) (isExpiredAt_of_le h)

/-- **The instant from which on a binding is spent**: its deadline, which
is not before the interval has gone by, or the end of its life. -/
theorem isSpentAt_iff {interval : Span} : b.IsSpentAt now interval ↔
    (∃ deadline, b.createdAt.add? interval = some deadline ∧ deadline ≤ now
      ∧ b.createdAt.base + interval.nanos ≤ now.total) ∨ b.expiresAt ≤ now := by
  rw [IsSpentAt, isRotationDueAt_iff, isExpiredAt, decide_eq_true_eq]
  refine or_congr_left (exists_congr fun deadline => and_congr_right fun hadd => ?_)
  rw [iff_self_and]
  exact Instant.base_add_le_total hadd

end Binding

/-! ## What a call does to an active binding -/

namespace Ledger

variable {l : Ledger}

/-- A binding that is active stays so until it is spent. -/
theorem staysActive_of_not_isSpentAt (hact : b.isActive = true)
    (h : ¬ b.IsSpentAt now l.policy.rotationInterval) : l.staysActive now b = true := by
  rw [Binding.IsSpentAt, not_or, Bool.not_eq_true, Bool.not_eq_true] at h
  exact staysActive_iff.2 ⟨hact, h.2, h.1⟩

/-- What stays active is retained as it is, if it is known. -/
theorem mem_retained_of_staysActive (hb : b ∈ bs) (hid : b.id ∈ ids)
    (h : l.staysActive now b = true) : b ∈ (l.reconcile bs ids now).retained := by
  obtain ⟨hact, hexp, -⟩ := staysActive_iff.1 h
  refine mem_retained.2 ⟨b, hb, hid, hexp, ?_⟩
  rw [settle, h, ← hact]

end Ledger

namespace Rotator

/-- **One call** that lists an active binding leaves it, unless it is
spent. -/
theorem mem_after_or_isSpentAt {call : Call} (hb : b ∈ bs) (hact : b.isActive = true)
    (hlisted : ∀ ids, call.occasion.listed = .ok ids → b.id ∈ ids) :
    b ∈ r.after bs call ∨ b.IsSpentAt call.occasion.now r.policy.rotationInterval := by
  by_cases hspent : b.IsSpentAt call.occasion.now r.policy.rotationInterval
  · exact Or.inr hspent
  left
  have hstays := Ledger.staysActive_of_not_isSpentAt (l := r.ledger) hact hspent
  obtain heq | ⟨ids, hids, heq⟩ | ⟨o, ids, b', rfl, hids, -, heq⟩ := after_cases r bs call
  · rw [heq]
    exact hb
  · rw [heq]
    exact Ledger.mem_retained_of_staysActive hb (hlisted ids hids) hstays
  · rw [heq]
    exact List.mem_append_left _
      (Ledger.mem_retained_of_staysActive hb (hlisted ids hids) hstays)

/-- **Any number of calls** that list it leave it, unless it was spent at
one of them. -/
theorem mem_record_or_isSpentAt {calls : List Call} (hb : b ∈ bs) (hact : b.isActive = true)
    (hlisted : ∀ call ∈ calls, ∀ ids, call.occasion.listed = .ok ids → b.id ∈ ids) :
    b ∈ r.record bs calls
      ∨ ∃ call ∈ calls, b.IsSpentAt call.occasion.now r.policy.rotationInterval := by
  induction calls generalizing bs with
  | nil => exact Or.inl hb
  | cons call calls ih =>
    rw [List.forall_mem_cons] at hlisted
    rcases mem_after_or_isSpentAt (r := r) hb hact hlisted.1 with hafter | hspent
    · rcases ih hafter hlisted.2 with hrecord | ⟨call', hmem, hspent⟩
      · exact Or.inl hrecord
      · exact Or.inr ⟨call', List.mem_cons_of_mem _ hmem, hspent⟩
    · exact Or.inr ⟨call, List.mem_cons_self, hspent⟩

/-- A pass that issues a binding has found those that are active spent, as
far as they are listed. -/
theorem isSpentAt_of_issued (h : r.issued? bs o = some b') (hb : b ∈ bs)
    (hact : b.isActive = true) (hlisted : ∀ ids, o.listed = .ok ids → b.id ∈ ids) :
    b.IsSpentAt o.now r.policy.rotationInterval := by
  obtain ⟨ids, hids, hnone, -⟩ := issued?_eq_some_iff.1 h
  by_contra hspent
  have hmem := Ledger.mem_retained_of_staysActive hb (hlisted ids hids)
    (Ledger.staysActive_of_not_isSpentAt (l := r.ledger) hact hspent)
  rw [Ledger.hasActive_eq_false_iff.1 hnone b hmem] at hact
  cases hact

/-- **A binding lasts for its interval.** Let a pass issue `b`, and a later
pass, `o₂`, another one. If the clock does not go back from the calls
between to `o₂`, and whatever lists the service gives from then to `o₂` have
`b`, then `o₂` comes no earlier than the interval after the creation of
`b`, without a bound on the sum, or no earlier than the end of its life. -/
theorem issued_again (r : Rotator) (bs : List Binding) (before between : List Call)
    (o₁ o₂ : Occasion) (b b' : Binding)
    (hfirst : r.issued? (r.record bs before) o₁ = some b)
    (hsecond : r.issued? (r.record bs (before ++ .rotate o₁ :: between)) o₂ = some b')
    (hclock : ∀ call ∈ between, call.occasion.now ≤ o₂.now)
    (hlisted : ∀ call ∈ between ++ [.rotate o₂], ∀ ids,
      call.occasion.listed = .ok ids → b.id ∈ ids) :
    (∃ deadline, b.createdAt.add? r.policy.rotationInterval = some deadline
        ∧ deadline ≤ o₂.now
        ∧ b.createdAt.base + r.policy.rotationInterval.nanos ≤ o₂.now.total)
      ∨ b.expiresAt ≤ o₂.now := by
  rw [← Binding.isSpentAt_iff]
  obtain ⟨hmem, hact⟩ := mem_after_of_issued hfirst
  rw [List.forall_mem_append, List.forall_mem_singleton] at hlisted
  rw [record_append, record_cons] at hsecond
  rcases mem_record_or_isSpentAt (r := r) hmem hact hlisted.1 with hrecord | ⟨call, hcall, hspent⟩
  · exact isSpentAt_of_issued hsecond hrecord hact hlisted.2
  · exact hspent.mono (hclock call hcall)

/-- At work: an observation, a pass that gets no list and one that finds
the binding active lie between the issue of the first binding and that of
the second, an hour later. -/
theorem issued_again_an_hour_later :
    let r : Rotator := ⟨{}, "env"⟩
    let second (s : Int) : Instant := (Instant.ofSeconds? s).getD .epoch
    let b : Binding := .issued "a" .epoch (second 4500)
    let b' : Binding := .issued "b" (second 3600) (second 8100)
    let o₁ : Occasion := ⟨.epoch, .epoch, .ok [], .ok ⟨"a", second 4500, ""⟩⟩
    let o₂ : Occasion := ⟨second 3600, second 3600, .ok ["x", "a"], .ok ⟨"b", second 8100, ""⟩⟩
    let between : List Call := [.observe ⟨second 600, second 600, .ok ["a"], .error .transport⟩,
      .rotate ⟨second 1200, second 1200, .error .transport, .error .transport⟩,
      .rotate ⟨second 3599, second 3599, .ok ["a"], .ok ⟨"c", second 8100, ""⟩⟩]
    r.issued? (r.record [] []) o₁ = some b
      ∧ r.issued? (r.record [] ([] ++ .rotate o₁ :: between)) o₂ = some b'
      ∧ (∀ call ∈ between, call.occasion.now ≤ o₂.now)
      ∧ (∀ call ∈ between ++ [.rotate o₂], ∀ ids, call.occasion.listed = .ok ids → b.id ∈ ids)
      ∧ ((∃ deadline, b.createdAt.add? r.policy.rotationInterval = some deadline
          ∧ deadline ≤ o₂.now
          ∧ b.createdAt.base + r.policy.rotationInterval.nanos ≤ o₂.now.total)
        ∨ b.expiresAt ≤ o₂.now) := by
  intro r second b b' o₁ o₂ between
  have hfirst : r.issued? (r.record [] []) o₁ = some b := by decide
  have hsecond : r.issued? (r.record [] ([] ++ .rotate o₁ :: between)) o₂ = some b' := by decide
  have hclock : ∀ call ∈ between, call.occasion.now ≤ o₂.now := by decide
  have hlisted : ∀ call ∈ between ++ [.rotate o₂], ∀ ids,
      call.occasion.listed = .ok ids → b.id ∈ ids := by
    intro call hcall ids hids
    simp only [between, List.cons_append, List.nil_append, List.mem_cons, List.not_mem_nil,
      or_false] at hcall
    rcases hcall with rfl | rfl | rfl | rfl <;> cases hids <;> decide
  exact ⟨hfirst, hsecond, hclock, hlisted,
    issued_again r [] [] between o₁ o₂ b b' hfirst hsecond hclock hlisted⟩

end Rotator

end CredentialRotation
