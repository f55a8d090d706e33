import CredentialRotation.Proofs.Binding.History
import CredentialRotation.Proofs.Time.Ends

/-!
# Deadlines outside the calendar

A binding is due an interval after it was created. A ledger takes any
interval, also one that is negative, so that the deadline is a count of
nanoseconds that need not be an instant of the calendar. After the
calendar it is never reached, before the calendar it always has been; the
ledger only sees that there is no such instant, and takes both for the
first.

So a binding is due from its deadline on, unless that lies before the
calendar (`due_from_deadline`). The exception is against the rule: a
shorter interval can keep a binding active that a longer one does not
(`undue_before_the_calendar`).
-/

namespace CredentialRotation

variable {b : Binding} {bs : List Binding} {ids : List String} {now now' : Instant}
variable {interval interval' : Span} {l l' : Ledger}

namespace Binding

/-- When a binding is due, in nanoseconds and without a range. -/
def deadline (b : Binding) (interval : Span) : Int := b.createdAt.total + interval.nanos

/-- **When a binding is due**, if it was not created in a leap second. -/
theorem isRotationDueAt_iff_deadline (h : b.createdAt.isLeap = false) :
    b.isRotationDueAt now interval = true ↔
      Instant.firstTotal ≤ b.deadline interval ∧ b.deadline interval ≤ now.reached := by
  rw [isRotationDueAt_iff, Instant.exists_add?_le_iff h, deadline]

/-- What is due is due by a shorter interval, if that leaves the deadline
in the calendar. -/
theorem isRotationDueAt_of_shorter (h : b.createdAt.isLeap = false)
    (hshort : interval'.nanos ≤ interval.nanos)
    (hin : Instant.firstTotal ≤ b.deadline interval')
    (hdue : b.isRotationDueAt now interval = true) : b.isRotationDueAt now interval' = true := by
  rw [isRotationDueAt_iff_deadline h] at hdue ⊢
  refine ⟨hin, Int.le_trans ?_ hdue.2⟩
  simp only [deadline]
  omega

end Binding

namespace Ledger

/-- What stays active stays as it is. -/
theorem settle_of_staysActive (h : l.staysActive now b = true) : l.settle now b = b := by
  rw [settle, h, ← (staysActive_iff.1 h).1]

/-- The bindings that a look leaves active. -/
def active (l : Ledger) (bs : List Binding) (ids : List String) (now : Instant) : List Binding :=
  (l.reconcile bs ids now).retained.filter (·.isActive)

/-- They are those that stay active, as they were. -/
theorem active_eq : l.active bs ids now = bs.filter fun b => b.id ∈ ids && l.staysActive now b := by
  have hstays : ∀ b : Binding,
      ((l.settle now b).isActive && (b.id ∈ ids && !b.isExpiredAt now))
        = (b.id ∈ ids && l.staysActive now b) := by
    intro b
    rw [settle_isActive, Bool.eq_iff_iff]
    simp only [Bool.and_eq_true, staysActive_iff, Bool.not_eq_true']
    tauto
  rw [active, retained_eq, List.filter_map, List.filter_filter]
  simp only [Function.comp_apply, hstays]
  rw [List.map_congr_left (g := id) fun b hb => ?_, List.map_id]
  rw [List.mem_filter, Bool.and_eq_true] at hb
  exact settle_of_staysActive hb.2.2

/-- Where fewer stay active, fewer are left active. -/
theorem active_sublist
    (h : ∀ b ∈ bs, l'.staysActive now' b = true → l.staysActive now b = true) :
    (l'.active bs ids now').Sublist (l.active bs ids now) := by
  have heq : l'.active bs ids now' = (l.active bs ids now).filter (l'.staysActive now') := by
    rw [active_eq, active_eq, List.filter_filter]
    refine List.filter_congr fun b hb => ?_
    cases hlate : l'.staysActive now' b with
    | false => simp
    | true => simp [h b hb hlate]
  rw [heq]
  exact List.filter_sublist

/-- **When bindings are due, by an interval of any length.** A binding that
was not created in a leap second is due from its deadline on, unless that
lies before the calendar. What a look leaves active, an earlier look would
have left active; and so would a look with a longer interval, unless the
shorter one brings a deadline before the calendar. -/
theorem due_from_deadline (l : Ledger) (bs : List Binding) (ids : List String) (now : Instant) :
    (∀ (b : Binding) (interval : Span), b.createdAt.isLeap = false →
        (b.isRotationDueAt now interval = true ↔
          Instant.firstTotal ≤ b.deadline interval ∧ b.deadline interval ≤ now.reached))
      ∧ (∀ now' : Instant, now ≤ now' → (l.active bs ids now').Sublist (l.active bs ids now))
      ∧ ∀ l' : Ledger, l'.policy.rotationInterval.nanos ≤ l.policy.rotationInterval.nanos →
          (∀ b ∈ bs, b.createdAt.isLeap = false
            ∧ Instant.firstTotal ≤ b.deadline l'.policy.rotationInterval) →
            (l'.active bs ids now).Sublist (l.active bs ids now) := by
  refine ⟨fun b interval => Binding.isRotationDueAt_iff_deadline,
    fun now' hle => active_sublist fun b _ => staysActive_of_le hle,
    fun l' hshort hin => active_sublist fun b hb hstays => ?_⟩
  obtain ⟨hleap, hfirst⟩ := hin b hb
  rw [staysActive_iff] at hstays ⊢
  refine ⟨hstays.1, hstays.2.1, Bool.eq_false_iff.2 fun hdue => ?_⟩
  rw [Binding.isRotationDueAt_of_shorter hleap hshort hfirst hdue] at hstays
  cases hstays.2.2

/-- At work: an interval that brings the deadline of a binding to the first
instant of the calendar makes it due, where the interval of an hour leaves
it active for another second. -/
theorem due_from_deadline_first_instant :
    let second (s : Int) : Instant := (Instant.ofSeconds? s).getD .epoch
    let first : Span := ⟨Instant.firstTotal, by decide, by decide⟩
    let b : Binding := .issued "b" .epoch (second 9000)
    let l : Ledger := ⟨{}⟩
    let l' : Ledger := ⟨{ rotationInterval := first }⟩
    b.createdAt.isLeap = false ∧ b.deadline first = Instant.firstTotal
      ∧ b.isRotationDueAt (second 3599) first = true
      ∧ l.active [b] ["b"] (second 3599) = [b] ∧ l'.active [b] ["b"] (second 3599) = []
      ∧ (l.active [b] ["b"] (second 3600)).Sublist (l.active [b] ["b"] (second 3599))
      ∧ (l'.active [b] ["b"] (second 3599)).Sublist (l.active [b] ["b"] (second 3599)) := by
  intro second first b l l'
  obtain ⟨hdue, hlater, hshorter⟩ := due_from_deadline l [b] ["b"] (second 3599)
  refine ⟨rfl, by decide, (hdue b first rfl).2 (by decide), by decide +kernel,
    by decide +kernel, hlater _ (by decide), hshorter l' (by decide) ?_⟩
  decide

/-- A deadline before the calendar is not reached at any instant, so that a
binding that is due by an interval of minus one hour stays active by one
that is shorter. -/
theorem undue_before_the_calendar :
    (¬ ∀ (b : Binding) (now : Instant) (interval : Span), b.createdAt.isLeap = false →
        now.isLeap = false →
          (b.isRotationDueAt now interval = true ↔ b.deadline interval ≤ now.total))
      ∧ ¬ ∀ (l l' : Ledger) (bs : List Binding) (ids : List String) (now : Instant),
          l'.policy.rotationInterval.nanos ≤ l.policy.rotationInterval.nanos →
            (∀ b ∈ bs, b.createdAt.isLeap = false) → now.isLeap = false →
              (l'.active bs ids now).Sublist (l.active bs ids now) := by
  let second (s : Int) : Instant := (Instant.ofSeconds? s).getD .epoch
  let b : Binding := .issued "b" .epoch (second 7200)
  let early : Span := ⟨-9000000000000000000000, by decide, by decide⟩
  constructor
  · intro hall
    exact absurd ((hall b .epoch early rfl rfl).2 (by decide)) (by decide)
  · intro hall
    let l : Ledger := ⟨{ rotationInterval := ⟨-3600000000000, by decide, by decide⟩ }⟩
    let l' : Ledger := ⟨{ rotationInterval := early }⟩
    exact absurd (hall l l' [b] ["b"] .epoch (by decide) (by decide) rfl) (by decide +kernel)

end Ledger

end CredentialRotation
