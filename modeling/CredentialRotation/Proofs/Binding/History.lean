import CredentialRotation.Proofs.Binding.Calls
import CredentialRotation.Proofs.Time.Shift
import Mathlib.Data.List.Forall2
import Mathlib.Data.List.Lattice

/-!
# Looks at the bindings, one after the other

A binding is past its life, or due, from some instant on. What a look at
the bindings takes away, a later look would take away by itself, so that
two looks are worth one: the later one, with the ids that were known both
times (`reconcile_reconcile`). So are any number of them
(`reconcile_kept`).

Where the clock goes back or the policy changes from look to look, a look
still only lets bindings go and lets them fade: they stay in order, and
keep all but the mark of being active.
-/

namespace CredentialRotation

variable {l : Ledger} {b b' : Binding} {bs : List Binding} {ids ids' : List String}
variable {now now' : Instant}

/-! ## What time does to a binding -/

namespace Binding

/-- A binding is due once its deadline has come. -/
theorem isRotationDueAt_iff {interval : Span} : b.isRotationDueAt now interval = true ↔
    ∃ deadline, b.createdAt.add? interval = some deadline ∧ deadline ≤ now := by
  unfold isRotationDueAt
  cases b.createdAt.add? interval <;> simp

/-- What is past its life stays so. -/
theorem isExpiredAt_of_le (h : now ≤ now') (hb : b.isExpiredAt now = true) :
    b.isExpiredAt now' = true := by
  simp only [isExpiredAt, decide_eq_true_eq] at hb ⊢
  exact Std.le_trans hb h

/-- What is due stays so. -/
theorem isRotationDueAt_of_le {interval : Span} (h : now ≤ now')
    (hb : b.isRotationDueAt now interval = true) : b.isRotationDueAt now' interval = true := by
  obtain ⟨deadline, hadd, hle⟩ := isRotationDueAt_iff.1 hb
  exact isRotationDueAt_iff.2 ⟨deadline, hadd, Std.le_trans hle h⟩

/-- `b'` is what has become of `b`: the same binding, active only if `b`
was. -/
structure Fades (b' b : Binding) : Prop where
  id_eq : b'.id = b.id
  createdAt_eq : b'.createdAt = b.createdAt
  expiresAt_eq : b'.expiresAt = b.expiresAt
  isActive_of : b'.isActive = true → b.isActive = true

instance : Std.Refl Fades := ⟨fun _ => ⟨rfl, rfl, rfl, fun h => h⟩⟩

instance : IsTrans Binding Fades :=
  ⟨fun _ _ _ h h' => ⟨h.id_eq.trans h'.id_eq, h.createdAt_eq.trans h'.createdAt_eq,
    h.expiresAt_eq.trans h'.expiresAt_eq, h'.isActive_of ∘ h.isActive_of⟩⟩

end Binding

/-! ## One look -/

namespace Ledger

/-- What stays active at an instant has stayed so until then. -/
theorem staysActive_of_le (h : now ≤ now') (hb : l.staysActive now' b = true) :
    l.staysActive now b = true := by
  obtain ⟨hact, hexp, hdue⟩ := staysActive_iff.1 hb
  refine staysActive_iff.2 ⟨hact, Bool.eq_false_iff.2 fun hne => ?_,
    Bool.eq_false_iff.2 fun hne => ?_⟩
  · rw [Binding.isExpiredAt_of_le h hne] at hexp
    cases hexp
  · rw [Binding.isRotationDueAt_of_le h hne] at hdue
    cases hdue

/-- Settling twice is settling at the later instant. -/
theorem settle_settle (h : now ≤ now') :
    l.settle now' (l.settle now b) = l.settle now' b := by
  have hstays : l.staysActive now' (l.settle now b) = l.staysActive now' b := by
    rw [Bool.eq_iff_iff]
    constructor
    · intro hb
      obtain ⟨hact, hexp, hdue⟩ := staysActive_iff.1 hb
      exact staysActive_iff.2 ⟨(staysActive_iff.1 hact).1, hexp, hdue⟩
    · intro hb
      obtain ⟨-, hexp, hdue⟩ := staysActive_iff.1 hb
      exact staysActive_iff.2 ⟨staysActive_of_le h hb, hexp, hdue⟩
  rw [settle, hstays]
  rfl

/-- Whether a binding is active is read off those retained. -/
theorem hasActive_eq : (l.reconcile bs ids now).hasActive =
    (l.reconcile bs ids now).retained.any (·.isActive) := by
  rw [Bool.eq_iff_iff, hasActive_iff, List.any_eq_true]

/-- So two looks that retain the same are the same. -/
theorem reconcile_eq_of_retained_eq {l' : Ledger} {bs' : List Binding}
    (h : (l.reconcile bs ids now).retained = (l'.reconcile bs' ids' now').retained) :
    l.reconcile bs ids now = l'.reconcile bs' ids' now' := by
  have hactive : (l.reconcile bs ids now).hasActive = (l'.reconcile bs' ids' now').hasActive := by
    rw [hasActive_eq, hasActive_eq, h]
  exact congrArg₂ Reconciled.mk hactive h

/-- **Two looks are one.** What an earlier look has let go, the later one
would have let go too, unless only the earlier one missed its id. -/
theorem reconcile_reconcile (h : now ≤ now') :
    l.reconcile (l.reconcile bs ids now).retained ids' now' =
      l.reconcile bs (ids ∩ ids') now' := by
  refine reconcile_eq_of_retained_eq ?_
  have hkept : ∀ b : Binding,
      (((l.settle now b).id ∈ ids' && !(l.settle now b).isExpiredAt now')
          && (b.id ∈ ids && !b.isExpiredAt now))
        = (b.id ∈ ids ∩ ids' && !b.isExpiredAt now') := by
    intro b
    have hexp : (l.settle now b).isExpiredAt now' = b.isExpiredAt now' := rfl
    rw [settle_id, hexp]
    cases hlate : b.isExpiredAt now' with
    | true => simp
    | false =>
      have hearly : b.isExpiredAt now = false := Bool.eq_false_iff.2 fun hne => by
        rw [Binding.isExpiredAt_of_le h hne] at hlate
        cases hlate
      simp [hearly, List.mem_inter_iff, Bool.and_comm]
  simp only [retained_eq, List.filter_map, List.filter_filter, List.map_map, Function.comp_def]
  rw [List.filter_congr fun b _ => hkept b]
  exact List.map_congr_left fun b _ => settle_settle h

/-- What a look retains has faded from what there was, in order. -/
theorem fades_retained :
    List.SublistForall₂ Binding.Fades (l.reconcile bs ids now).retained bs := by
  rw [retained_eq, List.sublistForall₂_iff]
  refine ⟨bs.filter fun b => b.id ∈ ids && !b.isExpiredAt now, ?_, List.filter_sublist⟩
  rw [List.forall₂_map_left_iff, List.forall₂_same]
  exact fun b _ => ⟨rfl, rfl, rfl, fun h => (staysActive_iff.1 h).1⟩

end Ledger

/-! ## Any number of looks -/

/-- A look at the bindings of a service: the ids that it knew, and when. -/
structure Look where
  ids : List String
  now : Instant

namespace Look

/-- The ids that were known at all of `earlier` and at `last`. -/
def common (earlier : List Look) (last : Look) : List String :=
  earlier.foldr (fun look ids => look.ids ∩ ids) last.ids

/-- The bindings that are left after looks, each of them taken by a ledger
of its own at what the one before it retained. -/
def kept (bs : List Binding) (looks : List (Ledger × Look)) : List Binding :=
  looks.foldl (fun bs look => (look.1.reconcile bs look.2.ids look.2.now).retained) bs

variable {earlier : List Look} {last : Look}

theorem mem_common {id : String} :
    id ∈ common earlier last ↔ ∀ look ∈ earlier ++ [last], id ∈ look.ids := by
  induction earlier with
  | nil => simp [common]
  | cons look earlier ih =>
    rw [common, List.foldr_cons, List.mem_inter_iff, ← common, ih, List.cons_append,
      List.forall_mem_cons]

/-- **Any number of looks are one**, at the last instant, if none was
later. -/
theorem reconcile_kept (h : ∀ look ∈ earlier, look.now ≤ last.now) :
    l.reconcile (kept bs (earlier.map (l, ·))) last.ids last.now =
      l.reconcile bs (common earlier last) last.now := by
  induction earlier generalizing bs with
  | nil => rfl
  | cons look earlier ih =>
    rw [List.forall_mem_cons] at h
    rw [List.map_cons, kept, List.foldl_cons, ← kept, ih h.2, Ledger.reconcile_reconcile h.1]
    rfl

/-- **Looks only let fade.** -/
theorem fades_kept (looks : List (Ledger × Look)) :
    List.SublistForall₂ Binding.Fades (kept bs looks) bs := by
  induction looks generalizing bs with
  | nil => exact (List.Sublist.refl bs).sublistForall₂
  | cons look looks ih => exact List.SublistForall₂.is_trans.trans _ _ _ ih Ledger.fades_retained

theorem kept_append (looks more : List (Ledger × Look)) :
    kept bs (looks ++ more) = kept (kept bs looks) more :=
  List.foldl_append

/-- **Looks leave no trace but the last.** Looks of one ledger, none later
than the last, are worth one look at the last instant with the ids that
were known all along; so looking twice is looking once. Whatever the
instants and the ledgers, what looks leave is in order what was there
before them, less some bindings and some marks of being active. -/
theorem looks_leave_no_trace (l : Ledger) (bs : List Binding) :
    (∀ earlier last, (∀ look ∈ earlier, look.now ≤ last.now) →
      l.reconcile (kept bs (earlier.map (l, ·))) last.ids last.now =
        l.reconcile bs (common earlier last) last.now)
      ∧ (∀ ids now, l.reconcile (l.reconcile bs ids now).retained ids now =
          l.reconcile bs ids now)
      ∧ ∀ looks more : List (Ledger × Look),
          List.SublistForall₂ Binding.Fades (kept bs (looks ++ more)) (kept bs looks) := by
  refine ⟨fun earlier last h => reconcile_kept h, fun ids now => ?_, fun looks more => ?_⟩
  · rw [Ledger.reconcile_reconcile (Std.le_refl now),
      List.Subset.inter_eq_left (List.Subset.refl ids)]
  · rw [kept_append]
    exact fades_kept more

/-- At work: of four bindings, the first is known only at first, the
second is due at the second look and the third past its life at the
last. -/
theorem looks_leave_no_trace_three_looks :
    let l : Ledger := ⟨{}⟩
    let second (s : Int) : Instant := (Instant.ofSeconds? s).getD .epoch
    let bs : List Binding := [.issued "a" (second 0) (second 4500),
      .issued "b" (second 0) (second 9000), .issued "c" (second 3000) (second 4000),
      .issued "d" (second 3000) (second 9000)]
    let earlier : List Look := [⟨["d", "c", "b", "a"], second 600⟩, ⟨["d", "c", "b"], second 3600⟩]
    let last : Look := ⟨["a", "b", "c", "d"], second 4000⟩
    (∀ look ∈ earlier, look.now ≤ last.now)
      ∧ (l.reconcile (kept bs (earlier.map (l, ·))) last.ids last.now).retained.map
          (fun b => (b.id, b.isActive)) = [("b", false), ("d", true)]
      ∧ l.reconcile (kept bs (earlier.map (l, ·))) last.ids last.now =
          l.reconcile bs (common earlier last) last.now := by
  intro l second bs earlier last
  have hordered : ∀ look ∈ earlier, look.now ≤ last.now := by decide
  exact ⟨hordered, by decide, (looks_leave_no_trace l bs).1 earlier last hordered⟩

end Look

end CredentialRotation
