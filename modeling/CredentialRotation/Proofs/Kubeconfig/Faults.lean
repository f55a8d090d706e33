import CredentialRotation.Proofs.Kubeconfig.Surroundings

/-!
# The first fault of a template

On the way to a user six things have to be as expected, and the first that
is not is what a generation reports: `FirstFault` has a case for each, in
the order of the way, and `HasUser` says that there is none. The way leads
through tags, but the kind that is reported is that of the node as it
stands, tag and all.

A generation may still fail where the tree that it makes has no text. It
has one if the tree that was read has (`isWritable_fill`): what is left of
the user is never a mapping of one entry that cannot be written.
-/

namespace CredentialRotation.Kubeconfig

open Yaml (Value)

/-! ## The way to a user -/

/-- A tree with the list of users `xs`. -/
def HasUsers (root : Value) (xs : List Value) : Prop :=
  ∃ ms v, root.untag = .mapping ms ∧ Value.entry? "users" ms = some v ∧ v.untag = .sequence xs

/-- The first thing on the way to a user that is not as expected. -/
inductive FirstFault (root : Value) (index : Nat) : Error → Prop
  | root (h : ∀ ms, root.untag ≠ .mapping ms) :
    FirstFault root index (.malformed .root .mapping (some (.ofValue root)))
  | usersMissing {ms : Entries} (hroot : root.untag = .mapping ms)
      (h : Value.entry? "users" ms = none) :
    FirstFault root index (.malformed .users .presence none)
  | users {ms : Entries} {v : Value} (hroot : root.untag = .mapping ms)
      (hv : Value.entry? "users" ms = some v) (h : ∀ xs, v.untag ≠ .sequence xs) :
    FirstFault root index (.malformed .users .sequence (some (.ofValue v)))
  | index {xs : List Value} (husers : HasUsers root xs) (h : xs.length ≤ index) :
    FirstFault root index (.missingUser index xs.length)
  | entry {xs : List Value} {x : Value} (husers : HasUsers root xs) (hx : xs[index]? = some x)
      (h : ∀ ms, x.untag ≠ .mapping ms) :
    FirstFault root index (.malformed (.entry index) .mapping (some (.ofValue x)))
  | userMissing {xs : List Value} {x : Value} {ms : Entries} (husers : HasUsers root xs)
      (hx : xs[index]? = some x) (hentry : x.untag = .mapping ms)
      (h : Value.entry? "user" ms = none) :
    FirstFault root index (.malformed (.user index) .presence none)
  | user {xs : List Value} {x v : Value} {ms : Entries} (husers : HasUsers root xs)
      (hx : xs[index]? = some x) (hentry : x.untag = .mapping ms)
      (hv : Value.entry? "user" ms = some v) (h : ∀ es, v.untag ≠ .mapping es) :
    FirstFault root index (.malformed (.user index) .mapping (some (.ofValue v)))

variable {spot : Spot} {name : String} {v : Value} {ms : Entries} {e : Error} {index : Nat}
  {d : Document}

namespace Document

end Document

/-! ## What has a text -/

section

variable {tagged : Bool} {tags : List String} {x : Value} {before after entries : Entries}

theorem areWritable_append {xs ys : List Value} :
    Value.areWritable (xs ++ ys) = (Value.areWritable xs && Value.areWritable ys) := by
  induction xs with
  | nil => rfl
  | cons x xs ih => rw [List.cons_append, Value.areWritable, Value.areWritable, ih, Bool.and_assoc]

theorem entriesAreWritable_append : Value.entriesAreWritable (before ++ after)
    = (Value.entriesAreWritable before && Value.entriesAreWritable after) := by
  induction before with
  | nil => rfl
  | cons m before ih =>
    rw [List.cons_append, Value.entriesAreWritable, Value.entriesAreWritable, ih]
    simp only [Bool.and_assoc]

theorem isWritable_behind : Value.isWritable tagged (behind tags v)
    = Value.isWritable (tagged || !tags.isEmpty) v := by
  induction tags generalizing tagged with
  | nil => simp [behind]
  | cons t tags ih =>
    show Value.isWritable true (behind tags v) = _
    rw [ih]
    simp

theorem isWritable_sequence {xs : List Value} :
    Value.isWritable tagged (.sequence xs) = Value.areWritable xs := rfl

/-- Entries with a text make a mapping with one, if a key is a string. -/
theorem isWritable_mapping (hkey : ∃ m ∈ ms, ∃ k, m.1 = .string k) :
    Value.isWritable tagged (.mapping ms) = Value.entriesAreWritable ms := by
  obtain ⟨m, hm, k, hk⟩ := hkey
  match ms with
  | [(key, x)] =>
    obtain rfl := List.mem_singleton.1 hm
    obtain rfl : key = .string k := hk
    simp [Value.isWritable]
  | _ :: _ :: _ => simp [Value.isWritable]

theorem entriesAreWritable_of_isWritable (h : Value.isWritable tagged (.mapping ms) = true) :
    Value.entriesAreWritable ms = true := by
  unfold Value.isWritable at h
  exact (Bool.and_eq_true_iff.1 h).2

theorem entriesAreWritable_setField (hv : Value.isWritable false v = true)
    (h : Value.entriesAreWritable ms = true) :
    Value.entriesAreWritable (setField name v ms) = true := by
  fun_induction setField name v ms <;> simp_all [Value.entriesAreWritable, Value.isWritable]

theorem exists_key_setField : ∃ m ∈ setField name v ms, ∃ k, m.1 = .string k := by
  fun_induction setField name v ms <;> simp_all

/-- A user with a token has a text, whatever is left of the user. -/
theorem isWritable_withToken {inline : Bool} {token : String}
    (h : Value.entriesAreWritable entries = true) :
    Value.isWritable tagged (.mapping (withToken inline token entries)) = true := by
  rw [withToken, isWritable_mapping exists_key_setField]
  refine entriesAreWritable_setField rfl ?_
  cases inline with
  | true => exact h
  | false => rfl

/-- The mapping around a value has a text if the value has. -/
theorem Gap.isWritable_fill (g : Gap name) : Value.isWritable tagged (g.fill x)
    = (Value.entriesAreWritable g.before
      && (Value.isWritable false x && Value.entriesAreWritable g.after)) := by
  have hname : Value.isWritable false (.string name) = true := rfl
  rw [fill, isWritable_behind, isWritable_mapping ⟨_, List.mem_append_right _ List.mem_cons_self,
    _, rfl⟩, entriesAreWritable_append, Value.entriesAreWritable, hname, Bool.true_and]

/-- **A kubeconfig with a token has a text** if the one without it has. -/
theorem Surroundings.isWritable_fill (c : Surroundings) {inline : Bool} {token : String}
    (h : Value.isWritable false (c.fill entries).root = true) :
    Value.isWritable false (c.fill (withToken inline token entries)).root = true := by
  simp only [fill, item, Gap.isWritable_fill, isWritable_behind, isWritable_sequence,
    areWritable_append, Value.areWritable, Bool.and_eq_true] at h ⊢
  obtain ⟨hbefore, ⟨hearlier, ⟨hfirst, huser, hrest⟩, hlater⟩, hafter⟩ := h
  have hentries := entriesAreWritable_of_isWritable huser
  exact ⟨hbefore, ⟨hearlier, ⟨hfirst, isWritable_withToken hentries, hrest⟩, hlater⟩, hafter⟩

end

theorem Document.exists_text_iff :
    (∃ text, d.text = .ok text) ↔ Value.isWritable false d.root = true := by
  unfold text Value.print?
  cases Value.isWritable false d.root <;> simp

section

variable {kubeconfig token : Bytes} {place : Injection} {root : Value}

end

end CredentialRotation.Kubeconfig
