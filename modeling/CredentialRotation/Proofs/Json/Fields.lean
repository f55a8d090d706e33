import CredentialRotation.Document.Json
import CredentialRotation.Document.Time
import CredentialRotation.Proofs.Result

/-!
# Fields of a JSON record

A record is an object, whose members are found by name, or an array, whose
items have the names in their order. `Node.Holds` says what a record holds
under a name without the steps of a reader: the one member of that name,
or the item in its place. What a reader takes for a field is held there
(`Record.holds_of_field?`), and nothing else is (`Holds.unique`). A record
that is written by name, without the fields that have no value, is opened
to what was written (`Record.open?_written`).
-/

namespace CredentialRotation

open Readable

namespace Json.Node

/-- `x.Holds names name y`: the record `x` of fields `names` holds `y`
under `name`. -/
inductive Holds (names : List String) (name : String) : Node → Node → Prop
  | named {ms : List (Option String × Node)} {y : Node}
      (honly : ms.filter (fun m => decide (m.1 = some name)) = [(some name, y)]) :
      Holds names name (.object ms) y
  | ordered {xs : List Node} {k : Nat} {y : Node} (hname : names[k]? = some name)
      (hitem : xs[k]? = some y) : Holds names name (.array xs) y

variable {names : List String} {name : String} {x y y' : Node}

/-- A record holds one thing under a name. -/
theorem Holds.unique (hnames : names.Nodup) (h : x.Holds names name y)
    (h' : x.Holds names name y') : y = y' := by
  cases h with
  | named honly =>
    cases h' with
    | named honly' =>
      rw [honly] at honly'
      exact (Prod.mk.inj (List.cons.inj honly').1).2
  | @ordered xs k _ hname hitem =>
    cases h' with
    | @ordered _ k' _ hname' hitem' =>
      obtain ⟨hk, hk'⟩ := List.getElem?_eq_some_iff.1 hname
      have hsame : k = k' := (List.getElem?_inj hk hnames).1 (hname.trans hname'.symm)
      rw [← hsame, hitem] at hitem'
      exact Option.some.inj hitem'

/-- An object that can be read has texts for names. -/
theorem members?_eq_named_iff {fields : List (String × Node)} :
    members? x = some (.named fields) ↔ x = .object (fields.map fun f => (some f.1, f.2)) := by
  cases x with
  | object ms =>
    have hback (m : Option String × Node) (f : String × Node) :
        m.1.map (fun k => (k, m.2)) = some f ↔ m = (some f.1, f.2) := by
      obtain ⟨name, y⟩ := m
      cases name <;> simp [Prod.ext_iff]
    rw [members?, object.injEq, ← mapM_eq_some_iff_eq_map hback]
    simp
  | _ => simp [members?]

theorem members?_eq_ordered_iff {xs : List Node} :
    members? x = some (.ordered xs) ↔ x = .array xs := by
  cases x <;> simp [members?, Option.map_eq_some_iff]

/-- A text is a string that is well-formed. -/
theorem text?_eq_some_iff {s : String} : text? x = some s ↔ x = .string (some s) := by
  cases x <;> simp [text?]

/-- An instant is what the text of such a string spells. -/
theorem instant?_eq_some_iff {t : Instant} :
    instant? x = some t ↔ ∃ s, x = .string (some s) ∧ Instant.ofText? s = some t := by
  simp [instant?, Option.bind_eq_some_iff, text?_eq_some_iff]

theorem optionOf?_eq_some {β : Type} {read? : Json.Node → Option β} {v : β}
    (h : read? x = some v) (hx : x ≠ .null) : optionOf? read? x = some (some v) := by
  cases x with
  | null => exact absurd rfl hx
  | _ => exact congrArg (Option.map some) h

end Json.Node

namespace Record

/-- **What a record is opened to**: by name, each field with its one
member, if there is one; in order, each field with the item in its place,
if there are so many. -/
theorem open?_cases {α : Type} [Readable α] {names : List String} {x : α} {r : Record α}
    (h : open? names x = some r) :
    (∃ given, members? x = some (.named given)
        ∧ (∀ name ∈ names, (given.filter (·.1 = name)).length ≤ 1)
        ∧ r = ⟨names.map fun name => (name, ((given.filter (·.1 = name)).map (·.2)).head?), false⟩)
      ∨ ∃ values, members? x = some (.ordered values)
        ∧ r = ⟨names.zip (values.map some ++ List.replicate (names.length - values.length) none),
          true⟩ := by
  unfold open? at h
  cases hmembers : members? x with
  | none => simp [hmembers] at h
  | some ms =>
    cases ms with
    | named given =>
      simp only [hmembers, Option.ite_none_left_eq_some, Option.some.injEq] at h
      obtain ⟨hmost, rfl⟩ := h
      refine .inl ⟨given, rfl, ?_, ?_⟩
      · simpa using hmost
      · simp [List.map_map, Function.comp_def]
    | ordered values =>
      simp only [hmembers, Option.ite_none_left_eq_some, Option.some.injEq] at h
      exact .inr ⟨values, rfl, h.2.symm⟩

variable {names : List String} {name : String} {x y : Json.Node} {r : Record Json.Node}

/-- **What is taken for a field** is held under its name. -/
theorem holds_of_field? (hopen : open? names x = some r) (hfield : r.field? name = some y) :
    x.Holds names name y := by
  obtain ⟨f, hfind, hy⟩ := Option.bind_eq_some_iff.1 hfield
  have hmem : (name, some y) ∈ r.fields := by
    have hname : f.1 = name := by simpa using List.find?_some hfind
    rw [← hname, ← hy]
    exact List.mem_of_find?_eq_some hfind
  obtain ⟨given, hgiven, hmost, rfl⟩ | ⟨values, hvalues, rfl⟩ := open?_cases hopen
  · rw [Json.Node.members?_eq_named_iff.1 hgiven]
    obtain ⟨name, hin, hsame⟩ := List.mem_map.1 hmem
    obtain ⟨rfl, hhead⟩ := Prod.mk.inj hsame
    obtain ⟨k, honly⟩ : ∃ k, given.filter (·.1 = name) = [(k, y)] := by
      have hlength := hmost name hin
      revert hlength hhead
      cases given.filter (·.1 = name) with
      | nil => simp
      | cons f fs => cases fs <;> simp [Prod.ext_iff]
    have hk : (k, y) ∈ given.filter (·.1 = name) := honly ▸ List.mem_singleton_self _
    obtain rfl : k = name := of_decide_eq_true (List.mem_filter.1 hk).2
    refine .named ?_
    rw [List.filter_map]
    simpa [Function.comp_def] using honly
  · rw [Json.Node.members?_eq_ordered_iff.1 hvalues]
    obtain ⟨k, hk⟩ := List.mem_iff_getElem?.1 hmem
    obtain ⟨hname, hitem⟩ := List.getElem?_zip_eq_some.1 hk
    refine .ordered hname ?_
    rcases Nat.lt_or_ge k values.length with hk | hk
    · rw [List.getElem?_append_left (by simpa using hk)] at hitem
      simpa using hitem
    · rw [List.getElem?_append_right (by simpa using hk)] at hitem
      simp [List.getElem?_replicate] at hitem

/-- A field that may be missing or null, where it is neither. -/
theorem exists_of_optional {β : Type} {read? : Json.Node → Option β} {v : β}
    (hopen : open? names x = some r)
    (h : r.optionalWithDefault? name read? = some (some v)) :
    ∃ y, x.Holds names name y ∧ y ≠ .null ∧ read? y = some v := by
  unfold optionalWithDefault? withDefault? at h
  cases hfield : r.field? name with
  | none => simp [hfield] at h
  | some y =>
    rw [hfield] at h
    refine ⟨y, holds_of_field? hopen hfield, ?_⟩
    cases y <;> simp_all [optionOf?, unlessNull?]

/-! ## Records that are written -/

section

variable {α β : Type} {fields : List (String × Option α)}

/-- The members of a record of fields some of which are left out. -/
def written (fields : List (String × Option α)) : List (String × α) :=
  fields.flatMap fun f => (f.2.map fun y => (f.1, y)).toList

/-- Their names are those of the fields with a value. -/
theorem map_fst_written (fields : List (String × Option α)) :
    (written fields).map (·.1) = (fields.filter (·.2.isSome)).map (·.1) := by
  induction fields with
  | nil => rfl
  | cons f fs ih =>
    rw [written, List.flatMap_cons, List.map_append, ← written, ih]
    obtain ⟨name, _ | y⟩ := f <;> rfl

theorem map_written (write : α → β) (fields : List (String × Option α)) :
    (written fields).map (fun m => (m.1, write m.2))
      = written (fields.map fun f => (f.1, f.2.map write)) := by
  induction fields with
  | nil => rfl
  | cons f fs ih =>
    rw [written, List.flatMap_cons, List.map_append, ← written, ih]
    obtain ⟨name, _ | y⟩ := f <;> rfl

/-- Under each name stands what its field holds. -/
theorem filter_written (hnames : (fields.map (·.1)).Nodup) {f : String × Option α}
    (hf : f ∈ fields) : ((written fields).filter (·.1 = f.1)).map (·.2) = f.2.toList := by
  induction fields with
  | nil => cases hf
  | cons g gs ih =>
    obtain ⟨hnot, hgs⟩ := List.nodup_cons.1 hnames
    have hother : ∀ h ∈ gs, h.1 ≠ g.1 := fun h hh heq => hnot (List.mem_map.2 ⟨h, hh, heq⟩)
    rw [written, List.flatMap_cons, List.filter_append, List.map_append, ← written]
    rcases List.mem_cons.1 hf with rfl | hf
    · have hrest : (written gs).filter (·.1 = f.1) = [] := by
        refine List.filter_eq_nil_iff.2 fun m hm hname => ?_
        obtain ⟨h, hh, hsame⟩ : ∃ h ∈ gs.filter (·.2.isSome), h.1 = m.1 := by
          rw [← List.mem_map, ← map_fst_written]
          exact List.mem_map_of_mem hm
        exact hother h (List.mem_filter.1 hh).1 (hsame.trans (of_decide_eq_true hname))
      rw [hrest, List.map_nil, List.append_nil]
      cases f.2 <;> simp
    · have hne : g.1 ≠ f.1 := (hother f hf).symm
      have hnone : ((g.2.map fun y => (g.1, y)).toList.filter (·.1 = f.1)) = [] := by
        cases g.2 <;> simp [hne]
      rw [hnone, List.map_nil, List.nil_append]
      exact ih hgs hf

end

/-- **A record that is written is opened to its fields.** -/
theorem open?_written (fields : List (String × Option Json.Node))
    (hfields : fields.map (·.1) = names) (hnames : names.Nodup) :
    open? names (Json.Node.object ((written fields).map fun m => (some m.1, m.2)))
      = some ⟨fields, false⟩ := by
  subst hfields
  have hfound : (fields.map (·.1)).map
      (fun name => (name, ((written fields).filter (·.1 = name)).map (·.2)))
      = fields.map fun f => (f.1, f.2.toList) := by
    rw [List.map_map]
    exact List.map_congr_left fun f hf => congrArg (Prod.mk f.1) (filter_written hnames hf)
  have hany : (fields.map fun f => (f.1, f.2.toList)).any (fun f => decide (f.2.length > 1))
      = false := by
    rw [List.any_map, List.any_eq_false]
    rintro ⟨name, _ | y⟩ - <;> simp
  have hhead :
      (fields.map fun f => (f.1, f.2.toList)).map (fun f => (f.1, f.2.head?)) = fields := by
    rw [List.map_map]
    refine (List.map_congr_left fun f _ => ?_).trans (List.map_id fields)
    obtain ⟨name, _ | y⟩ := f <;> rfl
  have hmembers : members? (Json.Node.object ((written fields).map fun m => (some m.1, m.2)))
      = some (.named (written fields)) := Json.Node.members?_eq_named_iff.2 rfl
  unfold open?
  simp only [hmembers, hfound, hany, hhead, Bool.false_eq_true, if_false]

section

variable {β γ : Type} {r : Record Json.Node} {read? : Json.Node → Option β}

/-- A field that is left out where there is no value is read as one that
may be missing, -/
theorem optional?_of_field? {v : Option β} {write : β → Json.Node} (hr : r.ordered = false)
    (h : r.field? name = v.map write) (hread : ∀ b, optionOf? read? (write b) = some (some b)) :
    r.optional? name read? = some v := by
  unfold optional?
  cases v with
  | none => simp only [h, hr, Option.map_none, Bool.false_eq_true, if_false]
  | some b => simp only [h, hread, Option.map_some]

/-- and as one that may be null besides, though not always as what it
was. -/
theorem optionalWithDefault?_of_field? {v : Option γ} {write : γ → Json.Node} {f : γ → β}
    (h : r.field? name = v.map write)
    (hread : ∀ c, optionOf? read? (write c) = some (some (f c))) :
    r.optionalWithDefault? name read? = some (v.map f) := by
  unfold optionalWithDefault? withDefault?
  cases v with
  | none => simp only [h, Option.map_none]
  | some c => simp only [h, hread, Option.map_some]

end

end Record

end CredentialRotation
