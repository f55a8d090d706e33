import CredentialRotation.Kubeconfig.Injector
import CredentialRotation.Proofs.Result
import Mathlib.Logic.Function.Basic

/-!
# Changing users in place

`Document.overUsers` changes the mapping of every user at once, each by a
function of its own; `Document.setUser` is the case in which all users
but one are left alone (`setUser_eq_overUsers`). What can be said of one
change then follows from three laws: two changes in a row are one change
by the composed functions (`overUsers_overUsers`); a user is found
afterwards as its function left it, or not found for the reason it was
not found before (`user_overUsers`); and only what is found matters
(`overUsers_congr`).

The laws hold level by level: of a mapping and of a sequence behind tags,
and of the value of a key.
-/

namespace CredentialRotation.Kubeconfig

open Yaml (Value)

variable {spot : Spot} {name : String} {v : Value} {ms : Entries}

/-! ## A mapping behind tags -/

section

variable {f g : Entries → Entries}

theorem mappingAt_eq_ok_iff : mappingAt spot v = .ok ms ↔ v.untag = .mapping ms := by
  unfold mappingAt
  cases v.untag <;> simp

theorem untag_overMapping (f : Entries → Entries) (v : Value) :
    (overMapping f v).untag = overMapping f v.untag := by
  fun_induction Value.untag v with
  | case1 t v ih => exact ih
  | case2 v htag => cases v <;> first | rfl | exact absurd rfl (htag _ _)

theorem kind_overMapping (f : Entries → Entries) (v : Value) :
    Kind.ofValue (overMapping f v) = Kind.ofValue v := by
  cases v <;> rfl

/-- A mapping is found where one was, with its entries changed. -/
theorem mappingAt_overMapping (f : Entries → Entries) (v : Value) :
    mappingAt spot (overMapping f v) = (mappingAt spot v).map f := by
  unfold mappingAt
  rw [untag_overMapping, kind_overMapping]
  cases v.untag <;> rfl

theorem overMapping_comp (f g : Entries → Entries) :
    overMapping f ∘ overMapping g = overMapping (f ∘ g) := by
  funext v
  show overMapping f (overMapping g v) = _
  fun_induction overMapping g v <;> simp_all [overMapping]

theorem overMapping_id : overMapping id = id := by
  funext v
  fun_induction overMapping id v <;> simp_all

/-- Only the entries that are found matter. -/
theorem overMapping_congr (h : ∀ ms, v.untag = .mapping ms → f ms = g ms) :
    overMapping f v = overMapping g v := by
  fun_induction overMapping f v with
  | case1 ms => exact congrArg Value.mapping (h ms rfl)
  | case2 t v ih => exact congrArg (Value.tagged t) (ih h)
  | case3 v hm ht => cases v <;> first | rfl | exact absurd rfl (hm _) | exact absurd rfl (ht _ _)

end

/-! ## A sequence behind tags -/

section

variable {f g : List Value → List Value} {xs : List Value}

theorem sequenceAt_eq_ok_iff : sequenceAt spot v = .ok xs ↔ v.untag = .sequence xs := by
  unfold sequenceAt
  cases v.untag <;> simp

theorem untag_overSequence (f : List Value → List Value) (v : Value) :
    (overSequence f v).untag = overSequence f v.untag := by
  fun_induction Value.untag v with
  | case1 t v ih => exact ih
  | case2 v htag => cases v <;> first | rfl | exact absurd rfl (htag _ _)

theorem kind_overSequence (f : List Value → List Value) (v : Value) :
    Kind.ofValue (overSequence f v) = Kind.ofValue v := by
  cases v <;> rfl

/-- A sequence is found where one was, with its items changed. -/
theorem sequenceAt_overSequence (f : List Value → List Value) (v : Value) :
    sequenceAt spot (overSequence f v) = (sequenceAt spot v).map f := by
  unfold sequenceAt
  rw [untag_overSequence, kind_overSequence]
  cases v.untag <;> rfl

theorem overSequence_comp (f g : List Value → List Value) :
    overSequence f ∘ overSequence g = overSequence (f ∘ g) := by
  funext v
  show overSequence f (overSequence g v) = _
  fun_induction overSequence g v <;> simp_all [overSequence]

theorem overSequence_id : overSequence id = id := by
  funext v
  fun_induction overSequence id v <;> simp_all

/-- Only the items that are found matter. -/
theorem overSequence_congr (h : ∀ xs, v.untag = .sequence xs → f xs = g xs) :
    overSequence f v = overSequence g v := by
  fun_induction overSequence f v with
  | case1 xs => exact congrArg Value.sequence (h xs rfl)
  | case2 t v ih => exact congrArg (Value.tagged t) (ih h)
  | case3 v hs ht => cases v <;> first | rfl | exact absurd rfl (hs _) | exact absurd rfl (ht _ _)

end

/-! ## The value of a key -/

section

variable {f g : Value → Value} {other : String}

theorem fieldAt_eq_ok_iff : fieldAt spot name ms = .ok v ↔ Value.entry? name ms = some v := by
  unfold fieldAt
  cases Value.entry? name ms <;> simp

theorem entry?_overField (f : Value → Value) (name : String) (ms : Entries) :
    Value.entry? name (overField name f ms) = (Value.entry? name ms).map f := by
  fun_induction overField name f ms <;> simp_all [Value.entry?]

/-- Other keys keep their values. -/
theorem entry?_overField_of_ne (hne : name ≠ other) (f : Value → Value) (ms : Entries) :
    Value.entry? other (overField name f ms) = Value.entry? other ms := by
  fun_induction overField name f ms <;> simp_all [Value.entry?]

/-- A value is found where one was, changed. -/
theorem fieldAt_overField (f : Value → Value) (ms : Entries) :
    fieldAt spot name (overField name f ms) = (fieldAt spot name ms).map f := by
  unfold fieldAt
  rw [entry?_overField]
  cases Value.entry? name ms <;> rfl

theorem overField_comp (name : String) (f g : Value → Value) :
    overField name f ∘ overField name g = overField name (f ∘ g) := by
  funext ms
  show overField name f (overField name g ms) = _
  fun_induction overField name g ms <;> simp_all [overField]

theorem overField_id (name : String) : overField name id = id := by
  funext ms
  fun_induction overField name id ms <;> simp_all

/-- Only the value that is found matters. -/
theorem overField_congr (h : ∀ v, Value.entry? name ms = some v → f v = g v) :
    overField name f ms = overField name g ms := by
  fun_induction overField name f ms <;> simp_all [overField, Value.entry?]

end

/-! ## An entry of `users` -/

section

variable {f g : Entries → Entries} {index : Nat} {x : Value}

/-- The mapping `user` of the entry of `users` with an index. -/
def userAt (index : Nat) (x : Value) : Except Error Entries := do
  let ms ← mappingAt (.entry index) x
  let v ← fieldAt (.user index) "user" ms
  mappingAt (.user index) v

/-- An entry of `users` with its mapping `user` changed. -/
def overUser (f : Entries → Entries) : Value → Value :=
  overMapping (overField "user" (overMapping f))

theorem userAt_eq_ok_iff : userAt index x = .ok ms ↔ ∃ entry v, x.untag = .mapping entry
    ∧ Value.entry? "user" entry = some v ∧ v.untag = .mapping ms := by
  simp only [userAt, bind_eq_ok_iff, mappingAt_eq_ok_iff, fieldAt_eq_ok_iff, exists_and_left]

theorem userAt_overUser (f : Entries → Entries) (index : Nat) (x : Value) :
    userAt index (overUser f x) = (userAt index x).map f := by
  unfold userAt overUser
  rw [mappingAt_overMapping]
  refine map_bind_eq_map fun ms => ?_
  rw [fieldAt_overField]
  exact map_bind_eq_map fun v => mappingAt_overMapping f v

theorem overUser_comp (f g : Entries → Entries) : overUser f ∘ overUser g = overUser (f ∘ g) := by
  simp only [overUser, overMapping_comp, overField_comp]

theorem overUser_id : overUser id = id := by
  simp only [overUser, overMapping_id, overField_id]

theorem overUser_congr (index : Nat) (h : ∀ ms, userAt index x = .ok ms → f ms = g ms) :
    overUser f x = overUser g x := by
  refine overMapping_congr fun entry hentry => overField_congr fun v hv =>
    overMapping_congr fun ms hms => h ms ?_
  exact userAt_eq_ok_iff.2 ⟨entry, v, hentry, hv, hms⟩

end

/-! ## All users -/

namespace Document

variable {F G : Nat → Entries → Entries} {d : Document} {index : Nat} {entries : Entries}
  {xs : List Value}

/-- A document with the mapping of every user changed. -/
def overUsers (F : Nat → Entries → Entries) (d : Document) : Document :=
  ⟨overMapping (overField "users" (overSequence (List.mapIdx fun i => overUser (F i)))) d.root⟩

theorem users_eq_ok_iff : d.users = .ok xs ↔ ∃ ms v, d.root.untag = .mapping ms
    ∧ Value.entry? "users" ms = some v ∧ v.untag = .sequence xs := by
  simp only [users, bind_eq_ok_iff, mappingAt_eq_ok_iff, fieldAt_eq_ok_iff, sequenceAt_eq_ok_iff,
    exists_and_left]

theorem user_eq (d : Document) (index : Nat) : d.user index = d.users >>= fun xs =>
    match xs[index]? with
    | none => .error (.missingUser index xs.length)
    | some x => userAt index x := rfl

theorem user_eq_ok_iff : d.user index = .ok entries ↔
    ∃ xs x, d.users = .ok xs ∧ xs[index]? = some x ∧ userAt index x = .ok entries := by
  rw [user_eq, bind_eq_ok_iff]
  refine exists_congr fun xs => ?_
  cases xs[index]? <;> simp

theorem users_overUsers (F : Nat → Entries → Entries) (d : Document) :
    (d.overUsers F).users = d.users.map (List.mapIdx fun i => overUser (F i)) := by
  unfold users overUsers
  rw [mappingAt_overMapping]
  refine map_bind_eq_map fun ms => ?_
  rw [fieldAt_overField]
  exact map_bind_eq_map fun v => sequenceAt_overSequence _ v

/-- A user is found as its function left it, or is not found for the
reason it was not found before. -/
theorem user_overUsers (F : Nat → Entries → Entries) (d : Document) (index : Nat) :
    (d.overUsers F).user index = (d.user index).map (F index) := by
  rw [user_eq, user_eq, users_overUsers]
  refine map_bind_eq_map fun xs => ?_
  rw [List.getElem?_mapIdx, List.length_mapIdx]
  cases xs[index]? with
  | none => rfl
  | some x => exact userAt_overUser (F index) index x

/-- Two changes in a row are one. -/
theorem overUsers_overUsers (F G : Nat → Entries → Entries) (d : Document) :
    (d.overUsers G).overUsers F = d.overUsers fun i => F i ∘ G i := by
  have hitems : (List.mapIdx fun i => overUser (F i)) ∘ (List.mapIdx fun i => overUser (G i))
      = List.mapIdx fun i => overUser (F i ∘ G i) := by
    funext xs
    simp only [Function.comp_apply, List.mapIdx_mapIdx, ← overUser_comp]
  unfold overUsers
  rw [← hitems, ← overSequence_comp, ← overField_comp, ← overMapping_comp]
  rfl

theorem overUsers_id (d : Document) : d.overUsers (fun _ => id) = d := by
  have hitems : (List.mapIdx fun _ => overUser id) = id := by
    funext xs
    simp [overUser_id, List.mapIdx_eq_zipIdx_map]
  unfold overUsers
  rw [hitems, overSequence_id, overField_id, overMapping_id]
  rfl

/-- Only the users that are found matter. -/
theorem overUsers_congr (h : ∀ i entries, d.user i = .ok entries → F i entries = G i entries) :
    d.overUsers F = d.overUsers G := by
  -- what is found at each level is what leads to the user
  refine congrArg Document.mk ?_
  refine overMapping_congr fun ms hms => overField_congr fun v hv =>
    overSequence_congr fun xs hxs => ?_
  have husers : d.users = .ok xs := users_eq_ok_iff.2 ⟨ms, v, hms, hv, hxs⟩
  refine List.ext_getElem? fun i => ?_
  rw [List.getElem?_mapIdx, List.getElem?_mapIdx]
  cases hx : xs[i]? with
  | none => rfl
  | some x =>
    refine congrArg some (overUser_congr i fun es hes => h i es ?_)
    exact user_eq_ok_iff.2 ⟨xs, x, husers, hx, hes⟩

/-- To replace one user is to leave all others alone. -/
theorem setUser_eq_overUsers (d : Document) (index : Nat) (entries : Entries) :
    d.setUser index entries
      = d.overUsers (Function.update (fun _ => id) index fun _ => entries) := by
  -- to modify one item is to map over all, the others by the identity
  have hitems (xs : List Value) : xs.modify index (overUser fun _ => entries)
      = xs.mapIdx fun i => overUser (Function.update (fun _ => id) index (fun _ => entries) i) := by
    refine List.ext_getElem? fun i => ?_
    rw [List.getElem?_modify, List.getElem?_mapIdx]
    by_cases hi : index = i
    · subst hi
      simp
    · simp [hi, Function.update_of_ne (Ne.symm hi), overUser_id]
  unfold setUser overUsers
  rw [← funext hitems]
  rfl

/-- The servers are in another place. -/
theorem server?_overUsers (F : Nat → Entries → Entries) (d : Document) :
    (d.overUsers F).server? = d.server? := by
  have hfield : (d.overUsers F).root.field? "clusters" = d.root.field? "clusters" := by
    unfold Value.field? overUsers
    rw [untag_overMapping]
    cases d.root.untag <;> first | rfl | exact entry?_overField_of_ne (by decide) _ _
  unfold server?
  rw [hfield]

/-! ## Injections -/

variable {d' : Document} {place : Injection} {token : String} {e : Error}

theorem inject_eq_ok_iff : d.inject token place = .ok d' ↔ ∃ entries,
    d.user place.userIndex = .ok entries
      ∧ d.setUser place.userIndex (withToken place.inline token entries) = d' :=
  map_eq_ok_iff

/-- An injection fails as the search for its user does. -/
theorem inject_eq_error_iff :
    d.inject token place = .error e ↔ d.user place.userIndex = .error e :=
  map_eq_error_iff

end Document

/-- A generation from a kubeconfig that can be read is an injection whose
tree is written. The server is the one of the tree that was read. -/
theorem generate_eq {d : Document} {kubeconfig : Bytes} (hread : Document.read kubeconfig = .ok d)
    (token : Bytes) (place : Injection) :
    generate kubeconfig token place = d.inject token.textLossy place >>= fun d' =>
      d'.text.map fun text =>
        { kubeconfigHash := Digest.Sha256.digest kubeconfig
          tokenHash := Digest.Sha256.digest token
          kubeconfig := text
          server := d.server?.getD "" } := by
  unfold generate
  rw [hread]
  cases hinject : d.inject token.textLossy place with
  | error e => simp only [bind, Except.bind]; rw [hinject]
  | ok d' =>
    obtain ⟨entries, -, rfl⟩ := Document.inject_eq_ok_iff.1 hinject
    simp only [bind, Except.bind]
    rw [hinject]
    simp only [Document.setUser_eq_overUsers, Document.server?_overUsers]
    cases Document.text _ <;> rfl

end CredentialRotation.Kubeconfig
