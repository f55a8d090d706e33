import CredentialRotation.Proofs.Kubeconfig.Updates

/-!
# What stays of a template

A kubeconfig in which a user can be found is that user's entries in a
place: the tags, the entries before and after, and the users before and
after on the way from the root. `Surroundings` holds all of that with a
hole for the entries, and `user_eq_ok_iff` says that finding a user is
splitting the tree so. A replacement fills the same hole with other
entries (`setUser_fill`).

`one_place_of_generate` says of a whole generation what has changed: the
entries in the hole, and how.
-/

namespace CredentialRotation.Kubeconfig

open Yaml (Value)

/-! ## Behind tags -/

section

variable {tags : List String} {v : Value}

/-- A value behind tags, the outermost first. -/
def behind (tags : List String) (v : Value) : Value := tags.foldr .tagged v

theorem exists_behind (v : Value) : ∃ tags, v = behind tags v.untag := by
  fun_induction Value.untag v with
  | case1 t v ih =>
    obtain ⟨tags, htags⟩ := ih
    exact ⟨t :: tags, congrArg (Value.tagged t) htags⟩
  | case2 v htag => exact ⟨[], rfl⟩

theorem untag_behind (tags : List String) (v : Value) : (behind tags v).untag = v.untag := by
  induction tags with
  | nil => rfl
  | cons t tags ih => exact ih

theorem overMapping_behind (f : Entries → Entries) (tags : List String) (v : Value) :
    overMapping f (behind tags v) = behind tags (overMapping f v) := by
  induction tags with
  | nil => rfl
  | cons t tags ih => exact congrArg (Value.tagged t) ih

theorem overSequence_behind (f : List Value → List Value) (tags : List String) (v : Value) :
    overSequence f (behind tags v) = behind tags (overSequence f v) := by
  induction tags with
  | nil => rfl
  | cons t tags ih => exact congrArg (Value.tagged t) ih

end

/-! ## Among entries -/

section

variable {name : String} {v : Value} {ms before after : Entries}

theorem entry?_append (h : Value.entry? name before = none) (v : Value) (after : Entries) :
    Value.entry? name (before ++ (.string name, v) :: after) = some v := by
  fun_induction Value.entry? name before <;> simp_all [Value.entry?]

theorem overField_append (h : Value.entry? name before = none) (f : Value → Value) (v : Value)
    (after : Entries) : overField name f (before ++ (.string name, v) :: after)
      = before ++ (.string name, f v) :: after := by
  fun_induction Value.entry? name before <;> simp_all [overField]

/-- A key that is found is found somewhere, and not before. -/
theorem exists_append_of_entry? (h : Value.entry? name ms = some v) :
    ∃ before after, Value.entry? name before = none
      ∧ ms = before ++ (.string name, v) :: after := by
  fun_induction Value.entry? name ms with
  | case1 => cases h
  | case2 x ms =>
    obtain rfl : x = v := by simpa using h
    exact ⟨[], ms, rfl, rfl⟩
  | case3 k x ms hne ih =>
    obtain ⟨before, after, hbefore, rfl⟩ := ih h
    exact ⟨(.string k, x) :: before, after, by simp [Value.entry?, hne, hbefore], rfl⟩
  | case4 m ms hkey ih =>
    obtain ⟨before, after, hbefore, rfl⟩ := ih h
    exact ⟨m :: before, after, by simp_all [Value.entry?], rfl⟩

theorem setField_append (h : Value.entry? name before = none) (v old : Value) (after : Entries) :
    setField name v (before ++ (.string name, old) :: after)
      = before ++ (.string name, v) :: after := by
  fun_induction Value.entry? name before <;> simp_all [setField]

theorem setField_of_none (h : Value.entry? name ms = none) (v : Value) :
    setField name v ms = ms ++ [(.string name, v)] := by
  fun_induction Value.entry? name ms <;> simp_all [setField]

/-- Entries and what becomes of them when a value is put for a key: in
the place of the one the key had, or at the end if it had none. -/
def Placed (name : String) (v : Value) (ms ms' : Entries) : Prop :=
  (Value.entry? name ms = none ∧ ms' = ms ++ [(.string name, v)]) ∨
    ∃ before old after, Value.entry? name before = none
      ∧ ms = before ++ (.string name, old) :: after ∧ ms' = before ++ (.string name, v) :: after

theorem placed_setField (name : String) (v : Value) (ms : Entries) :
    Placed name v ms (setField name v ms) := by
  cases hold : Value.entry? name ms with
  | none => exact Or.inl ⟨hold, setField_of_none hold v⟩
  | some old =>
    obtain ⟨before, after, hbefore, rfl⟩ := exists_append_of_entry? hold
    exact Or.inr ⟨before, old, after, hbefore, rfl, setField_append hbefore v old after⟩

end

/-! ## One value left out -/

/-- A mapping behind tags in which the value of a key is left out, the
first of that key. -/
structure Gap (name : String) where
  tags : List String
  before : Entries
  after : Entries
  isFirst : Value.entry? name before = none

namespace Gap

variable {name : String} {v x : Value} {ms : Entries}

/-- The mapping with a value in the gap. -/
def fill (g : Gap name) (x : Value) : Value :=
  behind g.tags (.mapping (g.before ++ (.string name, x) :: g.after))

theorem untag_fill (g : Gap name) (x : Value) :
    (g.fill x).untag = .mapping (g.before ++ (.string name, x) :: g.after) :=
  untag_behind _ _

theorem overMapping_fill (g : Gap name) (f : Value → Value) (x : Value) :
    overMapping (overField name f) (g.fill x) = g.fill (f x) := by
  unfold fill
  rw [overMapping_behind, overMapping, overField_append g.isFirst]

/-- A mapping in which a key is found has a gap there. -/
theorem exists_fill (hms : v.untag = .mapping ms) (hx : Value.entry? name ms = some x) :
    ∃ g : Gap name, v = g.fill x := by
  obtain ⟨tags, htags⟩ := exists_behind v
  obtain ⟨before, after, hbefore, rfl⟩ := exists_append_of_entry? hx
  exact ⟨⟨tags, before, after, hbefore⟩, htags.trans (by rw [hms, fill])⟩

end Gap

/-! ## One user left out -/

/-- A kubeconfig in which the entries of a user are left out: the
document around `users`, the users before and after, the entry around
`user`, and the tags of `users` and of `user`. -/
structure Surroundings where
  document : Gap "users"
  usersTags : List String
  earlier : List Value
  entry : Gap "user"
  later : List Value
  userTags : List String

namespace Surroundings

/-- The index of the user left out. -/
def index (c : Surroundings) : Nat := c.earlier.length

/-- The item of `users` with entries for the user. -/
def item (c : Surroundings) (entries : Entries) : Value :=
  c.entry.fill (behind c.userTags (.mapping entries))

/-- The kubeconfig with entries for the user. -/
def fill (c : Surroundings) (entries : Entries) : Document :=
  ⟨c.document.fill (behind c.usersTags (.sequence (c.earlier ++ c.item entries :: c.later)))⟩

theorem users_fill (c : Surroundings) (entries : Entries) :
    (c.fill entries).users = .ok (c.earlier ++ c.item entries :: c.later) :=
  Document.users_eq_ok_iff.2 ⟨_, _, Gap.untag_fill _ _, entry?_append c.document.isFirst _ _,
    untag_behind _ (.sequence _)⟩

theorem userAt_item (c : Surroundings) (entries : Entries) (index : Nat) :
    userAt index (c.item entries) = .ok entries :=
  userAt_eq_ok_iff.2 ⟨_, _, Gap.untag_fill _ _, entry?_append c.entry.isFirst _ _,
    untag_behind _ (.mapping _)⟩

/-- To replace the user is to fill in other entries. -/
theorem setUser_fill (c : Surroundings) (entries entries' : Entries) :
    (c.fill entries).setUser c.index entries' = c.fill entries' := by
  let user := overMapping (overField "user" (overMapping fun _ => entries'))
  have hitems (earlier : List Value) (x : Value) :
      (earlier ++ x :: c.later).modify earlier.length user = earlier ++ user x :: c.later := by
    induction earlier with
    | nil => rfl
    | cons y earlier ih => exact congrArg (y :: ·) ih
  have hitem : user (c.item entries) = c.item entries' := by
    simp only [user, item, Gap.overMapping_fill, overMapping_behind, overMapping]
  refine congrArg Document.mk ?_
  simp only [fill, Gap.overMapping_fill, overSequence_behind, overSequence]
  rw [← hitem]
  exact congrArg (fun xs => c.document.fill (behind c.usersTags (.sequence xs))) (hitems _ _)

end Surroundings

/-- A user is found exactly where the tree is its entries in
surroundings. -/
theorem Document.user_eq_ok_iff_fill {d : Document} {index : Nat} {entries : Entries} :
    d.user index = .ok entries ↔ ∃ c : Surroundings, c.index = index ∧ d = c.fill entries := by
  constructor
  · -- each step of the search from the root leaves something aside
    intro h
    obtain ⟨xs, x, husers, hx, huser⟩ := user_eq_ok_iff.1 h
    obtain ⟨ms, v, hms, hv, hxs⟩ := users_eq_ok_iff.1 husers
    obtain ⟨entry, u, hentry, hu, hentries⟩ := userAt_eq_ok_iff.1 huser
    obtain ⟨document, hdocument⟩ := Gap.exists_fill hms hv
    obtain ⟨usersTags, husersTags⟩ := exists_behind v
    obtain ⟨gap, hgap⟩ := Gap.exists_fill hentry hu
    obtain ⟨userTags, huserTags⟩ := exists_behind u
    obtain ⟨hlt, hget⟩ := List.getElem?_eq_some_iff.1 hx
    have hsplit : xs = xs.take index ++ x :: xs.drop (index + 1) := by
      rw [← hget, ← List.drop_eq_getElem_cons hlt, List.take_append_drop]
    refine ⟨⟨document, usersTags, xs.take index, gap, xs.drop (index + 1), userTags⟩,
      List.length_take_of_le (Nat.le_of_lt hlt), congrArg Document.mk ?_⟩
    rw [Surroundings.item, ← hentries, ← huserTags, ← hgap, ← hsplit, ← hxs, ← husersTags]
    exact hdocument
  · rintro ⟨c, rfl, rfl⟩
    refine user_eq_ok_iff.2 ⟨_, _, c.users_fill entries, ?_, c.userAt_item entries _⟩
    simp [Surroundings.index]

/-! ## The server -/

/-- The server of a cluster, where it is a string. -/
def serverOf? (cluster : Value) : Option String := do
  (← (← cluster.field? "cluster").field? "server").text?

namespace Document

/-- The clusters of a document. -/
def clusters? (d : Document) : Option (List Value) := do
  (← d.root.field? "clusters").items?

/-- The server of the cluster with an index, where it is a string. -/
def serverAt? (d : Document) (n : Nat) : Option String := do
  serverOf? (← (← d.clusters?)[n]?)

/-- A text is the first server of a document, or empty when there is
none. -/
def HasServer (d : Document) (s : String) : Prop :=
  (∃ n, d.serverAt? n = some s ∧ ∀ m < n, d.serverAt? m = none) ∨
    (s = "" ∧ ∀ n, d.serverAt? n = none)

theorem server?_eq (d : Document) : d.server? = d.clusters?.bind (·.findSome? serverOf?) := by
  unfold server? clusters?
  cases d.root.field? "clusters" <;> rfl

theorem hasServer_server? (d : Document) : d.HasServer (d.server?.getD "") := by
  rw [server?_eq]
  unfold HasServer serverAt?
  cases d.clusters? with
  | none => exact Or.inr ⟨rfl, fun _ => rfl⟩
  | some xs =>
    simp only [Option.bind_some, Option.bind_eq_bind]
    cases hfirst : xs.findSome? serverOf? with
    | none =>
      refine Or.inr ⟨rfl, fun n => ?_⟩
      cases hn : xs[n]? with
      | none => rfl
      | some x => exact List.findSome?_eq_none_iff.1 hfirst x (List.mem_of_getElem? hn)
    | some s =>
      obtain ⟨before, x, after, rfl, hx, hbefore⟩ := List.findSome?_eq_some_iff.1 hfirst
      refine Or.inl ⟨before.length, by simpa using hx, fun m hm => ?_⟩
      rw [List.getElem?_append_left hm, List.getElem?_eq_getElem hm]
      exact hbefore _ (List.getElem_mem hm)

end Document

/-! ## A generation -/

/-- **A generation touches one place.** The tree that is written is the
tree that was read but for the entries of one user: only the token is
left of them, or the token is put among them, in the place of the one
that was there or at the end. The server is the first of the tree that
was read. -/
theorem one_place_of_generate (kubeconfig token : Bytes) (place : Injection) (d : Document)
    (g : Generated) (hread : Document.read kubeconfig = .ok d)
    (h : generate kubeconfig token place = .ok g) :
    ∃ (c : Surroundings) (entries entries' : Entries), c.index = place.userIndex
      ∧ d = c.fill entries ∧ d.inject token.textLossy place = .ok (c.fill entries')
      ∧ (c.fill entries').text = .ok g.kubeconfig
      ∧ (place.inline = false → entries' = [(.string "token", .string token.textLossy)])
      ∧ (place.inline = true → Placed "token" (.string token.textLossy) entries entries')
      ∧ d.HasServer g.server := by
  rw [generate_eq hread] at h
  obtain ⟨d', hinject, h⟩ := bind_eq_ok_iff.1 h
  obtain ⟨text, htext, rfl⟩ := map_eq_ok_iff.1 h
  obtain ⟨entries, huser, rfl⟩ := Document.inject_eq_ok_iff.1 hinject
  obtain ⟨c, hindex, rfl⟩ := Document.user_eq_ok_iff_fill.1 huser
  rw [← hindex, c.setUser_fill] at hinject htext
  refine ⟨c, entries, _, hindex, rfl, hinject, htext, fun hinline => ?_, fun hinline => ?_,
    Document.hasServer_server? _⟩
  · rw [withToken, hinline]
    rfl
  · rw [withToken, hinline]
    exact placed_setField tokenField _ entries

/-- At work: a user behind tags has a token already, and the first
cluster has no server. -/
theorem one_place_of_generate_behind_tags :
    let kubeconfig := Bytes.ofString
      "users: !u [user: !v \x7btoken: old, name: n\x7d]\nclusters: [1, cluster: \x7bserver: s\x7d]"
    ∃ d g, Document.read kubeconfig = .ok d
      ∧ generate kubeconfig (Bytes.ofString "new") ⟨0, true⟩ = .ok g
      ∧ ∃ (c : Surroundings) (entries entries' : Entries), c.index = 0 ∧ d = c.fill entries
        ∧ (c.fill entries').text = .ok g.kubeconfig
        ∧ Placed "token" (.string "new") entries entries' ∧ d.HasServer "s" := by
  intro kubeconfig
  have hserver : (generate kubeconfig (Bytes.ofString "new") ⟨0, true⟩).toOption.map (·.server)
      = some "s" := by decide +kernel
  obtain ⟨g, hg, hs⟩ := Option.map_eq_some_iff.1 hserver
  have hgenerate := toOption_eq_some_iff.1 hg
  obtain ⟨d, hread, -⟩ := bind_eq_ok_iff.1 hgenerate
  obtain ⟨c, entries, entries', hindex, hd, -, htext, -, hplaced, hfirst⟩ :=
    one_place_of_generate _ _ _ d g hread hgenerate
  have htoken : (Bytes.ofString "new").textLossy = "new" := by decide +kernel
  rw [htoken] at hplaced
  exact ⟨d, g, hread, hgenerate, c, entries, entries', hindex, hd, htext, hplaced rfl, hs ▸ hfirst⟩

end CredentialRotation.Kubeconfig
