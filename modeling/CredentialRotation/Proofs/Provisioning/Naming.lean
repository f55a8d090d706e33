import CredentialRotation.Proofs.Json.Fields
import CredentialRotation.Proofs.Provisioning.Pass

/-!
# What an issued binding is called

A binding that is made has its name and its end from the answer alone: the
name from the header, or else from the metadata in the body, and the end
from there. The header is not taken at an empty word, but the metadata is
(`issued_without_name`), so a record keeps clear of bindings without a
name exactly as long as the metadata does (`named_as_told`).
-/

namespace CredentialRotation

open Provisioning

/-! ## Answers -/

namespace Provisioning

variable {body : Bytes} {created : Created} {answer : Option Response} {i : Issued}
  {m m' : Json.Node}

/-- `m` is the metadata in the body of an answer. -/
def HasMetadata (answer : Option Response) (m : Json.Node) : Prop :=
  ∃ a body x, answer = some a ∧ a.body = some body ∧ Json.Node.ofBytes? body = some x
    ∧ x.Holds ["metadata", "credentials"] "metadata" m

/-- What the metadata `m` says of a binding under a name. -/
def Says (m : Json.Node) (name : String) (text : String) : Prop :=
  m.Holds ["id", "expires_at"] name (.string (some text))

/-- The word in the header, where it can be read and is not empty. -/
def Located (answer : Option Response) (id : String) : Prop :=
  ∃ a, answer = some a ∧ a.headerText? "location" = some id ∧ id ≠ ""

theorem HasMetadata.unique (h : HasMetadata answer m) (h' : HasMetadata answer m') : m = m' := by
  obtain ⟨a, body, x, rfl, hbody, hx, hm⟩ := h
  obtain ⟨_, body', x', ha, hbody', hx', hm'⟩ := h'
  obtain rfl := Option.some.inj ha
  obtain rfl := Option.some.inj (hbody.symm.trans hbody')
  obtain rfl := Option.some.inj (hx.symm.trans hx')
  exact hm.unique (by decide) hm'

theorem Says.unique {name s s' : String} (h : Says m name s) (h' : Says m name s') : s = s' := by
  simpa using Json.Node.Holds.unique (by decide) h h'

/-- What is read of the metadata is said there. -/
theorem says_of_metadata? {id : Option String} {expiresAt : Option Instant}
    (h : metadata? m = some (id, expiresAt)) :
    (∀ s, id = some s → Says m "id" s)
      ∧ ∀ t, expiresAt = some t →
        ∃ text, Says m "expires_at" text ∧ Instant.ofText? text = some t := by
  simp only [metadata?, Option.bind_eq_bind, Option.bind_eq_some_iff, Option.some.injEq,
    Prod.mk.injEq] at h
  obtain ⟨r, hopen, id, hid, expiresAt, hexpires, rfl, rfl⟩ := h
  constructor
  · rintro s rfl
    obtain ⟨y, hy, -, htext⟩ := Record.exists_of_optional hopen hid
    rwa [Json.Node.text?_eq_some_iff.1 htext] at hy
  · rintro t rfl
    obtain ⟨y, hy, -, hinstant⟩ := Record.exists_of_optional hopen hexpires
    obtain ⟨text, rfl, ht⟩ := Json.Node.instant?_eq_some_iff.1 hinstant
    exact ⟨text, hy, ht⟩

/-- What a body tells of a binding that ends, its metadata says. -/
theorem exists_metadata (h : Created.ofBody? body = some created) {t : Instant}
    (hexpires : created.expiresAt = some t) :
    ∃ x m, Json.Node.ofBytes? body = some x ∧ x.Holds ["metadata", "credentials"] "metadata" m
      ∧ metadata? m = some (created.id, created.expiresAt) := by
  unfold Created.ofBody? at h
  split at h
  · obtain rfl := Option.some.inj h
    cases hexpires
  · obtain ⟨x, hx, hread⟩ := Option.bind_eq_some_iff.1 h
    simp only [Created.read?, Option.bind_eq_bind, Option.bind_eq_some_iff, Option.some.injEq]
      at hread
    obtain ⟨r, hopen, metadata, hmetadata, credentials, -, rfl⟩ := hread
    cases metadata with
    | none => cases hexpires
    | some told =>
      obtain ⟨m, hm, -, htold⟩ := Record.exists_of_optional hopen hmetadata
      exact ⟨x, m, hx, hm, htold⟩

theorem Located.unique {s s' : String} (h : Located answer s) (h' : Located answer s') :
    s = s' := by
  obtain ⟨a, rfl, hs, -⟩ := h
  obtain ⟨_, ha, hs', -⟩ := h'
  obtain rfl := Option.some.inj ha
  exact Option.some.inj (hs.symm.trans hs')

/-- **Where name and end are from.** -/
theorem MakesBinding.told (h : MakesBinding answer i) : ∃ m, HasMetadata answer m
    ∧ (∃ text, Says m "expires_at" text ∧ Instant.ofText? text = some i.expiresAt)
    ∧ (Located answer i.id ∨ (¬∃ s, Located answer s) ∧ Says m "id" i.id) := by
  obtain ⟨a, body, created, rfl, -, hbody, hcreated, hexpires, -, hid⟩ := h
  obtain ⟨x, m, hx, hm, htold⟩ := exists_metadata hcreated hexpires
  obtain ⟨hname, hend⟩ := says_of_metadata? htold
  refine ⟨m, ⟨a, body, x, rfl, hbody, hx, hm⟩, hend _ hexpires, ?_⟩
  rcases hid with ⟨hlocated, hne⟩ | ⟨hnone, hsaid⟩
  · exact .inl ⟨a, rfl, hlocated, hne⟩
  · refine .inr ⟨?_, hname _ hsaid⟩
    rintro ⟨s, _, ha, hs, hne⟩
    obtain rfl := Option.some.inj ha
    exact hne (hnone s hs)

/-- It has no name just where the metadata is asked for it and says so. -/
theorem MakesBinding.id_eq_empty_iff (h : MakesBinding answer i) (hm : HasMetadata answer m) :
    i.id = "" ↔ (¬∃ s, Located answer s) ∧ Says m "id" "" := by
  obtain ⟨m', hm', -, hid⟩ := h.told
  obtain rfl := hm.unique hm'
  rcases hid with hlocated | ⟨hnone, hsaid⟩
  · obtain ⟨-, -, -, hne⟩ := id hlocated
    exact iff_of_false hne fun hno => hno.1 ⟨_, hlocated⟩
  · exact ⟨fun hempty => ⟨hnone, hempty ▸ hsaid⟩, fun ⟨_, hempty⟩ => hsaid.unique hempty⟩

end Provisioning

/-! ## Records -/

/-- A call of a rotator that a client serves: what the clock shows, and
what the web answers. -/
structure Visit where
  rotates : Bool
  now : Instant
  later : Instant
  peer : Request → Option Response

namespace ProvisioningClient

variable {c : ProvisioningClient} {r : Rotator} {bs : List Binding} {visits : List Visit}

/-- The call that a visit is. -/
def visit (c : ProvisioningClient) (r : Rotator) (v : Visit) : Call :=
  if v.rotates then .rotate (c.occasion r v.now v.later v.peer)
  else .observe (c.occasion r v.now v.later v.peer)

/-- The record after a visit: what the visit leaves, or the record as it
was where the visit fails. -/
def after (c : ProvisioningClient) (r : Rotator) (bs : List Binding) (v : Visit) : List Binding :=
  if v.rotates then
    match (c.pass r bs v.now v.later).eval v.peer with
    | .ok out => out.bindings
    | .error _ => bs
  else
    match (c.held (r.observe bs v.now)).eval v.peer with
    | .ok seen => seen.retained
    | .error _ => bs

/-- The record after visits, one after the other. -/
def record (c : ProvisioningClient) (r : Rotator) (bs : List Binding) (visits : List Visit) :
    List Binding :=
  visits.foldl (c.after r) bs

/-- A visit does what its call does. -/
theorem after_eq (v : Visit) : c.after r bs v = r.after bs (c.visit r v) := by
  cases hrotates : v.rotates with
  | false =>
    have hobserved : (c.held (r.observe bs v.now)).eval v.peer
        = r.observed bs (c.occasion r v.now v.later v.peer) := by
      rw [held, Dialogue.eval_via, Rotator.observed_eq, Rotator.observe, Dialogue.eval]
      change _ = Except.map _ ((c.serve (.list r.resource)).eval v.peer)
      cases (c.serve (.list r.resource)).eval v.peer <;> rfl
    cases hseen : r.observed bs (c.occasion r v.now v.later v.peer) <;>
      simp [after, visit, hrotates, Rotator.after, hobserved, hseen]
  | true =>
    cases hout : r.rotated bs (c.occasion r v.now v.later v.peer) <;>
      simp [after, visit, hrotates, Rotator.after, eval_pass, hout]

theorem record_eq : c.record r bs visits = r.record bs (visits.map (c.visit r)) := by
  rw [record, Rotator.record, List.foldl_map]
  exact congrArg (fun f => List.foldl f bs visits) (funext₂ fun _ v => after_eq v)

/-- Whether a visit makes a binding that the answer to its second request
calls `i`. -/
def Makes (c : ProvisioningClient) (r : Rotator) (bs : List Binding) (v : Visit) (i : Issued) :
    Prop :=
  v.rotates = true ∧ ∃ u, c.place? r.resource = some u
    ∧ LeavesNone r bs v.now (v.peer (c.listRequest u))
    ∧ MakesBinding (v.peer (c.createRequest u r.policy.ttlSeconds)) i

/-- A visit that makes a binding issues it. -/
theorem issued?_occasion_iff {now later : Instant} {peer : Request → Option Response}
    {b : Binding} : r.issued? bs (c.occasion r now later peer) = some b ↔
      ∃ u i, c.place? r.resource = some u ∧ LeavesNone r bs now (peer (c.listRequest u))
        ∧ MakesBinding (peer (c.createRequest u r.policy.ttlSeconds)) i
        ∧ .issued i.id later i.expiresAt = b := by
  rw [Rotator.issued?_eq_some_iff]
  constructor
  · rintro ⟨ids, hlisted, hinactive, i, hcreated, hb⟩
    cases hplace : c.place? r.resource with
    | none =>
      rw [occasion_eq, hplace] at hlisted
      cases hlisted
    | some u =>
      rw [occasion_of_place peer hplace] at hlisted hinactive hcreated
      exact ⟨u, i, rfl, ⟨ids, settle_readList_eq_ok_iff.1 hlisted,
        Ledger.hasActive_eq_false_iff.1 hinactive⟩, settle_readCreated_eq_ok_iff.1 hcreated, hb⟩
  · rintro ⟨u, i, hplace, ⟨ids, hlists, hnone⟩, hmakes, hb⟩
    rw [occasion_of_place peer hplace]
    exact ⟨ids, settle_readList_eq_ok_iff.2 hlists, Ledger.hasActive_eq_false_iff.2 hnone, i,
      settle_readCreated_eq_ok_iff.2 hmakes, hb⟩

/-- **Records have names** as long as every binding is given one that is
made on the way. -/
theorem named_throughout_iff (hstart : ∀ b ∈ bs, b.id ≠ "") :
    (∀ before, before <+: visits → ∀ b ∈ c.record r bs before, b.id ≠ "") ↔
      ∀ before v i, before ++ [v] <+: visits → c.Makes r (c.record r bs before) v i →
        i.id ≠ "" := by
  have hrecords :
      (∀ before, before <+: visits → ∀ b ∈ r.record bs (before.map (c.visit r)), b.id ≠ "") ↔
      ∀ calls, calls <+: visits.map (c.visit r) → ∀ b ∈ r.record bs calls, b.id ≠ "" := by
    constructor
    · intro h calls hpart
      obtain ⟨before, hbefore, rfl⟩ := List.prefix_map_iff.1 hpart
      exact h before hbefore
    · exact fun h before hpart => h _ (hpart.map _)
  simp only [record_eq]
  rw [hrecords, Rotator.forall_record_iff (fun _ _ hb => hb) hstart]
  constructor
  · rintro h before v i hpart ⟨hrotates, u, hplace, hneed, hmakes⟩
    have hcalls := hpart.map (c.visit r)
    rw [List.map_append, List.map_singleton, visit, if_pos hrotates] at hcalls
    exact h _ _ _ hcalls (issued?_occasion_iff.2 ⟨u, i, hplace, hneed, hmakes, rfl⟩)
  · intro h calls o b hpart hissued
    obtain ⟨l, hl, hcalls⟩ := List.prefix_map_iff.1 hpart
    obtain ⟨before, last, rfl, rfl, hlast⟩ := List.map_eq_append_iff.1 hcalls.symm
    obtain ⟨v, rfl, hv⟩ := List.map_eq_singleton_iff.1 hlast
    cases hrotates : v.rotates with
    | false => simp [visit, hrotates] at hv
    | true =>
      simp only [visit, hrotates, if_true, Call.rotate.injEq] at hv
      obtain ⟨u, i, hplace, hneed, hmakes, rfl⟩ := issued?_occasion_iff.1 (hv ▸ hissued)
      exact h before v i hl ⟨hrotates, u, hplace, hneed, hmakes⟩

/-- **Bindings are called what the answer says.** A binding that is made
has the name in the header, where one can be read that is not empty, and
else that in the metadata, which may be empty; it ends when the metadata
says. So every binding of every record has a name, from a record where all
have, exactly as long as every binding does that is made on the way; and
the only one that does not is one for which there is no name in the header
and an empty one in the metadata. -/
theorem named_as_told (c : ProvisioningClient) (r : Rotator) (bs : List Binding)
    (hstart : ∀ b ∈ bs, b.id ≠ "") (visits : List Visit) :
    (∀ answer i, settle readCreated answer = .ok i → ∃ m, HasMetadata answer m
        ∧ (∃ text, Says m "expires_at" text ∧ Instant.ofText? text = some i.expiresAt)
        ∧ (∀ s, Located answer s → i.id = s)
        ∧ ((¬∃ s, Located answer s) → Says m "id" i.id)
        ∧ (i.id = "" ↔ (¬∃ s, Located answer s) ∧ Says m "id" ""))
      ∧ ((∀ before, before <+: visits → ∀ b ∈ c.record r bs before, b.id ≠ "") ↔
        ∀ before v i, before ++ [v] <+: visits → c.Makes r (c.record r bs before) v i →
          i.id ≠ "") := by
  refine ⟨fun answer i hok => ?_, named_throughout_iff hstart⟩
  have hmakes := settle_readCreated_eq_ok_iff.1 hok
  obtain ⟨m, hm, hend, hid⟩ := hmakes.told
  refine ⟨m, hm, hend, fun s hs => ?_, fun hno => ?_, hmakes.id_eq_empty_iff hm⟩
  · rcases hid with hlocated | ⟨hno, -⟩
    · exact hlocated.unique hs
    · exact absurd ⟨s, hs⟩ hno
  · rcases hid with hlocated | ⟨-, hsaid⟩
    · exact absurd ⟨_, hlocated⟩ hno
    · exact hsaid

/-- At work: a name in the header goes before an empty one in the metadata,
and where the header is empty the metadata has the name. -/
theorem named_as_told_by_header :
    let r : Rotator := ⟨{}, "env-1"⟩
    let expires : Instant := ⟨8100, 0, by decide, by decide, by decide, by decide⟩
    let made (location id : String) : Response := ⟨201, [("Location", .ofString location)],
      some (.ofString ("\x7b\"metadata\":\x7b\"id\":\"" ++ id
        ++ "\",\"expires_at\":\"1970-01-01T02:15:00Z\"\x7d\x7d"))⟩
    let listed : Response := ⟨200, [], some (.ofString "\x7b\x7d")⟩
    let v : Visit := ⟨true, .epoch, .epoch,
      fun q => if q.method = .get then some listed else some (made "b-1" "")⟩
    let c : ProvisioningClient := ⟨"http://127.0.0.1:8080", "tok"⟩
    settle readCreated (some (made "b-1" "")) = .ok ⟨"b-1", expires, ""⟩
      ∧ settle readCreated (some (made "" "b-2")) = .ok ⟨"b-2", expires, ""⟩
      ∧ (∃ m, HasMetadata (some (made "" "b-2")) m ∧ Says m "id" "b-2")
      ∧ c.record r [] [v] = [⟨"b-1", true, .epoch, expires⟩]
      ∧ ∀ before, before <+: [v] → ∀ b ∈ c.record r [] before, b.id ≠ "" := by
  intro r expires made listed v c
  have hheader : settle readCreated (some (made "b-1" "")) = .ok ⟨"b-1", expires, ""⟩ := by
    decide +kernel
  have hbody : settle readCreated (some (made "" "b-2")) = .ok ⟨"b-2", expires, ""⟩ := by
    decide +kernel
  have hrecord : c.record r [] [v] = [⟨"b-1", true, .epoch, expires⟩] := by decide +kernel
  obtain ⟨htold, hthroughout⟩ := named_as_told c r [] (by simp) [v]
  obtain ⟨m, hm, -, -, hsaid, -⟩ := htold _ _ hbody
  have hempty : ¬∃ s, Located (some (made "" "b-2")) s := by
    rintro ⟨s, _, ha, hs, hne⟩
    obtain rfl := Option.some.inj ha
    have hword : (made "" "b-2").headerText? "location" = some "" := by decide +kernel
    exact hne (Option.some.inj (hs.symm.trans hword))
  refine ⟨hheader, hbody, ⟨m, hm, hsaid hempty⟩, hrecord,
    hthroughout.2 fun before v' i hpart hmakes => ?_⟩
  -- the only visit is the first one
  obtain ⟨rfl, rfl⟩ : before = [] ∧ v' = v := by
    have hlength := hpart.length_le
    cases before with
    | nil => simpa using hpart
    | cons _ _ => simp at hlength
  obtain ⟨-, u, -, -, hmade⟩ := hmakes
  have hsame := (settle_readCreated_eq_ok_iff.2 hmade).symm.trans hheader
  rw [Except.ok.inj hsame]
  decide

/-- An answer that has an empty name in its metadata and none in its header
makes a binding without a name, and a pass takes it into the record. -/
theorem issued_without_name :
    (¬∀ answer i, settle readCreated answer = .ok i → i.id ≠ "")
      ∧ ¬∀ (c : ProvisioningClient) (r : Rotator) (bs : List Binding) (v : Visit),
        (∀ b ∈ bs, b.id ≠ "") → ∀ b ∈ c.after r bs v, b.id ≠ "" := by
  let expires : Instant := ⟨8100, 0, by decide, by decide, by decide, by decide⟩
  let made : Response := ⟨201, [], some (.ofString
    ("\x7b\"metadata\":\x7b\"id\":\"\",\"expires_at\":\"1970-01-01T02:15:00Z\"\x7d,"
      ++ "\"credentials\":\x7b\"kubeconfig\":\"k\"\x7d\x7d"))⟩
  let listed : Response := ⟨200, [], some (.ofString "\x7b\x7d")⟩
  let v : Visit :=
    ⟨true, .epoch, .epoch, fun q => if q.method = .get then some listed else some made⟩
  constructor
  · intro hall
    have hok : settle readCreated (some made) = .ok ⟨"", expires, "k"⟩ := by decide +kernel
    exact hall _ _ hok rfl
  · intro hall
    have hafter : after ⟨"http://127.0.0.1:8080", "tok"⟩ ⟨{}, "env-1"⟩ [] v
        = [⟨"", true, .epoch, expires⟩] := by
      decide +kernel
    refine hall ⟨"http://127.0.0.1:8080", "tok"⟩ ⟨{}, "env-1"⟩ [] v (by simp)
      ⟨"", true, .epoch, expires⟩ ?_ rfl
    rw [hafter]
    exact List.mem_singleton_self _

end ProvisioningClient

end CredentialRotation
