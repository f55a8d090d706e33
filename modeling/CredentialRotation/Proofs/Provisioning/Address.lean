import CredentialRotation.Proofs.Dialogue
import CredentialRotation.Proofs.Result
import CredentialRotation.Proofs.Web.Parts
import CredentialRotation.Provisioning.Client

/-!
# What a request is about

Each call of the provisioning client is one request, to an address that
the ids of the call stand in as they are. So a request is about what its
call is about exactly where the ids are parts that stand for themselves
(`asked_about_iff`). Any other id makes it a request about something else:
a binding whose id has a question mark is deleted where the one with the
id before it is, and one whose id goes up may be the binding of another
resource (`deleted_elsewhere`).
-/

namespace CredentialRotation

open Url

/-! ## What calls are about -/

namespace ServiceCall

/-- Whether an address is that of what a call is about: its path names
the resource in one segment, and the binding in another one if the call is
about one, and there is no query. -/
def IsAbout (u : Url) : ServiceCall → Prop
  | list resource | create resource _ =>
    u.query = none ∧ ∃ r : String, StandsFor r resource.toList
      ∧ u.pathText = "/provisioning/v1/environments/" ++ r ++ "/bindings"
  | delete resource id =>
    u.query = none ∧ ∃ r b : String, StandsFor r resource.toList ∧ StandsFor b id.toList
      ∧ u.pathText = "/provisioning/v1/environments/" ++ r ++ "/bindings/" ++ b

/-- Whether the ids of a call are parts that stand for themselves. The id
of a binding is the end of its address, so it may not end in what is
dropped there. -/
def IsSpelled : ServiceCall → Prop
  | list resource | create resource _ => IsSegment resource.toList
  | delete resource id =>
    IsSegment resource.toList ∧ IsSegment id.toList ∧ EndsVisibly id.toList

instance (call : ServiceCall) : Decidable call.IsSpelled :=
  match call with
  | list resource | create resource _ => inferInstanceAs (Decidable (IsSegment resource.toList))
  | delete resource id => inferInstanceAs (Decidable
      (IsSegment resource.toList ∧ IsSegment id.toList ∧ EndsVisibly id.toList))

/-- The parts of the path of a call, behind the first. -/
def parts : ServiceCall → List String
  | list resource | create resource _ => ["v1", "environments", resource, "bindings"]
  | delete resource id => ["v1", "environments", resource, "bindings", id]

variable {u u' : Url} {place : List Char} {call call' : ServiceCall}

/-- The parts that are the same for every call stand for themselves, and
are written as they are. -/
theorem standsFor_fixed : ∀ s ∈ ["provisioning", "v1", "environments", "bindings"],
    StandsFor s s.toList ∧ IsSegment s.toList ∧ escaped plainPath s.toList = s := by
  decide +kernel

/-- The ids of a call stand for themselves just if all parts of its path
do. -/
theorem isSpelled_iff : call.IsSpelled ↔
    (∀ s ∈ "provisioning" :: call.parts, IsSegment s.toList)
      ∧ EndsVisibly ("provisioning".toList ++ spelled (call.parts.map String.toList)) := by
  have hfixed := standsFor_fixed
  simp only [List.forall_mem_cons] at hfixed
  obtain ⟨⟨-, hp, -⟩, ⟨-, hv, -⟩, ⟨-, he, -⟩, ⟨-, hb, -⟩, -⟩ := hfixed
  have hlast : EndsVisibly "bindings".toList := by decide
  have hend (front : List String) (s : String) :
      EndsVisibly ("provisioning".toList ++ spelled ((front ++ [s]).map String.toList))
        ↔ EndsVisibly s.toList := by
    have := endsVisibly_spelled "provisioning".toList (front.map String.toList) s.toList []
    rwa [spelled_nil, List.append_nil, ← List.map_singleton, ← List.map_append] at this
  cases call with
  | list r | create r _ =>
    simp only [parts, List.forall_mem_cons]
    have hvisible := (hend ["v1", "environments", r] "bindings").2 hlast
    exact ⟨fun hr => ⟨⟨hp, hv, he, hr, hb, List.forall_mem_nil _⟩, hvisible⟩,
      fun ⟨⟨_, _, _, hr, _⟩, _⟩ => hr⟩
  | delete r id =>
    simp only [parts, List.forall_mem_cons]
    have hid := hend ["v1", "environments", r, "bindings"] id
    exact ⟨fun ⟨hr, hi, hvisible⟩ =>
        ⟨⟨hp, hv, he, hr, hb, hi, List.forall_mem_nil _⟩, hid.2 hvisible⟩,
      fun ⟨⟨_, _, _, hr, _, hi, _⟩, hvisible⟩ => ⟨hr, hi, hid.1 hvisible⟩⟩

/-- The address of what a call is about has a segment for each part. -/
theorem exists_names (h : call.IsAbout u) : ∃ names,
    List.Forall₂ StandsFor names (("provisioning" :: call.parts).map String.toList)
      ∧ u.pathText.toList = spelled (names.map String.toList) := by
  have hfixed := standsFor_fixed
  simp only [List.forall_mem_cons] at hfixed
  obtain ⟨⟨hp, -⟩, ⟨hv, -⟩, ⟨he, -⟩, ⟨hb, -⟩, -⟩ := hfixed
  cases call with
  | list resource | create resource _ =>
    obtain ⟨-, r, hr, htext⟩ := h
    refine ⟨["provisioning", "v1", "environments", r, "bindings"],
      .cons hp (.cons hv (.cons he (.cons hr (.cons hb .nil)))), ?_⟩
    rw [htext]
    simp
  | delete resource id =>
    obtain ⟨-, r, b, hr, hi, htext⟩ := h
    refine ⟨["provisioning", "v1", "environments", r, "bindings", b],
      .cons hp (.cons hv (.cons he (.cons hr (.cons hb (.cons hi .nil))))), ?_⟩
    rw [htext]
    simp

/-- A path of the parts of a call, each escaped, is about what the call is
about. -/
theorem isAbout_of_escaped (hspelled : call.IsSpelled) (hquery : u.query = none)
    (htext : u.pathText.toList = spelled (("provisioning" :: call.parts).map fun s =>
      (escaped plainPath s.toList).toList)) : call.IsAbout u := by
  have hfixed := standsFor_fixed
  simp only [List.forall_mem_cons] at hfixed
  obtain ⟨⟨-, -, hp⟩, ⟨-, -, hv⟩, ⟨-, -, he⟩, ⟨-, -, hb⟩, -⟩ := hfixed
  cases call with
  | list resource | create resource _ =>
    refine ⟨hquery, _, IsSegment.standsFor_escaped hspelled, ?_⟩
    rw [← String.toList_inj, htext]
    simp only [parts, List.map_cons, hp, hv, he, hb]
    simp
  | delete resource id =>
    obtain ⟨hresource, hid, -⟩ := hspelled
    refine ⟨hquery, _, _, hresource.standsFor_escaped, hid.standsFor_escaped, ?_⟩
    rw [← String.toList_inj, htext]
    simp only [parts, List.map_cons, hp, hv, he, hb]
    simp

/-- **An address put together for a call** is about what the call is about
just if its ids stand for themselves. -/
theorem isAbout_iff (hplace : ∀ c ∈ place, c ∉ marks) (hne : place ≠ [])
    (hu : ofChars? (web place ("provisioning".toList
      ++ spelled (call.parts.map String.toList))) = some u) :
    call.IsAbout u ↔ call.IsSpelled := by
  constructor
  · intro habout
    obtain ⟨names, hnames, htext⟩ := exists_names habout
    obtain ⟨hseg, hend⟩ := isSegment_of_standsFor hplace hne hu hnames htext
    exact isSpelled_iff.2 ⟨fun s hs => hseg _ (List.mem_map_of_mem hs), hend⟩
  · intro hspelled
    obtain ⟨hseg, hend⟩ := isSpelled_iff.1 hspelled
    have hsegs : ∀ q ∈ ("provisioning" :: call.parts).map String.toList, IsSegment q :=
      List.forall_mem_map.2 hseg
    obtain ⟨hquery, htext⟩ := pathText_of_isSegment hplace hne hu hsegs hend
    refine isAbout_of_escaped hspelled hquery (htext.trans ?_)
    rw [← List.map_cons, List.map_map]
    rfl

/-- Calls that are about what one path names have the same parts. -/
theorem parts_eq_of_isAbout (h : call.IsAbout u) (h' : call'.IsAbout u')
    (hpath : u.pathText = u'.pathText) : call.parts = call'.parts := by
  obtain ⟨names, hnames, htext⟩ := exists_names h
  obtain ⟨names', hnames', htext'⟩ := exists_names h'
  obtain ⟨hslash, hread⟩ := map_read_of_standsFor hnames
  obtain ⟨hslash', hread'⟩ := map_read_of_standsFor hnames'
  have hsame : names = names' := by
    rw [hpath, htext', spelled_inj (List.forall_mem_map.2 hslash') (List.forall_mem_map.2 hslash),
      List.map_inj_right fun _ _ => String.toList_inj.1] at htext
    exact htext.symm
  have hinj : Function.Injective (Utf8.encode ∘ String.toList) :=
    fun _ _ => Bytes.ofString_injective
  rw [hsame, hread', List.map_map, List.map_map] at hread
  exact (List.cons.inj (List.map_injective_iff.2 hinj hread)).2.symm

end ServiceCall

/-! ## What requests are about -/

namespace ProvisioningClient

variable {c : ProvisioningClient} {place : String}

/-- A request to an address is sent as it is, where it can be, and nothing
else once it is answered. -/
theorem asked_send {α : Type} {address : String} {u : Url} (hu : ofText? address = some u)
    (hweb : u.isWeb = true) {headers : List (String × Bytes)}
    (hheaders : headers.all (isHeaderValue ·.2) = true) (method : Method) (body : Bytes)
    (f : Option Response → α) (peer : Request → Option Response) :
    ((send method address headers body).bind fun r => .done (f r)).asked peer
      = [⟨method, { u with fragment := none }, headers, body⟩] := by
  have hsend : send method address headers body
      = .put ⟨method, { u with fragment := none }, headers, body⟩ := by
    rw [send, hu]
    exact if_pos (by rw [hweb, hheaders]; rfl)
  rw [Dialogue.asked_bind, hsend]
  rfl

/-- The address of a call. -/
def address (c : ProvisioningClient) : ServiceCall → String
  | .list resource | .create resource _ => c.bindingsUrl resource
  | .delete resource id => c.bindingUrl resource id

theorem toList_address (hbase : c.base = "http://" ++ place) (call : ServiceCall) :
    (c.address call).toList = web place.toList
      ("provisioning".toList ++ spelled (call.parts.map String.toList)) := by
  cases call <;> simp [address, bindingsUrl, bindingUrl, hbase, web, ServiceCall.parts]

/-- **Each call is one request**, to its address. -/
theorem exists_asked {u : Url} {call : ServiceCall} (hu : ofText? (c.address call) = some u)
    (hweb : u.isWeb = true) (htoken : isHeaderValue c.authorization.2 = true)
    (peer : Request → Option Response) :
    ∃ req, (c.serve call).asked peer = [req] ∧ req.url = { u with fragment := none } := by
  have htype : isHeaderValue (.ofString "application/json") = true := by decide
  cases call with
  | list resource => exact ⟨_, asked_send hu hweb (by simp [htoken]) .get _ _ peer, rfl⟩
  | create resource ttl =>
    exact ⟨_, asked_send hu hweb (by simp [htoken, htype]) .post _ _ peer, rfl⟩
  | delete resource id => exact ⟨_, asked_send hu hweb (by simp [htoken]) .delete _ _ peer, rfl⟩

/-- A base without a slash at its end is kept as it is. -/
theorem base_of_config {cfg : ProvisioningConfig} (hc : ofConfig cfg = .ok c)
    (hbase : cfg.baseUrl = "http://" ++ place) (hplace : ∀ ch ∈ place.toList, ch ∉ marks)
    (hne : place.toList ≠ []) : c.base = "http://" ++ place ∧ c.token = cfg.token := by
  have hend : cfg.baseUrl.toList.rdropWhile (· = '/') = cfg.baseUrl.toList := by
    rw [List.rdropWhile_eq_self_iff, hbase, String.toList_append]
    intro h
    rw [List.getLast_append_of_ne_nil h hne, decide_eq_true_iff]
    intro hslash
    exact hplace _ (List.getLast_mem hne) (hslash ▸ List.mem_cons_self)
  rw [ofConfig, bind_eq_ok_iff] at hc
  obtain ⟨-, -, heq⟩ := hc
  obtain rfl := Except.ok.inj heq
  refine ⟨?_, rfl⟩
  show String.ofList (cfg.baseUrl.toList.rdropWhile (· = '/')) = _
  rw [hend, String.ofList_toList, hbase]

section Asked

variable {a : Authority} (hbase : c.base = "http://" ++ place)
  (hplace : ∀ ch ∈ place.toList, ch ∉ marks) (hne : place.toList ≠ [])
  (hauth : authority? "http" place.toList = some a)
  (htoken : isHeaderValue c.authorization.2 = true) (peer : Request → Option Response)

include hbase hplace hne hauth htoken

/-- **A call of a client at a place** is one request there, about what the
call is about just if its ids stand for themselves. -/
theorem exists_asked_about (call : ServiceCall) :
    ∃ req, (c.serve call).asked peer = [req] ∧ req.url.authority = some a
      ∧ (call.IsAbout req.url ↔ call.IsSpelled) := by
  have hweb := ofChars?_web hplace hne
    ("provisioning".toList ++ spelled (call.parts.map String.toList))
  rw [hauth, Option.map_some] at hweb
  have hu := hweb
  rw [← toList_address hbase, ← ofText?] at hu
  obtain ⟨req, hasked, hurl⟩ := exists_asked hu rfl htoken peer
  refine ⟨req, hasked, by rw [hurl], ?_⟩
  rw [← ServiceCall.isAbout_iff hplace hne hweb, hurl]
  -- the fragment, which is not sent, is no part of what an address is about
  cases call <;> exact Iff.rfl

/-- Calls that go to one path have the same parts, if their ids stand for
themselves. -/
theorem parts_eq_of_asked {call call' : ServiceCall} (hspelled : call.IsSpelled)
    (hspelled' : call'.IsSpelled) {req req' : Request} (hreq : (c.serve call).asked peer = [req])
    (hreq' : (c.serve call').asked peer = [req'])
    (hpath : req.url.pathText = req'.url.pathText) : call.parts = call'.parts := by
  obtain ⟨_, hasked, -, habout⟩ :=
    exists_asked_about hbase hplace hne hauth htoken peer call
  obtain ⟨_, hasked', -, habout'⟩ :=
    exists_asked_about hbase hplace hne hauth htoken peer call'
  rw [hreq] at hasked
  rw [hreq'] at hasked'
  obtain rfl := List.singleton_inj.1 hasked
  obtain rfl := List.singleton_inj.1 hasked'
  exact ServiceCall.parts_eq_of_isAbout (habout.2 hspelled) (habout'.2 hspelled') hpath

end Asked

/-- **A request is about what its call is about** just if the ids of the
call stand for themselves. Of a client at a host and a port, the host a
number or named in Latin letters: each call is one request there, and it is
about the resource and the binding of the call if and only if these are
spelled by parts that stand for themselves.
And of such calls, two that delete at the same path delete the same. -/
theorem asked_about_iff {cfg : ProvisioningConfig} {host port : String} {a : Authority}
    (hc : ofConfig cfg = .ok c) (hbase : cfg.baseUrl = "http://" ++ (host ++ ":" ++ port))
    (hplace : ∀ ch ∈ (host ++ ":" ++ port).toList, ch ∉ marks)
    (hauth : authority? "http" (host ++ ":" ++ port).toList = some a)
    (htoken : isHeaderValue (.ofString ("Bearer " ++ cfg.token)) = true)
    (peer : Request → Option Response) :
    (∀ call, ∃ req, (c.serve call).asked peer = [req] ∧ req.url.authority = some a
        ∧ (call.IsAbout req.url ↔ call.IsSpelled))
      ∧ ∀ resource id resource' id' req req',
        (ServiceCall.delete resource id).IsSpelled →
        (ServiceCall.delete resource' id').IsSpelled →
        (c.serve (.delete resource id)).asked peer = [req] →
        (c.serve (.delete resource' id')).asked peer = [req'] →
        req.url.pathText = req'.url.pathText → resource = resource' ∧ id = id' := by
  have hne : (host ++ ":" ++ port).toList ≠ [] := by simp
  obtain ⟨hbase', htoken'⟩ := base_of_config hc hbase hplace hne
  rw [← htoken'] at htoken
  refine ⟨exists_asked_about hbase' hplace hne hauth htoken peer,
    fun resource id resource' id' req req' hspelled hspelled' hreq hreq' hpath => ?_⟩
  have hparts := parts_eq_of_asked hbase' hplace hne hauth htoken peer hspelled hspelled' hreq
    hreq' hpath
  simpa [ServiceCall.parts] using hparts

/-- At work on a port of the own host. -/
theorem asked_about_iff_local :
    let cfg : ProvisioningConfig := { baseUrl := "http://127.0.0.1:8080", token := "tok" }
    let c : ProvisioningClient := ⟨"http://127.0.0.1:8080", "tok"⟩
    let a : Authority := { host := .ip (.v4 127 0 0 1), port := some 8080 }
    ofConfig cfg = .ok c
      ∧ (ServiceCall.delete "env-1" "b 1").IsSpelled
      ∧ ¬ (ServiceCall.delete "env-1" "b/1").IsSpelled
      ∧ (∀ call, ∃ req, (c.serve call).asked (fun _ => none) = [req]
        ∧ req.url.authority = some a ∧ (call.IsAbout req.url ↔ call.IsSpelled))
      ∧ ∀ resource id resource' id' req req',
        (ServiceCall.delete resource id).IsSpelled →
        (ServiceCall.delete resource' id').IsSpelled →
        (c.serve (.delete resource id)).asked (fun _ => none) = [req] →
        (c.serve (.delete resource' id')).asked (fun _ => none) = [req'] →
        req.url.pathText = req'.url.pathText → resource = resource' ∧ id = id' := by
  intro cfg c a
  have hc : ofConfig cfg = .ok c := by decide +kernel
  have hbase : cfg.baseUrl = "http://" ++ ("127.0.0.1" ++ ":" ++ "8080") := by decide +kernel
  have hplain : ("127.0.0.1" ++ ":" ++ "8080").toList.all (· ∉ marks) = true := by decide +kernel
  have hplace : ∀ ch ∈ ("127.0.0.1" ++ ":" ++ "8080").toList, ch ∉ marks := fun ch hch =>
    of_decide_eq_true (List.all_eq_true.1 hplain ch hch)
  have hauth : authority? "http" ("127.0.0.1" ++ ":" ++ "8080").toList = some a := by
    decide +kernel
  exact ⟨hc, by decide +kernel, by decide +kernel,
    asked_about_iff hc hbase hplace hauth (by decide +kernel) fun _ => none⟩

/-- An id with a question mark, or one that goes up, deletes something
else. -/
theorem deleted_elsewhere :
    let c : ProvisioningClient := ⟨"http://127.0.0.1:8080", "tok"⟩
    let sent (resource id : String) : List (String × Option String) :=
      ((c.serve (.delete resource id)).asked fun _ => none).map fun req =>
        (req.url.pathText, req.url.query)
    (¬ ∀ resource id, ∃ req, (c.serve (.delete resource id)).asked (fun _ => none) = [req]
        ∧ (ServiceCall.delete resource id).IsAbout req.url)
      ∧ sent "env-1" "a?b" = [("/provisioning/v1/environments/env-1/bindings/a", some "b")]
      ∧ sent "env-1" "a" = [("/provisioning/v1/environments/env-1/bindings/a", none)]
      ∧ sent "env-1" "../../env-2/bindings/b"
        = [("/provisioning/v1/environments/env-2/bindings/b", none)] := by
  intro c sent
  have hquery : sent "env-1" "a?b"
      = [("/provisioning/v1/environments/env-1/bindings/a", some "b")] := by decide +kernel
  refine ⟨fun hall => ?_, hquery, by decide +kernel, by decide +kernel⟩
  obtain ⟨req, hasked, hnone, -⟩ := hall "env-1" "a?b"
  simp only [sent, hasked, List.map_cons, List.map_nil, hnone] at hquery
  cases (Prod.mk.inj (List.singleton_inj.1 hquery)).2

end ProvisioningClient

end CredentialRotation
