import CredentialRotation.Proofs.Binding.Calls
import CredentialRotation.Proofs.Web.Sending
import CredentialRotation.Provisioning.Client

/-!
# A pass over the web

A rotator asks a service, a provisioning client asks the web for the
service. Put together, a pass is one or two requests, and what it gives is
read off the answers to them. `pass_spec` says which answers ask for the
second request and which make the pass succeed.

Each layer has its own description. `ListsIds` and `MakesBinding` say what
an answer tells, without the errors that the others are told by. The
rotator is described on an `Occasion`, and the client that serves it makes
up one occasion out of the two answers (`eval_pass`, `asked_pass`), so
nothing about ledgers is proved again here.
-/

namespace CredentialRotation

/-! ## Answers -/

namespace Provisioning

/-- Whether an answer lists ids: it is 200, and its body spells a list of
them. -/
def ListsIds (answer : Option Response) (ids : List String) : Prop :=
  ∃ r body, answer = some r ∧ r.status = 200 ∧ r.body = some body
    ∧ (Json.Node.ofBytes? body).bind listed? = some ids

/-- Whether an answer makes a binding: it is a success, and its body can
be read and tells when the binding expires. The id is that in the header
where it can be read and is not empty, and otherwise that in the body. -/
def MakesBinding (answer : Option Response) (i : Issued) : Prop :=
  ∃ r body created, answer = some r ∧ (200 ≤ r.status ∧ r.status < 300) ∧ r.body = some body
    ∧ Created.ofBody? body = some created ∧ created.expiresAt = some i.expiresAt
    ∧ created.kubeconfig.getD "" = i.kubeconfig
    ∧ (r.headerText? "location" = some i.id ∧ i.id ≠ ""
      ∨ (∀ s, r.headerText? "location" = some s → s = "") ∧ created.id = some i.id)

end Provisioning

namespace ProvisioningClient

open Provisioning

variable {c : ProvisioningClient} {resource what : String} {answer : Option Response}
  {ids : List String} {i : Issued} {id : String}

theorem settle_readList_eq_ok_iff :
    settle (readList resource) answer = .ok ids ↔ ListsIds answer ids := by
  cases answer with
  | none => simp [settle, ListsIds]
  | some r =>
    simp only [settle, readList, ListsIds, Option.some.injEq, exists_and_left, exists_eq_left']
    by_cases hok : r.status = 200
    · rw [if_pos hok]
      cases r.body with
      | none => simp
      | some body =>
        simp only [Option.bind_some, hok, true_and, Option.some.injEq, exists_eq_left']
        cases (Json.Node.ofBytes? body).bind listed? <;> simp
    · rw [if_neg hok]
      split <;> simp [hok]

/-- A list is not found just where the answer is 404. -/
theorem settle_readList_eq_notFound_iff :
    settle (readList resource) answer = .error (.notFound what) ↔
      "Environment " ++ resource ++ " not found" = what
        ∧ ∃ r, answer = some r ∧ r.status = 404 := by
  cases answer with
  | none => simp [settle]
  | some r =>
    simp only [settle, readList, Option.some.injEq, exists_eq_left']
    by_cases hok : r.status = 200
    · rw [if_pos hok]
      cases (r.body.bind Json.Node.ofBytes?).bind listed? <;> simp [hok]
    · rw [if_neg hok]
      by_cases hgone : r.status = 404
      · simp [hgone]
      · simp [hgone, refused]

/-- The id in a header is one that can be read and is not empty. -/
theorem locatedId?_eq_some_iff {r : Response} :
    locatedId? r = some id ↔ r.headerText? "location" = some id ∧ id ≠ "" := by
  rw [locatedId?, Option.filter_eq_some_iff]
  simp

theorem locatedId?_eq_none_iff {r : Response} :
    locatedId? r = none ↔ ∀ s, r.headerText? "location" = some s → s = "" := by
  rw [locatedId?, Option.filter_eq_none_iff]
  simp

/-- An id comes from the header or else from the body. -/
theorem orElse_eq_some_iff {r : Response} {told : Option String} :
    ((locatedId? r).orElse fun _ => told) = some id ↔
      r.headerText? "location" = some id ∧ id ≠ ""
        ∨ (∀ s, r.headerText? "location" = some s → s = "") ∧ told = some id := by
  rw [← locatedId?_eq_some_iff, ← locatedId?_eq_none_iff]
  cases locatedId? r <;> simp

theorem settle_readCreated_eq_ok_iff :
    settle readCreated answer = .ok i ↔ MakesBinding answer i := by
  cases answer with
  | none => simp [settle, MakesBinding]
  | some r =>
    have hsuccess : (200 ≤ r.status ∧ r.status < 300) ↔ r.isSuccess = true := by
      simp [Response.isSuccess, Status.isSuccess]
    simp only [settle, readCreated, MakesBinding, Option.some.injEq, exists_and_left,
      exists_eq_left', hsuccess]
    cases r.isSuccess with
    | false => simp
    | true =>
      cases r.body with
      | none => simp
      | some body =>
        cases hbody : Created.ofBody? body with
        | none => simp [hbody]
        | some created =>
          simp only [Bool.not_true, Bool.false_eq_true, if_false, true_and, Option.some.injEq,
            exists_eq_left', hbody, ← orElse_eq_some_iff]
          -- the two that can be missing: the id, wherever it is from, and the expiry
          obtain ⟨id, expiresAt, kubeconfig⟩ := i
          cases (locatedId? r).orElse fun _ => created.id with
          | none => simp
          | some id => cases created.expiresAt <;> simp [and_comm, and_left_comm]

/-- A binding that is not made is never one that is not found. -/
theorem settle_readCreated_ne_notFound :
    settle readCreated answer ≠ .error (.notFound what) := by
  cases answer with
  | none => simp [settle]
  | some r =>
    simp only [settle, readCreated]
    split
    · simp [refused]
    · split
      · simp
      · split
        · simp
        · split <;> simp

/-! ## Requests -/

/-- The address that the bindings of a resource are at, if a client can
send anything there. Hosts are those that `Url.ofText?` reads, so named in
Latin letters. -/
def place? (c : ProvisioningClient) (resource : String) : Option Url :=
  (Url.ofText? (c.bindingsUrl resource)).filter fun u =>
    u.isWeb && isHeaderValue c.authorization.2

/-- The request for the list. -/
def listRequest (c : ProvisioningClient) (u : Url) : Request :=
  { method := .get, url := { u with fragment := none }, headers := [c.authorization] }

/-- The request for a binding that lives so many seconds. -/
def createRequest (c : ProvisioningClient) (u : Url) (ttlSeconds : Int) : Request :=
  { method := .post, url := { u with fragment := none },
    headers := [c.authorization, ("content-type", .ofString "application/json")],
    body := Utf8.encode (order ttlSeconds).print }

variable (peer : Request → Option Response) {ttlSeconds : Int}

/-- What leaves for a place leaves with the token of the client. -/
theorem leaving?_eq {method : Method} {headers : List (String × Bytes)} {body : Bytes}
    (hheaders : headers.all (isHeaderValue ·.2) = true) :
    Request.leaving? method (c.bindingsUrl resource) (c.authorization :: headers) body
      = (c.place? resource).map fun u =>
        { method, url := { u with fragment := none }, headers := c.authorization :: headers,
          body } := by
  simp only [Request.leaving?, place?, List.all_cons, hheaders, Bool.and_true]

theorem leaving?_list : Request.leaving? .get (c.bindingsUrl resource) [c.authorization] []
    = (c.place? resource).map c.listRequest :=
  leaving?_eq rfl

theorem leaving?_create : Request.leaving? .post (c.bindingsUrl resource)
      [c.authorization, ("content-type", .ofString "application/json")]
      (Utf8.encode (order ttlSeconds).print)
    = (c.place? resource).map (c.createRequest · ttlSeconds) :=
  leaving?_eq (by decide)

/-- What an order says. -/
theorem print_order : (order ttlSeconds).print
    = "\x7b\"parameters\":\x7b\"expiration_seconds\":".toList
      ++ Number.signedDecimal ttlSeconds ++ "\x7d\x7d".toList := by
  simp [order, Json.print, Json.printMembers, Json.joinComma, Json.printString, Json.escapeChar,
    Json.ofInt, Number.Numeric.text]

/-- A call for the list sends the request for it, if it can be sent. -/
theorem asked_list : (c.serve (.list resource)).asked peer
    = ((c.place? resource).map c.listRequest).toList := by
  rw [← leaving?_list]
  exact asked_send_bind _ _

/-- And reads the answer to it. -/
theorem eval_list : (c.serve (.list resource)).eval peer
    = settle (readList resource) (((c.place? resource).map c.listRequest).bind peer) := by
  rw [← leaving?_list]
  exact eval_send_bind _ _

/-- A call for a binding sends the request for it, if it can be sent. -/
theorem asked_create : (c.serve (.create resource ttlSeconds)).asked peer
    = ((c.place? resource).map (c.createRequest · ttlSeconds)).toList := by
  rw [← leaving?_create]
  exact asked_send_bind _ _

/-- And reads the answer to it. -/
theorem eval_create : (c.serve (.create resource ttlSeconds)).eval peer
    = settle readCreated (((c.place? resource).map (c.createRequest · ttlSeconds)).bind peer) := by
  rw [← leaving?_create]
  exact eval_send_bind _ _

/-! ## Passes -/

variable {r : Rotator} {bs : List Binding} {now later : Instant}

/-- A pass of a rotator that a client serves. -/
def pass (c : ProvisioningClient) (r : Rotator) (bs : List Binding) (now later : Instant) :
    Exchange (Except ServiceError Rotated) :=
  c.held (r.rotate bs now later)

/-- What a rotator meets that a client serves. -/
def occasion (c : ProvisioningClient) (r : Rotator) (now later : Instant)
    (peer : Request → Option Response) : Occasion :=
  r.occasion now later fun call => (c.serve call).eval peer

/-- A pass gives what it gives on the occasion that the client makes. -/
theorem eval_pass :
    (c.pass r bs now later).eval peer = r.rotated bs (c.occasion r now later peer) := by
  rw [pass, held, Dialogue.eval_via, Rotator.eval_rotate]
  rfl

/-- And sends what the client sends for the calls that are made there. -/
theorem asked_pass : (c.pass r bs now later).asked peer
    = (r.requests bs (c.occasion r now later peer)).flatMap fun call =>
        (c.serve call).asked peer := by
  rw [pass, held, Dialogue.asked_via, Rotator.asked_rotate]
  rfl

/-- The service answers by what the web answers, if anything can be
sent. -/
theorem occasion_eq : c.occasion r now later peer
    = { now, later
        listed := settle (readList r.resource)
          (((c.place? r.resource).map c.listRequest).bind peer)
        created := settle readCreated
          (((c.place? r.resource).map (c.createRequest · r.policy.ttlSeconds)).bind peer) } :=
  congr (congrArg (Occasion.mk now later) (eval_list peer)) (eval_create peer)

theorem occasion_of_place {u : Url} (h : c.place? r.resource = some u) : c.occasion r now later peer
    = { now, later
        listed := settle (readList r.resource) (peer (c.listRequest u))
        created := settle readCreated (peer (c.createRequest u r.policy.ttlSeconds)) } := by
  rw [occasion_eq, h]
  rfl

/-- Where a client can send nothing, a pass ends with its first call. -/
theorem pass_of_no_place (hno : c.place? r.resource = none) :
    (c.pass r bs now later).asked peer = []
      ∧ (c.pass r bs now later).eval peer = .error .transport := by
  have hlisted : (c.occasion r now later peer).listed = .error .transport := by
    rw [occasion_eq, hno]
    rfl
  have hlist : r.requests bs (c.occasion r now later peer) = [.list r.resource] := by
    refine Rotator.requests_of_not_needed fun ids hids => ?_
    rw [hlisted] at hids
    cases hids
  rw [asked_pass, eval_pass, hlist, List.flatMap_singleton, asked_list, hno]
  exact ⟨rfl, Rotator.rotated_eq_error_iff.2 (Or.inl hlisted)⟩

/-- Whether an answer leaves a pass in need of a binding: it lists ids, and
of what they retain nothing is active. -/
def LeavesNone (r : Rotator) (bs : List Binding) (now : Instant) (answer : Option Response) :
    Prop :=
  ∃ ids, ListsIds answer ids ∧ ∀ b ∈ (r.ledger.reconcile bs ids now).retained, b.isActive = false

/-- What a pass that succeeds gives, by the answers to its requests. -/
inductive Gives (r : Rotator) (bs : List Binding) (now later : Instant)
    (list created : Option Response) : Rotated → Prop
  /-- Something that is retained is active. -/
  | kept {ids : List String} (hlists : ListsIds list ids)
      (hactive : ∃ b ∈ (r.ledger.reconcile bs ids now).retained, b.isActive = true) :
      Gives r bs now later list created ⟨(r.ledger.reconcile bs ids now).retained, none⟩
  /-- Nothing that is retained is active, and a binding is made. -/
  | issued {ids : List String} {i : Issued} (hlists : ListsIds list ids)
      (hnone : ∀ b ∈ (r.ledger.reconcile bs ids now).retained, b.isActive = false)
      (hmakes : MakesBinding created i) :
      Gives r bs now later list created
        ⟨(r.ledger.reconcile bs ids now).retained ++ [⟨i.id, true, later, i.expiresAt⟩],
          some [("binding_id", .ofString i.id), ("created_at", .ofString later.detailText),
            ("expires_at", .ofString i.expiresAt.detailText),
            ("kubeconfig", .ofString i.kubeconfig)]⟩

section Placed

variable {u : Url} (h : c.place? r.resource = some u)

include h

/-- **A pass sends** a second request where the answer to the first leaves
it in need of a binding. -/
theorem asked_of_leavesNone (hneed : LeavesNone r bs now (peer (c.listRequest u))) :
    (c.pass r bs now later).asked peer
      = [c.listRequest u, c.createRequest u r.policy.ttlSeconds] := by
  obtain ⟨ids, hlists, hnone⟩ := hneed
  have hlisted : settle (readList r.resource) (peer (c.listRequest u)) = .ok ids :=
    settle_readList_eq_ok_iff.2 hlists
  have hinactive := Ledger.hasActive_eq_false_iff.2 hnone
  rw [asked_pass, occasion_of_place peer h, Rotator.requests_of_needed hlisted hinactive,
    List.flatMap_cons, List.flatMap_singleton, asked_list, asked_create, h]
  rfl

/-- And nothing but the first elsewhere. -/
theorem asked_of_not_leavesNone (hneed : ¬LeavesNone r bs now (peer (c.listRequest u))) :
    (c.pass r bs now later).asked peer = [c.listRequest u] := by
  -- what is listed, if anything is, leaves something active
  have hactive (ids : List String)
      (hlisted : settle (readList r.resource) (peer (c.listRequest u)) = .ok ids) :
      (r.ledger.reconcile bs ids now).hasActive = true := by
    refine Bool.of_not_eq_false fun hnone => hneed ?_
    exact ⟨ids, settle_readList_eq_ok_iff.1 hlisted, Ledger.hasActive_eq_false_iff.1 hnone⟩
  rw [asked_pass, occasion_of_place peer h, Rotator.requests_of_not_needed hactive,
    List.flatMap_singleton, asked_list, h]
  rfl

/-- **A pass succeeds** with what its list retains, and with one binding
more where nothing of that is active. -/
theorem eval_pass_eq_ok_iff {out : Rotated} : (c.pass r bs now later).eval peer = .ok out ↔
    Gives r bs now later (peer (c.listRequest u))
      (peer (c.createRequest u r.policy.ttlSeconds)) out := by
  rw [eval_pass, occasion_of_place peer h, Rotator.rotated_eq_ok_iff]
  constructor
  · rintro ⟨ids, hlisted, ⟨hactive, rfl⟩ | ⟨hnone, i, hcreated, rfl⟩⟩
    · exact .kept (settle_readList_eq_ok_iff.1 hlisted) (Ledger.hasActive_iff.1 hactive)
    · exact .issued (settle_readList_eq_ok_iff.1 hlisted) (Ledger.hasActive_eq_false_iff.1 hnone)
        (settle_readCreated_eq_ok_iff.1 hcreated)
  · rintro (⟨hlists, hactive⟩ | ⟨hlists, hnone, hmakes⟩)
    · exact ⟨_, settle_readList_eq_ok_iff.2 hlists, Or.inl ⟨Ledger.hasActive_iff.2 hactive, rfl⟩⟩
    · exact ⟨_, settle_readList_eq_ok_iff.2 hlists, Or.inr
        ⟨Ledger.hasActive_eq_false_iff.2 hnone, _, settle_readCreated_eq_ok_iff.2 hmakes, rfl⟩⟩

/-- **A pass does not find** what it looks for just where the answer to its
first request is 404. -/
theorem eval_pass_eq_notFound_iff {what : String} :
    (c.pass r bs now later).eval peer = .error (.notFound what) ↔
      "Environment " ++ r.resource ++ " not found" = what
        ∧ ∃ a, peer (c.listRequest u) = some a ∧ a.status = 404 := by
  rw [eval_pass, occasion_of_place peer h, Rotator.rotated_eq_error_iff]
  simp only [settle_readList_eq_notFound_iff, settle_readCreated_ne_notFound, and_false,
    exists_false, or_false]

end Placed

/-- **A pass over the web.** Where a client can send nothing, a pass sends
nothing and fails. Anywhere else it asks for the list, and for a binding
just where the answer leaves it in need of one. It succeeds with what the
list retains, in whatever order and however often its ids are given, if
something of that is active or else the second answer makes a binding,
which comes last. Nothing but 404 for the list makes it miss what it looks
for. -/
theorem pass_spec (c : ProvisioningClient) (r : Rotator) (bs : List Binding)
    (now later : Instant) (peer : Request → Option Response) :
    (c.place? r.resource = none → (c.pass r bs now later).asked peer = []
        ∧ (c.pass r bs now later).eval peer = .error .transport)
      ∧ (∀ u, c.place? r.resource = some u →
        ((c.listRequest u).method = .get ∧ (c.createRequest u r.policy.ttlSeconds).method = .post
          ∧ (c.createRequest u r.policy.ttlSeconds).body
            = Utf8.encode ("\x7b\"parameters\":\x7b\"expiration_seconds\":".toList
              ++ Number.signedDecimal r.policy.ttlSeconds ++ "\x7d\x7d".toList))
        ∧ (LeavesNone r bs now (peer (c.listRequest u)) → (c.pass r bs now later).asked peer
          = [c.listRequest u, c.createRequest u r.policy.ttlSeconds])
        ∧ (¬LeavesNone r bs now (peer (c.listRequest u)) →
          (c.pass r bs now later).asked peer = [c.listRequest u])
        ∧ (∀ out, (c.pass r bs now later).eval peer = .ok out ↔
          Gives r bs now later (peer (c.listRequest u))
            (peer (c.createRequest u r.policy.ttlSeconds)) out)
        ∧ ∀ what, (c.pass r bs now later).eval peer = .error (.notFound what) ↔
          "Environment " ++ r.resource ++ " not found" = what
            ∧ ∃ a, peer (c.listRequest u) = some a ∧ a.status = 404)
      ∧ ∀ ids ids' : List String, (∀ id, id ∈ ids ↔ id ∈ ids') →
        r.ledger.reconcile bs ids now = r.ledger.reconcile bs ids' now := by
  refine ⟨pass_of_no_place peer, fun u h => ⟨⟨rfl, rfl, ?_⟩, asked_of_leavesNone peer h,
    asked_of_not_leavesNone peer h, fun out => eval_pass_eq_ok_iff peer h,
    fun what => eval_pass_eq_notFound_iff peer h⟩, fun ids ids' => Ledger.reconcile_congr⟩
  rw [createRequest, print_order]

/-- At work: the service still lists a binding that is past its interval,
twice, and makes another one, whose header has another id than its body.
A client without a place to send to asks for nothing. -/
theorem pass_spec_replaced :
    let r : Rotator := ⟨{}, "env-1"⟩
    let now : Instant := ⟨3600, 0, by decide, by decide, by decide, by decide⟩
    let ends : Instant := ⟨4500, 0, by decide, by decide, by decide, by decide⟩
    let expires : Instant := ⟨8100, 0, by decide, by decide, by decide, by decide⟩
    let old : Binding := ⟨"b-1", true, .epoch, ends⟩
    let listed : Response := ⟨200, [], some (.ofString
      "\x7b\"bindings\":[\x7b\"bindingId\":\"b-1\"\x7d,\x7b\"bindingId\":\"b-1\"\x7d]\x7d")⟩
    let created : Response := ⟨201, [("Location", .ofString "b-2")], some (.ofString
      ("\x7b\"metadata\":\x7b\"id\":\"b-3\",\"expires_at\":\"1970-01-01T02:15:00Z\"\x7d,"
        ++ "\"credentials\":\x7b\"kubeconfig\":\"k\"\x7d\x7d"))⟩
    let peer (q : Request) : Option Response :=
      if q.method = .get then some listed else some created
    let c : ProvisioningClient := ⟨"http://127.0.0.1:8080", "tok"⟩
    (∃ get post, (c.pass r [old] now now).asked peer = [get, post]
        ∧ get.method = .get ∧ post.method = .post)
      ∧ (c.pass r [old] now now).eval peer = .ok
        ⟨[⟨"b-1", false, .epoch, ends⟩, ⟨"b-2", true, now, expires⟩],
          some [("binding_id", .ofString "b-2"), ("created_at", .ofString now.detailText),
            ("expires_at", .ofString expires.detailText), ("kubeconfig", .ofString "k")]⟩
      ∧ (pass ⟨"nowhere", "tok"⟩ r [] now now).asked peer = [] := by
  intro r now ends expires old listed created peer c
  have hplace : (c.place? r.resource).isSome = true := by decide +kernel
  obtain ⟨u, hu⟩ := Option.isSome_iff_exists.1 hplace
  have hnowhere : place? ⟨"nowhere", "tok"⟩ r.resource = none :=
    Option.isNone_iff_eq_none.1 (by decide +kernel)
  have hretained : (r.ledger.reconcile [old] ["b-1", "b-1"] now).retained
      = [⟨"b-1", false, .epoch, ends⟩] := by decide +kernel
  have hnone : ∀ b ∈ (r.ledger.reconcile [old] ["b-1", "b-1"] now).retained,
      b.isActive = false := by
    rw [hretained]
    simp
  have hlists : ListsIds (peer (c.listRequest u)) ["b-1", "b-1"] :=
    ⟨listed, _, rfl, rfl, rfl, by decide +kernel⟩
  have hmakes : MakesBinding (peer (c.createRequest u r.policy.ttlSeconds)) ⟨"b-2", expires, "k"⟩ :=
    ⟨created, _, ⟨some "b-3", some expires, some "k"⟩, rfl, by decide, rfl, by decide +kernel, rfl,
      rfl, Or.inl ⟨by decide +kernel, by decide⟩⟩
  obtain ⟨-, hspec, -⟩ := pass_spec c r [old] now now peer
  obtain ⟨⟨hget, hpost, -⟩, hasked, -, hok, -⟩ := hspec u hu
  refine ⟨⟨_, _, hasked ⟨_, hlists, hnone⟩, hget, hpost⟩, (hok _).2 ?_,
    ((pass_spec ⟨"nowhere", "tok"⟩ r [] now now peer).1 hnowhere).1⟩
  have hgives := @Gives.issued r [old] now now _ _ _ _ hlists hnone hmakes
  rwa [hretained] at hgives

end ProvisioningClient

end CredentialRotation
