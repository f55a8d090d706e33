import CredentialRotation.Proofs.Provisioning.Pass
import CredentialRotation.Proofs.Web.Front

/-!
# The end of all bindings

A teardown over the web asks for the end of each binding in turn and goes
on as long as it is told that the binding is gone, now or before. The API
may answer as it likes, and one request in two ways, so what a teardown
does is read off its transcript: `EndsAtFailure` says that it breaks off
at the first answer that says anything else, and what it gives then. The
answer to a request is what is said in the end, after any redirection.

Where the requests go is up to the client, not to the bindings: all of
them leave for one site, or none leaves at all (`site_deletion?`). Which
clients have a place to send to is told by `ProvisioningClient.place?`.
-/

namespace CredentialRotation

/-! ## Answers -/

namespace Provisioning

/-- Whether an answer says that a binding is gone: it is a success, or
there is no such binding. -/
def Acknowledges (answer : Option Response) : Prop :=
  ∃ a, answer = some a ∧ (200 ≤ a.status ∧ a.status < 300 ∨ a.status = 404)

/-- What an answer fails with that says anything else. -/
inductive FailsWith : Option Response → ServiceError → Prop
  | unanswered : FailsWith none .transport
  | refused {a : Response} {about : String} (h : ¬Acknowledges (some a))
      (habout : refused a = .api a.status about) : FailsWith (some a) (.api a.status about)

variable {answer : Option Response} {e e' : ServiceError}

theorem acknowledges_some_iff {a : Response} :
    Acknowledges (some a) ↔ a.isSuccess = true ∨ a.status = 404 := by
  simp [Acknowledges, Response.isSuccess, Status.isSuccess]

theorem FailsWith.not_acknowledges (h : FailsWith answer e) : ¬Acknowledges answer := by
  cases h with
  | unanswered => simp [Acknowledges]
  | refused h _ => exact h

theorem FailsWith.unique (h : FailsWith answer e) (h' : FailsWith answer e') : e = e' := by
  cases h with
  | unanswered => cases h'; rfl
  | refused _ habout =>
    cases h' with
    | refused _ habout' => exact habout.symm.trans habout'

end Provisioning

namespace ProvisioningClient

open Provisioning

variable {c : ProvisioningClient} {resource id : String} {answer : Option Response}

/-- An answer either says that the binding is gone, and a teardown passes
over it, or it fails. -/
theorem settle_readDeleted (id : String) (answer : Option Response) :
    (Acknowledges answer ∧ (settle (readDeleted id) answer = .ok ()
        ∨ ∃ e, settle (readDeleted id) answer = .error e ∧ e.isNotFound = true))
      ∨ ∃ e, FailsWith answer e ∧ settle (readDeleted id) answer = .error e
        ∧ e.isNotFound = false := by
  cases answer with
  | none => exact .inr ⟨_, .unanswered, rfl, rfl⟩
  | some a =>
    simp only [settle, readDeleted]
    by_cases hsuccess : a.isSuccess = true
    · exact .inl ⟨acknowledges_some_iff.2 (.inl hsuccess), .inl (if_pos hsuccess)⟩
    by_cases hgone : a.status = 404
    · refine .inl ⟨acknowledges_some_iff.2 (.inr hgone), .inr ⟨.notFound id, ?_, rfl⟩⟩
      rw [if_neg hsuccess, if_pos hgone]
    · refine .inr ⟨refused a, ?_, ?_, rfl⟩
      · exact .refused (by simp [acknowledges_some_iff, hsuccess, hgone]) rfl
      · rw [if_neg hsuccess, if_neg hgone]

/-! ## Requests -/

/-- The request for the end of a binding, if it can be sent. -/
def deletion? (c : ProvisioningClient) (resource id : String) : Option Request :=
  Request.leaving? .delete (c.bindingUrl resource id) [c.authorization] []

/-- The site that a request leaves for. -/
theorem site_leaving? (method : Method) (address : String) (headers : List (String × Bytes))
    (payload : Bytes) :
    (Request.leaving? method address headers payload).map (fun q => (q.url.scheme, q.url.authority))
      = if headers.all (isHeaderValue ·.2) then Url.site? address.toList else none := by
  rw [Request.leaving?, Option.map_map, Url.ofText?, Url.site?]
  cases headers.all (isHeaderValue ·.2) with
  | false => simp
  | true =>
    simp only [Bool.and_true, if_true]
    rfl

/-- **One site for all bindings**, and for the list of them: an id does not
decide whether its request can be sent, nor where to. -/
theorem site_deletion? (c : ProvisioningClient) (resource id : String) :
    (c.deletion? resource id).map (fun q => (q.url.scheme, q.url.authority))
      = (c.place? resource).map fun u => (u.scheme, u.authority) := by
  have hlist := site_leaving? .get (c.bindingsUrl resource) [c.authorization] []
  rw [leaving?_list, Option.map_map] at hlist
  have hname : ∃ ch ∈ "provisioning".toList, ch ∉ Url.marks := ⟨'p', by decide, by decide⟩
  have hbindings : (c.bindingsUrl resource).toList = c.base.toList ++ '/' ::
      ("provisioning".toList ++ '/' :: ("v1/environments/" ++ resource ++ "/bindings").toList) := by
    simp [bindingsUrl]
  have hbinding : (c.bindingUrl resource id).toList = c.base.toList ++ '/' ::
      ("provisioning".toList ++ '/' ::
        ("v1/environments/" ++ resource ++ "/bindings/" ++ id).toList) := by
    simp [bindingUrl, bindingsUrl]
  rw [deletion?, site_leaving?, hbinding, Url.site?_append hname, ← Url.site?_append hname,
    ← hbindings, ← hlist]
  rfl

/-- Where a client can send anything for a resource, it can ask for the end
of any binding: at the address that is put together for it. -/
theorem exists_deletion? {u : Url} (h : c.place? resource = some u) (id : String) :
    ∃ v, Url.ofText? (c.bindingUrl resource id) = some v ∧ v.scheme = u.scheme
      ∧ v.authority = u.authority
      ∧ c.deletion? resource id = some
        { method := .delete, url := { v with fragment := none },
          headers := [c.authorization] } := by
  have hsite := c.site_deletion? resource id
  rw [h, Option.map_some, Option.map_eq_some_iff] at hsite
  obtain ⟨q, hq, hsame⟩ := hsite
  obtain ⟨v, hv, rfl⟩ := Option.map_eq_some_iff.1 hq
  obtain ⟨hscheme, hauthority⟩ := Prod.mk.inj hsame
  exact ⟨v, (Option.filter_eq_some_iff.1 hv).1, hscheme, hauthority, hq⟩

/-- And where it can send nothing, it cannot ask for that either. -/
theorem deletion?_eq_none (h : c.place? resource = none) (id : String) :
    c.deletion? resource id = none := by
  have hsite := c.site_deletion? resource id
  rwa [h, Option.map_none, Option.map_eq_none_iff] at hsite

/-! ## Teardowns -/

variable {r : Rotator} {b : Binding} {bs : List Binding}

/-- A teardown by a rotator that a client serves. -/
def teardown (c : ProvisioningClient) (r : Rotator) (bs : List Binding) :
    Exchange (Except ServiceError Unit) :=
  c.held (r.teardown bs)

/-- How a teardown goes on after the answer for a binding. -/
def afterDeletion (c : ProvisioningClient) (r : Rotator) (id : String) (bs : List Binding)
    (answer : Option Response) : Exchange (Except ServiceError Unit) :=
  c.held <| match settle (readDeleted id) answer with
    | .ok () => r.teardown bs
    | .error e => if e.isNotFound then r.teardown bs else .done (.error e)

theorem afterDeletion_of_acknowledges (h : Acknowledges answer) :
    c.afterDeletion r id bs answer = c.teardown r bs := by
  rcases settle_readDeleted id answer with ⟨-, hok | ⟨e, herror, hgone⟩⟩ | ⟨e, hfails, -⟩
  · rw [afterDeletion, hok]
    rfl
  · rw [afterDeletion, herror]
    exact congrArg c.held (if_pos hgone)
  · exact absurd h hfails.not_acknowledges

theorem afterDeletion_of_failsWith {e : ServiceError} (h : FailsWith answer e) :
    c.afterDeletion r id bs answer = .done (.error e) := by
  rcases settle_readDeleted id answer with ⟨hgone, -⟩ | ⟨e', hfails, herror, hgone⟩
  · exact absurd hgone h.not_acknowledges
  · rw [afterDeletion, herror, h.unique hfails]
    exact congrArg c.held (if_neg (by rw [hgone]; exact Bool.false_ne_true))

/-- A teardown goes by the answer for its first binding, and by none where
nothing leaves. -/
theorem teardown_cons : c.teardown r (b :: bs) = match c.deletion? r.resource b.id with
    | some q => .ask q (c.afterDeletion r b.id bs)
    | none => c.afterDeletion r b.id bs none := by
  rw [teardown, held, Rotator.teardown, Dialogue.via, serve, send_eq, deletion?]
  cases Request.leaving? .delete (c.bindingUrl r.resource b.id) [c.authorization] [] with
  | none => rfl
  | some q =>
    refine congrArg (Dialogue.ask q) (funext fun answer => ?_)
    simp only [Dialogue.bind_done, afterDeletion, held]
    cases settle (readDeleted b.id) answer <;> rfl

/-- What becomes of requests that are due in order: they are sent up to the
first that fails, and that one says how it ends. -/
structure EndsAtFailure (due : List (Option Request))
    (transcript : List ((_ : Request) × Option Response)) (result : Except ServiceError Unit) :
    Prop where
  inOrder : transcript.map (fun e => some e.1) <+: due
  passed : ∀ e ∈ transcript.dropLast, Acknowledges e.2
  ok_iff : result = .ok () ↔ transcript.length = due.length ∧ ∀ e ∈ transcript, Acknowledges e.2
  error_iff : ∀ fault, result = .error fault ↔
    ∃ e, transcript.getLast? = some e ∧ FailsWith e.2 fault

namespace EndsAtFailure

variable {due : List (Option Request)} {transcript : List ((_ : Request) × Option Response)}
  {result : Except ServiceError Unit} {q : Request}

theorem nil : EndsAtFailure [] [] (.ok ()) := by
  constructor <;> simp

/-- One more request before the others, which is passed over. -/
theorem cons (h : EndsAtFailure due transcript result) (hgone : Acknowledges answer) :
    EndsAtFailure (some q :: due) (⟨q, answer⟩ :: transcript) result where
  inOrder := by
    rw [List.map_cons]
    exact List.cons_prefix_cons.2 ⟨rfl, h.inOrder⟩
  passed := by
    intro e he
    cases transcript with
    | nil => cases he
    | cons e' transcript =>
      rcases List.mem_cons.1 he with rfl | he
      · exact hgone
      · exact h.passed e he
  ok_iff := by
    rw [h.ok_iff, List.length_cons, List.length_cons, Nat.add_right_cancel_iff,
      List.forall_mem_cons]
    exact ⟨fun ⟨hlength, hall⟩ => ⟨hlength, hgone, hall⟩, fun ⟨hlength, _, hall⟩ => ⟨hlength, hall⟩⟩
  error_iff := by
    intro fault
    rw [h.error_iff]
    cases transcript with
    | nil =>
      constructor
      · rintro ⟨e, he, -⟩
        cases he
      · rintro ⟨e, he, hfails⟩
        obtain rfl := Option.some.inj he
        exact absurd hgone hfails.not_acknowledges
    | cons e' transcript => rw [List.getLast?_cons_cons]

/-- One that fails is the last that is sent. -/
theorem singleton {fault : ServiceError} (hfails : FailsWith answer fault) :
    EndsAtFailure (some q :: due) [⟨q, answer⟩] (.error fault) where
  inOrder := List.cons_prefix_cons.2 ⟨rfl, List.nil_prefix⟩
  passed := by simp
  ok_iff := by simp [hfails.not_acknowledges]
  error_iff := by
    intro fault'
    rw [List.getLast?_singleton]
    constructor
    · rintro ⟨⟩
      exact ⟨_, rfl, hfails⟩
    · rintro ⟨e, he, hfails'⟩
      obtain rfl := Option.some.inj he
      rw [hfails.unique hfails']

/-- A good end speaks for every request that was due. -/
theorem forall_due (h : EndsAtFailure due transcript (.ok ())) :
    ∀ q ∈ due, ∃ e ∈ transcript, q = some e.1 ∧ Acknowledges e.2 := by
  obtain ⟨hlength, hall⟩ := h.ok_iff.1 rfl
  have hsame := h.inOrder.eq_of_length (by rw [List.length_map, hlength])
  rw [← hsame]
  intro q hq
  obtain ⟨e, he, rfl⟩ := List.mem_map.1 hq
  exact ⟨e, he, rfl, hall e he⟩

end EndsAtFailure

variable {σ : Type} (peer : σ → Request → Option Response × σ)

/-- **A teardown breaks off at the first failure**, whatever the API
remembers. -/
theorem endsAtFailure_teardown {u : Url} (h : c.place? r.resource = some u) (bs : List Binding)
    (s : σ) : EndsAtFailure (bs.map fun b => c.deletion? r.resource b.id)
      ((c.teardown r bs).transcript peer s) ((c.teardown r bs).run peer s).1 := by
  induction bs generalizing s with
  | nil => exact .nil
  | cons b bs ih =>
    obtain ⟨v, -, -, -, hq⟩ := exists_deletion? h b.id
    rw [teardown_cons, List.map_cons, hq]
    show EndsAtFailure _ (⟨_, (peer s _).1⟩ :: Dialogue.transcript peer (peer s _).2
      (c.afterDeletion r b.id bs (peer s _).1)) ((c.afterDeletion r b.id bs (peer s _).1).run peer
        (peer s _).2).1
    generalize peer s _ = p
    rcases settle_readDeleted b.id p.1 with ⟨hgone, -⟩ | ⟨e, hfails, -⟩
    · rw [afterDeletion_of_acknowledges hgone]
      exact (ih p.2).cons hgone
    · rw [afterDeletion_of_failsWith hfails]
      exact .singleton hfails

/-- Where a client can send nothing, a teardown ends with its first
binding. -/
theorem teardown_of_no_place (hno : c.place? r.resource = none) (s : σ) :
    (c.teardown r (b :: bs)).transcript peer s = []
      ∧ ((c.teardown r (b :: bs)).run peer s).1 = .error .transport := by
  rw [teardown_cons, deletion?_eq_none hno]
  exact afterDeletion_of_failsWith .unanswered ▸ ⟨rfl, rfl⟩

/-- **A teardown over the web.** Whatever the API answers and remembers,
the requests that are sent are those for the bindings in order, one for
each, up to the first that neither succeeds nor is told that there is no
such binding. A teardown fails with what that one failed with, and
otherwise the API has said of every binding that it is gone. A client that
can send nothing fails at the first binding. -/
theorem teardown_spec (c : ProvisioningClient) (r : Rotator) (bs : List Binding) {σ : Type}
    (peer : σ → Request → Option Response × σ) (s : σ) :
    (c.place? r.resource = none → (c.teardown r bs).transcript peer s = []
        ∧ ((c.teardown r bs).run peer s).1 = if bs = [] then .ok () else .error .transport)
      ∧ ∀ u, c.place? r.resource = some u →
        (∀ id, ∃ v, Url.ofText? (c.bindingUrl r.resource id) = some v ∧ v.scheme = u.scheme
          ∧ v.authority = u.authority ∧ c.deletion? r.resource id = some
            { method := .delete, url := { v with fragment := none }, headers := [c.authorization] })
        ∧ ((c.teardown r bs).run peer s).2.1 = ((c.teardown r bs).transcript peer s).map Sigma.fst
        ∧ EndsAtFailure (bs.map fun b => c.deletion? r.resource b.id)
          ((c.teardown r bs).transcript peer s) ((c.teardown r bs).run peer s).1
        ∧ (((c.teardown r bs).run peer s).1 = .ok () →
          ∀ b ∈ bs, ∃ e ∈ (c.teardown r bs).transcript peer s,
            c.deletion? r.resource b.id = some e.1 ∧ Acknowledges e.2) := by
  constructor
  · intro hno
    cases bs with
    | nil => exact ⟨rfl, rfl⟩
    | cons b bs => exact teardown_of_no_place peer hno s
  · intro u h
    have hends := endsAtFailure_teardown peer h bs s
    refine ⟨fun id => exists_deletion? h id, Dialogue.run_questions peer _ s, hends,
      fun hok b hb => ?_⟩
    rw [hok] at hends
    exact hends.forall_due _ (List.mem_map_of_mem hb)

/-- At work: the second of three bindings is the first once more. Told that
it is gone, the teardown goes on to the third; told that the service is
down, it does not. A client without a place to send to asks for nothing. -/
theorem teardown_spec_repeated :
    let c : ProvisioningClient := ⟨"http://127.0.0.1:8080", "tok"⟩
    let r : Rotator := ⟨{}, "env-1"⟩
    let b (id : String) : Binding := ⟨id, true, .epoch, .epoch⟩
    let bs := [b "b-1", b "b-1", b "b-2"]
    let peer (second : Nat) (n : Nat) (_ : Request) : Option Response × Nat :=
      (some ⟨if n = 1 then second else 204, [], some []⟩, n + 1)
    let path (id : String) : WebPath :=
      .segments ["provisioning", "v1", "environments", "env-1", "bindings", id]
    ((c.teardown r bs).run (peer 404) 0).1 = .ok ()
      ∧ ((c.teardown r bs).run (peer 404) 0).2.1.map (fun q => (q.method, q.url.path))
        = [(Method.delete, path "b-1"), (Method.delete, path "b-1"), (Method.delete, path "b-2")]
      ∧ ((c.teardown r bs).run (peer 503) 0).1 = .error (.api 503 "503 Service Unavailable")
      ∧ ((c.teardown r bs).run (peer 503) 0).2.1.map (fun q => (q.method, q.url.path))
        = [(Method.delete, path "b-1"), (Method.delete, path "b-1")]
      ∧ (teardown ⟨"nowhere", "tok"⟩ r bs).transcript (peer 404) 0 = [] := by
  intro c r b bs peer path
  have hplace : (c.place? r.resource).isSome = true := by decide +kernel
  obtain ⟨u, hu⟩ := Option.isSome_iff_exists.1 hplace
  have hnowhere : place? ⟨"nowhere", "tok"⟩ r.resource = none :=
    Option.isNone_iff_eq_none.1 (by decide +kernel)
  obtain ⟨-, hasked, hgone, -⟩ := (teardown_spec c r bs (peer 404) 0).2 u hu
  obtain ⟨-, hasked', hdown, -⟩ := (teardown_spec c r bs (peer 503) 0).2 u hu
  let shown (e : (_ : Request) × Option Response) := (e.1.method, e.1.url.path)
  have hsent : ((c.teardown r bs).transcript (peer 404) 0).map shown
      = [(.delete, path "b-1"), (.delete, path "b-1"), (.delete, path "b-2")] := by
    decide +kernel
  have hsent' : ((c.teardown r bs).transcript (peer 503) 0).map shown
      = [(.delete, path "b-1"), (.delete, path "b-1")] := by
    decide +kernel
  have hsaid : ∀ e ∈ (c.teardown r bs).transcript (peer 404) 0,
      e.2 = some ⟨204, [], some []⟩ ∨ e.2 = some ⟨404, [], some []⟩ := by
    decide +kernel
  have hlast : ((c.teardown r bs).transcript (peer 503) 0).getLast?.map Sigma.snd
      = some (some ⟨503, [], some []⟩) := by
    decide +kernel
  obtain ⟨⟨q, answer⟩, he, rfl⟩ := Option.map_eq_some_iff.1 hlast
  refine ⟨hgone.ok_iff.2 ⟨?_, fun e he => ?_⟩, ?_, hdown.error_iff _ |>.2 ⟨_, he, ?_⟩, ?_,
    ((teardown_spec ⟨"nowhere", "tok"⟩ r bs (peer 404) 0).1 hnowhere).1⟩
  · have hlength := congrArg List.length hsent
    rw [List.length_map] at hlength
    rw [hlength, List.length_map]
    rfl
  · rcases hsaid e he with h | h <;> rw [h, acknowledges_some_iff] <;> decide
  · rw [hasked, List.map_map]
    exact hsent
  · exact .refused (by rw [acknowledges_some_iff]; decide) (by decide +kernel)
  · rw [hasked', List.map_map]
    exact hsent'

end ProvisioningClient

end CredentialRotation
