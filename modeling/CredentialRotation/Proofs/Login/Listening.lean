import CredentialRotation.Proofs.Login.Course

/-!
# What the listener hands on

Any program of the machine can reach the listener, as often as it likes and
with any request. `Arrival.Brings` says which requests bring an outcome, and
which, without the scan that reads it: each name that counts comes with the
one value that the outcome has for it, or not at all. Of the requests that
have come the listener holds what the first of these brings
(`Listener.afterAll_eq`), and the receiver goes by that and by nothing else
(`first_outcome_decides`).
-/

namespace CredentialRotation

open LoginClient

/-! ## Outcomes in pairs -/

namespace Callback

variable {names seen : List String} {pairs : List (String × String)} {outcome : Callback}

/-- The values that pairs have for a name. -/
def valuesOf (pairs : List (String × String)) (name : String) : List String :=
  (pairs.filter (·.1 = name)).map (·.2)

/-- What pairs say, if they say anything: each name that counts comes once,
with the value that the outcome has for it, or not at all. -/
structure SaidBy (outcome : Callback) (pairs : List (String × String)) : Prop where
  code : valuesOf pairs "code" = outcome.code.toList
  state : valuesOf pairs "state" = outcome.state.toList
  error : valuesOf pairs "error" = outcome.error.toList
  errorDescription : valuesOf pairs "error_description" = outcome.errorDescription.toList

theorem value?_eq (pairs : List (String × String)) (name : String) :
    value? pairs name = (valuesOf pairs name).head? := by
  rw [value?, valuesOf, List.head?_map, List.head?_filter]

theorem length_valuesOf (pairs : List (String × String)) (name : String) :
    (valuesOf pairs name).length = (pairs.map (·.1)).count name := by
  rw [valuesOf, List.length_map, List.count, List.countP_map, List.countP_eq_length_filter]
  rfl

/-- No name that counts is found a second time if each comes once at most,
and those seen before do not come. -/
theorem repeated?_eq_none_iff : repeated? seen names = none ↔
    ∀ name ∈ fields, (name ∈ seen → name ∉ names) ∧ names.count name ≤ 1 := by
  induction names generalizing seen with
  | nil => simp [repeated?]
  | cons first names ih =>
    rw [repeated?]
    by_cases hfirst : first ∈ fields
    · rw [if_neg (Decidable.not_not.2 hfirst)]
      by_cases hseen : first ∈ seen
      · rw [if_pos hseen]
        exact ⟨nofun, fun h => absurd List.mem_cons_self ((h first hfirst).1 hseen)⟩
      · rw [if_neg hseen, ih]
        refine forall₂_congr fun name hname => ?_
        by_cases hsame : name = first
        · subst hsame
          have hcount : names.count name + 1 ≤ 1 ↔ name ∉ names := by
            rw [← List.count_eq_zero]
            omega
          simp only [List.mem_cons_self, true_imp_iff, List.count_cons_self, hcount, hseen,
            false_imp_iff, true_and, and_iff_left_iff_imp]
          intro hnot
          rw [List.count_eq_zero.2 hnot]
          exact Nat.zero_le 1
        · simp [hsame, Ne.symm hsame]
    · rw [if_pos hfirst, ih]
      refine forall₂_congr fun name hname => ?_
      have hne : name ≠ first := ne_of_mem_of_not_mem hname hfirst
      simp [hne, hne.symm]

/-- **The outcome in pairs is the one that they say.** -/
theorem ofPairs_eq_ok_iff : ofPairs pairs = .ok outcome ↔ outcome.SaidBy pairs := by
  have hrepeated : repeated? [] (pairs.map (·.1)) = none ↔
      ∀ name ∈ fields, (valuesOf pairs name).length ≤ 1 := by
    simp only [repeated?_eq_none_iff, length_valuesOf, List.not_mem_nil, false_imp_iff, true_and]
  unfold ofPairs
  constructor
  · intro h
    split at h
    · cases h
    · next hnone =>
      have hvalue : ∀ name ∈ fields, valuesOf pairs name = (value? pairs name).toList := by
        intro name hname
        have hlength := hrepeated.1 hnone name hname
        rw [value?_eq]
        match valuesOf pairs name, hlength with
        | [], _ => rfl
        | [v], _ => rfl
      obtain rfl := Except.ok.inj h
      exact ⟨hvalue _ (by decide), hvalue _ (by decide), hvalue _ (by decide),
        hvalue _ (by decide)⟩
  · intro h
    have hnone : repeated? [] (pairs.map (·.1)) = none := by
      refine hrepeated.2 ?_
      simp [fields, h.code, h.state, h.error, h.errorDescription, Option.length_toList_le]
    simp only [hnone, value?_eq, h.code, h.state, h.error, h.errorDescription,
      Option.head?_toList]

end Callback

/-! ## Requests -/

namespace Arrival

variable {request : Arrival} {requests before later : List Arrival} {outcome : Callback}

/-- A request brings an outcome: it is for the place of the listener, or for
the head of it, and its query says the outcome. -/
structure Brings (request : Arrival) (outcome : Callback) : Prop where
  path : request.path = "/"
  method : request.method = .get ∨ request.method = .head
  said : outcome.SaidBy (Form.decode (Bytes.ofString request.query))

/-- **The outcome of a request is the one that it brings.** -/
theorem outcome_eq_ok_iff : Listener.outcome request = .ok outcome ↔ request.Brings outcome := by
  unfold Listener.outcome
  by_cases hpath : request.path = "/"
  · rw [if_neg (Decidable.not_not.2 hpath)]
    by_cases hmethod : request.method = .get ∨ request.method = .head
    · rw [if_pos hmethod]
      have hquery : Callback.ofQuery request.query = .ok outcome ↔ request.Brings outcome :=
        Callback.ofPairs_eq_ok_iff.trans ⟨fun h => ⟨hpath, hmethod, h⟩, fun h => h.said⟩
      rw [← hquery]
      cases Callback.ofQuery request.query <;> simp
    · rw [if_neg hmethod]
      exact ⟨nofun, fun h => absurd h.method hmethod⟩
  · rw [if_pos hpath]
    exact ⟨nofun, fun h => absurd h.path hpath⟩

/-- The outcome of a request, if it brings one. -/
def outcome? (request : Arrival) : Option Callback := (Listener.outcome request).toOption

theorem outcome?_eq_some_iff : request.outcome? = some outcome ↔ request.Brings outcome :=
  toOption_eq_some_iff.trans outcome_eq_ok_iff

theorem outcome?_eq_none_iff : request.outcome? = none ↔ ∀ outcome, ¬request.Brings outcome := by
  simp only [← outcome?_eq_some_iff, Option.eq_none_iff_forall_ne_some]

/-- `outcome` is what the first request brings of those that bring any. -/
def FirstBrought (requests : List Arrival) (outcome : Callback) : Prop :=
  ∃ before request later, requests = before ++ request :: later
    ∧ (∀ r ∈ before, ∀ o, ¬r.Brings o) ∧ request.Brings outcome

theorem firstBrought_iff :
    FirstBrought requests outcome ↔ requests.findSome? outcome? = some outcome := by
  simp only [List.findSome?_eq_some_iff, outcome?_eq_some_iff, outcome?_eq_none_iff]
  constructor
  · rintro ⟨before, request, later, rfl, hnone, hbrings⟩
    exact ⟨before, request, later, rfl, hbrings, hnone⟩
  · rintro ⟨before, request, later, rfl, hbrings, hnone⟩
    exact ⟨before, request, later, rfl, hnone, hbrings⟩

/-- A request is another one than the first that brings an outcome: it brings
none, or one of those before it does. -/
def IsOther (before : List Arrival) (request : Arrival) : Prop :=
  (∀ o, ¬request.Brings o) ∨ ∃ r ∈ before, ∃ o, r.Brings o

/-- Another request may as well not come. -/
theorem IsOther.findSome?_eq (h : IsOther before request) :
    (before ++ request :: later).findSome? outcome? = (before ++ later).findSome? outcome? := by
  rw [List.findSome?_append, List.findSome?_append, List.findSome?_cons]
  rcases h with hnone | ⟨r, hr, outcome, hbrings⟩
  · rw [outcome?_eq_none_iff.2 hnone]
  · cases hfirst : before.findSome? outcome? with
    | none =>
      have hnone := List.findSome?_eq_none_iff.1 hfirst r hr
      rw [outcome?_eq_some_iff.2 hbrings] at hnone
      cases hnone
    | some first => rw [Option.some_or, Option.some_or]

end Arrival

namespace Listener

open Arrival

variable {requests : List Arrival} {outcome : Callback}

/-- A listener that serves, after requests in order. -/
def afterAll (l : Listener) (requests : List Arrival) : Listener :=
  requests.foldl (fun l request => (l.receive request).2) l

/-- **What waits after requests**: what waited before them, and else the
first outcome that they bring. -/
theorem afterAll_eq (l : Listener) (requests : List Arrival) :
    l.afterAll requests = { l with waiting := l.waiting.or (requests.findSome? outcome?) } := by
  induction requests generalizing l with
  | nil =>
    rw [List.findSome?_nil, Option.or_none]
    rfl
  | cons request requests ih =>
    have hstep : l.afterAll (request :: requests) = (l.receive request).2.afterAll requests := rfl
    have houtcome : (Event.arrives request).outcome? = request.outcome? := rfl
    rw [hstep, ih, receive_eq, houtcome, Option.or_assoc, List.findSome?_cons]
    cases request.outcome? <;> rfl

end Listener

/-! ## Verdicts -/

/-- What an attempt makes of an outcome, whatever else there was. -/
inductive Attempt.Verdict (a : Attempt) (outcome : Callback) : Except LoginError String → Prop
  /-- The provider reports an error, in its own words if it has any. -/
  | refused {error : String} (herror : outcome.error = some error) :
      Verdict a outcome (.error (.identityProvider (match outcome.errorDescription with
        | some description => error ++ ": " ++ description
        | none => error)))
  /-- The outcome is for another attempt, or does not say for which. -/
  | foreign (herror : outcome.error = none) (hstate : outcome.state ≠ some a.state) :
      Verdict a outcome (.error .stateMismatch)
  /-- There is nothing to buy tokens with. -/
  | uncoded (herror : outcome.error = none) (hstate : outcome.state = some a.state)
      (hcode : outcome.code = none) :
      Verdict a outcome (.error (.identityProvider "authorization callback carried no code"))
  /-- The code is good. -/
  | coded {code : String} (herror : outcome.error = none) (hstate : outcome.state = some a.state)
      (hcode : outcome.code = some code) : Verdict a outcome (.ok code)

theorem LoginClient.verdict_codeOf (a : Attempt) (outcome : Callback) :
    a.Verdict outcome (codeOf a outcome) := by
  unfold codeOf
  split
  · next error herror => exact .refused herror
  · next herror =>
    split
    · next hstate => exact .foreign herror hstate
    · next hstate =>
      have hstate := Decidable.not_not.1 hstate
      split
      · next code hcode => exact .coded herror hstate hcode
      · next hcode => exact .uncoded herror hstate hcode

/-- An outcome has one verdict. -/
theorem Attempt.Verdict.eq_codeOf {a : Attempt} {outcome : Callback}
    {verdict : Except LoginError String} (h : a.Verdict outcome verdict) :
    verdict = codeOf a outcome := by
  unfold codeOf
  cases h with
  | refused herror => rw [herror]; rfl
  | foreign herror hstate => simp [herror, hstate]
  | uncoded herror hstate hcode => simp [herror, hstate, hcode]
  | coded herror hstate hcode => simp [herror, hstate, hcode]

namespace Session

open Arrival

variable {c : LoginClient} {a : Attempt} {address : Url} {cancelled : Bool}
  {past : List Event} {s : Session} {outcome : Callback} {e : LoginError} {code : String}

/-- The requests among events. -/
def arrivals (past : List Event) : List Arrival :=
  past.filterMap fun
    | .arrives request => some request
    | _ => none

theorem firstOutcome_eq (past : List Event) :
    firstOutcome past = (arrivals past).findSome? outcome? := by
  induction past with
  | nil => rfl
  | cons e past ih =>
    rw [firstOutcome, List.findSome?_cons, ← firstOutcome, ih]
    cases e with
    | arrives request => rfl
    | _ => rfl

/-- A receiver that looks at the listener at its next turn: it waits, the
listener serves, and nothing stops it first. -/
structure Listens (s : Session) : Prop where
  waiting : s.receiver = .waiting
  serving : s.listener.serving = true
  uncancelled : s.cancelled = false
  unexpired : s.expired = false

/-- Requests do not keep it from looking. -/
theorem Listens.arrives (h : s.Listens) (request : Arrival) :
    (s.step c a address (.arrives request)).Listens := by
  rw [step, if_pos h.serving, Listener.receive_eq]
  exact ⟨h.waiting, h.serving, h.uncancelled, h.unexpired⟩

/-- Whatever requests come first, the receiver can be about to look. -/
theorem listens_after_arrivals (requests : List Arrival) :
    (after c a address false (.receiverTurn :: requests.map .arrives)).Listens := by
  -- the induction is on the requests to come, for any session that listens
  have hall : ∀ s : Session, s.Listens →
      ((requests.map Event.arrives).foldl (step c a address) s).Listens := by
    induction requests with
    | nil => exact fun s h => h
    | cons request requests ih => exact fun s h => ih _ (h.arrives request)
  exact hall _ ⟨rfl, rfl, rfl, rfl⟩

theorem arrivals_map_arrives (requests : List Arrival) :
    arrivals (.receiverTurn :: requests.map .arrives) = requests := by
  rw [arrivals, List.filterMap_cons, List.filterMap_map]
  exact List.filterMap_some

/-- What it finds is the first outcome that came. -/
theorem Listens.waiting_eq (h : (after c a address cancelled past).Listens) :
    (after c a address cancelled past).listener.waiting = (arrivals past).findSome? outcome? := by
  rw [← firstOutcome_eq]
  exact ((receiptSide_after past).before (.inr h.waiting)).2 (.inl h.serving)

theorem Listens.interruption?_eq (h : s.Listens) (activity : String) :
    s.interruption? activity = none := by
  rw [interruption?, h.uncancelled, h.unexpired, if_neg Bool.false_ne_true,
    if_neg Bool.false_ne_true]

/-- It waits on where there is nothing, -/
theorem Listens.idle (h : s.Listens) (hwaiting : s.listener.waiting = none) :
    s.receiverTurn c a = s := by
  simp only [receiverTurn, h.waiting, h.interruption?_eq, hwaiting, h.serving, if_true]

/-- stops where the outcome is no good, -/
theorem Listens.refused (h : s.Listens) (hwaiting : s.listener.waiting = some outcome)
    (hcode : codeOf a outcome = .error e) :
    (s.receiverTurn c a).receiver = .finished (.error e) := by
  simp only [receiverTurn, h.waiting, h.interruption?_eq, hwaiting, hcode, endReceipt]

/-- and goes on with the code where there is one. -/
theorem Listens.granted (h : s.Listens) (hwaiting : s.listener.waiting = some outcome)
    (hcode : codeOf a outcome = .ok code) : (s.receiverTurn c a).receiver = .holding code := by
  simp only [receiverTurn, h.waiting, h.interruption?_eq, hwaiting, hcode]

/-- A move of the receiver buys nothing but with the code that is granted. -/
theorem ReceiverMove.purchases_eq {s' : Session} (h : ReceiverMove c a s s')
    (hside : ReceiptSide c a past s) :
    s'.purchases = s.purchases ∨ Bought c a past s'.purchases := by
  cases h with
  | asked hr ha => exact .inr ((hside.move (.asked hr ha)).redeeming rfl)
  | _ => exact .inl rfl

/-- **All that is ever sent for tokens** redeems the code that the first
outcome grants. -/
theorem purchases_after (past : List Event) :
    (after c a address cancelled past).purchases = []
      ∨ Bought c a past (after c a address cancelled past).purchases := by
  refine after_induction (P := fun past s => s.purchases = [] ∨ Bought c a past s.purchases)
    (.inl rfl) (fun past e ih => ?_) past
  have hkept : (after c a address cancelled past).purchases = []
      ∨ Bought c a (past ++ [e]) (after c a address cancelled past).purchases :=
    ih.imp_right Bought.concat
  by_cases he : e = .receiverTurn
  · subst he
    rcases (receiverMove c a (after c a address cancelled past)).purchases_eq
      (receiptSide_after past) with hsame | hbought
    · exact hsame ▸ hkept
    · exact .inr hbought.concat
  · rw [(step_receipt c a address _ he).2]
    exact hkept

/-- Once there is an outcome, that is all that will ever be sent. -/
theorem purchases_of_firstOutcome (h : firstOutcome past = some outcome) (later : List Event) :
    (after c a address cancelled (past ++ later)).purchases = []
      ∨ ∃ code endpoint, codeOf a outcome = .ok code
        ∧ Url.ofText? c.provider.tokenEndpoint = some endpoint
        ∧ (after c a address cancelled (past ++ later)).purchases
          = [tokenRequest endpoint (c.codeForm a code)] := by
  refine (purchases_after (past ++ later)).imp_right ?_
  rintro ⟨code, endpoint, ⟨outcome', hfirst, hcode⟩, hendpoint, hsent⟩
  obtain rfl := Option.some.inj ((firstOutcome_append h later).symm.trans hfirst)
  exact ⟨code, endpoint, hcode, hendpoint, hsent⟩

/-- **The first outcome decides.** Whatever requests reach a listener, in
whatever order: what waits there is what the first request brings of those
that bring an outcome, and nothing waits just if none of them does. Any other
request may be left out. A receiver that looks at the listener waits on if
none has brought an outcome, and else goes by the first: with its error, as
the outcome of another attempt, for want of a code, or with its code, in this
order. From then on nothing that comes changes what is bought, which is
nothing or what that code buys. -/
theorem first_outcome_decides (c : LoginClient) (a : Attempt) (address : Url) :
    (∀ requests : List Arrival,
        (∀ o, (({} : Listener).afterAll requests).waiting = some o ↔ FirstBrought requests o)
        ∧ ((({} : Listener).afterAll requests).waiting = none ↔ ∀ r ∈ requests, ∀ o, ¬r.Brings o))
      ∧ (∀ before request later, IsOther before request →
          ({} : Listener).afterAll (before ++ request :: later)
            = ({} : Listener).afterAll (before ++ later))
      ∧ (∀ requests, ∃ past, arrivals past = requests ∧ (after c a address false past).Listens)
      ∧ ∀ cancelled past, (after c a address cancelled past).Listens →
          ((∀ r ∈ arrivals past, ∀ o, ¬r.Brings o) →
            after c a address cancelled (past ++ [.receiverTurn])
              = after c a address cancelled past)
          ∧ ∀ o, FirstBrought (arrivals past) o →
            (after c a address cancelled past).listener.waiting = some o
            ∧ (∃ verdict, a.Verdict o verdict)
            ∧ (∀ e, a.Verdict o (.error e) →
                (after c a address cancelled (past ++ [.receiverTurn])).receiver
                  = .finished (.error e)
                ∧ ∀ later, (after c a address cancelled (past ++ later)).purchases = [])
            ∧ ∀ code, a.Verdict o (.ok code) →
                (after c a address cancelled (past ++ [.receiverTurn])).receiver = .holding code
                ∧ ∀ later, (after c a address cancelled (past ++ later)).purchases = []
                  ∨ ∃ endpoint, Url.ofText? c.provider.tokenEndpoint = some endpoint
                    ∧ (after c a address cancelled (past ++ later)).purchases
                      = [tokenRequest endpoint (c.codeForm a code)] := by
  refine ⟨fun requests => ⟨fun o => ?_, ?_⟩, fun before request later hother => ?_,
    fun requests => ⟨_, arrivals_map_arrives requests, listens_after_arrivals requests⟩,
    fun cancelled past h => ⟨fun hnone => ?_, fun o hfirst => ?_⟩⟩
  · rw [Listener.afterAll_eq, firstBrought_iff, Option.none_or]
  · simp only [Listener.afterAll_eq, Option.none_or, List.findSome?_eq_none_iff,
      outcome?_eq_none_iff]
  · rw [Listener.afterAll_eq, Listener.afterAll_eq, hother.findSome?_eq]
  · have hwaiting : (after c a address cancelled past).listener.waiting = none := by
      rw [h.waiting_eq, List.findSome?_eq_none_iff]
      exact fun r hr => outcome?_eq_none_iff.2 (hnone r hr)
    rw [after_concat]
    exact h.idle hwaiting
  · have hcome := firstBrought_iff.1 hfirst
    have hwaiting := h.waiting_eq.trans hcome
    have houtcome := (firstOutcome_eq past).trans hcome
    rw [after_concat]
    refine ⟨hwaiting, ⟨_, verdict_codeOf a o⟩, fun e hverdict => ?_, fun code hverdict => ?_⟩
    · have hcode : codeOf a o = .error e := hverdict.eq_codeOf.symm
      refine ⟨h.refused hwaiting hcode, fun later => ?_⟩
      refine (purchases_of_firstOutcome houtcome later).resolve_right ?_
      rintro ⟨code, endpoint, hcode', -⟩
      rw [hcode] at hcode'
      cases hcode'
    · have hcode : codeOf a o = .ok code := hverdict.eq_codeOf.symm
      refine ⟨h.granted hwaiting hcode, fun later => ?_⟩
      refine (purchases_of_firstOutcome houtcome later).imp_right ?_
      rintro ⟨code', endpoint, hcode', hendpoint, hpurchases⟩
      obtain rfl : code = code' := by simpa [hcode] using hcode'
      exact ⟨endpoint, hendpoint, hpurchases⟩

/-- At work: a form that is posted, a request for another place and one with
two codes come before the head of the place is asked for, with an outcome
and a name twice that does not count, and another outcome comes after it. -/
theorem first_outcome_decides_among_five :
    let c := sampleClient
    let a : Attempt := ⟨"s", "n", none, "http://localhost:8000/"⟩
    let address : Url := ⟨"https", some { host := .name "idp" }, .segments ["a"], none, none⟩
    let requests : List Arrival := [⟨.post, "/", "code=1&state=s"⟩,
      ⟨.get, "/callback", "code=2&state=s"⟩, ⟨.get, "/", "code=3&state=s&code=3"⟩,
      ⟨.head, "/", "state=s&lang=en&lang=de&code=4"⟩, ⟨.get, "/", "error=denied&state=s"⟩]
    let outcome : Callback := { code := some "4", state := some "s" }
    let past : List Event := .receiverTurn :: requests.map .arrives
    (after c a address false past).Listens ∧ FirstBrought (arrivals past) outcome
      ∧ a.Verdict outcome (.ok "4")
      ∧ (after c a address false (past ++ [.receiverTurn])).receiver = .holding "4" := by
  intro c a address requests outcome past
  have hlistens : (after c a address false past).Listens := listens_after_arrivals requests
  have hwaiting : (({} : Listener).afterAll (arrivals past)).waiting = some outcome := by
    decide +kernel
  have hcoded : a.Verdict outcome (.ok "4") := .coded rfl rfl rfl
  obtain ⟨hreads, -, -, hdecides⟩ := first_outcome_decides c a address
  have hfirst := ((hreads (arrivals past)).1 outcome).1 hwaiting
  obtain ⟨-, -, -, hgranted⟩ := (hdecides false past hlistens).2 outcome hfirst
  exact ⟨hlistens, hfirst, hcoded, (hgranted "4" hcoded).1⟩

end Session

end CredentialRotation
