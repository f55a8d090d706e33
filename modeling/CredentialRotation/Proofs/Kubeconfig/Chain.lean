import CredentialRotation.Proofs.Kubeconfig.Updates
import CredentialRotation.Proofs.Yaml.Equality
import Mathlib.Data.List.Induction
import Mathlib.Data.List.Sublists

/-!
# Chains of rotations

One kubeconfig is given tokens again and again, each injected into what
the last injection left; one that fails leaves the tree as it is. Only
the last token of each user is seen in the end: the chain is one change
of all users at once (`deliverAll_eq`), which a later token for the same
user overwrites and a token for another user does not touch.

Between the octets of two rotations stand the printer and the reader. As
long as the trees on the way are written and read back as they are
(`ReadsBack`), the octets go where the trees go.
-/

namespace CredentialRotation.Kubeconfig

open Yaml (Value)

/-! ## Last words -/

section

variable {α : Type}

/-- The last thing for an index in a chain. -/
def last? (i : Nat) (rs : List (Nat × α)) : Option α :=
  (rs.filter (·.1 = i)).getLast?.map (·.2)

theorem last?_append (i : Nat) (rs rs' : List (Nat × α)) :
    last? i (rs ++ rs') = (last? i rs').or (last? i rs) := by
  unfold last?
  rw [List.filter_append, List.getLast?_append, Option.map_or]

theorem last?_cons (i : Nat) (r : Nat × α) (rs : List (Nat × α)) :
    last? i (r :: rs) = (last? i rs).or (if r.1 = i then some r.2 else none) := by
  rw [← List.singleton_append, last?_append]
  by_cases hi : r.1 = i <;> simp [last?, hi]

theorem last?_eq_none_iff {i : Nat} {rs : List (Nat × α)} :
    last? i rs = none ↔ ∀ r ∈ rs, r.1 ≠ i := by
  simp [last?]

end

/-! ## Chains of injections -/

theorem setField_setField (name : String) (v w : Value) (ms : Entries) :
    setField name v (setField name w ms) = setField name v ms := by
  fun_induction setField name w ms <;> simp_all [setField]

/-- The token that was there leaves no trace. -/
theorem withToken_comp (inline : Bool) (token token' : String) :
    withToken inline token ∘ withToken inline token' = withToken inline token := by
  funext entries
  cases inline
  · rfl
  · exact setField_setField tokenField _ _ entries

namespace Document

variable {inline : Bool} {d : Document} {rs rs' : List (Nat × String)}

/-- A document after a token for a user: with the token, or as it was if
there is no such user. -/
def deliver (inline : Bool) (d : Document) (r : Nat × String) : Document :=
  (d.inject r.2 ⟨r.1, inline⟩).toOption.getD d

/-- A document after a chain of tokens for users. -/
def deliverAll (inline : Bool) (d : Document) (rs : List (Nat × String)) : Document :=
  rs.foldl (deliver inline) d

theorem deliverAll_concat (inline : Bool) (d : Document) (rs : List (Nat × String))
    (r : Nat × String) :
    d.deliverAll inline (rs ++ [r]) = (d.deliverAll inline rs).deliver inline r :=
  List.foldl_append

theorem deliver_of_user_eq_error {r : Nat × String} {e : Error} (h : d.user r.1 = .error e) :
    d.deliver inline r = d := by
  rw [deliver, inject_eq_error_iff.2 h]
  rfl

theorem inject_of_user_eq_ok (inline : Bool) {r : Nat × String} {entries : Entries}
    (h : d.user r.1 = .ok entries) : d.inject r.2 ⟨r.1, inline⟩ = .ok (d.deliver inline r) := by
  rw [deliver, inject_eq_ok_iff.2 ⟨entries, h, rfl⟩]
  rfl

/-- What the last tokens make of each user. -/
def settled (inline : Bool) (rs : List (Nat × String)) (i : Nat) : Entries → Entries :=
  match last? i rs with
  | none => id
  | some token => withToken inline token

theorem settled_concat (inline : Bool) (rs : List (Nat × String)) (r : Nat × String) (i : Nat) :
    settled inline (rs ++ [r]) i
      = Function.update (fun _ => id) r.1 (withToken inline r.2) i ∘ settled inline rs i := by
  unfold settled
  rw [last?_append, last?_cons]
  by_cases hi : r.1 = i
  · subst hi
    rw [if_pos rfl, Function.update_self]
    cases last? r.1 rs <;> simp [last?, withToken_comp]
  · rw [if_neg hi, Function.update_of_ne (Ne.symm hi), Function.id_comp]
    rfl

/-- One token is one change, of its user alone. -/
theorem deliver_eq (inline : Bool) (d : Document) (r : Nat × String) :
    d.deliver inline r
      = d.overUsers (Function.update (fun _ => id) r.1 (withToken inline r.2)) := by
  -- a function for a user that is not there is never applied, so it may be anything
  cases huser : d.user r.1 with
  | error e =>
    rw [deliver_of_user_eq_error huser]
    refine (overUsers_id d).symm.trans (overUsers_congr fun i entries hi => ?_)
    have hne : i ≠ r.1 := by
      rintro rfl
      cases huser.symm.trans hi
    rw [Function.update_of_ne hne]
  | ok entries =>
    obtain ⟨_, huser', hset⟩ := inject_eq_ok_iff.1 (inject_of_user_eq_ok inline huser)
    obtain rfl := Except.ok.inj (huser.symm.trans huser')
    rw [← hset]
    refine (setUser_eq_overUsers _ _ _).trans (overUsers_congr fun i entries' hi => ?_)
    by_cases hr : i = r.1
    · subst hr
      obtain rfl : entries = entries' := Except.ok.inj (huser.symm.trans hi)
      rw [Function.update_self, Function.update_self]
    · rw [Function.update_of_ne hr, Function.update_of_ne hr]

/-- A chain is one change, by the last tokens. -/
theorem deliverAll_eq (inline : Bool) (d : Document) (rs : List (Nat × String)) :
    d.deliverAll inline rs = d.overUsers (settled inline rs) := by
  induction rs using List.reverseRecOn with
  | nil => exact (overUsers_id d).symm
  | append_singleton rs r ih =>
    rw [deliverAll_concat, ih, deliver_eq, overUsers_overUsers]
    exact congrArg (overUsers · d) (funext fun i => (settled_concat inline rs r i).symm)

/-- Whether a user is found, and why not, is the same along a chain. -/
theorem user_deliverAll (inline : Bool) (d : Document) (rs : List (Nat × String)) (i : Nat) :
    (d.deliverAll inline rs).user i = (d.user i).map (settled inline rs i) := by
  rw [deliverAll_eq, user_overUsers]

/-- Chains with the same last tokens end in the same tree. -/
theorem deliverAll_congr (h : ∀ i, last? i rs = last? i rs') :
    d.deliverAll inline rs = d.deliverAll inline rs' := by
  rw [deliverAll_eq, deliverAll_eq]
  refine congrArg (overUsers · d) (funext fun i => ?_)
  rw [settled, settled, h]

/-- A token that is followed by another for its user leaves no trace. -/
theorem deliverAll_overwritten (before between after : List (Nat × String)) (i : Nat)
    (token token' : String) :
    d.deliverAll inline (before ++ (i, token) :: between ++ (i, token') :: after)
      = d.deliverAll inline (before ++ between ++ (i, token') :: after) := by
  refine deliverAll_congr fun j => ?_
  simp only [last?_append, last?_cons]
  by_cases hi : i = j <;> simp [hi]

/-- Tokens for different users may come in either order. -/
theorem deliverAll_swap {i j : Nat} (hne : i ≠ j) (before after : List (Nat × String))
    (token token' : String) :
    d.deliverAll inline (before ++ (i, token) :: (j, token') :: after)
      = d.deliverAll inline (before ++ (j, token') :: (i, token) :: after) := by
  refine deliverAll_congr fun k => ?_
  simp only [last?_append, last?_cons]
  by_cases hi : i = k
  · subst hi
    simp [Ne.symm hne]
  · simp [hi]

end Document

/-! ## Chains of generations -/

/-- A tree that is written, and is read back as it is. -/
def Document.ReadsBack (d : Document) : Prop :=
  ∃ text, d.text = .ok text ∧ Document.read text = .ok d

instance : DecidableEq Document := fun d d' =>
  decidable_of_iff (d.root = d'.root) ⟨congrArg Document.mk, congrArg Document.root⟩

instance (d : Document) : Decidable d.ReadsBack :=
  decidable_of_iff ((d.text >>= Document.read) = .ok d) bind_eq_ok_iff

/-- The token of a rotation as it stands in a tree. -/
def decode (r : Nat × Bytes) : Nat × String := (r.1, r.2.textLossy)

theorem last?_decode (i : Nat) (rs : List (Nat × Bytes)) :
    last? i (rs.map decode) = (last? i rs).map Bytes.textLossy := by
  unfold last?
  rw [List.filter_map, List.getLast?_map, Option.map_map, Option.map_map]
  rfl

/-- A kubeconfig after a token for a user: what is generated from it, or
as it was if nothing is. -/
def renew (inline : Bool) (kubeconfig : Bytes) (r : Nat × Bytes) : Bytes :=
  match generate kubeconfig r.2 ⟨r.1, inline⟩ with
  | .ok g => g.kubeconfig
  | .error _ => kubeconfig

/-- A kubeconfig after a chain of tokens for users. -/
def renewAll (inline : Bool) (kubeconfig : Bytes) (rs : List (Nat × Bytes)) : Bytes :=
  rs.foldl (renew inline) kubeconfig

/-- Whether a chain has a token for a user that there is. -/
def FindsUser (d : Document) (rs : List (Nat × Bytes)) : Prop :=
  ∃ r ∈ rs, ∃ entries, d.user r.1 = .ok entries

/-- Whichever tokens of a chain have been delivered, the tree that they
make reads back. Of a tree in which no user has been found nothing is
asked, for it is not written. -/
def Faithful (inline : Bool) (d : Document) (rs : List (Nat × Bytes)) : Prop :=
  ∀ part : List (Nat × Bytes), part.Sublist rs → FindsUser d part →
    (d.deliverAll inline (part.map decode)).ReadsBack

section

variable {inline : Bool} {d : Document} {kubeconfig : Bytes} {r : Nat × Bytes}
  {rs rs' : List (Nat × Bytes)} {e : Error} {entries : Entries}

theorem deliverAll_decode_concat (inline : Bool) (d : Document) (rs : List (Nat × Bytes))
    (r : Nat × Bytes) : d.deliverAll inline ((rs ++ [r]).map decode)
    = (d.deliverAll inline (rs.map decode)).deliver inline (decode r) := by
  rw [List.map_append]
  exact Document.deliverAll_concat _ _ _ _

theorem renewAll_concat (inline : Bool) (kubeconfig : Bytes) (rs : List (Nat × Bytes))
    (r : Nat × Bytes) : renewAll inline kubeconfig (rs ++ [r])
      = renew inline (renewAll inline kubeconfig rs) r :=
  List.foldl_append

theorem generate_of_user_eq_error (hread : Document.read kubeconfig = .ok d)
    (huser : d.user r.1 = .error e) : generate kubeconfig r.2 ⟨r.1, inline⟩ = .error e := by
  rw [generate_eq hread, Document.inject_eq_error_iff.2 huser]
  rfl

theorem generate_of_user_eq_ok (hread : Document.read kubeconfig = .ok d)
    (huser : d.user r.1 = .ok entries)
    (hback : (d.deliver inline (decode r)).ReadsBack) :
    ∃ g, generate kubeconfig r.2 ⟨r.1, inline⟩ = .ok g
      ∧ (d.deliver inline (decode r)).text = .ok g.kubeconfig := by
  have hinject : d.inject r.2.textLossy ⟨r.1, inline⟩ = .ok (d.deliver inline (decode r)) :=
    Document.inject_of_user_eq_ok (r := decode r) inline huser
  obtain ⟨text, htext, -⟩ := hback
  exact ⟨_, (generate_eq hread r.2 ⟨r.1, inline⟩).trans
    (bind_eq_ok_iff.2 ⟨_, hinject, map_eq_ok_iff.2 ⟨text, htext, rfl⟩⟩), htext⟩

/-- A generation fails as the search for its user does, where the tree
reads back that it makes. -/
theorem generate_eq_error_iff (hread : Document.read kubeconfig = .ok d)
    (hback : ∀ entries, d.user r.1 = .ok entries → (d.deliver inline (decode r)).ReadsBack) :
    generate kubeconfig r.2 ⟨r.1, inline⟩ = .error e ↔ d.user r.1 = .error e := by
  refine ⟨fun h => ?_, generate_of_user_eq_error hread⟩
  cases huser : d.user r.1 with
  | error e' =>
    cases (generate_of_user_eq_error hread huser).symm.trans h
    rfl
  | ok entries =>
    obtain ⟨g, hg, -⟩ := generate_of_user_eq_ok hread huser (hback entries huser)
    cases hg.symm.trans h

theorem Faithful.of_sublist (h : Faithful inline d rs) (hpart : rs'.Sublist rs) :
    Faithful inline d rs' :=
  fun part hsub => h part (hsub.trans hpart)

theorem findsUser_concat : FindsUser d (rs ++ [r]) ↔
    FindsUser d rs ∨ ∃ entries, d.user r.1 = .ok entries := by
  simp [FindsUser, or_and_right, exists_or]

theorem findsUser_congr (h : ∀ i, last? i rs = last? i rs') (hfinds : FindsUser d rs) :
    FindsUser d rs' := by
  obtain ⟨r, hr, hentries⟩ := hfinds
  have hnamed : last? r.1 rs' ≠ none := by
    rw [← h, Ne, last?_eq_none_iff]
    exact fun hno => hno r hr rfl
  rw [Ne, last?_eq_none_iff] at hnamed
  push Not at hnamed
  obtain ⟨r', hr', hindex⟩ := hnamed
  exact ⟨r', hr', hindex ▸ hentries⟩

/-- How the octets of a chain follow its trees: they read as the tree,
and are those it is written as once a user has been found. -/
structure Follows (inline : Bool) (kubeconfig : Bytes) (d : Document) (rs : List (Nat × Bytes)) :
    Prop where
  read : Document.read (renewAll inline kubeconfig rs) = .ok (d.deliverAll inline (rs.map decode))
  written : FindsUser d rs →
    (d.deliverAll inline (rs.map decode)).text = .ok (renewAll inline kubeconfig rs)
  idle : ¬ FindsUser d rs → renewAll inline kubeconfig rs = kubeconfig

/-- A token for nobody changes neither the octets nor the tree. -/
theorem Follows.concat_of_user_eq_error (h : Follows inline kubeconfig d rs)
    (huser : d.user r.1 = .error e) : Follows inline kubeconfig d (rs ++ [r]) := by
  have hsearch := Document.user_deliverAll inline d (rs.map decode) r.1
  rw [huser] at hsearch
  have htree : d.deliverAll inline ((rs ++ [r]).map decode) = d.deliverAll inline (rs.map decode) :=
    (deliverAll_decode_concat inline d rs r).trans (Document.deliver_of_user_eq_error hsearch)
  have hoctets : renewAll inline kubeconfig (rs ++ [r]) = renewAll inline kubeconfig rs := by
    rw [renewAll_concat, renew, generate_of_user_eq_error h.read hsearch]
  have hfinds : FindsUser d (rs ++ [r]) → FindsUser d rs := fun hfinds =>
    (findsUser_concat.1 hfinds).resolve_right fun ⟨entries, hentries⟩ => by
      cases huser.symm.trans hentries
  refine ⟨?_, fun hnow => ?_, fun hnever => ?_⟩
  · rw [hoctets, htree]
    exact h.read
  · rw [hoctets, htree]
    exact h.written (hfinds hnow)
  · rw [hoctets]
    exact h.idle fun hbefore => hnever (findsUser_concat.2 (Or.inl hbefore))

/-- A token for a user leaves the octets that the new tree is written
as, so that reading them gives it back. -/
theorem Follows.concat_of_user_eq_ok (h : Follows inline kubeconfig d rs)
    (huser : d.user r.1 = .ok entries)
    (hback : (d.deliverAll inline ((rs ++ [r]).map decode)).ReadsBack) :
    Follows inline kubeconfig d (rs ++ [r]) := by
  have hsearch := Document.user_deliverAll inline d (rs.map decode) r.1
  rw [huser] at hsearch
  rw [deliverAll_decode_concat] at hback
  obtain ⟨g, hg, hwritten⟩ := generate_of_user_eq_ok h.read hsearch hback
  obtain ⟨text, htext, hread⟩ := hback
  obtain rfl : g.kubeconfig = text := Except.ok.inj (hwritten.symm.trans htext)
  have hoctets : renewAll inline kubeconfig (rs ++ [r]) = g.kubeconfig := by
    rw [renewAll_concat, renew, hg]
  rw [← hoctets, ← deliverAll_decode_concat] at hread htext
  exact ⟨hread, fun _ => htext, fun hnever =>
    absurd (findsUser_concat.2 (Or.inr ⟨entries, huser⟩)) hnever⟩

theorem follows (hread : Document.read kubeconfig = .ok d) (hback : Faithful inline d rs) :
    Follows inline kubeconfig d rs := by
  -- by the last token; the tokens before it are part of the chain, so they are faithful too
  induction rs using List.reverseRecOn with
  | nil => exact ⟨hread, fun ⟨_, hr, _⟩ => absurd hr List.not_mem_nil, fun _ => rfl⟩
  | append_singleton rs r ih =>
    have hbefore := ih (hback.of_sublist (List.sublist_append_left rs [r]))
    cases huser : d.user r.1 with
    | error e => exact hbefore.concat_of_user_eq_error huser
    | ok entries =>
      exact hbefore.concat_of_user_eq_ok huser
        (hback _ (List.Sublist.refl _) (findsUser_concat.2 (Or.inr ⟨entries, huser⟩)))

/-- A generation in a chain fails as the search in the first tree. -/
theorem generate_renewAll_eq_error_iff (hread : Document.read kubeconfig = .ok d)
    (rs : List (Nat × Bytes)) (hback : Faithful inline d (rs ++ [r])) :
    generate (renewAll inline kubeconfig rs) r.2 ⟨r.1, inline⟩ = .error e
      ↔ d.user r.1 = .error e := by
  have hrs := follows hread (hback.of_sublist (List.sublist_append_left _ _))
  have hsearch := Document.user_deliverAll inline d (rs.map decode) r.1
  rw [generate_eq_error_iff hrs.read fun entries hentries => ?_, hsearch, map_eq_error_iff]
  obtain ⟨entries, huser, -⟩ := map_eq_ok_iff.1 (hsearch.symm.trans hentries)
  rw [← deliverAll_decode_concat]
  exact hback _ (List.Sublist.refl _) (findsUser_concat.2 (Or.inr ⟨entries, huser⟩))

/-- Chains with the same last tokens end in the same octets. -/
theorem renewAll_congr (hread : Document.read kubeconfig = .ok d) (hback : Faithful inline d rs)
    (hback' : Faithful inline d rs') (h : ∀ i, last? i rs = last? i rs') :
    renewAll inline kubeconfig rs = renewAll inline kubeconfig rs' := by
  have hrs := follows hread hback
  have hrs' := follows hread hback'
  -- either both are the text of one tree, or both are what they started as
  by_cases hfinds : FindsUser d rs
  · have htree : d.deliverAll inline (rs.map decode) = d.deliverAll inline (rs'.map decode) :=
      Document.deliverAll_congr fun i => by rw [last?_decode, last?_decode, h]
    have htext := hrs.written hfinds
    rw [htree] at htext
    exact Except.ok.inj (htext.symm.trans (hrs'.written (findsUser_congr h hfinds)))
  · rw [hrs.idle hfinds, hrs'.idle fun hno => hfinds (findsUser_congr (fun i => (h i).symm) hno)]

/-- **Chains of rotations collapse.** A token fails in a chain as it would
in the first tree, and chains with the same last token for each index
end in the same tree. The same holds of the octets that are handed from
one generation to the next, whose trees those are, as long as what is
made on the way reads back. -/
theorem rotations_collapse (inline : Bool) (d : Document) :
    (∀ rs i token e, (d.deliverAll inline rs).inject token ⟨i, inline⟩ = .error e
        ↔ d.inject token ⟨i, inline⟩ = .error e)
      ∧ (∀ rs rs', (∀ i, last? i rs = last? i rs') →
        d.deliverAll inline rs = d.deliverAll inline rs')
      ∧ ∀ kubeconfig rs, Document.read kubeconfig = .ok d → Faithful inline d rs →
        Document.read (renewAll inline kubeconfig rs) = .ok (d.deliverAll inline (rs.map decode))
        ∧ (∀ before i token e, before ++ [(i, token)] <+: rs →
          (generate (renewAll inline kubeconfig before) token ⟨i, inline⟩ = .error e
            ↔ generate kubeconfig token ⟨i, inline⟩ = .error e))
        ∧ ∀ rs', Faithful inline d rs' → (∀ i, last? i rs = last? i rs') →
          renewAll inline kubeconfig rs = renewAll inline kubeconfig rs' := by
  refine ⟨fun rs i token e => ?_, fun rs rs' => Document.deliverAll_congr,
    fun kubeconfig rs hread hback => ⟨(follows hread hback).read, ?_, fun rs' hback' =>
      renewAll_congr hread hback hback'⟩⟩
  · rw [Document.inject_eq_error_iff, Document.inject_eq_error_iff, Document.user_deliverAll,
      map_eq_error_iff]
  · intro before i token e hprefix
    have hfirst : [(i, token)].Sublist rs :=
      (List.sublist_append_right _ _).trans hprefix.sublist
    exact (generate_renewAll_eq_error_iff hread before (hback.of_sublist hprefix.sublist)).trans
      (generate_renewAll_eq_error_iff hread [] (hback.of_sublist hfirst)).symm

end

/-- Two users without credentials. -/
def twoUsers : Document :=
  let x := Value.mapping [(.string "user", .mapping [])]
  ⟨.mapping [(.string "users", .sequence [x, x])]⟩

/-- At work: two users get tokens, one of them twice, and a third is not
there. -/
theorem rotations_collapse_two_users :
    let kubeconfig := Bytes.ofString "users: [user: \x7b\x7d, user: \x7b\x7d]"
    let rs := [(0, Bytes.ofString "a"), (7, Bytes.ofString "x"), (1, Bytes.ofString "y"),
      (0, Bytes.ofString "b")]
    let rs' := [(1, Bytes.ofString "y"), (0, Bytes.ofString "b"), (7, Bytes.ofString "x")]
    Document.read kubeconfig = .ok twoUsers
      ∧ Faithful true twoUsers rs ∧ Faithful true twoUsers rs'
      ∧ renewAll true kubeconfig rs = renewAll true kubeconfig rs'
      ∧ generate (renewAll true kubeconfig [(0, Bytes.ofString "a")]) (Bytes.ofString "x") ⟨7, true⟩
        = .error (.missingUser 7 2) := by
  intro kubeconfig rs rs'
  have hread : Document.read kubeconfig = .ok twoUsers := by decide +kernel
  have hparts : ∀ part ∈ rs.sublists ++ rs'.sublists,
      (twoUsers.deliverAll true (part.map decode)).ReadsBack := by decide +kernel
  have hback : Faithful true twoUsers rs := fun part hpart _ =>
    hparts part (List.mem_append_left _ (List.mem_sublists.2 hpart))
  have hback' : Faithful true twoUsers rs' := fun part hpart _ =>
    hparts part (List.mem_append_right _ (List.mem_sublists.2 hpart))
  have hlast (i : Nat) : last? i rs = last? i rs' := by
    rcases eq_or_ne 0 i with rfl | h0
    · rfl
    · rcases eq_or_ne 1 i with rfl | h1
      · rfl
      · simp [rs, rs', last?, h0, h1]
  obtain ⟨-, hfaults, hends⟩ := (rotations_collapse true twoUsers).2.2 kubeconfig rs hread hback
  refine ⟨hread, hback, hback', hends rs' hback' hlast, ?_⟩
  refine (hfaults [(0, Bytes.ofString "a")] 7 (Bytes.ofString "x") _ ⟨_, rfl⟩).2 ?_
  exact generate_of_user_eq_error (r := (7, Bytes.ofString "x")) hread rfl

end CredentialRotation.Kubeconfig
