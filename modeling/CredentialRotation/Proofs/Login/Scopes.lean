import CredentialRotation.Login.Config
import Mathlib.Data.List.Induction
import Mathlib.Data.List.Nodup

/-!
# The scopes that are asked for

A configuration may name a scope any number of times, `openid` among them.
What is asked for is `openid` and then each other scope once, in the order
in which the configuration first names them. `FirstOrder` says so of two
lists, and the first leaves no choice for the second
(`FirstOrder.unique`).

Scopes are added one after the other, and each that is added keeps the
order (`FirstOrder.addScope`). In the parameter they stand with spaces
between them, so scopes without a space are read back from it, and asking
for those gives the same parameter (`scopes_of_param`).
-/

namespace CredentialRotation.LoginConfig

/-- `FirstOrder configured asked`: `asked` is `openid` and the scopes in
`configured`, each once, the others in the order in which they first come
in `configured`. -/
structure FirstOrder (configured asked : List String) : Prop where
  nodup : asked.Nodup
  head?_eq : asked.head? = some "openid"
  mem_iff : ∀ s, s ∈ asked ↔ s = "openid" ∨ s ∈ configured
  ordered : asked.tail.Pairwise fun s t => configured.idxOf s < configured.idxOf t

/-- The scopes in a parameter. -/
def scopesIn (param : String) : List String :=
  (param.toList.splitOn ' ').map String.ofList

variable {configured asked asked' : List String} {scope : String}

/-! ## The order of first mention -/

namespace FirstOrder

theorem eq_cons (h : FirstOrder configured asked) : asked = "openid" :: asked.tail :=
  List.eq_cons_of_mem_head? h.head?_eq

/-- After `openid` come the scopes of the configuration that are not
`openid`. -/
theorem mem_tail_iff (h : FirstOrder configured asked) :
    scope ∈ asked.tail ↔ scope ≠ "openid" ∧ scope ∈ configured := by
  have hnodup := h.nodup
  have hmem := h.mem_iff scope
  rw [h.eq_cons] at hnodup hmem
  have hfirst := (List.nodup_cons.1 hnodup).1
  constructor
  · intro hs
    have hne : scope ≠ "openid" := fun heq => hfirst (heq ▸ hs)
    exact ⟨hne, (hmem.1 (List.mem_cons_of_mem _ hs)).resolve_left hne⟩
  · rintro ⟨hne, hs⟩
    exact (List.mem_cons.1 (hmem.2 (Or.inr hs))).resolve_left hne

/-- **There is one list** in the order of first mention. -/
theorem unique (h : FirstOrder configured asked) (h' : FirstOrder configured asked') :
    asked = asked' := by
  have hperm : asked.tail.Perm asked'.tail := by
    refine (List.perm_ext_iff_of_nodup h.nodup.tail h'.nodup.tail).2 fun s => ?_
    rw [h.mem_tail_iff, h'.mem_tail_iff]
  have htail : asked.tail = asked'.tail :=
    hperm.eq_of_pairwise (fun _ _ _ _ hlt hgt => absurd hlt (Nat.lt_asymm hgt)) h.ordered
      h'.ordered
  rw [h.eq_cons, h'.eq_cons, htail]

/-- Where nothing is configured, `openid` is asked for. -/
theorem nil : FirstOrder [] ["openid"] :=
  ⟨List.nodup_singleton _, rfl, by simp, List.Pairwise.nil⟩

/-- A list that is in order keeps to it as a configuration. -/
theorem self (h : FirstOrder configured asked) : FirstOrder asked asked := by
  have hall : asked.Pairwise fun s t => asked.idxOf s < asked.idxOf t := by
    refine List.pairwise_iff_getElem.2 fun i j hi hj hij => ?_
    rwa [h.nodup.idxOf_getElem i hi, h.nodup.idxOf_getElem j hj]
  refine ⟨h.nodup, h.head?_eq, fun s => ⟨Or.inr, ?_⟩, hall.tail⟩
  rintro (rfl | hs)
  · exact (h.mem_iff _).2 (Or.inl rfl)
  · exact hs

/-! ## One more scope -/

/-- A scope at the end of the configuration changes the place of none
before it. -/
theorem idxOf_append (h : FirstOrder configured asked) (hs : scope ∈ asked.tail)
    (more : List String) : (configured ++ more).idxOf scope = configured.idxOf scope :=
  List.idxOf_append_of_mem (h.mem_tail_iff.1 hs).2

theorem ordered_append (h : FirstOrder configured asked) (more : List String) :
    asked.tail.Pairwise fun s t => (configured ++ more).idxOf s < (configured ++ more).idxOf t := by
  refine List.Pairwise.imp_of_mem (fun hs ht hlt => ?_) h.ordered
  rwa [h.idxOf_append hs, h.idxOf_append ht]

/-- A scope that is asked for already is not asked for again. -/
theorem concat_of_mem (h : FirstOrder configured asked) (hscope : scope ∈ asked) :
    FirstOrder (configured ++ [scope]) asked := by
  refine ⟨h.nodup, h.head?_eq, fun s => ?_, h.ordered_append _⟩
  rw [h.mem_iff, List.mem_append, List.mem_singleton]
  constructor
  · rintro (hs | hs)
    · exact Or.inl hs
    · exact Or.inr (Or.inl hs)
  · rintro (hs | hs | rfl)
    · exact Or.inl hs
    · exact Or.inr hs
    · exact (h.mem_iff _).1 hscope

/-- Any other is asked for last. -/
theorem concat_of_not_mem (h : FirstOrder configured asked) (hscope : scope ∉ asked) :
    FirstOrder (configured ++ [scope]) (asked ++ [scope]) := by
  have hnew : scope ∉ configured := fun hs => hscope ((h.mem_iff _).2 (Or.inr hs))
  have htail : (asked ++ [scope]).tail = asked.tail ++ [scope] := by
    rw [h.eq_cons]
    rfl
  refine ⟨?_, ?_, fun s => ?_, ?_⟩
  · exact List.nodup_append'.2
      ⟨h.nodup, List.nodup_singleton _, List.disjoint_singleton.2 hscope⟩
  · rw [List.head?_append, h.head?_eq]
    rfl
  · rw [List.mem_append, List.mem_append, List.mem_singleton, h.mem_iff, or_assoc]
  · rw [htail, List.pairwise_append]
    refine ⟨h.ordered_append _, List.pairwise_singleton _ _, fun s hs t ht => ?_⟩
    obtain rfl := List.mem_singleton.1 ht
    -- it first comes after the end of what was configured before
    rw [h.idxOf_append hs, List.idxOf_append_of_notMem hnew]
    exact Nat.lt_of_lt_of_le (List.idxOf_lt_length_of_mem (h.mem_tail_iff.1 hs).2)
      (Nat.le_add_right _ _)

/-- **A scope that is added** keeps the order. -/
theorem addScope (h : FirstOrder configured asked) (scope : String) :
    FirstOrder (configured ++ [scope]) (LoginConfig.addScope asked scope) := by
  by_cases hscope : scope ∈ asked
  · rw [LoginConfig.addScope, if_pos hscope]
    exact h.concat_of_mem hscope
  · rw [LoginConfig.addScope, if_neg hscope]
    exact h.concat_of_not_mem hscope

end FirstOrder

/-- **The scopes that are asked for** are in the order of first mention. -/
theorem firstOrder_requestedScopes (c : LoginConfig) :
    FirstOrder c.scopes c.requestedScopes := by
  unfold requestedScopes
  induction c.scopes using List.reverseRecOn with
  | nil => exact .nil
  | append_singleton scopes scope ih =>
    rw [List.foldl_append]
    exact ih.addScope scope

/-! ## The parameter -/

/-- Scopes without a space are read back. -/
theorem scopesIn_intercalate (hne : asked ≠ []) (h : ∀ s ∈ asked, ' ' ∉ s.toList) :
    scopesIn (" ".intercalate asked) = asked := by
  have hspace : " ".toList = [' '] := rfl
  rw [scopesIn, String.toList_intercalate, hspace, List.splitOn_intercalate]
  · simp
  · simpa using h
  · simpa using hne

/-- **The scopes in the parameter** are `openid` and those configured, each
once and in the order of first mention. Who configures just these asks with
the same parameter. -/
theorem scopes_of_param (c : LoginConfig) (h : ∀ s ∈ c.scopes, ' ' ∉ s.toList) :
    FirstOrder c.scopes (scopesIn c.scopeParam)
      ∧ { c with scopes := scopesIn c.scopeParam }.scopeParam = c.scopeParam := by
  have horder := firstOrder_requestedScopes c
  have hread : scopesIn c.scopeParam = c.requestedScopes := by
    refine scopesIn_intercalate ?_ fun s hs => ?_
    · rw [horder.eq_cons]
      exact List.cons_ne_nil _ _
    · rcases (horder.mem_iff s).1 hs with rfl | hs
      · decide
      · exact h s hs
  rw [hread]
  refine ⟨horder, ?_⟩
  -- of lists in the order of what is asked for there is one, and that is itself
  have hsame := (firstOrder_requestedScopes { c with scopes := c.requestedScopes }).unique
    horder.self
  rw [scopeParam, hsame, scopeParam]

/-- At work: scopes that come twice, and `openid` in between. -/
theorem scopes_of_param_twice :
    let c : LoginConfig :=
      { issuerUrl := "https://idp", clientId := "id",
        scopes := ["groups", "email", "openid", "groups", "email"] }
    c.scopeParam = "openid groups email"
      ∧ FirstOrder c.scopes (scopesIn c.scopeParam)
      ∧ { c with scopes := scopesIn c.scopeParam }.scopeParam = c.scopeParam := by
  intro c
  exact ⟨by decide +kernel, scopes_of_param c (by decide +kernel)⟩

end CredentialRotation.LoginConfig
