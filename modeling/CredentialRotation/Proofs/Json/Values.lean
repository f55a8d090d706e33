import CredentialRotation.Proofs.Json.Printing
import CredentialRotation.Proofs.Result
import Mathlib.Data.String.Basic

/-!
# Values in text

The integers of a JSON value fit sixty-four bits, and an object has each
of its names once and in order (`IsValue`). Whatever node a value is read
from, it is one of these and nests no deeper than the reader follows
(`isValue_of_ofNode?`). In return a value of that depth is read back from
its node, as long as no number in it is binary (`ofNode?_node`).
-/

namespace CredentialRotation

namespace Json

open Number

variable {x y : Json} {xs : List Json} {k : String} {m : String × Json}
  {ms : List (String × Json)} {d : Nat}

/-! ## Members in order -/

/-- Each name once, and in order. -/
def IsOrdered (ms : List (String × Json)) : Prop := ms.Pairwise fun m m' => m.1 < m'.1

theorem mem_setMember (h : m ∈ setMember k x ms) : m = (k, x) ∨ m ∈ ms := by
  induction ms with
  | nil => exact .inl (List.mem_singleton.1 h)
  | cons m' ms ih =>
    rw [setMember] at h
    split at h
    · exact (List.mem_cons.1 h).imp_right (List.mem_cons_of_mem _)
    · split at h
      · exact List.mem_cons.1 h
      · rcases List.mem_cons.1 h with rfl | h
        · exact .inr List.mem_cons_self
        · exact (ih h).imp_right (List.mem_cons_of_mem _)

/-- A member set in members that are in order leaves them in order. -/
theorem IsOrdered.setMember (h : IsOrdered ms) (k : String) (x : Json) :
    IsOrdered (setMember k x ms) := by
  induction ms with
  | nil => exact List.pairwise_singleton _ _
  | cons m ms ih =>
    obtain ⟨hm, hms⟩ := List.pairwise_cons.1 h
    rw [Json.setMember]
    split
    · next heq =>
      rw [heq]
      exact List.pairwise_cons.2 ⟨hm, hms⟩
    · next hne =>
      split
      · next hlt =>
        refine List.pairwise_cons.2 ⟨?_, h⟩
        rintro m' hm'
        rcases List.mem_cons.1 hm' with rfl | hm'
        · exact hlt
        · exact hlt.trans (hm m' hm')
      · next hle =>
        refine List.pairwise_cons.2 ⟨?_, ih hms⟩
        rintro m' hm'
        rcases mem_setMember hm' with rfl | hm'
        · exact lt_of_le_of_ne (not_lt.1 hle) (Ne.symm hne)
        · exact hm m' hm'

theorem isOrdered_membersOf (ms : List (String × Json)) : IsOrdered (membersOf ms) :=
  ms.foldlRecOn (motive := IsOrdered) _ List.Pairwise.nil fun _ h m _ => h.setMember m.1 m.2

theorem mem_of_mem_membersOf (h : m ∈ membersOf ms) : m ∈ ms := by
  refine ms.foldlRecOn (motive := fun acc => ∀ m ∈ acc, m ∈ ms) _
    (fun m hm => absurd hm List.not_mem_nil) ?_ m h
  intro acc hacc m' hm' m hm
  rcases mem_setMember hm with rfl | hm
  · exact hm'
  · exact hacc m hm

/-- A name after all others comes last. -/
theorem setMember_of_forall_lt (h : ∀ m ∈ ms, m.1 < k) : setMember k x ms = ms ++ [(k, x)] := by
  induction ms with
  | nil => rfl
  | cons m ms ih =>
    obtain ⟨hm, hms⟩ := List.forall_mem_cons.1 h
    rw [setMember, if_neg hm.ne', if_neg hm.asymm, ih hms, List.cons_append]

/-- Members in order are as they are given. -/
theorem IsOrdered.membersOf_eq (h : IsOrdered ms) : membersOf ms = ms := by
  -- with those that are set already before them
  have hfold : ∀ acc, IsOrdered (acc ++ ms) →
      ms.foldl (fun acc m => Json.setMember m.1 m.2 acc) acc = acc ++ ms := by
    clear h
    induction ms with
    | nil =>
      intro acc _
      rw [List.foldl_nil, List.append_nil]
    | cons m ms ih =>
      intro acc hacc
      have hlt : ∀ m' ∈ acc, m'.1 < m.1 := fun m' hm' =>
        (List.pairwise_append.1 hacc).2.2 m' hm' m List.mem_cons_self
      rw [List.append_cons] at hacc ⊢
      rw [List.foldl_cons, setMember_of_forall_lt hlt]
      exact ih _ hacc
  exact hfold [] h

/-- A name of members in order stands for the member that has it. -/
theorem IsOrdered.member?_eq_some_iff (h : IsOrdered ms) :
    member? ms k = some x ↔ (k, x) ∈ ms := by
  induction ms with
  | nil => simp [member?]
  | cons m ms ih =>
    obtain ⟨hm, hms⟩ := List.pairwise_cons.1 h
    have hrest := ih hms
    unfold member? at hrest ⊢
    by_cases hk : m.1 = k
    · have hnot : (k, x) ∉ ms := fun hmem => (hm _ hmem).ne hk
      rw [List.find?_cons_of_pos (by simpa using hk), Option.map_some, Option.some.injEq,
        List.mem_cons, or_iff_left hnot, Prod.ext_iff]
      exact ⟨fun hx => ⟨hk.symm, hx.symm⟩, fun heq => heq.2.symm⟩
    · have hne : (k, x) ≠ m := by
        rintro rfl
        exact hk rfl
      rw [List.find?_cons_of_neg (by simpa using hk), hrest, List.mem_cons, or_iff_right hne]

/-! ## Values -/

/-- A value as it can be held. -/
structure IsValue (x : Json) : Prop where
  fits : ∀ n, Within (.number (.integer n)) x → int64Min ≤ n ∧ n ≤ nat64Max
  ordered : ∀ ms, Within (.object ms) x → IsOrdered ms

theorem isValue_array_iff : (array xs).IsValue ↔ ∀ x ∈ xs, x.IsValue := by
  constructor
  · intro h x hx
    exact ⟨fun n hn => h.fits n (.item hx hn), fun ms hms => h.ordered ms (.item hx hms)⟩
  · intro h
    refine ⟨fun n hn => ?_, fun ms hms => ?_⟩
    · cases hn with
      | item hx hn => exact (h _ hx).fits n hn
    · cases hms with
      | item hx hms => exact (h _ hx).ordered ms hms

theorem isValue_object_iff :
    (object ms).IsValue ↔ IsOrdered ms ∧ ∀ m ∈ ms, m.2.IsValue := by
  constructor
  · intro h
    refine ⟨h.ordered ms .refl, fun m hm => ?_⟩
    exact ⟨fun n hn => h.fits n (.member hm hn), fun ms' hms => h.ordered ms' (.member hm hms)⟩
  · rintro ⟨hordered, h⟩
    refine ⟨fun n hn => ?_, fun ms' hms => ?_⟩
    · cases hn with
      | member hx hn => exact (h _ hx).fits n hn
    · cases hms with
      | refl => exact hordered
      | member hx hms => exact (h _ hx).ordered ms' hms

mutual

/-- How deep a value nests. -/
def depth : Json → Nat
  | .array xs => depths xs + 1
  | .object ms => memberDepths ms + 1
  | _ => 0

/-- How deep the deepest of some items nests. -/
def depths : List Json → Nat
  | [] => 0
  | x :: xs => max (depth x) (depths xs)

/-- How deep the deepest of some members nests. -/
def memberDepths : List (String × Json) → Nat
  | [] => 0
  | (_, x) :: ms => max (depth x) (memberDepths ms)

end

theorem depths_le_iff : depths xs ≤ d ↔ ∀ x ∈ xs, x.depth ≤ d := by
  induction xs with
  | nil => simp [depths]
  | cons x xs ih => rw [depths, Nat.max_le, ih, List.forall_mem_cons]

theorem memberDepths_le_iff : memberDepths ms ≤ d ↔ ∀ m ∈ ms, m.2.depth ≤ d := by
  induction ms with
  | nil => simp [memberDepths]
  | cons m ms ih => rw [memberDepths, Nat.max_le, ih, List.forall_mem_cons]

/-- Nothing stands within a value that does not nest. -/
theorem isValue_of_depth_eq_zero (h : x.depth = 0)
    (hfits : ∀ n, x = .number (.integer n) → int64Min ≤ n ∧ n ≤ nat64Max) : x.IsValue := by
  have hwithin : ∀ y, Within y x → y = x := by
    intro y hy
    cases hy with
    | refl => rfl
    | item => cases h
    | member => cases h
  refine ⟨fun n hn => hfits n (hwithin _ hn).symm, fun ms hms => ?_⟩
  rw [← hwithin _ hms] at h
  cases h

/-! ## Numbers -/

theorem numeric?_lexeme {n : Int} (hmin : int64Min ≤ n) (hmax : n ≤ nat64Max) :
    (lexeme n).numeric? = some (.integer n) := by
  simp only [int64Min, nat64Max] at hmin hmax
  have hfits : n.natAbs ≤ nat64Max := by
    simp only [nat64Max]
    omega
  simp only [Lexeme.numeric?, lexeme, List.isEmpty_nil, Option.isNone_none, Bool.and_self,
    if_true, run_decimal, if_pos hfits]
  by_cases hn : n < 0
  · have hneg : ¬(n.natAbs = 0 ∨ -(n.natAbs : Int) < int64Min) := by
      simp only [int64Min]
      omega
    have habs : -(n.natAbs : Int) = n := by omega
    rw [decide_eq_true hn, Bool.not_true, if_neg Bool.false_ne_true, if_neg hneg, habs]
  · have habs : (n.natAbs : Int) = n := by omega
    rw [decide_eq_false hn, Bool.not_false, if_pos rfl, habs]

/-- An integer that is read fits sixty-four bits. -/
theorem fits_of_numeric? {l : Lexeme} {n : Int} (h : l.numeric? = some (.integer n)) :
    int64Min ≤ n ∧ n ≤ nat64Max := by
  unfold Lexeme.numeric? at h
  have hbinary : l.binary?.map .binary ≠ some (Numeric.integer n) := by
    cases l.binary? <;> simp
  split at h
  · dsimp only at h
    split at h
    · next hle =>
      split at h
      · obtain rfl := Numeric.integer.inj (Option.some.inj h)
        simp only [int64Min, nat64Max] at hle ⊢
        omega
      · split at h
        · cases h
        · next hnot =>
          obtain rfl := Numeric.integer.inj (Option.some.inj h)
          simp only [int64Min, nat64Max] at hle hnot ⊢
          omega
    · exact absurd h hbinary
  · exact absurd h hbinary

/-! ## Nodes -/

/-- An array is read where each of its items is, one level further in. -/
theorem exists_of_ofNode?_array {ns : List Node} (h : ofNode? d (.array ns) = some x) :
    ∃ d' xs, d = d' + 1 ∧ x = .array xs ∧ ∀ y ∈ xs, ∃ n, ofNode? d' n = some y := by
  cases d with
  | zero =>
    rw [ofNode?] at h
    cases h
  | succ d =>
    rw [ofNode?] at h
    obtain ⟨xs, hxs, rfl⟩ := Option.map_eq_some_iff.1 h
    refine ⟨d, xs, rfl, rfl, fun y hy => ?_⟩
    obtain ⟨n, -, hn⟩ := exists_of_mem_of_mapM_eq_some hxs hy
    exact ⟨n, hn⟩

/-- And an object where each of its members is. -/
theorem exists_of_ofNode?_object {ns : List (Option String × Node)}
    (h : ofNode? d (.object ns) = some x) :
    ∃ d' ms, d = d' + 1 ∧ x = .object (membersOf ms)
      ∧ ∀ m ∈ ms, ∃ n, ofNode? d' n = some m.2 := by
  cases d with
  | zero =>
    rw [ofNode?] at h
    cases h
  | succ d =>
    rw [ofNode?] at h
    obtain ⟨ms, hms, rfl⟩ := Option.map_eq_some_iff.1 h
    refine ⟨d, ms, rfl, rfl, fun m hm => ?_⟩
    obtain ⟨n, -, hn⟩ := exists_of_mem_of_mapM_eq_some hms hm
    obtain ⟨k, -, hn⟩ := Option.bind_eq_some_iff.1 hn
    obtain ⟨y, hy, rfl⟩ := Option.map_eq_some_iff.1 hn
    exact ⟨n.2, hy⟩

/-- **What a node is read as is a value**, and as deep at most as the
reader follows. -/
theorem isValue_of_ofNode? {n : Node} (h : ofNode? d n = some x) :
    x.IsValue ∧ x.depth ≤ d := by
  induction d using Nat.strongRecOn generalizing n x with
  | ind d ih =>
    cases n with
    | null =>
      rw [ofNode?] at h
      obtain rfl := Option.some.inj h
      exact ⟨isValue_of_depth_eq_zero rfl nofun, Nat.zero_le _⟩
    | bool b =>
      rw [ofNode?] at h
      obtain rfl := Option.some.inj h
      exact ⟨isValue_of_depth_eq_zero rfl nofun, Nat.zero_le _⟩
    | string s =>
      rw [ofNode?] at h
      obtain ⟨s, -, rfl⟩ := Option.map_eq_some_iff.1 h
      exact ⟨isValue_of_depth_eq_zero rfl nofun, Nat.zero_le _⟩
    | number l =>
      rw [ofNode?] at h
      obtain ⟨n, hn, rfl⟩ := Option.map_eq_some_iff.1 h
      refine ⟨isValue_of_depth_eq_zero rfl ?_, Nat.zero_le _⟩
      rintro i ⟨⟩
      exact fits_of_numeric? hn
    | array ns =>
      obtain ⟨d, xs, rfl, rfl, hxs⟩ := exists_of_ofNode?_array h
      have hitems : ∀ y ∈ xs, y.IsValue ∧ y.depth ≤ d := by
        intro y hy
        obtain ⟨n, hn⟩ := hxs y hy
        exact ih d (Nat.lt_succ_self d) hn
      refine ⟨isValue_array_iff.2 fun y hy => (hitems y hy).1, ?_⟩
      rw [depth]
      exact Nat.succ_le_succ (depths_le_iff.2 fun y hy => (hitems y hy).2)
    | object ns =>
      obtain ⟨d, ms, rfl, rfl, hms⟩ := exists_of_ofNode?_object h
      have hmembers : ∀ m ∈ membersOf ms, m.2.IsValue ∧ m.2.depth ≤ d := by
        intro m hm
        obtain ⟨n, hn⟩ := hms m (mem_of_mem_membersOf hm)
        exact ih d (Nat.lt_succ_self d) hn
      refine ⟨isValue_object_iff.2 ⟨isOrdered_membersOf ms, fun m hm => (hmembers m hm).1⟩, ?_⟩
      rw [depth]
      exact Nat.succ_le_succ (memberDepths_le_iff.2 fun m hm => (hmembers m hm).2)

/-- **A value is read from its node.** -/
theorem ofNode?_node (hwhole : x.IsWhole) (hvalue : x.IsValue) (hdepth : x.depth ≤ d) :
    ofNode? d x.node = some x := by
  induction d using Nat.strongRecOn generalizing x with
  | ind d ih =>
    cases x with
    | null => rw [node, ofNode?]
    | bool b => rw [node, ofNode?]
    | number n =>
      cases n with
      | binary b => exact absurd .refl (hwhole b)
      | integer n =>
        obtain ⟨hmin, hmax⟩ := hvalue.fits n .refl
        rw [node, ofNode?, numeric?_lexeme hmin hmax, Option.map_some]
    | string s => rw [node, ofNode?, Option.map_some]
    | array xs =>
      rw [depth] at hdepth
      obtain ⟨d, rfl⟩ : ∃ d', d = d' + 1 := ⟨d - 1, by omega⟩
      have hitems := depths_le_iff.1 (Nat.le_of_succ_le_succ hdepth)
      have hread : (nodes xs).mapM (ofNode? d) = some xs := by
        rw [nodes_eq_map]
        exact mapM_map_eq_some fun x hx => ih d (Nat.lt_succ_self d) (hwhole.item hx)
          (isValue_array_iff.1 hvalue x hx) (hitems x hx)
      rw [node, ofNode?, hread, Option.map_some]
    | object ms =>
      rw [depth] at hdepth
      obtain ⟨d, rfl⟩ : ∃ d', d = d' + 1 := ⟨d - 1, by omega⟩
      have hmembers := memberDepths_le_iff.1 (Nat.le_of_succ_le_succ hdepth)
      obtain ⟨hordered, hvalues⟩ := isValue_object_iff.1 hvalue
      rw [node, ofNode?, memberNodes_eq_map, mapM_map_eq_some, Option.map_some,
        hordered.membersOf_eq]
      intro m hm
      rw [Option.bind_some, ih d (Nat.lt_succ_self d) (hwhole.member hm) (hvalues m hm)
        (hmembers m hm), Option.map_some]

end Json

end CredentialRotation
