import CredentialRotation.Token.Compact
import CredentialRotation.Proofs.Json.Values
import CredentialRotation.Proofs.Text.Base64

/-!
# Tokens from their parts

A token is put together from the octets of its header and its payload,
each in base64, and any text without a dot for the signature. No digit of
base64 is a dot, so the dots of the token are the two between its parts
(`parts?_compact`), and the claims are the members of the object whose
text the payload is (`claims_compact`).
-/

namespace CredentialRotation

namespace Json

/-- Neither an array nor an object. -/
def IsPlain : Json → Prop
  | .array _ => False
  | .object _ => False
  | _ => True

/-- No array and no object that something stands in. -/
def IsUnfilled : Json → Prop
  | .array xs => xs = []
  | .object ms => ms = []
  | _ => True

end Json

namespace Token

variable {c : Char} {front back : List Char} {header payload : Bytes} {signature name : String}
  {x : Json} {ms : List (String × Json)}

/-- The token of a header, a payload and a signature. -/
def compact (header payload : Bytes) (signature : String) : String :=
  String.ofList (Base64.encode Base64.urlSafe header ++ '.' :: Base64.encode Base64.urlSafe payload
    ++ '.' :: signature.toList)

/-- A header that a token may have. -/
def AcceptsHeader (header : Bytes) : Prop :=
  ∃ s, header.text? = some s ∧ (Json.Node.ofText? s).bind header? = some ()

/-! ## Parts -/

theorem cutLast?_of_not_mem (h : c ∉ front) : cutLast? c front = none := by
  induction front with
  | nil => rfl
  | cons d front ih =>
    rw [List.mem_cons, not_or] at h
    rw [cutLast?, ih h.2]
    exact if_neg (Ne.symm h.1)

/-- What has no mark in it stands after the last one. -/
theorem cutLast?_append (h : c ∉ back) : cutLast? c (front ++ c :: back) = some (front, back) := by
  induction front with
  | nil =>
    rw [List.nil_append, cutLast?, cutLast?_of_not_mem h]
    exact if_pos rfl
  | cons d front ih => rw [List.cons_append, cutLast?, ih]

/-- No digit is a dot. -/
theorem not_mem_encode (bs : Bytes) : '.' ∉ Base64.encode Base64.urlSafe bs := by
  have hdigit : ∀ n < 64, Base64.urlSafe.digit n ≠ '.' := by decide +kernel
  intro hmem
  obtain ⟨n, hn, heq⟩ := Base64.exists_digit_of_mem_encode rfl hmem
  exact hdigit n hn heq

theorem parts?_compact (h : '.' ∉ signature.toList) :
    parts? (compact header payload signature).toList
      = some (Base64.encode Base64.urlSafe header, Base64.encode Base64.urlSafe payload) := by
  rw [compact, String.toList_ofList, parts?, cutLast?_append h]
  exact cutLast?_append (not_mem_encode payload)

/-! ## Payloads -/

theorem named_memberNodes (name : String) (ms : List (String × Json)) :
    named name (Json.memberNodes ms) = (ms.filter (·.1 = name)).map (·.2.node) := by
  rw [named, Json.memberNodes_eq_map, List.filter_map, List.map_map]
  simp only [Function.comp_def, Option.some.injEq]

theorem all_named_memberNodes {test : Json.Node → Bool}
    (h : ∀ x, (name, x) ∈ ms → test x.node = true) :
    (named name (Json.memberNodes ms)).all test = true := by
  rw [named_memberNodes, List.all_eq_true]
  intro n hn
  obtain ⟨⟨k, x⟩, hm, rfl⟩ := List.mem_map.1 hn
  obtain ⟨hmem, hname⟩ := List.mem_filter.1 hm
  obtain rfl : k = name := of_decide_eq_true hname
  exact h x hmem

/-- Members in order have a name once at most. -/
theorem length_named_le (h : Json.IsOrdered ms) :
    (named name (Json.memberNodes ms)).length ≤ 1 := by
  rw [named_memberNodes, List.length_map]
  have hpair := h.filter (fun m => m.1 = name)
  have hname : ∀ m ∈ ms.filter (·.1 = name), m.1 = name := fun m hm =>
    of_decide_eq_true (List.mem_filter.1 hm).2
  generalize ms.filter (·.1 = name) = found at hpair hname ⊢
  match found with
  | [] => exact Nat.zero_le _
  | [_] => exact Nat.le_refl _
  | m :: m' :: rest =>
    have hlt := (List.pairwise_cons.1 hpair).1 m' List.mem_cons_self
    rw [hname m List.mem_cons_self, hname m' (List.mem_cons_of_mem _ List.mem_cons_self)] at hlt
    exact absurd hlt (lt_irrefl _)

theorem suitsText_node (h : x.IsPlain) : suitsText x.node = true := by
  cases x with
  | array | object => exact h.elim
  | number n => cases n <;> rfl
  | _ => rfl

theorem suitsDate_node (h : x.IsUnfilled) : suitsDate x.node = true := by
  cases x with
  | array xs =>
    obtain rfl : xs = [] := h
    rfl
  | object ms =>
    obtain rfl : ms = [] := h
    rfl
  | number n => cases n <;> rfl
  | _ => rfl

/-- **The claims in the text of an object** are its members. -/
theorem claims?_text (hwhole : (Json.object ms).IsWhole) (hvalue : (Json.object ms).IsValue)
    (hdepth : (Json.object ms).depth ≤ Json.maxDepth)
    (hsub : ∀ x, ("sub", x) ∈ ms → x.IsPlain) (hexp : ∀ x, ("exp", x) ∈ ms → x.IsUnfilled)
    (hnbf : ∀ x, ("nbf", x) ∈ ms → x.IsUnfilled) :
    claims? (Bytes.ofString (Json.object ms).text) = some ⟨ms⟩ := by
  have hordered : Json.IsOrdered ms := (Json.isValue_object_iff.1 hvalue).1
  have honce : standardClaims.all
      (fun name => decide ((named name (Json.memberNodes ms)).length ≤ 1)) = true :=
    List.all_eq_true.2 fun name _ => decide_eq_true (length_named_le hordered)
  have hsuits : suits (Json.memberNodes ms) = true := by
    rw [suits, honce, all_named_memberNodes fun x hx => suitsDate_node (hexp x hx),
      all_named_memberNodes fun x hx => suitsDate_node (hnbf x hx),
      all_named_memberNodes fun x hx => suitsText_node (hsub x hx)]
    rfl
  have hread := Json.ofNode?_node hwhole hvalue hdepth
  rw [claims?, Json.Node.ofBytes?_text hwhole]
  simp only [Option.bind_eq_bind, Option.bind_some, hread]
  rw [Json.node]
  exact if_pos hsuits

/-! ## Tokens -/

/-- **Reading a token undoes its writing.** -/
theorem claims_compact (hheader : AcceptsHeader header) (hsignature : '.' ∉ signature.toList)
    (hwhole : (Json.object ms).IsWhole) (hvalue : (Json.object ms).IsValue)
    (hdepth : (Json.object ms).depth ≤ Json.maxDepth)
    (hsub : ∀ x, ("sub", x) ∈ ms → x.IsPlain) (hexp : ∀ x, ("exp", x) ∈ ms → x.IsUnfilled)
    (hnbf : ∀ x, ("nbf", x) ∈ ms → x.IsUnfilled) :
    ∃ c, claims (compact header (Bytes.ofString (Json.object ms).text) signature) = .ok c
      ∧ c.members = ms ∧ ∀ name x, c.get name = some x ↔ (name, x) ∈ ms := by
  have hordered : Json.IsOrdered ms := (Json.isValue_object_iff.1 hvalue).1
  obtain ⟨s, htext, hread⟩ := hheader
  refine ⟨⟨ms⟩, ?_, rfl, fun name x => hordered.member?_eq_some_iff⟩
  simp only [claims, parts?_compact hsignature, Base64.decode?_encode Base64.isSound_urlSafe,
    htext, hread, claims?_text hwhole hvalue hdepth hsub hexp hnbf]

/-- At work: the payload is `{"exp":3000,"groups":["\"é",null]}`. -/
theorem claims_compact_groups :
    let ms : List (String × Json) :=
      [("exp", .number (.integer 3000)), ("groups", .array [.string "\"é", .null])]
    let token := compact (Bytes.ofString "\x7b\"alg\":\"HS256\"\x7d")
      (Bytes.ofString (Json.object ms).text) "c2ln"
    token = "eyJhbGciOiJIUzI1NiJ9.eyJleHAiOjMwMDAsImdyb3VwcyI6WyJcIsOpIixudWxsXX0.c2ln"
      ∧ ∃ c, claims token = .ok c ∧ c.members = ms
        ∧ ∀ name x, c.get name = some x ↔ (name, x) ∈ ms := by
  intro ms token
  have hmembers : ∀ name x, (name, x) ∈ ms →
      (name = "exp" ∧ x = .number (.integer 3000))
        ∨ (name = "groups" ∧ x = .array [.string "\"é", .null]) := by
    intro name x hx
    simpa [ms] using hx
  have hwhole : (Json.object ms).IsWhole := by
    rintro b (_ | _ | ⟨hm, hb⟩)
    rcases hmembers _ _ hm with ⟨rfl, rfl⟩ | ⟨rfl, rfl⟩
    · cases hb
    · obtain _ | ⟨hx, hb⟩ := hb
      rcases List.mem_pair.1 hx with rfl | rfl <;> cases hb
  -- what a reader makes of a node is a value
  have hvalue := Json.isValue_of_ofNode?
    (show Json.ofNode? Json.maxDepth (Json.object ms).node = some (.object ms) from rfl)
  refine ⟨by decide +kernel, claims_compact ⟨_, Bytes.text?_ofString _, by decide +kernel⟩
    (by decide) hwhole hvalue.1 hvalue.2 ?_ ?_ ?_⟩
  · intro x hx
    rcases hmembers _ _ hx with ⟨h, -⟩ | ⟨h, -⟩ <;> exact absurd h (by decide)
  · intro x hx
    rcases hmembers _ _ hx with ⟨-, rfl⟩ | ⟨h, -⟩
    · trivial
    · exact absurd h (by decide)
  · intro x hx
    rcases hmembers _ _ hx with ⟨h, -⟩ | ⟨h, -⟩ <;> exact absurd h (by decide)

end Token

end CredentialRotation
