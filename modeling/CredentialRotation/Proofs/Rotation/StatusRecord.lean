import CredentialRotation.Proofs.Json.Fields
import CredentialRotation.Proofs.Json.Numbers
import CredentialRotation.Proofs.Rotation.Derived
import CredentialRotation.Proofs.Time.Written

/-!
# Statuses of record

A status is kept as a record of the fields that have a value. Instants are
kept to the nanosecond; a window that is a third of a life need not be whole
seconds, and is kept without the fraction (`derived_read_back`). What is
read is what is read from any status that is kept (`read?_text`): how a
status was derived decides only which fields have a value, and there the
window and the instant it opens go together, in leap seconds too
(`isSome_opens`).
-/

namespace CredentialRotation

open Readable

namespace Instant

variable {issued expires : Instant}

/-- The leap second that a difference counts is the one it starts in. -/
theorem leapBetween_le : leapBetween expires issued * nanosPerSecond ≤ issued.nanos := by
  unfold leapBetween
  split
  · next h =>
    have hleap : 1000000000 ≤ issued.nanos := of_decide_eq_true h.2
    simp only [nanosPerSecond]
    omega
  · split <;> simp only [nanosPerSecond] <;> omega

/-- A window is no longer than the calendar is before its end. -/
theorem exists_sub?_rotationWindow (h : (rotationWindow issued expires).isPositive = true) :
    ∃ opens, expires.sub? (rotationWindow issued expires) = some opens := by
  have hpos : 0 < (rotationWindow issued expires).nanos := of_decide_eq_true h
  have hlife := Span.isPositive_third_iff.1 h
  have hthird : 3 * (rotationWindow issued expires).nanos ≤ (expires.since issued).nanos :=
    Span.three_mul_third_le (by omega)
  have hsince : (expires.since issued).nanos ≤ expires.total - issued.secs * nanosPerSecond := by
    have hleap : leapBetween expires issued * nanosPerSecond ≤ issued.nanos := leapBetween_le
    simp only [since, total, nanosPerSecond] at hleap ⊢
    omega
  have hfirst := issued.secs_ge
  refine exists_sub? (Int.le_of_lt hpos) ?_
  simp only [firstTotal, nanosPerSecond] at hsince ⊢
  omega

end Instant

theorem RotationStrategy.ofName?_name (x : RotationStrategy) : ofName? x.name = some x := by
  cases x
  exact if_pos rfl

namespace RotationStatus

variable {s : RotationStatus} {issuer : Option String} {issuedAt expiresAt : Option Instant}

/-! ## What is written -/

/-- The fields of a status, each as it is written if it has a value. -/
def fields (s : RotationStatus) : List (String × Option Json) :=
  [("issuer", s.issuer.map .string), ("issuedAt", s.issuedAt.map .ofInstant),
    ("expiresAt", s.expiresAt.map .ofInstant),
    ("rotationNotBefore", s.rotationNotBefore.map .ofInstant),
    ("rotationDuration", s.rotationDuration.map .ofSpan),
    ("rotationStrategy", some (.string s.strategy.name))]

/-- The names of the fields that have a value. -/
def known (s : RotationStatus) : List String :=
  ([("issuer", s.issuer.isSome), ("issuedAt", s.issuedAt.isSome),
    ("expiresAt", s.expiresAt.isSome), ("rotationNotBefore", s.rotationNotBefore.isSome),
    ("rotationDuration", s.rotationDuration.isSome), ("rotationStrategy", true)].filter
      (·.2)).map (·.1)

theorem toJson_eq (s : RotationStatus) : s.toJson = .object (Record.written s.fields) := by
  simp [toJson, present, fields, Record.written, Option.map_map, Function.comp_def]

/-- What is written are the fields that have a value. -/
theorem map_fst_written_fields (s : RotationStatus) :
    (Record.written s.fields).map (·.1) = s.known := by
  have hknown : s.known = ((s.fields.map fun f => (f.1, f.2.isSome)).filter (·.2)).map (·.1) := by
    simp only [known, fields, List.map_cons, List.map_nil, Option.isSome_map, Option.isSome_some]
  rw [hknown, Record.map_fst_written, List.filter_map, List.map_map]
  rfl

/-- What is written is a text or an integer. -/
theorem exists_of_mem_written {m : String × Json} (hm : m ∈ Record.written s.fields) :
    (∃ t, m.2 = .string t) ∨ ∃ n, m.2 = .ofInt n := by
  obtain ⟨f, hf, hm⟩ := List.mem_flatMap.1 hm
  obtain ⟨x, hx, rfl⟩ := Option.map_eq_some_iff.1 (Option.mem_toList.1 hm)
  have hvalue {β : Type} {v : Option β} {write : β → Json} (hv : v.map write = some x)
      (hwrite : ∀ b, (∃ t, write b = .string t) ∨ ∃ n, write b = .ofInt n) :
      (∃ t, x = .string t) ∨ ∃ n, x = .ofInt n := by
    obtain ⟨b, -, rfl⟩ := Option.map_eq_some_iff.1 hv
    exact hwrite b
  simp only [fields, List.mem_cons, List.not_mem_nil, or_false] at hf
  rcases hf with rfl | rfl | rfl | rfl | rfl | rfl
  · exact hvalue hx fun i => .inl ⟨i, rfl⟩
  · exact hvalue hx fun t => .inl ⟨t.text, rfl⟩
  · exact hvalue hx fun t => .inl ⟨t.text, rfl⟩
  · exact hvalue hx fun t => .inl ⟨t.text, rfl⟩
  · exact hvalue hx fun d => .inr ⟨d.wholeSeconds, rfl⟩
  · exact .inl ⟨s.strategy.name, (Option.some.inj hx).symm⟩

theorem isWhole_toJson (s : RotationStatus) : s.toJson.IsWhole := by
  rw [toJson_eq]
  refine Json.isWhole_object fun m hm => ?_
  obtain ⟨t, ht⟩ | ⟨n, hn⟩ := exists_of_mem_written hm
  · rw [ht]
    exact Json.isWhole_string t
  · rw [hn]
    exact Json.isWhole_ofInt n

theorem ne_null_of_mem_written {m : String × Json} (hm : m ∈ Record.written s.fields) :
    m.2 ≠ .null := by
  obtain ⟨t, ht⟩ | ⟨n, hn⟩ := exists_of_mem_written hm
  · rw [ht]
    nofun
  · rw [hn]
    nofun

/-! ## What is read -/

theorem optionOf?_ofInstant (t : Instant) :
    optionOf? instant? (Json.ofInstant t).node = some (some t) :=
  Json.Node.optionOf?_eq_some (Json.Node.instant?_eq_some_iff.2 ⟨_, rfl, t.ofText?_text⟩) nofun

theorem optionOf?_ofSpan (d : Span) :
    optionOf? span? (Json.ofSpan d).node = some (some d.cut) :=
  Json.Node.optionOf?_eq_some (Json.span?_lexeme.2 rfl) nofun

/-- A status without the fraction of a second of its window. -/
def cut (s : RotationStatus) : RotationStatus :=
  { s with rotationDuration := s.rotationDuration.map Span.cut }

/-- **A status is read from its record** without the fraction of its
window. -/
theorem read?_node (s : RotationStatus) : read? s.toJson.node = some s.cut := by
  let r : Record Json.Node := ⟨s.fields.map fun f => (f.1, f.2.map Json.node), false⟩
  have hopen : Record.open? ["issuer", "issuedAt", "expiresAt", "rotationNotBefore",
      "rotationDuration", "rotationStrategy"] s.toJson.node = some r := by
    have hnode : s.toJson.node
        = .object ((Record.written r.fields).map fun m => (some m.1, m.2)) := by
      rw [toJson_eq, Json.node, Json.memberNodes_eq_map, ← Record.map_written, List.map_map]
      rfl
    rw [hnode]
    exact Record.open?_written r.fields rfl (by decide)
  have hissuer : r.optional? "issuer" text? = some s.issuer :=
    Record.optional?_of_field? rfl (Option.map_map Json.node Json.string s.issuer) fun _ => rfl
  have hissuedAt : r.optional? "issuedAt" instant? = some s.issuedAt :=
    Record.optional?_of_field? rfl (Option.map_map Json.node Json.ofInstant s.issuedAt)
      optionOf?_ofInstant
  have hexpiresAt : r.optional? "expiresAt" instant? = some s.expiresAt :=
    Record.optional?_of_field? rfl (Option.map_map Json.node Json.ofInstant s.expiresAt)
      optionOf?_ofInstant
  have hnotBefore : r.optional? "rotationNotBefore" instant? = some s.rotationNotBefore :=
    Record.optional?_of_field? rfl (Option.map_map Json.node Json.ofInstant s.rotationNotBefore)
      optionOf?_ofInstant
  have hduration : r.optionalWithDefault? "rotationDuration" span?
      = some (s.rotationDuration.map Span.cut) :=
    Record.optionalWithDefault?_of_field?
      (Option.map_map Json.node Json.ofSpan s.rotationDuration) optionOf?_ofSpan
  have hstrategy : r.withDefault? "rotationStrategy" .dynamic
      (fun x => (choice? x).bind RotationStrategy.ofName?) = some s.strategy :=
    RotationStrategy.ofName?_name s.strategy
  rw [read?, hopen]
  simp only [Option.bind_eq_bind, Option.bind_some, hissuer, hissuedAt, hexpiresAt, hnotBefore,
    hduration, hstrategy]
  rfl

/-- And so from its text. -/
theorem read?_text (s : RotationStatus) :
    (Json.Node.ofText? s.toJson.text).bind read? = some s.cut := by
  rw [Json.Node.ofText?_text s.isWhole_toJson, Option.bind_some, read?_node]

theorem cut_eq_self_iff :
    s.cut = s ↔ ∀ d, s.rotationDuration = some d → nanosPerSecond ∣ d.nanos := by
  rcases s with ⟨issuer, issuedAt, expiresAt, opens, _ | d, strategy⟩
  · simp [cut]
  · simp [cut, Span.cut_eq_self_iff]

theorem cut_cut (s : RotationStatus) : s.cut.cut = s.cut := by
  rw [cut_eq_self_iff]
  intro d hd
  obtain ⟨d, -, rfl⟩ := Option.map_eq_some_iff.1 hd
  exact d.isCut_cut.whole

/-- The fields that have a value still have one, and no others. -/
theorem known_cut (s : RotationStatus) : s.cut.known = s.known := by
  simp only [known, cut, Option.isSome_map]

/-! ## What is derived -/

/-- A window is published with the instant it opens, whatever the dates. -/
theorem isSome_opens : (derive issuer issuedAt expiresAt).rotationNotBefore.isSome =
    (derive issuer issuedAt expiresAt).rotationDuration.isSome := by
  cases hd : (derive issuer issuedAt expiresAt).rotationDuration with
  | none => rw [rotationNotBefore_derive, hd, Option.bind_none, Option.isSome_none,
      Option.isSome_none]
  | some d =>
    obtain ⟨issued, expires, -, hexpires, hpos, rfl⟩ := rotationDuration_derive.1 hd
    obtain ⟨opens, hopens⟩ := Instant.exists_sub?_rotationWindow hpos
    rw [rotationNotBefore_derive, hd, hexpires, Option.bind_some, Option.bind_some, hopens,
      Option.isSome_some, Option.isSome_some]

/-- **What becomes of a derived status that is kept.** Whatever dates it is
derived from, and whether or not they are known, it is read back from its
text with its dates and the opening of its window to the nanosecond, and
with the window without its fraction of a second. That is the status itself
just if the window is whole seconds or there is none, and kept a second
time it does not change. Each record has the fields that have a value, the
same ones both times, and null is the value of none; a window and the
instant it opens are there together. -/
theorem derived_read_back (issuer : Option String) (issuedAt expiresAt : Option Instant) :
    let s := derive issuer issuedAt expiresAt
    ∃ s', (Json.Node.ofText? s.toJson.text).bind read? = some s'
      ∧ (s'.issuer = s.issuer ∧ s'.issuedAt = s.issuedAt ∧ s'.expiresAt = s.expiresAt
        ∧ s'.rotationNotBefore = s.rotationNotBefore ∧ s'.strategy = s.strategy)
      ∧ s'.rotationDuration = s.rotationDuration.map Span.cut
      ∧ (∀ d, s.rotationDuration = some d → d.cut.IsCut d)
      ∧ (s' = s ↔ ∀ d, s.rotationDuration = some d → nanosPerSecond ∣ d.nanos)
      ∧ (Json.Node.ofText? s'.toJson.text).bind read? = some s'
      ∧ (∃ ms ms', s.toJson = .object ms ∧ s'.toJson = .object ms' ∧ ms.map (·.1) = s.known
        ∧ ms'.map (·.1) = s.known ∧ ∀ m ∈ ms ++ ms', m.2 ≠ .null)
      ∧ s.rotationNotBefore.isSome = s.rotationDuration.isSome := by
  intro s
  refine ⟨s.cut, read?_text s, ⟨rfl, rfl, rfl, rfl, rfl⟩, rfl, fun d _ => d.isCut_cut,
    cut_eq_self_iff, ?_, ⟨_, _, s.toJson_eq, s.cut.toJson_eq, s.map_fst_written_fields, ?_, ?_⟩,
    isSome_opens⟩
  · rw [read?_text, cut_cut]
  · rw [map_fst_written_fields, known_cut]
  · intro m hm
    rcases List.mem_append.1 hm with hm | hm
    · exact ne_null_of_mem_written hm
    · exact ne_null_of_mem_written hm

end RotationStatus

end CredentialRotation
