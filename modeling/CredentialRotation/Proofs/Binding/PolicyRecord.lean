import CredentialRotation.Binding.Policy
import CredentialRotation.Proofs.Json.Fields
import CredentialRotation.Proofs.Json.Numbers

/-!
# Policies of record

A policy is kept as two numbers of seconds. Every policy can be kept and
read again, and what is lost on the way is a fraction of a second of each
span (`read_back_spec`). The numbers may also be written by hand, and then
they may be anything: those that are no span are refused.
-/

namespace CredentialRotation

open Json (lexeme)

namespace RotationPolicy

variable {p q : RotationPolicy} {s t : Int}

/-- The record of a policy of so many seconds. -/
def inSeconds (interval life : Int) : Json :=
  .object [("rotation_interval", .ofInt interval), ("time_to_live", .ofInt life)]

theorem toJson_eq (p : RotationPolicy) :
    p.toJson = inSeconds p.rotationInterval.wholeSeconds p.timeToLive.wholeSeconds := rfl

theorem ofText?_inSeconds : Json.Node.ofText? (inSeconds s t).text =
    some (.object [(some "rotation_interval", .number (lexeme s)),
      (some "time_to_live", .number (lexeme t))]) := by
  refine Json.Node.ofText?_text (Json.isWhole_object ?_)
  simp only [List.forall_mem_cons, Json.isWhole_ofInt, List.not_mem_nil, false_imp_iff,
    implies_true, and_self]

/-- What is read where two numbers of seconds are written: the policy that
has as many, if there is one. -/
theorem read?_inSeconds : (Json.Node.ofText? (inSeconds s t).text).bind read? = some q ↔
    q.rotationInterval.nanos = s * nanosPerSecond
      ∧ q.timeToLive.nanos = t * nanosPerSecond := by
  obtain ⟨r, hopen, hinterval, hlife⟩ :
      ∃ r, Record.open? ["rotation_interval", "time_to_live"]
          (.object [(some "rotation_interval", .number (lexeme s)),
            (some "time_to_live", .number (lexeme t))]) = some r
        ∧ r.field? "rotation_interval" = some (.number (lexeme s))
        ∧ r.field? "time_to_live" = some (Json.Node.number (lexeme t)) :=
    ⟨_, rfl, rfl, rfl⟩
  rw [ofText?_inSeconds, Option.bind_some, read?, hopen]
  simp only [Option.bind_eq_bind, Option.bind_some, Record.withDefault?, hinterval, hlife,
    Option.bind_eq_some_iff, Json.span?_lexeme, Option.some.injEq]
  constructor
  · rintro ⟨interval, hs, life, ht, rfl⟩
    exact ⟨hs, ht⟩
  · rintro ⟨hs, ht⟩
    exact ⟨_, hs, _, ht, rfl⟩

/-- There is one for numbers that are not past the last whole seconds. -/
theorem exists_read?_inSeconds :
    (∃ q, (Json.Node.ofText? (inSeconds s t).text).bind read? = some q) ↔
      (-Span.maxSeconds ≤ s ∧ s ≤ Span.maxSeconds)
        ∧ -Span.maxSeconds ≤ t ∧ t ≤ Span.maxSeconds := by
  simp only [read?_inSeconds, ← Span.exists_ofSeconds?_iff, Span.ofSeconds?_eq_some_iff]
  constructor
  · rintro ⟨q, hs, ht⟩
    exact ⟨⟨_, hs⟩, _, ht⟩
  · rintro ⟨⟨interval, hs⟩, life, ht⟩
    exact ⟨⟨interval, life⟩, hs, ht⟩

/-- What is read where a policy is written: what is left of its spans
without their fractions of a second. -/
theorem read?_text : (Json.Node.ofText? p.toJson.text).bind read? = some q ↔
    q = ⟨p.rotationInterval.cut, p.timeToLive.cut⟩ := by
  rw [toJson_eq, read?_inSeconds, ← Span.ofSeconds?_eq_some_iff, ← Span.ofSeconds?_eq_some_iff,
    Span.ofSeconds?_wholeSeconds, Span.ofSeconds?_wholeSeconds, Option.some.injEq,
    Option.some.injEq, eq_comm (a := p.rotationInterval.cut),
    eq_comm (a := p.timeToLive.cut), ← RotationPolicy.mk.injEq]

/-- **What becomes of a policy that is kept.** Every policy is read back
from its text, each span without its fraction of a second: cut towards
nothing. That is the policy itself just if its spans are whole seconds, and
kept a second time it does not change. Two numbers of seconds, however
large, are read as a policy just if both are between the last whole
seconds, and then it has so many; in no other document is a number of
seconds read as a span that has another. -/
theorem read_back_spec :
    (∀ p : RotationPolicy, ∃ q, (Json.Node.ofText? p.toJson.text).bind read? = some q
        ∧ q.rotationInterval.IsCut p.rotationInterval ∧ q.timeToLive.IsCut p.timeToLive
        ∧ (q = p ↔ nanosPerSecond ∣ p.rotationInterval.nanos
            ∧ nanosPerSecond ∣ p.timeToLive.nanos)
        ∧ (Json.Node.ofText? q.toJson.text).bind read? = some q)
      ∧ (∀ s t : Int,
          ((∃ q, (Json.Node.ofText? (inSeconds s t).text).bind read? = some q) ↔
            (-Span.maxSeconds ≤ s ∧ s ≤ Span.maxSeconds)
              ∧ -Span.maxSeconds ≤ t ∧ t ≤ Span.maxSeconds)
          ∧ ∀ q, (Json.Node.ofText? (inSeconds s t).text).bind read? = some q →
            q.rotationInterval.nanos = s * nanosPerSecond
              ∧ q.timeToLive.nanos = t * nanosPerSecond)
      ∧ ∀ {α : Type} [Readable α] (x : α) (s : Int), Readable.integer? true x = some s →
          ((∃ d, Readable.span? x = some d) ↔ -Span.maxSeconds ≤ s ∧ s ≤ Span.maxSeconds)
          ∧ ∀ d, Readable.span? x = some d → d.nanos = s * nanosPerSecond := by
  refine ⟨fun p => ⟨_, read?_text.2 rfl, p.rotationInterval.isCut_cut, p.timeToLive.isCut_cut,
    ?_, ?_⟩, fun s t => ⟨exists_read?_inSeconds, fun q => read?_inSeconds.1⟩,
    fun x s h => ⟨Readable.exists_span?_iff h, fun d => (Readable.span?_eq_some_iff h).1⟩⟩
  · rw [RotationPolicy.mk.injEq, Span.cut_eq_self_iff, Span.cut_eq_self_iff]
  · rw [read?_text, Span.cut_cut, Span.cut_cut]

end RotationPolicy

end CredentialRotation
