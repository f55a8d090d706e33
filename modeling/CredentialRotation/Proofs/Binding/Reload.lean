import CredentialRotation.Binding.Ledger
import CredentialRotation.Document.Json
import CredentialRotation.Proofs.Json.Printing
import CredentialRotation.Proofs.Result
import CredentialRotation.Proofs.Time.Written

/-!
# Bindings of record across a restart

Bindings are kept as JSON between passes. What is read back from the text
is the list that was written, to the nanosecond and to the last character
of every id (`reload_spec`), and so a ledger settles the one as it settles
the other. The reading of a text knows nothing of bindings, and that of a
node knows nothing of texts; they meet in the node of each binding.
-/

namespace CredentialRotation

namespace Binding

/-- How a binding stands in a document. -/
def written (b : Binding) : Json.Node :=
  .object [(some "id", .string (some b.id)), (some "isActive", .bool b.isActive),
    (some "createdAt", .string (some b.createdAt.text)),
    (some "expiresAt", .string (some b.expiresAt.text))]

theorem node_allToJson (bs : List Binding) : (allToJson bs).node = .array (bs.map written) := by
  rw [allToJson, Json.node, Json.nodes_eq_map, List.map_map]
  rfl

/-- Nothing in a binding is a number. -/
theorem isWhole_allToJson (bs : List Binding) : (allToJson bs).IsWhole := by
  intro n hn
  obtain _ | ⟨hx, hn⟩ := hn
  obtain ⟨b, -, rfl⟩ := List.mem_map.1 hx
  obtain _ | _ | ⟨hm, hn⟩ := hn
  simp only [List.mem_cons, Prod.mk.injEq, List.not_mem_nil, or_false] at hm
  rcases hm with ⟨-, rfl⟩ | ⟨-, rfl⟩ | ⟨-, rfl⟩ | ⟨-, rfl⟩ <;> cases hn

theorem instant?_text (t : Instant) :
    Readable.instant? (Json.Node.string (some t.text)) = some t := by
  have htext : Readable.text? (Json.Node.string (some t.text)) = some t.text := rfl
  rw [Readable.instant?, htext, Option.bind_some, Instant.ofText?_text]

/-- **A binding is read from its record.** -/
theorem read?_written (b : Binding) : read? b.written = some b := by
  obtain ⟨r, hopen, hid, hactive, hcreated, hexpires⟩ :
      ∃ r, Record.open? ["id", "isActive", "createdAt", "expiresAt"] b.written = some r
        ∧ r.field? "id" = some (.string (some b.id))
        ∧ r.field? "isActive" = some (.bool b.isActive)
        ∧ r.field? "createdAt" = some (.string (some b.createdAt.text))
        ∧ r.field? "expiresAt" = some (.string (some b.expiresAt.text)) :=
    ⟨_, rfl, rfl, rfl, rfl, rfl⟩
  have htext : Readable.text? (Json.Node.string (some b.id)) = some b.id := rfl
  have hflag : Readable.flag? (Json.Node.bool b.isActive) = some b.isActive := rfl
  rw [read?, hopen]
  simp only [Option.bind_eq_bind, Option.bind_some, Record.required?, hid, hactive, hcreated,
    hexpires, htext, hflag, instant?_text]

theorem readAll?_map_written (bs : List Binding) :
    readAll? (Json.Node.array (bs.map written)) = some bs :=
  mapM_map_eq_some fun b _ => read?_written b

/-- **What is written is read back**: the text of bindings spells one
record for each, the list in the text is the list it was made from, and
any ledger settles it to the same outcome. -/
theorem reload_spec (bs : List Binding) :
    ∃ x, Json.Node.ofText? (allToJson bs).text = some x ∧ x = .array (bs.map written)
      ∧ readAll? x = some bs
      ∧ ∀ (l : Ledger) ids now, (readAll? x).map (l.reconcile · ids now)
        = some (l.reconcile bs ids now) := by
  have hread := Json.Node.ofText?_text (isWhole_allToJson bs)
  rw [node_allToJson] at hread
  refine ⟨_, hread, rfl, readAll?_map_written bs, fun l ids now => ?_⟩
  rw [readAll?_map_written, Option.map_some]

end Binding

end CredentialRotation
