import CredentialRotation.Document.Time
import CredentialRotation.Yaml.Printer

/-!
# Bindings

A binding is a credential that a service has issued: it has an id, an
instant at which it was created and one at which it expires. It is active
until the next one takes its place, and stays usable for the rest of its
life.
-/

namespace CredentialRotation

/-- A credential issued by a service. -/
structure Binding where
  id : String
  isActive : Bool
  createdAt : Instant
  expiresAt : Instant
deriving DecidableEq

namespace Binding

/-- A binding just issued. -/
def issued (id : String) (createdAt expiresAt : Instant) : Binding :=
  ⟨id, true, createdAt, expiresAt⟩

/-- Whether a binding has reached the end of its life. -/
def isExpiredAt (b : Binding) (now : Instant) : Bool := b.expiresAt ≤ now

/-- Whether a binding has been in use for the whole interval. A deadline
past the end of the calendar is never reached. -/
def isRotationDueAt (b : Binding) (now : Instant) (interval : Span) : Bool :=
  match b.createdAt.add? interval with
  | some deadline => deadline ≤ now
  | none => false

/-! ## In documents -/

/-- The binding at a node of a document. -/
def read? {α : Type} [Readable α] (x : α) : Option Binding := do
  let r ← Record.open? ["id", "isActive", "createdAt", "expiresAt"] x
  let id ← r.required? "id" Readable.text?
  let isActive ← r.required? "isActive" Readable.flag?
  let createdAt ← r.required? "createdAt" Readable.instant?
  let expiresAt ← r.required? "expiresAt" Readable.instant?
  some { id, isActive, createdAt, expiresAt }

/-- The bindings at a node of a document. -/
def readAll? {α : Type} [Readable α] (x : α) : Option (List Binding) :=
  Readable.listOf? read? x

/-- A binding as it is written. -/
def toJson (b : Binding) : Json :=
  .object [("id", .string b.id), ("isActive", .bool b.isActive),
    ("createdAt", .ofInstant b.createdAt), ("expiresAt", .ofInstant b.expiresAt)]

/-- Bindings as they are written. -/
def allToJson (bs : List Binding) : Json := .array (bs.map toJson)

/-- A binding as it is written in YAML. -/
def toYaml (b : Binding) : Yaml.Value :=
  .mapping [(.string "id", .string b.id), (.string "isActive", .bool b.isActive),
    (.string "createdAt", .string b.createdAt.text),
    (.string "expiresAt", .string b.expiresAt.text)]

/-- Bindings as they are written in YAML. -/
def allToYaml (bs : List Binding) : Yaml.Value := .sequence (bs.map toYaml)

end Binding

end CredentialRotation
