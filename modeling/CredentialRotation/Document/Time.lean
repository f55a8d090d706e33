import CredentialRotation.Document.Record
import CredentialRotation.Json.Value
import CredentialRotation.Time.Rfc3339

/-!
# Times in documents

An instant is a string in the form of RFC 3339, a span an integer number
of seconds. A span loses its fraction of a second on writing.
-/

namespace CredentialRotation

namespace Readable

variable {α : Type} [Readable α]

/-- An instant. -/
def instant? (x : α) : Option Instant :=
  (text? x).bind Instant.ofText?

/-- A span of whole seconds. -/
def span? (x : α) : Option Span :=
  (integer? true x).bind Span.ofSeconds?

end Readable

/-- An instant as it is written. -/
def Json.ofInstant (t : Instant) : Json := .string t.text

/-- A span as it is written. -/
def Json.ofSpan (d : Span) : Json := .ofInt d.wholeSeconds

end CredentialRotation
