import CredentialRotation.Document.Record
import CredentialRotation.Json.Value
import CredentialRotation.Trace.Filter

/-!
# Logging

What is logged and how, and the start of logging, which happens once in a
process.
-/

namespace CredentialRotation

/-- The shape of log lines. -/
inductive LogFormat
  | pretty
  | json
deriving DecidableEq, Repr

namespace LogFormat

/-- The name of a shape. -/
def name : LogFormat → String
  | .pretty => "pretty"
  | .json => "json"

/-- The shape of a name. -/
def ofName? (s : String) : Option LogFormat :=
  [pretty, json].find? (·.name = s)

end LogFormat

/-- The settings of logging. -/
structure LoggingConfig where
  filter : String := "info"
  format : LogFormat := .pretty
  withTarget : Bool := true
deriving DecidableEq, Repr

/-- Why logging does not start: its filter is none, or it has started
already. -/
inductive LoggingError
  | filter
  | started
deriving DecidableEq, Repr

namespace LoggingConfig

/-- The settings at a node of a document. -/
def read? {α : Type} [Readable α] (x : α) : Option LoggingConfig := do
  let base : LoggingConfig := {}
  let r ← Record.open? ["filter", "format", "with_target"] x
  let filter ← r.withDefault? "filter" base.filter Readable.text?
  let format ← r.withDefault? "format" base.format fun x =>
    (Readable.choice? x).bind LogFormat.ofName?
  let withTarget ← r.withDefault? "with_target" base.withTarget Readable.flag?
  some { filter, format, withTarget }

/-- Settings as they are written. -/
def toJson (c : LoggingConfig) : Json :=
  .object [("filter", .string c.filter), ("format", .string c.format.name),
    ("with_target", .bool c.withTarget)]

/-- The start of logging in a process in which it has started or not. -/
def start (c : LoggingConfig) (started : Bool) : Except LoggingError Unit :=
  if !Trace.isFilter c.filter then .error .filter
  else if started then .error .started
  else .ok ()

end LoggingConfig

end CredentialRotation
