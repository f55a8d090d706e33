import CredentialRotation.Document.Time

/-!
# When to rotate

A credential is renewed in the last third of its life, so that a failure
leaves time to try again. `rotationWindow` is that third, and
`RotationStatus` is what is published about a credential: its dates in
whole seconds, and the window where there is one. A life that ends
before it begins has none.
-/

namespace CredentialRotation

/-- The length of the last third of a life. -/
def rotationWindow (issuedAt expiresAt : Instant) : Span :=
  (expiresAt.since issuedAt).third

/-- How the time of a rotation is chosen. -/
inductive RotationStrategy
  | dynamic
deriving DecidableEq, Repr

/-- The name of a strategy. -/
def RotationStrategy.name : RotationStrategy → String
  | .dynamic => "Dynamic"

/-- The strategy of a name. -/
def RotationStrategy.ofName? (s : String) : Option RotationStrategy :=
  if s = RotationStrategy.dynamic.name then some .dynamic else none

/-- What is known about the rotation of a credential. -/
structure RotationStatus where
  issuer : Option String := none
  issuedAt : Option Instant := none
  expiresAt : Option Instant := none
  rotationNotBefore : Option Instant := none
  rotationDuration : Option Span := none
  strategy : RotationStrategy := .dynamic
deriving DecidableEq

namespace RotationStatus

/-- The status of a life, its window included if it has one. -/
def ofLife (issuer : Option String) (issuedAt expiresAt : Instant) : RotationStatus :=
  let window := rotationWindow issuedAt expiresAt
  let base : RotationStatus :=
    { issuer := issuer, issuedAt := some issuedAt, expiresAt := some expiresAt }
  if window.isPositive then
    { base with rotationDuration := some window, rotationNotBefore := expiresAt.sub? window }
  else base

/-- The status of a credential with the dates that are known. -/
def derive (issuer : Option String) (issuedAt expiresAt : Option Instant) : RotationStatus :=
  match issuedAt.map Instant.floorSecond, expiresAt.map Instant.floorSecond with
  | some issued, some expires => ofLife issuer issued expires
  | issued, expires => { issuer := issuer, issuedAt := issued, expiresAt := expires }

/-! ## In documents -/

/-- The status at a node of a document. -/
def read? {α : Type} [Readable α] (x : α) : Option RotationStatus := do
  let r ← Record.open? ["issuer", "issuedAt", "expiresAt", "rotationNotBefore",
    "rotationDuration", "rotationStrategy"] x
  let issuer ← r.optional? "issuer" Readable.text?
  let issuedAt ← r.optional? "issuedAt" Readable.instant?
  let expiresAt ← r.optional? "expiresAt" Readable.instant?
  let rotationNotBefore ← r.optional? "rotationNotBefore" Readable.instant?
  let rotationDuration ← r.optionalWithDefault? "rotationDuration" Readable.span?
  let strategy ← r.withDefault? "rotationStrategy" .dynamic fun x =>
    (Readable.choice? x).bind RotationStrategy.ofName?
  some { issuer, issuedAt, expiresAt, rotationNotBefore, rotationDuration, strategy }

/-- A member that is left out where there is no value. -/
def present {α : Type} (name : String) (write : α → Json) (x : Option α) :
    List (String × Json) :=
  (x.map fun x => (name, write x)).toList

/-- A status as it is written, without the fields that are not known. -/
def toJson (s : RotationStatus) : Json :=
  .object (present "issuer" .string s.issuer ++ present "issuedAt" .ofInstant s.issuedAt
    ++ present "expiresAt" .ofInstant s.expiresAt
    ++ present "rotationNotBefore" .ofInstant s.rotationNotBefore
    ++ present "rotationDuration" .ofSpan s.rotationDuration
    ++ [("rotationStrategy", .string s.strategy.name)])

end RotationStatus

end CredentialRotation
