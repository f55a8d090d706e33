/-!
# Traces of operations

Every operation is traced by a span with a name, a level and fields that
say what it is about. An attribute that is not known is an empty field.
-/

namespace CredentialRotation

namespace Trace

/-- How important a span is. -/
inductive Level
  | info
  | debug
deriving DecidableEq, Repr

/-- The name of a level. -/
def Level.name : Level → String
  | .info => "INFO"
  | .debug => "DEBUG"

/-- The value of a field. -/
inductive Field
  | text (s : String)
  | number (n : Nat)
  | flag (b : Bool)
deriving DecidableEq, Repr

/-- The trace of an operation. -/
structure Operation where
  name : String
  level : Level
  fields : List (String × Field)
deriving DecidableEq, Repr

/-- What an operation is about. -/
structure Subject where
  issuer : Option String := none
  clientId : Option String := none
  resource : Option String := none
  binding : Option String := none
deriving DecidableEq, Repr

/-- The field of an attribute. -/
def textField (name : String) (value : Option String) : String × Field :=
  (name, .text (value.getD ""))

/-- A login or a refresh. -/
def login (s : Subject) (operation : String) : Operation :=
  ⟨"oidc.login", .info, [("operation", .text operation), textField "oidc.issuer" s.issuer,
    textField "oidc.client_id" s.clientId]⟩

/-- An operation on bindings. -/
def binding (s : Subject) (operation : String) : Operation :=
  ⟨"binding.reconcile", .info, [("operation", .text operation),
    textField "binding.resource_id" s.resource, textField "binding.id" s.binding]⟩

/-- The generation of a kubeconfig. -/
def kubeconfig (userIndex : Nat) (inline : Bool) : Operation :=
  ⟨"kubeconfig.generate", .debug, [("kubeconfig.user_index", .number userIndex),
    ("kubeconfig.inline", .flag inline)]⟩

end Trace

end CredentialRotation
