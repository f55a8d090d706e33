import CredentialRotation.Failure
import CredentialRotation.Web.Message

/-!
# The callback listener

A provider ends its part of a login by sending whoever asked on to a
listener of ours, with the outcome in the query. The listener hands the
first outcome it can read to the login and answers all others as well,
but drops them.
-/

namespace CredentialRotation

/-- The outcome that a provider reports. -/
structure Callback where
  code : Option String := none
  state : Option String := none
  error : Option String := none
  errorDescription : Option String := none
deriving DecidableEq, Repr

namespace Callback

/-- The names in a query that count. -/
def fields : List String := ["code", "state", "error", "error_description"]

/-- The value of a name in pairs. -/
def value? (pairs : List (String × String)) (name : String) : Option String :=
  (pairs.find? (·.1 = name)).map (·.2)

/-- The first name that counts and was seen before. -/
def repeated? (seen : List String) : List String → Option String
  | [] => none
  | name :: names =>
    if name ∉ fields then repeated? seen names
    else if name ∈ seen then some name
    else repeated? (name :: seen) names

/-- The outcome in pairs. A name that counts may come only once; the
fault is the name that does not. -/
def ofPairs (pairs : List (String × String)) : Except String Callback :=
  match repeated? [] (pairs.map (·.1)) with
  | some name => .error name
  | none =>
    let value := value? pairs
    .ok { code := value "code", state := value "state", error := value "error",
          errorDescription := value "error_description" }

/-- The outcome in a query. -/
def ofQuery (query : String) : Except String Callback :=
  ofPairs (Form.decode (Bytes.ofString query))

end Callback

/-- A request that reaches a listener, its target taken apart. -/
structure Arrival where
  method : Method
  path : String
  query : String
deriving DecidableEq, Repr

/-- The page that a listener answers with. -/
structure Page where
  status : Nat
  body : String := ""
deriving DecidableEq, Repr

/-- A listener: whether it still serves, and the outcome that waits to be
taken. -/
structure Listener where
  serving : Bool := true
  waiting : Option Callback := none
deriving DecidableEq, Repr

namespace Listener

/-- The page for an outcome. -/
def page (c : Callback) : Page :=
  if c.error.isSome then
    ⟨200, "<html><body>Authorization failed. You may close this window.</body></html>"⟩
  else ⟨200, "<html><body>Authenticated. You may close this window.</body></html>"⟩

/-- The page for a query that cannot be read. -/
def unreadable (name : String) : Page :=
  ⟨400, "Failed to deserialize query string: duplicate field \x60" ++ name ++ "\x60"⟩

/-- The outcome that a request brings, or the page that it is refused
with. -/
def outcome (a : Arrival) : Except Page Callback :=
  if a.path ≠ "/" then .error ⟨404, ""⟩
  else if a.method = .get ∨ a.method = .head then
    match Callback.ofQuery a.query with
    | .ok c => .ok c
    | .error name => .error (unreadable name)
  else .error ⟨405, ""⟩

/-- The page as it is sent: without its body where only its head was
asked for. -/
def sent (a : Arrival) (p : Page) : Page :=
  if a.method = .head then { p with body := "" } else p

/-- A request at a listener that serves: the page it gets, and the
listener after it. -/
def receive (l : Listener) (a : Arrival) : Page × Listener :=
  match outcome a with
  | .error p => (sent a p, l)
  | .ok c => (sent a (page c), { l with waiting := l.waiting.or (some c) })

/-- The outcome that waits, taken. -/
def take (l : Listener) : Option Callback × Listener :=
  (l.waiting, { l with waiting := none })

end Listener

end CredentialRotation
