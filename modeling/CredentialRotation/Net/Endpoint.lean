import CredentialRotation.Failure
import CredentialRotation.Net.Ip

/-!
# Endpoints

An endpoint is an address with a port; one can listen there if the
machine has the address and nobody else listens. `Machine.listen` tries
the places it is given one after the other and takes the first it gets.
-/

namespace CredentialRotation

/-- A port of an address. -/
structure Endpoint where
  ip : Ip
  port : Nat
deriving DecidableEq, Repr

namespace Endpoint

/-- A port: a number of sixteen bits. -/
def port? (cs : List Char) : Option Nat :=
  (Ip.decimal? cs).filter (· < 65536)

/-- An endpoint in text, the long address in brackets. -/
def read? (cs : List Char) : Option Endpoint :=
  match Pieces.cutLast ':' cs with
  | (some host, port) => do
    let port ← port? port
    match host with
    | '[' :: rest =>
      if rest.getLast? = some ']' then (Ip.readV6? rest.dropLast).map (⟨·, port⟩) else none
    | _ => (Ip.readV4? host).map (⟨·, port⟩)
  | _ => none

end Endpoint

/-- What a machine offers to those who want to listen: its addresses, the
endpoints that are taken, and the addresses of names. -/
structure Machine where
  has : Ip → Bool
  taken : List Endpoint
  lookup : String → List Ip

namespace Machine

variable (m : Machine)

/-- The endpoints of a text: one that it spells, or those of the name
that it gives with a port. -/
def endpoints (text : String) : Except IoKind (List Endpoint) :=
  match Endpoint.read? text.toList with
  | some e => .ok [e]
  | none =>
    match Pieces.cutLast ':' text.toList with
    | (none, _) => .error .invalidInput
    | (some name, port) =>
      match Endpoint.port? (if port.head? = some '+' then port.drop 1 else port) with
      | none => .error .invalidInput
      | some port =>
        let found := match Ip.readLoose? name with
          | some ip => [ip]
          | none => m.lookup (String.ofList name)
        if found.isEmpty then .error .uncategorized else .ok (found.map (⟨·, port⟩))

/-- Listen at an endpoint. Port zero stands for any port that is
free. -/
def listenAt (e : Endpoint) : Except IoKind Endpoint :=
  if !m.has e.ip then .error .addrNotAvailable
  else if e.port ≠ 0 ∧ e ∈ m.taken then .error .addrInUse
  else .ok e

/-- The first success of a test, or the last failure, or else `fault`. -/
def firstOf {α β : Type} (fault : IoKind) (test : α → Except IoKind β) : List α → Except IoKind β
  | [] => .error fault
  | x :: xs =>
    match test x with
    | .ok y => .ok y
    | .error e => firstOf e test xs

/-- Listen at the first of the places that can be had. -/
def listen (places : List String) : Except IoKind Endpoint :=
  firstOf .invalidInput (fun place => do firstOf .invalidInput m.listenAt (← m.endpoints place))
    places

end Machine

end CredentialRotation
