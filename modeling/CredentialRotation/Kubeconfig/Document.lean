import CredentialRotation.Kubeconfig.Error
import CredentialRotation.Yaml.Printer

/-!
# Kubeconfigs

A kubeconfig is a YAML tree of which two parts are understood: the
mapping `users[i].user`, where a token goes, and the servers of its
clusters. `user?` looks at the first and `setUser` replaces it; the rest
of the tree is carried along as it is. Tags are looked through and kept.
-/

namespace CredentialRotation.Kubeconfig

open Yaml (Value)

/-- What a value is. -/
def Kind.ofValue : Value → Kind
  | .null => .null
  | .bool _ => .boolean
  | .number _ => .number
  | .string _ => .string
  | .sequence _ => .sequence
  | .mapping _ => .mapping
  | .tagged .. => .tagged

/-- The entries of a mapping. -/
abbrev Entries := List (Value × Value)

/-- A kubeconfig. -/
structure Document where
  root : Value

/-! ## Looking -/

/-- The entries of the mapping at a spot. -/
def mappingAt (spot : Spot) (v : Value) : Except Error Entries :=
  match v.untag with
  | .mapping ms => .ok ms
  | _ => .error (.malformed spot .mapping (some (.ofValue v)))

/-- The items of the sequence at a spot. -/
def sequenceAt (spot : Spot) (v : Value) : Except Error (List Value) :=
  match v.untag with
  | .sequence xs => .ok xs
  | _ => .error (.malformed spot .sequence (some (.ofValue v)))

/-- The value of a key, which leads to a spot. -/
def fieldAt (spot : Spot) (name : String) (ms : Entries) : Except Error Value :=
  match Value.entry? name ms with
  | some v => .ok v
  | none => .error (.malformed spot .presence none)

namespace Document

/-- The document that octets spell. -/
def read (bs : Bytes) : Except Error Document :=
  match Value.ofBytes? bs with
  | some v => .ok ⟨v⟩
  | none => .error .unreadable

/-- The text of a document. -/
def text (d : Document) : Except Error Bytes :=
  match d.root.print? with
  | some cs => .ok (Utf8.encode cs)
  | none => .error .unwritable

/-- The entries of `users`. -/
def users (d : Document) : Except Error (List Value) := do
  let ms ← mappingAt .root d.root
  let v ← fieldAt .users "users" ms
  sequenceAt .users v

/-- The mapping `users[index].user`. -/
def user (d : Document) (index : Nat) : Except Error Entries := do
  let xs ← d.users
  match xs[index]? with
  | none => .error (.missingUser index xs.length)
  | some x => do
    let ms ← mappingAt (.entry index) x
    let v ← fieldAt (.user index) "user" ms
    mappingAt (.user index) v

/-- The server of the first cluster that has a string there. -/
def server? (d : Document) : Option String := do
  let xs ← (← d.root.field? "clusters").items?
  xs.findSome? fun x => do (← (← x.field? "cluster").field? "server").text?

end Document

/-! ## Replacing -/

/-- A value with the entries of its mapping changed. -/
def overMapping (f : Entries → Entries) : Value → Value
  | .mapping ms => .mapping (f ms)
  | .tagged t v => .tagged t (overMapping f v)
  | v => v

/-- A value with the items of its sequence changed. -/
def overSequence (f : List Value → List Value) : Value → Value
  | .sequence xs => .sequence (f xs)
  | .tagged t v => .tagged t (overSequence f v)
  | v => v

/-- Entries with the value of a string key changed. -/
def overField (name : String) (f : Value → Value) : Entries → Entries
  | [] => []
  | (.string k, v) :: ms =>
    if k = name then (.string k, f v) :: ms else (.string k, v) :: overField name f ms
  | m :: ms => m :: overField name f ms

/-- Entries with a value for a string key, in the place of the one it had
or else at the end. -/
def setField (name : String) (v : Value) : Entries → Entries
  | [] => [(.string name, v)]
  | (.string k, x) :: ms =>
    if k = name then (.string k, v) :: ms else (.string k, x) :: setField name v ms
  | m :: ms => m :: setField name v ms

/-- A document with the mapping `users[index].user` replaced. -/
def Document.setUser (d : Document) (index : Nat) (entries : Entries) : Document :=
  let user := overField "user" (overMapping fun _ => entries)
  ⟨overMapping (overField "users" (overSequence (·.modify index (overMapping user)))) d.root⟩

end CredentialRotation.Kubeconfig
