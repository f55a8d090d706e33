import CredentialRotation.Digest.Sha256
import CredentialRotation.Document.Yaml
import CredentialRotation.Kubeconfig.Document

/-!
# Tokens in kubeconfigs

`generate` puts a token into a user of a template. It also hashes its two
inputs, and an `Injector` that holds both hashes tells later whether the
inputs are still the same and the work can be skipped.
-/

namespace CredentialRotation.Kubeconfig

open Yaml (Value)

/-- Where the token goes, and whether the other entries of the user
stay. -/
structure Injection where
  userIndex : Nat := 0
  inline : Bool := false
deriving DecidableEq, Repr

namespace Injection

/-- The settings at a node of a document. -/
def read? {α : Type} [Readable α] (x : α) : Option Injection := do
  let r ← Record.open? ["user_index", "inject_inline"] x
  let index ← r.withDefault? "user_index" 0 fun x => (Readable.integer? false x).map Int.toNat
  let inline ← r.withDefault? "inject_inline" false Readable.flag?
  some ⟨index, inline⟩

end Injection

/-- The key of a token. -/
def tokenField : String := "token"

/-- The entries of a user with a token. -/
def withToken (inline : Bool) (token : String) (entries : Entries) : Entries :=
  setField tokenField (.string token) (if inline then entries else [])

/-- A document with a token at `users[userIndex].user`. -/
def Document.inject (d : Document) (token : String) (place : Injection) : Except Error Document :=
  (d.user place.userIndex).map fun entries =>
    d.setUser place.userIndex (withToken place.inline token entries)

/-- A generated kubeconfig, the hashes of what it was made from, and the
server it leads to. -/
structure Generated where
  kubeconfigHash : Bytes
  tokenHash : Bytes
  kubeconfig : Bytes
  server : String
deriving DecidableEq

/-- The detail that a generated kubeconfig is published as. -/
def kubeconfigKey : String := "kubeconfig"

/-- The details that are published. -/
def Generated.details (g : Generated) : List (String × Bytes) :=
  [(kubeconfigKey, g.kubeconfig)]

/-- The kubeconfig made from a template and a token. -/
def generate (kubeconfig token : Bytes) (place : Injection) : Except Error Generated := do
  let d ← Document.read kubeconfig
  let d ← d.inject token.textLossy place
  let text ← d.text
  .ok
    { kubeconfigHash := Digest.Sha256.digest kubeconfig
      tokenHash := Digest.Sha256.digest token
      kubeconfig := text
      server := d.server?.getD "" }

/-- The hashes of the last inputs, where they are known. -/
structure Injector where
  kubeconfigHash : Option Bytes := none
  tokenHash : Option Bytes := none
deriving DecidableEq

namespace Injector

/-- The injector that remembers two hashes. -/
def ofHashes (kubeconfigHash tokenHash : Bytes) : Injector :=
  ⟨some kubeconfigHash, some tokenHash⟩

/-- A stored hash, if it has the length of one. -/
def storedHash? (bs : Bytes) : Option Bytes :=
  if bs.length = 32 then some bs else none

/-- The injector of stored hashes. -/
def ofStored (kubeconfigHash tokenHash : Bytes) : Injector :=
  ⟨storedHash? kubeconfigHash, storedHash? tokenHash⟩

/-- Whether both inputs have the hashes remembered. -/
def isUpToDate (i : Injector) (kubeconfig token : Bytes) : Bool :=
  match i.kubeconfigHash, i.tokenHash with
  | some k, some t => k = Digest.Sha256.digest kubeconfig && t = Digest.Sha256.digest token
  | _, _ => false

end Injector

end CredentialRotation.Kubeconfig
