import CredentialRotation.Digest.Sha256
import CredentialRotation.Text.Base64
import CredentialRotation.Text.Description

/-!
# Proof keys

A login that is answered by way of a redirect proves that whoever redeems
the code is who asked for it. It sends a challenge first and the verifier
that the challenge was made from later. A challenge is the digest of the
verifier, or, where a provider can do no better, the verifier itself.
-/

namespace CredentialRotation

/-- How a challenge is made from a verifier. -/
inductive ChallengeMethod
  | s256
  | plain
deriving DecidableEq, Repr

namespace ChallengeMethod

/-- The name of a method. -/
def name : ChallengeMethod → String
  | .s256 => "S256"
  | .plain => "plain"

/-- The strongest of the methods that a provider names. With `force` it
is the digest, named or not. -/
def negotiate (supported : List String) (force : Bool) : Option ChallengeMethod :=
  if force || s256.name ∈ supported then some .s256
  else if plain.name ∈ supported then some .plain
  else none

/-- The challenge made from a verifier. -/
def challenge (m : ChallengeMethod) (verifier : String) : String :=
  match m with
  | .s256 =>
    String.ofList (Base64.encode Base64.urlSafe (Digest.Sha256.digest (.ofString verifier)))
  | .plain => verifier

end ChallengeMethod

/-- A verifier with its challenge. -/
structure ProofKey where
  verifier : String
  method : ChallengeMethod
deriving DecidableEq, Repr

namespace ProofKey

/-- The challenge that is sent first. -/
def challenge (k : ProofKey) : String := k.method.challenge k.verifier

/-- What is said about a proof key where others can see it. -/
def describe (k : ProofKey) : String :=
  let method := match k.method with
    | .s256 => "S256"
    | .plain => "Plain"
  Description.excerpt "PkceChallenge" [("method", .bare method)]

end ProofKey

end CredentialRotation
