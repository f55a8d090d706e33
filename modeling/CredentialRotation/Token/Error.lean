/-!
# Faults of a token

What keeps a token from being read, and what keeps a token that was read
from being accepted at an instant. Both name the claim at fault where a
date is.
-/

namespace CredentialRotation

/-- A claim that holds a date. -/
inductive DateClaim
  | exp
  | iat
  | nbf
deriving DecidableEq, Repr

/-- The name of a claim. -/
def DateClaim.name : DateClaim → String
  | .exp => "exp"
  | .iat => "iat"
  | .nbf => "nbf"

/-- Why a token cannot be read: it has fewer than three parts, a part is
not base64, the header is not text, a part is not the JSON it should be,
or a claim is no date. -/
inductive TokenError
  | parts
  | base64
  | utf8
  | json
  | date (claim : DateClaim)
deriving DecidableEq, Repr

/-- The words for a fault. -/
def TokenError.message : TokenError → Option String
  | .parts => some "JWT decoding error: InvalidToken"
  | .date c => some ("Invalid numeric date in claim " ++ c.name)
  | _ => none

/-- Why a token is not valid at an instant. -/
inductive Invalidity
  | expired
  | usedBeforeIssued
  | notValidYet
  | malformed (claim : DateClaim)
deriving DecidableEq, Repr

/-- The words for a reason. -/
def Invalidity.message : Invalidity → String
  | .expired => "Token is expired"
  | .usedBeforeIssued => "Token used before issued"
  | .notValidYet => "Token is not valid yet"
  | .malformed c => "Invalid numeric date in claim " ++ c.name

end CredentialRotation
