import CredentialRotation.Json.Value
import CredentialRotation.Number.Numeral
import CredentialRotation.Text.Blank
import CredentialRotation.Time.Instant
import CredentialRotation.Token.Error

/-!
# Claims

The payload of a token is a JSON object, and its members are the claims.
A date is a number of seconds since 1970, given as a number or as the
text of one; a fraction of a second does not count. `Claims.validate`
compares the dates with an instant: a claim that is absent passes, one
that is no date fails.
-/

namespace CredentialRotation

/-- The claims of a token. -/
structure Claims where
  members : List (String × Json)

namespace Claims

variable (c : Claims)

/-- The value of a claim. -/
def get (name : String) : Option Json :=
  Json.member? c.members name

/-- The value of a claim that is a string. -/
def string (name : String) : Option String :=
  match c.get name with
  | some (.string s) => some s
  | _ => none

/-- Who issued the token. -/
def issuer : Option String := c.string "iss"

/-- The value that ties a token to one login. -/
def nonce : Option String := c.string "nonce"

/-! ## Dates -/

/-- Whole seconds of a number, cut to sixty-four bits. -/
def numberSeconds (n : Number.Numeric) : Int :=
  match n with
  | .integer i =>
    if Number.int64Min ≤ i ∧ i ≤ Number.int64Max then i else n.toBinary.truncate
  | .binary x => x.truncate

/-- Whole seconds of a text, blanks at its ends apart: an integer of
sixty-four bits, or any other numeral, cut to sixty-four bits. -/
def textSeconds? (s : String) : Option Int :=
  let cs := Text.trim s.toList
  match Number.integerIn? 10 Number.int64Min Number.int64Max cs with
  | some n => some n
  | none => (Number.binary64? cs).map Number.Binary64.truncate

/-- Whole seconds of a claim's value. -/
def seconds? : Json → Option Int
  | .number n => some (numberSeconds n)
  | .string s => textSeconds? s
  | _ => none

/-- The instant of a claim's value. -/
def instant? (x : Json) : Option Instant :=
  (seconds? x).bind Instant.ofSeconds?

/-- The date in a claim, `none` if the claim is absent. -/
def date (claim : DateClaim) : Except TokenError (Option Instant) :=
  match c.get claim.name with
  | none => .ok none
  | some x =>
    match instant? x with
    | some t => .ok (some t)
    | none => .error (.date claim)

/-- The date in a claim, if there is one and it can be read. -/
def date? (claim : DateClaim) : Option Instant :=
  match c.date claim with
  | .ok t => t
  | .error _ => none

/-- When the token expires. -/
def expiresAt : Option Instant := c.date? .exp

/-- When the token was issued. -/
def issuedAt : Option Instant := c.date? .iat

/-- The first instant at which the token counts. -/
def notBefore : Option Instant := c.date? .nbf

/-! ## Validity -/

/-- The date in a claim is absent, or can be read and does not fail the
test; otherwise the reason. -/
def check (claim : DateClaim) (fails : Instant → Bool) (reason : Invalidity) :
    Except Invalidity Unit :=
  match c.date claim with
  | .error _ => .error (.malformed claim)
  | .ok none => .ok ()
  | .ok (some t) => if fails t then .error reason else .ok ()

/-- Whether the token counts at `now`: it is issued, valid and not yet
expired. The expiry is looked at first, then the date of issue. -/
def validate (now : Instant) : Except Invalidity Unit := do
  c.check .exp (fun t => t ≤ now) .expired
  c.check .iat (fun t => now < t) .usedBeforeIssued
  c.check .nbf (fun t => now < t) .notValidYet

/-- Whether the token counts at `now`. -/
def isValidAt (now : Instant) : Bool :=
  match c.validate now with
  | .ok _ => true
  | .error _ => false

end Claims

end CredentialRotation
