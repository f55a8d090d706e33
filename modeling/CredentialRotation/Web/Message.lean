import CredentialRotation.Dialogue
import CredentialRotation.Web.Status
import CredentialRotation.Web.Url

/-!
# Requests and answers

What is sent to a server, and what it says in the end, after it may have
pointed elsewhere. An exchange can fail: then there is no answer, or an
answer whose body breaks off.
-/

namespace CredentialRotation

/-- What a request wants done. -/
inductive Method
  | get
  | head
  | post
  | delete
  | other (name : String)
deriving DecidableEq, Repr

namespace Method

/-- The word for a method. -/
def name : Method → String
  | .get => "GET"
  | .head => "HEAD"
  | .post => "POST"
  | .delete => "DELETE"
  | .other name => name

end Method

/-- A request to a server. -/
structure Request where
  method : Method
  url : Url
  headers : List (String × Bytes) := []
  body : Bytes := []
deriving DecidableEq, Repr

/-- The answer of a server. There is no body where the connection broke
before its end. -/
structure Response where
  status : Nat
  headers : List (String × Bytes) := []
  body : Option Bytes := some []
deriving DecidableEq, Repr

/-- A dialogue with servers. There is no answer where none was reached,
or none answered in time. -/
abbrev Exchange := Dialogue Request fun _ => Option Response

namespace Response

variable (r : Response)

/-- Whether the request was carried out. -/
def isSuccess : Bool := Status.isSuccess r.status

/-- The body as text, nothing where it broke off. -/
def text : String := (r.body.getD []).textLossy

/-- The status and the text, for a message. -/
def summary : String := Status.text r.status ++ ": " ++ r.text

/-- The first value under a name, whatever its case. -/
def header? (name : String) : Option Bytes :=
  (r.headers.find? fun h => h.1.toList.map Char.toLower = name.toList.map Char.toLower).map (·.2)

/-- The first value under a name, if it is text that can be read. -/
def headerText? (name : String) : Option String :=
  match r.header? name with
  | some bs => if bs.all fun b => Url.isPrintable b || b = 0x09 then bs.text? else none
  | none => none

end Response

/-- Whether a header can hold a value. -/
def isHeaderValue (bs : Bytes) : Bool :=
  bs.all fun b => (0x20 ≤ b && b ≠ 0x7F) || b = 0x09

/-- A request to an address. It is not sent where there is no page to ask
for, or a header cannot hold its value. -/
def sendTo (method : Method) (url : Url) (headers : List (String × Bytes)) (body : Bytes) :
    Exchange (Option Response) :=
  if url.isWeb && headers.all (isHeaderValue ·.2) then
    .put { method, url := { url with fragment := none }, headers, body }
  else .done none

/-- A request to the address that a text spells, if it spells one. -/
def send (method : Method) (address : String) (headers : List (String × Bytes)) (body : Bytes) :
    Exchange (Option Response) :=
  match Url.ofText? address with
  | some url => sendTo method url headers body
  | none => .done none

end CredentialRotation
