import CredentialRotation.Proofs.Dialogue
import CredentialRotation.Web.Message

/-!
# What is sent

A request leaves as it was put together, or does not leave at all: there
has to be a page at its address and each header has to hold its value.
`Request.leaving?` is the one that leaves. What follows an exchange goes
by the answer to it, and by no answer where nothing leaves.

Which texts spell an address is up to `Url.ofText?`, which reads names of
hosts in Latin letters only. Nothing is said of what leaves for a host
that is named in others.
-/

namespace CredentialRotation

/-- The request that leaves for the address that a text spells, if one
can. -/
def Request.leaving? (method : Method) (address : String) (headers : List (String × Bytes))
    (body : Bytes) : Option Request :=
  ((Url.ofText? address).filter fun u => u.isWeb && headers.all (isHeaderValue ·.2)).map fun u =>
    { method, url := { u with fragment := none }, headers, body }

variable {method : Method} {address : String} {headers : List (String × Bytes)} {body : Bytes}

/-- **What is sent** is what leaves. -/
theorem send_eq : send method address headers body
    = match Request.leaving? method address headers body with
      | some request => .put request
      | none => .done none := by
  unfold send Request.leaving?
  cases Url.ofText? address with
  | none => rfl
  | some u =>
    dsimp only [sendTo]
    by_cases hsent : (u.isWeb && headers.all (isHeaderValue ·.2)) = true
    · rw [if_pos hsent, Option.filter_some, if_pos hsent]
      rfl
    · rw [if_neg hsent, Option.filter_some, if_neg hsent]
      rfl

section Answered

variable {α : Type} (f : Option Response → α) (peer : Request → Option Response)

/-- An exchange that is answered asks for what leaves, and nothing
else. -/
theorem asked_send_bind : ((send method address headers body).bind fun r => .done (f r)).asked peer
    = (Request.leaving? method address headers body).toList := by
  rw [send_eq]
  cases Request.leaving? method address headers body <;> rfl

/-- It gives what is made of the answer, or of none where nothing
leaves. -/
theorem eval_send_bind : ((send method address headers body).bind fun r => .done (f r)).eval peer
    = f ((Request.leaving? method address headers body).bind peer) := by
  rw [send_eq]
  cases Request.leaving? method address headers body <;> rfl

end Answered

end CredentialRotation
