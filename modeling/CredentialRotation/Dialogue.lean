/-!
# Dialogues

Much of this library talks to someone: a service, a provider, another
part of itself. A `Dialogue` is such a computation with the talking left
open. It ends with a result, or puts a question and goes on with the
answer.

`run` lets a peer answer, which may remember what it has been asked, and
gives the questions in order beside the result. `via` lets another
dialogue answer each question.
-/

namespace CredentialRotation

/-- A computation that puts questions `q : Q` and gets answers of type
`A q`. -/
inductive Dialogue (Q : Type) (A : Q → Type) (α : Type) where
  | done (result : α)
  | ask (question : Q) (next : A question → Dialogue Q A α)

namespace Dialogue

variable {Q : Type} {A : Q → Type} {α β : Type}

/-- One dialogue after another. -/
def bind : Dialogue Q A α → (α → Dialogue Q A β) → Dialogue Q A β
  | .done x, f => f x
  | .ask q next, f => .ask q fun a => (next a).bind f

instance : Monad (Dialogue Q A) where
  pure := .done
  bind := bind

/-- The question `q` alone. -/
def put (q : Q) : Dialogue Q A (A q) := .ask q .done

/-- The result, the questions in order, and what the peer remembers. -/
def run {σ : Type} (peer : σ → (q : Q) → A q × σ) : σ → Dialogue Q A α → α × List Q × σ
  | s, .done x => (x, [], s)
  | s, .ask q next =>
    let (a, s) := peer s q
    let (x, qs, s) := run peer s (next a)
    (x, q :: qs, s)

/-- The result with a peer that remembers nothing. -/
def eval (peer : (q : Q) → A q) : Dialogue Q A α → α
  | .done x => x
  | .ask q next => (next (peer q)).eval peer

/-- The same computation with each question answered by a dialogue. -/
def via {Q' : Type} {A' : Q' → Type} (agent : (q : Q) → Dialogue Q' A' (A q)) :
    Dialogue Q A α → Dialogue Q' A' α
  | .done x => .done x
  | .ask q next => (agent q).bind fun a => (next a).via agent

@[simp] theorem pure_eq (x : α) : (pure x : Dialogue Q A α) = .done x := rfl

@[simp] theorem bind_eq (d : Dialogue Q A α) (f : α → Dialogue Q A β) : (d >>= f) = d.bind f := rfl

@[simp] theorem bind_done (x : α) (f : α → Dialogue Q A β) : (Dialogue.done x).bind f = f x := rfl

@[simp] theorem bind_ask (q : Q) (next : A q → Dialogue Q A α) (f : α → Dialogue Q A β) :
    (Dialogue.ask q next).bind f = .ask q fun a => (next a).bind f := rfl

end Dialogue

end CredentialRotation
