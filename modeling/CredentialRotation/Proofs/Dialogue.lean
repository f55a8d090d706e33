import CredentialRotation.Dialogue

/-!
# What a dialogue asks

With a peer that remembers nothing, a dialogue has its result and the list
of its questions apart from each other, and one dialogue after another
asks what both ask. A dialogue that is held by way of an agent is held
with what the agent answers, and asks what the agent asks for that.

A peer that remembers may answer one question in two ways. What was said
is then in the transcript, each question with the answer it got.
-/

namespace CredentialRotation.Dialogue

variable {Q : Type} {A : Q → Type} {α β : Type}

/-- The questions put to a peer, in order. -/
def asked (peer : (q : Q) → A q) : Dialogue Q A α → List Q
  | .done _ => []
  | .ask q next => q :: (next (peer q)).asked peer

variable (peer : (q : Q) → A q)

/-- Result and questions are those of `run`. -/
theorem run_memoryless (d : Dialogue Q A α) :
    d.run (fun (_ : Unit) q => (peer q, ())) () = (d.eval peer, d.asked peer, ()) := by
  induction d with
  | done x => rfl
  | ask q next ih => simp only [run, eval, asked, ih]

/-- The questions of one dialogue come before those of the next. -/
theorem asked_bind (d : Dialogue Q A α) (f : α → Dialogue Q A β) :
    (d.bind f).asked peer = d.asked peer ++ (f (d.eval peer)).asked peer := by
  induction d with
  | done x => rfl
  | ask q next ih => simp only [bind_ask, asked, eval, ih, List.cons_append]

/-- The result of the first dialogue decides how it goes on. -/
theorem eval_bind (d : Dialogue Q A α) (f : α → Dialogue Q A β) :
    (d.bind f).eval peer = (f (d.eval peer)).eval peer := by
  induction d with
  | done x => rfl
  | ask q next ih => exact ih (peer q)

section Via

variable {Q' : Type} {A' : Q' → Type} (agent : (q : Q) → Dialogue Q' A' (A q))
  (peer' : (q : Q') → A' q)

/-- An agent is a peer that answers with what it is answered. -/
theorem eval_via (d : Dialogue Q A α) :
    (d.via agent).eval peer' = d.eval fun q => (agent q).eval peer' := by
  induction d with
  | done x => rfl
  | ask q next ih =>
    rw [via, eval_bind]
    exact ih _

/-- An agent asks, for each question in turn, what it asks for that. -/
theorem asked_via (d : Dialogue Q A α) : (d.via agent).asked peer'
    = (d.asked fun q => (agent q).eval peer').flatMap fun q => (agent q).asked peer' := by
  induction d with
  | done x => rfl
  | ask q next ih =>
    rw [via, asked_bind, asked, List.flatMap_cons]
    exact congrArg _ (ih _)

end Via

section Transcript

variable {σ : Type} (peer : σ → (q : Q) → A q × σ)

/-- The questions with their answers, in order. -/
def transcript : σ → Dialogue Q A α → List ((q : Q) × A q)
  | _, .done _ => []
  | s, .ask q next => ⟨q, (peer s q).1⟩ :: transcript (peer s q).2 (next (peer s q).1)

/-- The questions of the transcript are those of `run`. -/
theorem run_questions (d : Dialogue Q A α) (s : σ) :
    (d.run peer s).2.1 = (d.transcript peer s).map Sigma.fst := by
  induction d generalizing s with
  | done x => rfl
  | ask q next ih => exact congrArg (q :: ·) (ih _ _)

end Transcript

end CredentialRotation.Dialogue
