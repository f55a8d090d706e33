import CredentialRotation.Proofs.Rotation.Keeping
import CredentialRotation.Proofs.Token.Encoding

/-!
# What a signature decides

Nothing. The last dot of a token stands before its signature, and from
there on nothing is read: header and payload are the two parts that are
(`Token.parts?_join`). Everything that is decided about a token, by a
judge, by an attempt that looks for its nonce or by a client that assesses
what it holds, is decided by what the reader makes of these two. So tokens
that differ in the signature alone are decided alike, the ones that cannot
be read included (`signature_ignored`).
-/

namespace CredentialRotation

/-! ## Two tokens -/

namespace Token

/-- A token of the texts of its parts. -/
def join (header payload signature : String) : String :=
  header ++ "." ++ payload ++ "." ++ signature

variable {header payload signature t u : String}

/-- **What is read of a token** is its header and its payload. -/
theorem parts?_join (hp : '.' ∉ payload.toList) (hs : '.' ∉ signature.toList) :
    parts? (join header payload signature).toList = some (header.toList, payload.toList) := by
  have hdot : ".".toList = ['.'] := rfl
  have htoken : (join header payload signature).toList
      = (header.toList ++ '.' :: payload.toList) ++ '.' :: signature.toList := by
    simp only [join, String.toList_append, hdot, List.append_assoc, List.cons_append,
      List.nil_append]
  rw [htoken, parts?, cutLast?_append hs]
  exact cutLast?_append hp

/-- Nothing else of a token is read. -/
theorem claims_congr (h : parts? t.toList = parts? u.toList) : claims t = claims u := by
  rw [claims, h, ← claims]

theorem join_ne_empty : join header payload signature ≠ "" := by
  simp [join]

end Token

/-- `DecidedAlike t u`: nothing that is decided about a token tells `t`
from `u`. -/
structure Token.DecidedAlike (t u : String) : Prop where
  /-- Both are read as the same claims, or have the same fault. -/
  claims : Token.claims t = Token.claims u
  /-- Both have the same judge, or none for the same reason. -/
  judge : Judge.ofToken t = Judge.ofToken u
  window : (Judge.ofToken t).bind Judge.window = (Judge.ofToken u).bind Judge.window
  due : ∀ now window, (Judge.ofToken t).map (·.isDue now window)
    = (Judge.ofToken u).map (·.isDue now window)
  status : (Judge.ofToken t).map Judge.status = (Judge.ofToken u).map Judge.status
  /-- Both answer the same attempts. -/
  nonce : ∀ attempt, LoginClient.checkNonce attempt t = LoginClient.checkNonce attempt u
  expired : ∀ now, LoginClient.isExpired t now = LoginClient.isExpired u now
  /-- A client finds the same about both, whatever refresh tokens it holds
  them with, and finds it without asking anyone. -/
  assessed : ∀ (client : LoginClient) (r s : String) (now : Instant), ∃ found,
    client.assess (some ⟨t, r⟩) now = .done found ∧ client.assess (some ⟨u, s⟩) now = .done found

/-! ## What is decided by the claims -/

variable {t u : String} {now : Instant}

theorem Judge.ofToken_congr (h : Token.claims t = Token.claims u) : ofToken t = ofToken u := by
  rw [ofToken, h, ← ofToken]

theorem Renewal.judge_congr (h : Token.claims t = Token.claims u) : judge t = judge u := by
  rw [judge, Judge.ofToken_congr h, ← judge]

namespace LoginClient

theorem checkNonce_congr (h : Token.claims t = Token.claims u) (attempt : Attempt) :
    checkNonce attempt t = checkNonce attempt u := by
  rw [checkNonce, h, ← checkNonce]

theorem isExpired_congr (h : Token.claims t = Token.claims u) (now : Instant) :
    isExpired t now = isExpired u now := by
  rw [isExpired, h, ← isExpired]

theorem finding_congr (h : Token.claims t = Token.claims u) (now : Instant) :
    finding t now = finding u now := by
  rw [finding, Renewal.judge_congr h, isExpired_congr h, ← finding]

end LoginClient

/-- **The claims decide.** -/
theorem Token.DecidedAlike.of_claims (ht : t ≠ "") (hu : u ≠ "")
    (h : Token.claims t = Token.claims u) : DecidedAlike t u where
  claims := h
  judge := Judge.ofToken_congr h
  window := by rw [Judge.ofToken_congr h]
  due _ _ := by rw [Judge.ofToken_congr h]
  status := by rw [Judge.ofToken_congr h]
  nonce := LoginClient.checkNonce_congr h
  expired := LoginClient.isExpired_congr h
  assessed client r s now := by
    refine ⟨LoginClient.finding t now, LoginClient.assess_eq ht, ?_⟩
    rw [LoginClient.assess_eq hu, LoginClient.finding_congr h]

/-- **The signature decides nothing.** Of a token its header and its payload
are read, and whatever stands for the signature, the token is decided about
in the same way. -/
theorem Token.signature_ignored (header payload s₁ s₂ : String) (hp : '.' ∉ payload.toList)
    (h₁ : '.' ∉ s₁.toList) (h₂ : '.' ∉ s₂.toList) :
    parts? (join header payload s₁).toList = some (header.toList, payload.toList)
      ∧ DecidedAlike (join header payload s₁) (join header payload s₂) := by
  have hparts : parts? (join header payload s₁).toList = some (header.toList, payload.toList) :=
    parts?_join hp h₁
  refine ⟨hparts, .of_claims join_ne_empty join_ne_empty (claims_congr ?_)⟩
  rw [hparts, parts?_join hp h₂]

/-- At work: a token that was signed, and one that was not. -/
theorem Token.signature_ignored_unsigned :
    let t (signature : String) : String :=
      join "eyJhbGciOiJIUzI1NiIsInR5cCI6IkpXVCJ9" "eyJpYXQiOjAsImV4cCI6MzAwMH0" signature
    (Token.claims (t "c2ln")).toOption.isSome = true ∧ DecidedAlike (t "c2ln") (t "") := by
  intro t
  exact ⟨by decide +kernel,
    (signature_ignored _ _ _ _ (by decide +kernel) (by decide +kernel) (by decide +kernel)).2⟩

end CredentialRotation
