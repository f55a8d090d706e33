import CredentialRotation.Kubeconfig.Injector
import CredentialRotation.Proofs.Result

/-!
# Skipping a generation

A generation leaves the hashes of its two inputs behind. An injector that
gets them back from a store answers that nothing is to be done exactly
for inputs with these hashes. To skip a generation on its word is safe up
to a collision: other inputs that it takes for the same would be two
texts with one hash.
-/

namespace CredentialRotation.Kubeconfig

variable {kubeconfig token : Bytes} {place : Injection} {g : Generated}

/-- Two inputs that their hashes do not tell apart. -/
def Collide (bs bs' : Bytes) : Prop :=
  bs ≠ bs' ∧ Digest.Sha256.digest bs = Digest.Sha256.digest bs'

theorem eq_of_not_collide {bs bs' : Bytes} (h : ¬ Collide bs bs')
    (hdigest : Digest.Sha256.digest bs = Digest.Sha256.digest bs') : bs = bs' :=
  Decidable.not_not.1 fun hne => h ⟨hne, hdigest⟩

namespace Injector

variable {a b : Bytes}

/-- The answer of what a store gives back is true if that is the two
hashes, in their order and in full. -/
theorem isUpToDate_ofStored : (ofStored a b).isUpToDate kubeconfig token = true ↔
    a = Digest.Sha256.digest kubeconfig ∧ b = Digest.Sha256.digest token := by
  have hlength : ∀ {bs message}, bs = Digest.Sha256.digest message → bs.length = 32 := by
    rintro bs message rfl
    exact Digest.Sha256.length_digest message
  unfold ofStored isUpToDate storedHash?
  by_cases ha : a.length = 32
  · by_cases hb : b.length = 32
    · simp [ha, hb]
    · simpa [ha, hb] using fun _ hdigest => hb (hlength hdigest)
  · simpa [ha] using fun hdigest => absurd (hlength hdigest) ha

/-- What has another length is no hash. -/
theorem isUpToDate_ofStored_of_length (h : a.length ≠ 32 ∨ b.length ≠ 32) :
    (ofStored a b).isUpToDate kubeconfig token = false := by
  rw [← Bool.not_eq_true, isUpToDate_ofStored]
  rintro ⟨rfl, rfl⟩
  rcases h with h | h <;> exact h (Digest.Sha256.length_digest _)

end Injector

/-- What a generation leaves behind are the hashes of its inputs. -/
theorem hashes_of_generate (h : generate kubeconfig token place = .ok g) :
    g.kubeconfigHash = Digest.Sha256.digest kubeconfig
      ∧ g.tokenHash = Digest.Sha256.digest token := by
  obtain ⟨d, -, h⟩ := bind_eq_ok_iff.1 h
  obtain ⟨d', -, h⟩ := bind_eq_ok_iff.1 h
  obtain ⟨text, -, h⟩ := bind_eq_ok_iff.1 h
  obtain rfl := Except.ok.inj h
  exact ⟨rfl, rfl⟩

/-- **To skip is safe.** After a generation, an injector of the hashes it
has left behind takes two inputs for done if and only if they have the
hashes of the two it was made from. Unless one of them collides with what
it is taken for, to generate from them would give the same once more. An
injector of anything that is not two hashes takes nothing for done. -/
theorem generate_eq_of_isUpToDate (kubeconfig token : Bytes) (place : Injection) (g : Generated)
    (h : generate kubeconfig token place = .ok g) :
    (∀ kubeconfig' token',
      ((Injector.ofStored g.kubeconfigHash g.tokenHash).isUpToDate kubeconfig' token' = true ↔
        Digest.Sha256.digest kubeconfig' = Digest.Sha256.digest kubeconfig
          ∧ Digest.Sha256.digest token' = Digest.Sha256.digest token)
      ∧ (¬ Collide kubeconfig' kubeconfig → ¬ Collide token' token →
        (Injector.ofStored g.kubeconfigHash g.tokenHash).isUpToDate kubeconfig' token' = true →
          generate kubeconfig' token' place = .ok g))
      ∧ ∀ a b : Bytes, a.length ≠ 32 ∨ b.length ≠ 32 → ∀ kubeconfig' token',
        (Injector.ofStored a b).isUpToDate kubeconfig' token' = false := by
  obtain ⟨hkubeconfig, htoken⟩ := hashes_of_generate h
  have hiff (kubeconfig' token' : Bytes) :
      (Injector.ofStored g.kubeconfigHash g.tokenHash).isUpToDate kubeconfig' token' = true ↔
        Digest.Sha256.digest kubeconfig' = Digest.Sha256.digest kubeconfig
          ∧ Digest.Sha256.digest token' = Digest.Sha256.digest token := by
    rw [Injector.isUpToDate_ofStored, hkubeconfig, htoken, eq_comm,
      eq_comm (a := Digest.Sha256.digest token)]
  refine ⟨fun kubeconfig' token' => ⟨hiff _ _, fun hk ht hdone => ?_⟩,
    fun a b hlength _ _ => Injector.isUpToDate_ofStored_of_length hlength⟩
  obtain ⟨hdigest, hdigest'⟩ := (hiff _ _).1 hdone
  rw [eq_of_not_collide hk hdigest, eq_of_not_collide ht hdigest']
  exact h

/-- At work: after a generation its own inputs are done, and stay so until
the store forgets an octet. -/
theorem generate_eq_of_isUpToDate_at_once :
    let kubeconfig := Bytes.ofString "users: [user: \x7b\x7d]"
    let token := Bytes.ofString "t"
    ∃ g, generate kubeconfig token {} = .ok g
      ∧ (Injector.ofStored g.kubeconfigHash g.tokenHash).isUpToDate kubeconfig token = true
      ∧ (Injector.ofStored g.kubeconfigHash (g.tokenHash.take 31)).isUpToDate kubeconfig token
        = false := by
  intro kubeconfig token
  have hsome : (generate kubeconfig token {}).toOption.isSome = true := by decide +kernel
  obtain ⟨g, hg⟩ := Option.isSome_iff_exists.1 hsome
  have hgenerate := toOption_eq_some_iff.1 hg
  obtain ⟨hdone, hshort⟩ := generate_eq_of_isUpToDate kubeconfig token {} g hgenerate
  refine ⟨g, hgenerate, (hdone kubeconfig token).1.2 ⟨rfl, rfl⟩, hshort _ _ (.inr ?_) _ _⟩
  rw [List.length_take]
  omega

end CredentialRotation.Kubeconfig
