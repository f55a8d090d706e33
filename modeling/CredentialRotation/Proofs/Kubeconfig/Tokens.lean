import CredentialRotation.Proofs.Kubeconfig.Chain
import CredentialRotation.Proofs.Kubeconfig.Faults
import CredentialRotation.Proofs.Yaml.Printing

/-!
# The token in its place

What a generation writes is a tree with the text of the token at one
place. Trees for two texts differ there and nowhere else
(`Surroundings.differs`), and so the documents differ too: what is written
tells the text (`kubeconfig_eq_iff`). The text tells the token, if the
token is the octets of a text.
-/

namespace CredentialRotation.Kubeconfig

open Yaml (Value Differs)

/-! ## Trees for two texts -/

section

variable {name : String} {v w : Value} {s t : String} {inline : Bool}

/-- Whatever is put for a key stands at one place among the entries, and
is found there. -/
theorem exists_setField (name : String) (ms : Entries) : ∃ before after,
    Value.entry? name before = none
      ∧ ∀ v, setField name v ms = before ++ (.string name, v) :: after := by
  cases hold : Value.entry? name ms with
  | none => exact ⟨ms, [], hold, setField_of_none hold⟩
  | some old =>
    obtain ⟨before, after, hbefore, rfl⟩ := exists_append_of_entry? hold
    exact ⟨before, after, hbefore, fun v => setField_append hbefore v old after⟩

/-- The token that is put is the one that is found. -/
theorem entry?_withToken (inline : Bool) (token : String) (entries : Entries) :
    Value.entry? tokenField (withToken inline token entries) = some (.string token) := by
  obtain ⟨before, after, hbefore, hset⟩ :=
    exists_setField tokenField (if inline then entries else [])
  rw [withToken, hset, entry?_append hbefore]

theorem differs_withToken (hst : s ≠ t) (entries : Entries) :
    Differs (.mapping (withToken inline s entries)) (.mapping (withToken inline t entries)) := by
  obtain ⟨before, after, -, hset⟩ := exists_setField tokenField (if inline then entries else [])
  rw [withToken, withToken, hset, hset]
  exact .entry before _ after (.string hst)

theorem differs_behind (tags : List String) (h : Differs v w) :
    Differs (behind tags v) (behind tags w) := by
  induction tags with
  | nil => exact h
  | cons t tags ih => exact .tagged t ih

theorem Gap.differs (g : Gap name) (h : Differs v w) : Differs (g.fill v) (g.fill w) :=
  differs_behind g.tags (.entry g.before _ g.after h)

/-- **Two texts make two trees**, which differ in the string of the
token. -/
theorem Surroundings.differs (c : Surroundings) (hst : s ≠ t) (entries : Entries) :
    Differs (c.fill (withToken inline s entries)).root
      (c.fill (withToken inline t entries)).root := by
  have huser : Differs (.mapping (withToken inline s entries))
      (.mapping (withToken inline t entries)) := differs_withToken hst entries
  have hitem := c.entry.differs (differs_behind c.userTags huser)
  exact c.document.differs (differs_behind c.usersTags (.item c.earlier c.later hitem))

end

/-! ## Documents for two tokens -/

section

variable {kubeconfig token token' : Bytes} {place : Injection} {g g' : Generated}

/-- What is written differs where the trees do. -/
theorem text_ne_of_differs {d d' : Document} {text text' : Bytes} (h : Differs d.root d'.root)
    (htext : d.text = .ok text) (htext' : d'.text = .ok text') : text ≠ text' := by
  unfold Document.text at htext htext'
  cases hcs : d.root.print? with
  | none => simp [hcs] at htext
  | some cs =>
    cases hcs' : d'.root.print? with
    | none => simp [hcs'] at htext'
    | some cs' =>
      simp only [hcs, hcs', Except.ok.injEq] at htext htext'
      subst htext htext'
      exact fun heq => h.print?_ne hcs hcs' (Utf8.encode_injective heq)

/-- With what a generation has succeeded once, the user is found, and any
token is put there and written. -/
theorem exists_fill_of_generate (h : generate kubeconfig token place = .ok g) :
    ∃ (c : Surroundings) (entries : Entries), c.index = place.userIndex
      ∧ Document.read kubeconfig = .ok (c.fill entries) ∧ ∀ token',
      generate kubeconfig token' place
        = (c.fill (withToken place.inline token'.textLossy entries)).text.map fun text =>
          ⟨Digest.Sha256.digest kubeconfig, Digest.Sha256.digest token', text,
            (c.fill entries).server?.getD ""⟩ := by
  obtain ⟨d, hread, -⟩ := bind_eq_ok_iff.1 h
  rw [generate_eq hread] at h
  obtain ⟨d', hinject, -⟩ := bind_eq_ok_iff.1 h
  obtain ⟨entries, huser, -⟩ := Document.inject_eq_ok_iff.1 hinject
  obtain ⟨c, hindex, rfl⟩ := Document.user_eq_ok_iff_fill.1 huser
  refine ⟨c, entries, hindex, hread, fun token' => ?_⟩
  rw [generate_eq hread, Document.inject_eq_ok_iff.2 ⟨entries, huser, rfl⟩, ← hindex,
    c.setUser_fill]
  rfl

/-- What one token is generated with, any other is. -/
theorem exists_generate_of_generate (h : generate kubeconfig token place = .ok g)
    (token' : Bytes) : ∃ g', generate kubeconfig token' place = .ok g' := by
  obtain ⟨c, entries, -, -, hgenerate⟩ := exists_fill_of_generate h
  obtain ⟨text, htext, -⟩ := map_eq_ok_iff.1 ((hgenerate token).symm.trans h)
  have hwritable : Value.isWritable false (c.fill (withToken place.inline token'.textLossy
      (withToken place.inline token.textLossy entries))).root = true :=
    c.isWritable_fill (Document.exists_text_iff.1 ⟨text, htext⟩)
  have hlast : withToken place.inline token'.textLossy
      (withToken place.inline token.textLossy entries)
        = withToken place.inline token'.textLossy entries :=
    congrFun (withToken_comp _ _ _) entries
  rw [hlast] at hwritable
  obtain ⟨text', htext'⟩ := Document.exists_text_iff.2 hwritable
  exact ⟨_, (hgenerate token').trans (map_eq_ok_iff.2 ⟨text', htext', rfl⟩)⟩

/-- **What is written tells the token's text.** -/
theorem kubeconfig_eq_iff (h : generate kubeconfig token place = .ok g)
    (h' : generate kubeconfig token' place = .ok g') :
    g.kubeconfig = g'.kubeconfig ↔ token.textLossy = token'.textLossy := by
  obtain ⟨c, entries, -, -, hgenerate⟩ := exists_fill_of_generate h
  obtain ⟨text, htext, rfl⟩ := map_eq_ok_iff.1 ((hgenerate token).symm.trans h)
  obtain ⟨text', htext', rfl⟩ := map_eq_ok_iff.1 ((hgenerate token').symm.trans h')
  constructor
  · intro heq
    by_contra hne
    exact text_ne_of_differs (c.differs hne entries) htext htext' heq
  · intro heq
    rw [heq] at htext
    exact Except.ok.inj (htext.symm.trans htext')

/-- Octets that are the UTF-8 of a text are those of the text they are
read as. -/
theorem ofString_textLossy_iff : Bytes.ofString token.textLossy = token
    ↔ ∃ s, Bytes.ofString s = token := by
  refine ⟨fun h => ⟨_, h⟩, ?_⟩
  rintro ⟨s, rfl⟩
  rw [Bytes.textLossy_ofString]

/-- **Which token a generated kubeconfig holds.** In the tree that is made
of the kubeconfig and written, a string stands at the user's `token` whose
octets are the token's if the token is the UTF-8 of a text, and are not
otherwise. Of the same kubeconfig any token generates a document, and two
documents are the same if and only if the tokens are read as the same text:
for two tokens that are the UTF-8 of texts, only if they are the same. -/
theorem token_stored_iff_text (kubeconfig token : Bytes) (place : Injection) (g : Generated)
    (h : generate kubeconfig token place = .ok g) :
    (∃ (template d : Document) (entries : Entries) (s : String),
        Document.read kubeconfig = .ok template
        ∧ template.inject token.textLossy place = .ok d ∧ d.text = .ok g.kubeconfig
        ∧ d.user place.userIndex = .ok entries
        ∧ Value.entry? tokenField entries = some (.string s)
        ∧ (Bytes.ofString s = token ↔ ∃ t, Bytes.ofString t = token))
      ∧ ∀ token', ∃ g', generate kubeconfig token' place = .ok g'
        ∧ (g.kubeconfig = g'.kubeconfig ↔ token.textLossy = token'.textLossy)
        ∧ ((∃ t, Bytes.ofString t = token) → (∃ t, Bytes.ofString t = token') →
          g.kubeconfig = g'.kubeconfig → token = token') := by
  obtain ⟨c, entries, hindex, hread, hgenerate⟩ := exists_fill_of_generate h
  obtain ⟨text, htext, rfl⟩ := map_eq_ok_iff.1 ((hgenerate token).symm.trans h)
  have hinject : (c.fill entries).inject token.textLossy place
      = .ok (c.fill (withToken place.inline token.textLossy entries)) := by
    refine Document.inject_eq_ok_iff.2
      ⟨entries, Document.user_eq_ok_iff_fill.2 ⟨c, hindex, rfl⟩, ?_⟩
    rw [← hindex, c.setUser_fill]
  refine ⟨⟨_, _, _, _, hread, hinject, htext, Document.user_eq_ok_iff_fill.2 ⟨c, hindex, rfl⟩,
    entry?_withToken _ _ _, ofString_textLossy_iff⟩, fun token' => ?_⟩
  obtain ⟨g', hg'⟩ := exists_generate_of_generate h token'
  have hiff := kubeconfig_eq_iff h hg'
  refine ⟨g', hg', hiff, fun htoken htoken' hsame => ?_⟩
  rw [← ofString_textLossy_iff.2 htoken, hiff.1 hsame, ofString_textLossy_iff.2 htoken']

end

/-- At work: the user is behind a tag, and its tokens are not ASCII. -/
theorem token_stored_iff_text_two_tokens :
    let kubeconfig := Bytes.ofString "users: [user: !v \x7btoken: old, name: n\x7d]"
    let place : Injection := ⟨0, true⟩
    ∃ g g', generate kubeconfig (Bytes.ofString "é") place = .ok g
      ∧ generate kubeconfig (Bytes.ofString "è") place = .ok g'
      ∧ g.kubeconfig ≠ g'.kubeconfig
      ∧ ∃ d entries, Document.text d = .ok g.kubeconfig ∧ d.user 0 = .ok entries
        ∧ Value.entry? "token" entries = some (.string "é") := by
  intro kubeconfig place
  have hsome : (generate kubeconfig (Bytes.ofString "é") place).toOption.isSome = true := by
    decide +kernel
  obtain ⟨g, hg⟩ := Option.isSome_iff_exists.1 hsome
  have hgenerate := toOption_eq_some_iff.1 hg
  obtain ⟨⟨-, d, entries, s, -, -, htext, huser, hentry, hstored⟩, hothers⟩ :=
    token_stored_iff_text kubeconfig (Bytes.ofString "é") place g hgenerate
  obtain ⟨g', hg', -, hsame⟩ := hothers (Bytes.ofString "è")
  have hs : s = "é" := Bytes.ofString_injective (hstored.2 ⟨_, rfl⟩)
  refine ⟨g, g', hgenerate, hg', fun heq => ?_, d, entries, htext, huser, hs ▸ hentry⟩
  exact absurd (Bytes.ofString_injective (hsame ⟨_, rfl⟩ ⟨_, rfl⟩ heq)) (by decide)

/-- **Octets that are no text are replaced.** Two tokens of one octet each
give the same document, which holds neither of them. -/
theorem token_replaced :
    let kubeconfig := Bytes.ofString "users: [user: \x7b\x7d]"
    let document := Bytes.ofString "users:\n- user:\n    token: \uFFFD\n"
    (generate kubeconfig [0xFF] {}).toOption.map (·.kubeconfig) = some document
      ∧ (generate kubeconfig [0xFE] {}).toOption.map (·.kubeconfig) = some document
      ∧ Bytes.ofString "\uFFFD" ≠ [0xFF] := by
  decide +kernel

end CredentialRotation.Kubeconfig
