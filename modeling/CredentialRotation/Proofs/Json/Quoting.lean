import CredentialRotation.Json.Value

/-!
# Strings in JSON

A string as it is written is read back, whatever characters it holds and
whatever follows it. Reading goes by code units: an escape is one, and so
is any other character. A character is never a surrogate, so no two code
units of a written string are taken for one character.
-/

namespace CredentialRotation

/-- Two digits of either half of a number are read back. -/
theorem Hex.number?_control : ∀ n < 0x20,
    number? ['0', '0', digit (n / 16), digit (n % 16)] = some n := by decide

namespace Json

variable {c : Char} {cs : List Char} {r : List Symbol}

/-! ## Code units -/

/-- The characters that are written with an escape of one letter. -/
def letterEscaped : List Char := ['"', '\\', '\n', '\r', '\t', '\x08', '\x0c']

theorem escapeChar_of_not_mem (h : c ∉ letterEscaped) : escapeChar c =
    if c.toNat < 0x20 then
      ['\\', 'u', '0', '0', Hex.digit (c.toNat / 16), Hex.digit (c.toNat % 16)]
    else [c] := by
  simp only [letterEscaped, List.mem_cons, List.not_mem_nil, or_false, not_or] at h
  simp only [escapeChar, h, if_false]

/-- **A character of a string is one code unit**, escaped or not. -/
theorem stringUnits?_escapeChar (c : Char) (r : List Symbol) :
    stringUnits? ((escapeChar c).map some ++ r)
      = (stringUnits? r).map fun (us, r) => (c.toNat :: us, r) := by
  by_cases hletter : c ∈ letterEscaped
  · simp only [letterEscaped, List.mem_cons, List.not_mem_nil, or_false] at hletter
    rcases hletter with rfl | rfl | rfl | rfl | rfl | rfl | rfl <;> rfl
  · rw [escapeChar_of_not_mem hletter]
    split
    · next hcontrol =>
      simp only [List.map_cons, List.map_nil, List.cons_append, List.nil_append, stringUnits?,
        Hex.number?_control _ hcontrol]
    · next hcontrol =>
      simp only [letterEscaped, List.mem_cons, not_or] at hletter
      rw [List.map_singleton, List.singleton_append, stringUnits?, if_neg hcontrol]
      · exact hletter.1
      · exact fun _ _ _ _ _ _ => hletter.2.1
      · exact fun _ _ _ => hletter.2.1
      · exact hletter.2.1

/-- The code units of a written string are its characters. -/
theorem stringUnits?_escaped (cs : List Char) (r : List Symbol) :
    stringUnits? ((cs.flatMap escapeChar).map some ++ some '"' :: r)
      = some (cs.map Char.toNat, r) := by
  induction cs with
  | nil => rfl
  | cons c cs ih =>
    rw [List.flatMap_cons, List.map_append, List.append_assoc, stringUnits?_escapeChar, ih]
    rfl

/-! ## Characters -/

theorem characters?_singleton {n : Nat} (h : n.isValidChar) :
    characters? [n] = some [Char.ofNatAux n h] := dif_pos h

/-- A code unit that is no surrogate is a character by itself. -/
theorem characters?_cons_cons {n m : Nat} {us : List Nat} (h : n.isValidChar)
    (hhigh : ¬(0xD800 ≤ n ∧ n ≤ 0xDBFF)) :
    characters? (n :: m :: us) = (characters? (m :: us)).map (Char.ofNatAux n h :: ·) :=
  (if_neg hhigh).trans (dif_pos h)

/-- **Characters are no surrogates**, and are read one by one. -/
theorem characters?_map_toNat (cs : List Char) : characters? (cs.map Char.toNat) = some cs := by
  induction cs with
  | nil => rfl
  | cons c cs ih =>
    have hvalid : c.toNat.isValidChar := c.valid
    have hchar : Char.ofNatAux c.toNat hvalid = c := rfl
    have hhigh : ¬(0xD800 ≤ c.toNat ∧ c.toNat ≤ 0xDBFF) := by
      have := hvalid
      simp only [Nat.isValidChar] at this
      omega
    cases cs with
    | nil => rw [List.map_singleton, characters?_singleton hvalid, hchar]
    | cons d cs =>
      rw [List.map_cons, List.map_cons, characters?_cons_cons hvalid hhigh, ← List.map_cons, ih,
        Option.map_some, hchar]

/-- **A string that is written is read back**, whatever follows. -/
theorem string?_escaped (s : String) (r : List Symbol) :
    string? ((s.toList.flatMap escapeChar).map some ++ some '"' :: r) = some (some s, r) := by
  rw [string?, stringUnits?_escaped, Option.map_some]
  dsimp only
  rw [characters?_map_toNat, Option.map_some, String.ofList_toList]

end Json

end CredentialRotation
