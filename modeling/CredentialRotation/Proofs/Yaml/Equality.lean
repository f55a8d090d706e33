import CredentialRotation.Yaml.Value

/-!
# Telling trees apart

Two YAML values are equal when they are the same tree: the same tags, and
the same entries in the same order. This is finer than `Value.same`, for
which the order of entries does not matter, and it can be decided
(`Value.identical_iff`).
-/

namespace CredentialRotation.Yaml.Value

mutual

/-- Whether two values are the same tree. -/
def identical : Value → Value → Bool
  | .null, .null => true
  | .bool a, .bool b => a = b
  | .number a, .number b => a = b
  | .string a, .string b => a = b
  | .sequence xs, .sequence ys => identicalItems xs ys
  | .mapping ms, .mapping ns => identicalEntries ms ns
  | .tagged s v, .tagged t w => s = t && identical v w
  | _, _ => false

/-- Whether two lists hold the same trees in the same order. -/
def identicalItems : List Value → List Value → Bool
  | [], [] => true
  | x :: xs, y :: ys => identical x y && identicalItems xs ys
  | _, _ => false

/-- Whether two lists hold the same entries in the same order. -/
def identicalEntries : List (Value × Value) → List (Value × Value) → Bool
  | [], [] => true
  | (k, v) :: ms, (l, w) :: ns => identical k l && identical v w && identicalEntries ms ns
  | _, _ => false

end

mutual

theorem identical_iff : ∀ v w : Value, identical v w = true ↔ v = w
  | .null, w | .bool _, w | .number _, w | .string _, w => by cases w <;> simp [identical]
  | .sequence xs, w => by cases w <;> simp [identical, identicalItems_iff xs]
  | .mapping ms, w => by cases w <;> simp [identical, identicalEntries_iff ms]
  | .tagged _ v, w => by cases w <;> simp [identical, identical_iff v]

theorem identicalItems_iff : ∀ xs ys : List Value, identicalItems xs ys = true ↔ xs = ys
  | [], ys => by cases ys <;> simp [identicalItems]
  | x :: xs, ys => by cases ys <;> simp [identicalItems, identical_iff x, identicalItems_iff xs]

theorem identicalEntries_iff :
    ∀ ms ns : List (Value × Value), identicalEntries ms ns = true ↔ ms = ns
  | [], ns => by cases ns <;> simp [identicalEntries]
  | (k, v) :: ms, [] => by simp [identicalEntries]
  | (k, v) :: ms, (l, w) :: ns => by
    simp [identicalEntries, identical_iff k, identical_iff v, identicalEntries_iff ms]

end

instance : DecidableEq Value := fun v w => decidable_of_iff _ (identical_iff v w)

end CredentialRotation.Yaml.Value
