import CredentialRotation.Number.Integer
import CredentialRotation.Text.Blank

/-!
# Log filters

A filter is a list of directives with commas between them. A directive
is a level, or a target, a span in brackets or both, with a level after
an equals sign or without. A span is a name with one field in braces or
without. Blanks may stand around a directive without a level, but not
around one with a level.
-/

namespace CredentialRotation.Trace

/-- The names of the levels. -/
def levelNames : List String := ["off", "error", "warn", "info", "debug", "trace"]

/-- Whether a text is a level: a name in any case, or a number up to
five. -/
def isLevel (cs : List Char) : Bool :=
  let digits := match cs with
    | '+' :: r => r
    | r => r
  match Number.natural? 10 digits with
  | some n => n ≤ 5
  | none => String.ofList (cs.map Char.toLower) ∈ levelNames

/-- Whether a target may start with a character. -/
def startsTarget (c : Char) : Bool :=
  c = '-' || c = ':' || c = '_' || c.isAlphanum || 0x80 ≤ c.toNat

/-- Whether a text is empty, or an equals sign with a level or nothing
after it. -/
def isLevelSuffix (padded : Bool) : List Char → Bool
  | [] => true
  | '=' :: level => !padded && (level.isEmpty || isLevel level)
  | _ => false

/-- Whether a text is the rest of a span from after its opening bracket,
with a level or without. -/
def isSpan (padded : Bool) (cs : List Char) : Bool :=
  match cs.dropWhile fun c => c ≠ ']' && c ≠ '{' with
  | ']' :: r => isLevelSuffix padded r
  | '{' :: r =>
    let field := r.takeWhile (· ≠ '}')
    match r.dropWhile (· ≠ '}') with
    | '}' :: ']' :: r => !field.isEmpty && isLevelSuffix padded r
    | _ => false
  | _ => false

/-- Whether a text is a directive. -/
def isDirective (cs : List Char) : Bool :=
  let core := Text.trim cs
  let padded := core ≠ cs
  match core with
  | [] => false
  | '[' :: r => isSpan padded r
  | c :: r =>
    if startsTarget c then
      match r.dropWhile fun c => c ≠ '=' && c ≠ '[' with
      | '[' :: r => isSpan padded r
      | r => isLevelSuffix padded r
    else false

/-- The pieces of a text between commas. -/
def pieces : List Char → List (List Char)
  | [] => [[]]
  | ',' :: r => [] :: pieces r
  | c :: r =>
    match pieces r with
    | [] => [[c]]
    | p :: ps => (c :: p) :: ps

/-- Whether a text is a filter. Empty directives are passed over. -/
def isFilter (s : String) : Bool :=
  (pieces s.toList).all fun p => p.isEmpty || isDirective p

end CredentialRotation.Trace
