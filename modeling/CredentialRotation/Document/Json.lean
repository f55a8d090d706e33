import CredentialRotation.Document.Record
import CredentialRotation.Json.Value

/-!
# Records in JSON

The readings of a JSON node. Nothing stands for anything else: a string
is no number, and a number with a fraction or an exponent is no integer.
An alternative without content is its name, or an object with that name
and null.
-/

namespace CredentialRotation.Json.Node

open Number

/-- The integer of a node, within sixty-four bits. -/
def integer? (signed : Bool) : Node → Option Int
  | .number l =>
    match l.numeric? with
    | some (.integer n) =>
      let lo : Int := if signed then int64Min else 0
      let hi : Int := if signed then int64Max else nat64Max
      if lo ≤ n ∧ n ≤ hi then some n else none
    | _ => none
  | _ => none

/-- The members of a node, their names well-formed text. -/
def members? : Node → Option (Members Node)
  | .object ms => (ms.mapM fun (m : Option String × Node) => m.1.map fun k => (k, m.2)).map .named
  | .array xs => some (.ordered xs)
  | _ => none

/-- The name of an alternative. -/
def choice? : Node → Option String
  | .string s => s
  | .object [(k, .null)] => k
  | _ => none

instance : Readable Node where
  text?
    | .string s => s
    | _ => none
  integer? := integer?
  flag?
    | .bool b => some b
    | _ => none
  unlessNull?
    | .null => some none
    | x => some (some x)
  items?
    | .array xs => some xs
    | _ => none
  members? := members?
  choice? := choice?

end CredentialRotation.Json.Node
