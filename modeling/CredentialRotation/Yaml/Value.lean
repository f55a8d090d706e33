import CredentialRotation.Yaml.Node
import CredentialRotation.Yaml.Scalar
import CredentialRotation.Yaml.Source

/-!
# YAML values

The tree a stream denotes: aliases replaced by what they stand for, plain
scalars by their meaning, mappings in order and with each key once. A tag
that begins with `!` stays with its value; the tags of the core schema
decide the meaning of a scalar and are gone afterwards.

Collections nest `Yaml.maxDepth` deep at most, and the number of aliases
followed is bounded by a hundred for each place of the stream, so that a
small text cannot denote an enormous tree.
-/

namespace CredentialRotation.Yaml

open Number

/-- A YAML value. -/
inductive Value
  | null
  | bool (b : Bool)
  | number (n : Numeric)
  | string (s : String)
  | sequence (items : List Value)
  | mapping (entries : List (Value × Value))
  | tagged (tag : String) (value : Value)

/-- How deep collections may nest. -/
def maxDepth : Nat := 128

/-- How many aliases may be followed for each place. -/
def aliasesPerPlace : Nat := 100

namespace Value

mutual

/-- Whether two values are the same. Mappings are when they hold the same
entries, in whatever order. -/
def same : Value → Value → Bool
  | .null, .null => true
  | .bool a, .bool b => a = b
  | .number a, .number b => a.same b
  | .string a, .string b => a = b
  | .sequence xs, .sequence ys => sameItems xs ys
  | .mapping ms, .mapping ns => ms.length = ns.length && sameEntries ms ns
  | .tagged s a, .tagged t b => s = t && same a b
  | _, _ => false

/-- Whether two lists hold the same values in the same order. -/
def sameItems : List Value → List Value → Bool
  | [], [] => true
  | x :: xs, y :: ys => same x y && sameItems xs ys
  | _, _ => false

/-- Whether every entry of the first list is one of the second. -/
def sameEntries : List (Value × Value) → List (Value × Value) → Bool
  | [], _ => true
  | (k, v) :: ms, ns => ns.any (fun e => same k e.1 && same v e.2) && sameEntries ms ns

end

/-- Whether no key occurs twice. -/
def hasDistinctKeys : List (Value × Value) → Bool
  | [] => true
  | (k, _) :: ms => !ms.any (fun e => same k e.1) && hasDistinctKeys ms

/-- The value behind a tag. -/
def untag : Value → Value
  | .tagged _ v => untag v
  | v => v

/-- The value of a string key. -/
def entry? (name : String) : List (Value × Value) → Option Value
  | [] => none
  | (.string k, v) :: ms => if k = name then some v else entry? name ms
  | _ :: ms => entry? name ms

/-- The value of a string key of a mapping, tags aside. -/
def field? (v : Value) (name : String) : Option Value :=
  match v.untag with
  | .mapping ms => entry? name ms
  | _ => none

/-- The items of a sequence, tags aside. -/
def items? (v : Value) : Option (List Value) :=
  match v.untag with
  | .sequence xs => some xs
  | _ => none

/-- The text of a string, tags aside. -/
def text? (v : Value) : Option String :=
  match v.untag with
  | .string s => some s
  | _ => none

/-! ## From nodes -/

/-- The tags of the core schema. -/
def coreTag (name : String) : List Char := "tag:yaml.org,2002:".toList ++ name.toList

/-- The name of a tag that stays with its value. A second `!` is no part
of it unless it is all there is. -/
def localTag? : Option (List Char) → Option String
  | some ('!' :: '!' :: c :: name) => some (String.ofList (c :: name))
  | some ('!' :: name) => some (String.ofList name)
  | _ => none

/-- The meaning of a plain scalar as a value. -/
def ofPlain? (cs : List Char) : Option Value :=
  match Plain.ofChars cs with
  | .null => some .null
  | .bool b => some (.bool b)
  | .number n => some (.number n)
  | .wide => none
  | .text => some (.string (String.ofList cs))

/-- The value of a scalar with a tag that does not stay with it, or
without a tag. -/
def ofScalar? (tag : Option (List Char)) (cs : List Char) (style : Style) : Option Value :=
  match tag with
  | none => if style = .plain then ofPlain? cs else some (.string (String.ofList cs))
  | some t =>
    if t = coreTag "bool" then (boolWord? cs).map .bool
    else if t = coreTag "int" then
      match (integer? cs).bind Plain.ofInteger? with
      | some (.number n) => some (.number n)
      | _ => none
    else if t = coreTag "float" then (binary? cs).map fun x => .number (.binary x)
    else if t = coreTag "null" then (if isNullWord cs then some .null else none)
    else some (.string (String.ofList cs))

/-- A value with its tag. The empty tag is refused. -/
def withTag? (tag : Option (List Char)) (v : Value) : Option Value :=
  match localTag? tag with
  | some name => if name.isEmpty then none else some (.tagged name v)
  | none => some v

/-- The node a node stands for, with the number of aliases followed so
far, of which there may be `limit`. -/
def follow? (anchors : Node.Anchors) (limit : Nat) (x : Node Nat) (followed : Nat) :
    Option (Node Nat × Nat) :=
  match x with
  | .alias n =>
    if followed + 1 > limit then none
    else (anchors.find? n).map (·, followed + 1)
  | x => some (x, followed)

/-- The values of nodes in order, the count of aliases handed on. -/
def eachNode? (read : Node Nat → Nat → Option (Value × Nat)) :
    List (Node Nat) → Nat → Option (List Value × Nat)
  | [], k => some ([], k)
  | x :: xs, k =>
    match read x k with
    | none => none
    | some (v, k) => (eachNode? read xs k).map fun (vs, k) => (v :: vs, k)

/-- The entries of pairs of nodes in order, the count of aliases handed
on. -/
def eachPair? (read : Node Nat → Nat → Option (Value × Nat)) :
    List (Node Nat × Node Nat) → Nat → Option (List (Value × Value) × Nat)
  | [], k => some ([], k)
  | (x, y) :: ps, k =>
    match read x k with
    | none => none
    | some (a, k) =>
      match read y k with
      | none => none
      | some (b, k) => (eachPair? read ps k).map fun (ms, k) => ((a, b) :: ms, k)

/-- The value of a node that nests at most `depth` deep. -/
def ofNode? (anchors : Node.Anchors) (limit : Nat) (depth : Nat) (x : Node Nat) (k : Nat) :
    Option (Value × Nat) :=
  match follow? anchors limit x k with
  | none => none
  | some (.alias _, _) => none
  | some (.scalar _ tag cs style, k) =>
    let plainTag := if (localTag? tag).isSome then none else tag
    ((ofScalar? plainTag cs style).bind (withTag? tag)).map (·, k)
  | some (.sequence _ tag xs, k) =>
    match depth with
    | 0 => none
    | depth + 1 =>
      match eachNode? (ofNode? anchors limit depth) xs k with
      | none => none
      | some (vs, k) => (withTag? tag (.sequence vs)).map (·, k)
  | some (.mapping _ tag ps, k) =>
    match depth with
    | 0 => none
    | depth + 1 =>
      match eachPair? (ofNode? anchors limit depth) ps k with
      | none => none
      | some (ms, k) =>
        if hasDistinctKeys ms then (withTag? tag (.mapping ms)).map (·, k) else none

/-- The value of a stream; nothing at all is null. -/
def ofStream? (s : Stream) : Option Value :=
  match s.root with
  | none => some .null
  | some x =>
    (ofNode? s.anchors (aliasesPerPlace * s.anchors.places) maxDepth x 0).map (·.1)

/-- The value that octets spell. -/
def ofBytes? (bs : Bytes) : Option Value :=
  ((source? bs).bind Stream.ofChars?).bind ofStream?

end Value

end CredentialRotation.Yaml
