import CredentialRotation.Document.Record
import CredentialRotation.Yaml.Value

/-!
# Records in YAML

The readings of a YAML node. A scalar is read as what is asked for: any
scalar has a text, whatever it looks like, and an integer or a truth
value is a plain scalar spelled like one. An empty stream and an empty
plain scalar are also the empty list and the record without fields.
-/

namespace CredentialRotation.Yaml

open Number

/-- A node of a stream, or the absence of one, with the stream's
anchors. -/
structure Place where
  anchors : Node.Anchors
  node : Option (Node Nat)

namespace Place

/-- The place of an empty stream or of its root. -/
def ofStream (s : Stream) : Place := ⟨s.anchors, s.root⟩

/-- The root of a text. -/
def ofText? (s : String) : Option Place :=
  ((source? (Bytes.ofString s)).bind Stream.ofChars?).map ofStream

/-- The node at a place, an alias replaced by what it stands for. -/
def resolved? (p : Place) : Option (Node Nat) :=
  match p.node with
  | some (.alias n) => p.anchors.find? n
  | x => x

/-- Another node of the same stream. -/
def moveTo (p : Place) (x : Node Nat) : Place := ⟨p.anchors, some x⟩

/-- Whether nothing stands at a place. -/
def isEmpty (p : Place) : Bool :=
  match p.node, p.resolved? with
  | none, _ => true
  | _, some (.scalar _ _ [] .plain) => true
  | _, _ => false

/-- The text of a scalar. -/
def text? (p : Place) : Option String :=
  match p.resolved? with
  | some (.scalar _ _ cs _) => some (String.ofList cs)
  | _ => none

/-- The text of a scalar that may be spelled like a value of the core
type `type`: a plain one, or a literal one with the tag of the type. -/
def spelled? (type : String) (p : Place) : Option (List Char) :=
  match p.resolved? with
  | some (.scalar _ _ cs .plain) => some cs
  | some (.scalar _ tag cs .literal) => if tag = some (Value.coreTag type) then some cs else none
  | _ => none

/-- The integer of a scalar. Without a sign in the type there is none in
the text. -/
def integer? (signed : Bool) (p : Place) : Option Int := do
  let cs ← p.spelled? "int"
  let n ← Yaml.integer? cs
  if signed then (if int64Min ≤ n ∧ n ≤ int64Max then some n else none)
  else if cs.head? ≠ some '-' ∧ n ≤ nat64Max then some n
  else none

/-- Whether a scalar is null: plain and spelled so, or with nothing in
it. -/
def isNullText (cs : List Char) : Bool := cs.isEmpty || isNullWord cs

/-- The place itself unless it is null. -/
def unlessNull? (p : Place) : Option (Option Place) :=
  match p.node, p.resolved? with
  | none, _ => some none
  | _, some (.scalar _ none cs .plain) => some (if isNullText cs then none else some p)
  | _, some (.scalar _ (some tag) cs .plain) =>
    if tag = Value.coreTag "null" then (if isNullWord cs then some none else none)
    else some (some p)
  | _, some _ => some (some p)
  | _, none => none

/-- The items of a sequence. -/
def items? (p : Place) : Option (List Place) :=
  match p.resolved? with
  | some (.sequence _ _ xs) => some (xs.map p.moveTo)
  | _ => if p.isEmpty then some [] else none

/-- The members of a mapping, whose keys have to be scalars. -/
def members? (p : Place) : Option (Members Place) :=
  match p.resolved? with
  | some (.mapping _ _ ps) =>
    (ps.mapM fun (e : Node Nat × Node Nat) => (p.moveTo e.1).text?.map fun k => (k, p.moveTo e.2)).map
      .named
  | _ => if p.isEmpty then some (.named []) else none

/-- The name of an alternative: a scalar, or the tag of an empty one. -/
def choice? (p : Place) : Option String :=
  match p.resolved? with
  | some (.scalar _ tag cs style) =>
    match Value.localTag? tag with
    | some name => if style = .plain ∧ isNullText cs then some name else none
    | none => some (String.ofList cs)
  | _ => none

instance : Readable Place where
  text? := text?
  integer? := integer?
  flag? p := (p.spelled? "bool").bind boolWord?
  unlessNull? := unlessNull?
  items? := items?
  members? := members?
  choice? := choice?

end Place

end CredentialRotation.Yaml
