/-!
# Records in documents

The values of this library are kept in documents of more than one format.
`Readable` is what a format has to offer for one of its nodes: the text,
the integer, the list it can be read as. A record is a node with named
fields; `Record.open?` finds the fields a value asks for, refuses one
that is given twice, and passes over all others.

A format may also hold a record as a list of its fields in order. Then
fields at the end may be missing only if they have a default.
-/

namespace CredentialRotation

/-- The members of a node that may be a record. -/
inductive Members (α : Type)
  | named (fields : List (String × α))
  | ordered (values : List α)

/-- What the nodes of a format can be read as. -/
class Readable (α : Type) where
  /-- A string. -/
  text? : α → Option String
  /-- An integer of sixty-four bits, with a sign if the flag is set. -/
  integer? : Bool → α → Option Int
  /-- A truth value. -/
  flag? : α → Option Bool
  /-- The node itself unless it is null. The outer `none` is a refusal. -/
  unlessNull? : α → Option (Option α)
  /-- The items of a list. -/
  items? : α → Option (List α)
  /-- The members of a record. -/
  members? : α → Option (Members α)
  /-- The name of an alternative without content. -/
  choice? : α → Option String

namespace Readable

variable {α : Type} [Readable α]

/-- The items of a list, each read by `read?`. -/
def listOf? {β : Type} (read? : α → Option β) (x : α) : Option (List β) :=
  (items? x).bind (·.mapM read?)

/-- What `read?` makes of a node that is not null. -/
def optionOf? {β : Type} (read? : α → Option β) (x : α) : Option (Option β) :=
  match unlessNull? x with
  | none => none
  | some none => some none
  | some (some y) => (read? y).map some

end Readable

/-- The fields of a record that were asked for, and whether they came in
order rather than by name. -/
structure Record (α : Type) where
  fields : List (String × Option α)
  ordered : Bool

namespace Record

variable {α β : Type} [Readable α]

/-- The fields of the given names. -/
def open? (names : List String) (x : α) : Option (Record α) :=
  match Readable.members? x with
  | none => none
  | some (.named given) =>
    let found := names.map fun name => (name, (given.filter (·.1 = name)).map (·.2))
    if found.any fun f => f.2.length > 1 then none
    else some ⟨found.map fun f => (f.1, f.2.head?), false⟩
  | some (.ordered values) =>
    if values.length > names.length then none
    else
      let padded := values.map some ++ List.replicate (names.length - values.length) none
      some ⟨names.zip padded, true⟩

variable (r : Record α)

/-- The node of a field. -/
def field? (name : String) : Option α :=
  (r.fields.find? (·.1 = name)).bind (·.2)

/-- A field that has to be there. -/
def required? (name : String) (read? : α → Option β) : Option β :=
  (r.field? name).bind read?

/-- A field with a default. -/
def withDefault? (name : String) (default : β) (read? : α → Option β) : Option β :=
  match r.field? name with
  | none => some default
  | some x => read? x

/-- A field that may be missing or null, in order only null. -/
def optional? (name : String) (read? : α → Option β) : Option (Option β) :=
  match r.field? name with
  | none => if r.ordered then none else some none
  | some x => Readable.optionOf? read? x

/-- A field that may be missing or null. -/
def optionalWithDefault? (name : String) (read? : α → Option β) : Option (Option β) :=
  r.withDefault? name none (Readable.optionOf? read?)

end Record

end CredentialRotation
