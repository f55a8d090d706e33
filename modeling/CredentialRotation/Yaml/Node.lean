import CredentialRotation.Yaml.Token.Stream

/-!
# The nodes of a YAML stream

A node is a scalar, a sequence, a mapping, or an alias for an earlier
node, with its anchor and its tag. `Stream.ofTokens?` reads the one node
a stream may hold; a stream with a second document is refused.

Anchors have names in a text and numbers afterwards. The number of an
anchor is the count of names before it, and an alias stands for the last
node with its number.
-/

namespace CredentialRotation.Yaml

/-- A node whose anchors are named by `α`. -/
inductive Node (α : Type)
  | alias (target : α)
  | scalar (anchor : Option α) (tag : Option (List Char)) (text : List Char) (style : Style)
  | sequence (anchor : Option α) (tag : Option (List Char)) (items : List (Node α))
  | mapping (anchor : Option α) (tag : Option (List Char)) (pairs : List (Node α × Node α))

namespace Node

/-- The node of an absent value. -/
def absent {α : Type} : Node α := .scalar none none [] .plain

/-! ## From tokens -/

/-- The tag of a handle and what follows it. A handle stands for its
abbreviation in `handles`; without a handle, the tag is spelled out. -/
def tag? (handles : List (List Char × List Char)) (handle suffix : List Char) :
    Option (List Char) :=
  if handle.isEmpty then some suffix
  else (handles.find? (·.1 = handle)).map fun h => h.2 ++ suffix

/-- The anchor and the tag before a node, in either order. -/
def properties? (handles : List (List Char × List Char)) :
    List Token → Option (Option (List Char) × Option (List Char) × List Token)
  | .anchor a :: .tag h s :: r => (tag? handles h s).map fun t => (some a, some t, r)
  | .tag h s :: .anchor a :: r => (tag? handles h s).map fun t => (some a, some t, r)
  | .anchor a :: r => some (some a, none, r)
  | .tag h s :: r => (tag? handles h s).map fun t => (none, some t, r)
  | r => some (none, none, r)

/-- Whether the next token ends an entry of a block sequence. -/
def endsItem : List Token → Bool
  | .blockEntry :: _ => true
  | .blockEnd :: _ => true
  | _ => false

/-- Whether the next token ends a key or a value of a block mapping. -/
def endsField : List Token → Bool
  | .key :: _ => true
  | .value :: _ => true
  | .blockEnd :: _ => true
  | _ => false

/-- Whether the next token ends an entry of a flow sequence. -/
def endsFlowItem : List Token → Bool
  | .flowEntry :: _ => true
  | .flowSequenceEnd :: _ => true
  | _ => false

/-- Whether the next token ends a key or a value of a flow mapping. -/
def endsFlowField : List Token → Bool
  | .flowEntry :: _ => true
  | .flowMappingEnd :: _ => true
  | _ => false

/-- Whether the next token is the mark of a value. -/
def startsValue : List Token → Bool
  | .value :: _ => true
  | _ => false

mutual

/-- A node. Blocks are read where `block` allows them, and a sequence at
the indentation of its parent where `level` does. -/
def read? (handles : List (List Char × List Char)) :
    Nat → Bool → Bool → List Token → Option (Node (List Char) × List Token)
  | 0, _, _, _ => none
  | _ + 1, _, _, .alias name :: r => some (.alias name, r)
  | fuel + 1, block, level, ts =>
    match properties? handles ts with
    | none => none
    | some (anchor, tag, r) =>
      let other :=
        if anchor.isSome || tag.isSome then some (.scalar anchor tag [] .plain, r) else none
      match r with
      | .scalar text style :: r => some (.scalar anchor (tag.filter (· ≠ ['!'])) text style, r)
      | .flowSequenceStart :: r =>
        (readFlowItems? handles fuel true r).map fun (xs, r) => (.sequence anchor tag xs, r)
      | .flowMappingStart :: r =>
        (readFlowPairs? handles fuel true r).map fun (ps, r) => (.mapping anchor tag ps, r)
      | .blockEntry :: _ =>
        if level then
          (readLevelItems? handles fuel r).map fun (xs, r) => (.sequence anchor tag xs, r)
        else other
      | .blockSequenceStart :: r' =>
        if block then
          (readItems? handles fuel r').map fun (xs, r) => (.sequence anchor tag xs, r)
        else other
      | .blockMappingStart :: r' =>
        if block then
          (readPairs? handles fuel r').map fun (ps, r) => (.mapping anchor tag ps, r)
        else other
      | _ => other

/-- The entries of a block sequence. -/
def readItems? (handles : List (List Char × List Char)) :
    Nat → List Token → Option (List (Node (List Char)) × List Token)
  | 0, _ => none
  | fuel + 1, .blockEntry :: r =>
    match (if endsItem r then some (absent, r) else read? handles fuel true false r) with
    | none => none
    | some (x, r) => (readItems? handles fuel r).map fun (xs, r) => (x :: xs, r)
  | _ + 1, .blockEnd :: r => some ([], r)
  | _ + 1, _ => none

/-- The entries of a sequence at the indentation of its parent. -/
def readLevelItems? (handles : List (List Char × List Char)) :
    Nat → List Token → Option (List (Node (List Char)) × List Token)
  | 0, _ => none
  | fuel + 1, .blockEntry :: r =>
    match (if endsItem r || endsField r then some (absent, r)
      else read? handles fuel true false r) with
    | none => none
    | some (x, r) => (readLevelItems? handles fuel r).map fun (xs, r) => (x :: xs, r)
  | _ + 1, r => some ([], r)

/-- The entries of a block mapping. -/
def readPairs? (handles : List (List Char × List Char)) :
    Nat → List Token → Option (List (Node (List Char) × Node (List Char)) × List Token)
  | 0, _ => none
  | fuel + 1, .key :: r =>
    match (if endsField r then some (absent, r) else read? handles fuel true true r) with
    | none => none
    | some (k, r) =>
      let value :=
        match r with
        | .value :: r => if endsField r then some (absent, r) else read? handles fuel true true r
        | r => some (absent, r)
      match value with
      | none => none
      | some (v, r) => (readPairs? handles fuel r).map fun (ps, r) => ((k, v) :: ps, r)
  | _ + 1, .blockEnd :: r => some ([], r)
  | _ + 1, _ => none

/-- The entries of a flow sequence. An entry with the mark of a key is a
mapping of one pair; an absent key takes the token after its mark with
it. -/
def readFlowItems? (handles : List (List Char × List Char)) :
    Nat → Bool → List Token → Option (List (Node (List Char)) × List Token)
  | 0, _, _ => none
  | _ + 1, _, .flowSequenceEnd :: r => some ([], r)
  | fuel + 1, first, ts =>
    let entry :=
      match first, ts with
      | true, r => some r
      | false, .flowEntry :: r => some r
      | false, _ => none
    match entry with
    | none => none
    | some (.flowSequenceEnd :: r) => some ([], r)
    | some (.key :: r) =>
      match (if startsValue r || endsFlowItem r then some (absent, r.drop 1)
        else read? handles fuel false false r) with
      | none => none
      | some (k, r) =>
        let value :=
          match r with
          | .value :: r =>
            if endsFlowItem r then some (absent, r) else read? handles fuel false false r
          | r => some (absent, r)
        match value with
        | none => none
        | some (v, r) =>
          (readFlowItems? handles fuel false r).map fun (xs, r) =>
            (.mapping none none [(k, v)] :: xs, r)
    | some r =>
      match read? handles fuel false false r with
      | none => none
      | some (x, r) => (readFlowItems? handles fuel false r).map fun (xs, r) => (x :: xs, r)

/-- The entries of a flow mapping. -/
def readFlowPairs? (handles : List (List Char × List Char)) :
    Nat → Bool → List Token → Option (List (Node (List Char) × Node (List Char)) × List Token)
  | 0, _, _ => none
  | _ + 1, _, .flowMappingEnd :: r => some ([], r)
  | fuel + 1, first, ts =>
    let entry :=
      match first, ts with
      | true, r => some r
      | false, .flowEntry :: r => some r
      | false, _ => none
    match entry with
    | none => none
    | some (.flowMappingEnd :: r) => some ([], r)
    | some (.key :: r) =>
      match (if startsValue r || endsFlowField r then some (absent, r)
        else read? handles fuel false false r) with
      | none => none
      | some (k, r) =>
        let value :=
          match r with
          | .value :: r =>
            if endsFlowField r then some (absent, r) else read? handles fuel false false r
          | r => some (absent, r)
        match value with
        | none => none
        | some (v, r) =>
          (readFlowPairs? handles fuel false r).map fun (ps, r) => ((k, v) :: ps, r)
    | some r =>
      match read? handles fuel false false r with
      | none => none
      | some (k, r) =>
        (readFlowPairs? handles fuel false r).map fun (ps, r) => ((k, absent) :: ps, r)

end

/-! ## Anchors -/

/-- The anchors met so far: the number of each name, the nodes by number
and by the place where they start, and the number of places so far. A
collection takes two places, its start and its end. -/
structure Anchors where
  numbers : List (List Char × Nat)
  nodes : List (Nat × Nat × Node Nat)
  places : Nat

namespace Anchors

/-- With an anchor's name declared at the next place. -/
def declare (s : Anchors) (name : Option (List Char)) : Option Nat × Anchors :=
  match name with
  | none => (none, { s with places := s.places + 1 })
  | some a =>
    let n := s.numbers.length
    (some n,
      { s with
        numbers := (a, n) :: s.numbers.filter (·.1 ≠ a)
        places := s.places + 1 })

/-- With the node of a number that starts at `place`. -/
def record (s : Anchors) (number : Option Nat) (place : Nat) (x : Node Nat) : Anchors :=
  match number with
  | none => s
  | some n => { s with nodes := (n, place, x) :: s.nodes }

/-- The node of a number that starts last. -/
def find? (s : Anchors) (n : Nat) : Option (Node Nat) :=
  (s.nodes.foldl (fun best e =>
    if e.1 = n then
      match best with
      | some (p, _) => if p < e.2.1 then some e.2 else best
      | none => some e.2
    else best) none).map (·.2)

end Anchors

mutual

/-- A node with its anchors numbered; an alias without an anchor before
it is refused. -/
def number? : Node (List Char) → Anchors → Option (Node Nat × Anchors)
  | .alias name, s =>
    (s.numbers.find? (·.1 = name)).map fun e =>
      (.alias e.2, { s with places := s.places + 1 })
  | .scalar anchor tag text style, s =>
    let (n, t) := s.declare anchor
    let x := .scalar n tag text style
    some (x, t.record n s.places x)
  | .sequence anchor tag items, s =>
    let (n, t) := s.declare anchor
    (numberItems? items t).map fun (xs, t) =>
      let x := .sequence n tag xs
      (x, { t.record n s.places x with places := t.places + 1 })
  | .mapping anchor tag pairs, s =>
    let (n, t) := s.declare anchor
    (numberPairs? pairs t).map fun (ps, t) =>
      let x := .mapping n tag ps
      (x, { t.record n s.places x with places := t.places + 1 })

/-- Items with their anchors numbered. -/
def numberItems? : List (Node (List Char)) → Anchors → Option (List (Node Nat) × Anchors)
  | [], s => some ([], s)
  | x :: xs, s =>
    match number? x s with
    | none => none
    | some (x, s) => (numberItems? xs s).map fun (xs, s) => (x :: xs, s)

/-- Pairs with their anchors numbered. -/
def numberPairs? : List (Node (List Char) × Node (List Char)) → Anchors →
    Option (List (Node Nat × Node Nat) × Anchors)
  | [], s => some ([], s)
  | (k, v) :: ps, s =>
    match number? k s with
    | none => none
    | some (k, s) =>
      match number? v s with
      | none => none
      | some (v, s) => (numberPairs? ps s).map fun (ps, s) => ((k, v) :: ps, s)

end

end Node

/-! ## Streams -/

/-- The node of a stream, `none` for an empty one, and its anchors. -/
structure Stream where
  root : Option (Node Nat)
  anchors : Node.Anchors

namespace Stream

/-- The handles every document knows. -/
def handles : List (List Char × List Char) :=
  [(['!'], ['!']), (['!', '!'], "tag:yaml.org,2002:".toList)]

/-- The handles that directives declare, the version seen, and what
follows them. A version or a handle is declared once, and only the two
versions of the format are known. -/
def directives? : List (List Char × List Char) → Bool → List Token →
    Option (List (List Char × List Char) × List Token)
  | known, version, .versionDirective major minor :: r =>
    if version || major ≠ 1 || (minor ≠ 1 && minor ≠ 2) then none
    else directives? known true r
  | known, version, .tagDirective handle expansion :: r =>
    if known.any (·.1 = handle) then none
    else directives? (known ++ [(handle, expansion)]) version r
  | known, _, r => some (known, r)

/-- Whether the next token is a mark between documents. -/
def isBoundary : List Token → Bool
  | .versionDirective .. :: _ => true
  | .tagDirective .. :: _ => true
  | .documentStart :: _ => true
  | .documentEnd :: _ => true
  | .streamEnd :: _ => true
  | _ => false

/-- The root of a stream and what follows it. -/
def root? (ts : List Token) : Option (Option (Node (List Char)) × List Token) :=
  match ts with
  | .streamEnd :: _ => some (none, ts)
  | .versionDirective .. :: _ | .tagDirective .. :: _ | .documentStart :: _ => do
    let (known, r) ← directives? [] false ts
    match r with
    | .documentStart :: r =>
      if isBoundary r then some (some Node.absent, r)
      else
        (Node.read? (known ++ handles) (2 * r.length + 2) true false r).map fun (x, r) => (some x, r)
    | _ => none
  | _ => (Node.read? handles (2 * ts.length + 2) true false ts).map fun (x, r) => (some x, r)

/-- The stream of tokens. -/
def ofTokens? (ts : List Token) : Option Stream := do
  let (root, r) ← root? ts
  if r.dropWhile (· = .documentEnd) ≠ [.streamEnd] then none
  else
    match root with
    | none => some ⟨none, ⟨[], [], 0⟩⟩
    | some x => (Node.number? x ⟨[], [], 0⟩).map fun (x, anchors) => ⟨some x, anchors⟩

/-- The stream of a text. -/
def ofChars? (cs : List Char) : Option Stream :=
  (Token.scan? cs).bind ofTokens?

end Stream

end CredentialRotation.Yaml
