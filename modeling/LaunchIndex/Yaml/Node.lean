import LaunchIndex.Yaml.Kind
import LaunchIndex.Yaml.Token

/-! The nodes of a YAML document: scalars, sequences and mappings. Nodes are numbered in the order
in which they start, and a collection names its members by their numbers, so that an alias is
the number of the node with its anchor. -/

namespace LaunchIndex.Yaml

/-- What a node holds. -/
inductive Shape where
  | scalar (text : Text)
  | sequence (items : List Nat)
  | mapping (entries : List (Nat × Nat))

structure Node where
  kind : Kind
  shape : Shape

namespace Node

/-- What an omitted node stands for. -/
def empty : Node := ⟨.null, .scalar []⟩

/-- The tokens that are left, why they break off, the nodes so far, those with anchors, and what
the handles of tags stand for. -/
structure Reader where
  tokens : List Token
  flaw : Fault
  nodes : Array Node := #[]
  anchors : List (Text × Nat) := []
  handles : List (Text × Text) := []

/-- The start of the tags of the standard set. -/
def standardTag : Text := "tag:yaml.org,2002:"

/-- What the handles of tags stand for unless directives say otherwise. -/
def standardHandles : List (Text × Text) := [("!", "!"), ("!!", standardTag)]

/-- Whether a list of tokens goes on with one of several tokens. -/
def startsWith (tokens : List Token) (any : List Token) : Bool :=
  match tokens with
  | t :: _ => any.contains t
  | [] => false

/-- Why the next token cannot be there. -/
def Reader.unexpected (r : Reader) : Fault :=
  if startsWith r.tokens [.broken] then r.flaw else .malformedYaml

/-- The reader if there is a next token or the text ends. -/
def Reader.ensureToken (r : Reader) : Outcome Unit :=
  if startsWith r.tokens [.broken] then .error r.flaw else .ok ()

/-- The reader with one more node, and the number of the node. -/
def Reader.add (node : Node) (r : Reader) : Nat × Reader :=
  (r.nodes.size, { r with nodes := r.nodes.push node })

structure Properties where
  anchor : Option Text := none
  tag : Option Tag := none

/-- An anchor and a tag in either order. -/
def properties (tokens : List Token) : Properties × List Token :=
  match tokens with
  | .anchor a :: .tag t :: rest => (⟨some a, some t⟩, rest)
  | .tag t :: .anchor a :: rest => (⟨some a, some t⟩, rest)
  | .anchor a :: rest => (⟨some a, none⟩, rest)
  | .tag t :: rest => (⟨none, some t⟩, rest)
  | rest => ({}, rest)

/-- A tag in full. A handle must have a meaning. -/
def fullTag (handles : List (Text × Text)) (tag : Tag) : Outcome Text :=
  match tag.handle with
  | none => .ok tag.suffix
  | some handle =>
    match handles.find? fun h => h.1 == handle with
    | some h => .ok (h.2 ++ tag.suffix)
    | none => .error .malformedYaml

def standardName? (tag : Text) : Option Text :=
  if standardTag.isPrefixOf tag then some (tag.drop standardTag.length) else none

/-- The kind that a tag tells. A lone exclamation mark leaves it to the node itself. -/
def taggedKind (tag : Option Text) (untagged byItself : Kind) : Kind :=
  match tag with
  | none => untagged
  | some tag =>
    if tag = Text.ofString "!" then byItself
    else ((standardName? tag).bind Kind.ofName?).getD .unknown

def ofScalar (tag : Option Text) (plain : Bool) (text : Text) : Node :=
  let byForm : Kind :=
    match text.mapM CodePoint.toChar? with
    | some cs => Kind.ofForm cs
    | none => .text
  ⟨taggedKind tag (if plain then byForm else .text) byForm, .scalar text⟩

def Reader.addNamed (anchor : Option Text) (node : Node) (r : Reader) : Outcome (Nat × Reader) :=
  match anchor with
  | none => .ok (r.add node)
  | some name =>
    if r.anchors.any fun a => a.1 == name then .error .malformedYaml
    else
      let (number, r) := r.add node
      .ok (number, { r with anchors := (name, number) :: r.anchors })

/-- The reader with the members of a collection filled in. -/
def Reader.fill (number : Nat) (shape : Shape) (r : Reader) : Reader :=
  { r with nodes := r.nodes.modify number fun node => { node with shape } }

mutual

/-- The number of a node with its properties. `inBlock` tells whether a block may start here, and
`unindented` whether the items of a sequence may stand in the column of the block around it. -/
def read (inBlock unindented : Bool) (r : Reader) : Nat → Outcome (Nat × Reader)
  | 0 => .error .malformedYaml
  | fuel + 1 =>
    match r.tokens with
    | .alias name :: rest =>
      match r.anchors.find? fun a => a.1 == name with
      | some a => .ok (a.2, { r with tokens := rest })
      | none => .error .malformedYaml
    | tokens => do
      let (props, tokens) := properties tokens
      let r := { r with tokens }
      if props.anchor.isNone ∨ props.tag.isNone then r.ensureToken
      let tag ←
        match props.tag with
        | none => .ok none
        | some t => (fullTag r.handles t).map some
      r.ensureToken
      let collection (kind : Kind) (rest : List Token)
          (members : Reader → Outcome (Shape × Reader)) : Outcome (Nat × Reader) := do
        let (number, r) ←
          ({ r with tokens := rest }).addNamed props.anchor ⟨taggedKind tag kind kind, .scalar []⟩
        let (shape, r) ← members r
        return (number, r.fill number shape)
      let omitted : Outcome (Nat × Reader) :=
        if props.anchor.isSome ∨ tag.isSome then r.addNamed props.anchor (ofScalar tag true [])
        else .error .malformedYaml
      match tokens with
      | .item :: _ =>
        if unindented then collection .sequence tokens fun r => unindentedItems [] r fuel
        else omitted
      | .scalar plain text :: rest =>
        ({ r with tokens := rest }).addNamed props.anchor (ofScalar tag plain text)
      | .flowSequence :: rest => collection .sequence rest fun r => flowItems true [] r fuel
      | .flowMapping :: rest => collection .mapping rest fun r => flowEntries true [] r fuel
      | tokens =>
        match inBlock, tokens with
        | true, .blockSequence :: rest => collection .sequence rest fun r => blockItems [] r fuel
        | true, .blockMapping :: rest => collection .mapping rest fun r => blockEntries [] r fuel
        | _, _ => omitted

/-- A node, or an omitted one where one of several tokens comes next. -/
def readUnless (enders : List Token) (inBlock unindented : Bool) (r : Reader) :
    Nat → Outcome (Nat × Reader)
  | 0 => .error .malformedYaml
  | fuel + 1 =>
    if startsWith r.tokens enders then .ok (r.add empty) else read inBlock unindented r fuel

/-- The items of a block sequence up to its end. -/
def blockItems (items : List Nat) (r : Reader) : Nat → Outcome (Shape × Reader)
  | 0 => .error .malformedYaml
  | fuel + 1 =>
    match r.tokens with
    | .item :: rest => do
      let (item, r) ← readUnless [.item, .blockEnd] true false { r with tokens := rest } fuel
      blockItems (item :: items) r fuel
    | .blockEnd :: rest => .ok (.sequence items.reverse, { r with tokens := rest })
    | _ => .error r.unexpected

/-- The items of a sequence in the column of the mapping around it. -/
def unindentedItems (items : List Nat) (r : Reader) : Nat → Outcome (Shape × Reader)
  | 0 => .error .malformedYaml
  | fuel + 1 =>
    match r.tokens with
    | .item :: rest => do
      let (item, r) ←
        readUnless [.item, .key, .value, .blockEnd] true false { r with tokens := rest } fuel
      unindentedItems (item :: items) r fuel
    | _ => do
      r.ensureToken
      return (.sequence items.reverse, r)

/-- The entries of a block mapping up to its end. -/
def blockEntries (entries : List (Nat × Nat)) (r : Reader) : Nat → Outcome (Shape × Reader)
  | 0 => .error .malformedYaml
  | fuel + 1 =>
    let enders : List Token := [.key, .value, .blockEnd]
    match r.tokens with
    | .key :: rest => do
      let (key, r) ← readUnless enders true true { r with tokens := rest } fuel
      let (value, r) ←
        match r.tokens with
        | .value :: rest => readUnless enders true true { r with tokens := rest } fuel
        | _ => .ok (r.add empty)
      blockEntries ((key, value) :: entries) r fuel
    | .blockEnd :: rest => .ok (.mapping entries.reverse, { r with tokens := rest })
    | _ => .error r.unexpected

/-- A value behind its colon, or an omitted one where there is no colon. -/
def flowValue (enders : List Token) (r : Reader) : Nat → Outcome (Nat × Reader)
  | 0 => .error .malformedYaml
  | fuel + 1 =>
    match r.tokens with
    | .value :: rest => readUnless enders false false { r with tokens := rest } fuel
    | _ => .ok (r.add empty)

/-- The items of a flow sequence up to its bracket. An item that starts with a key is a mapping
of one entry. -/
def flowItems (first : Bool) (items : List Nat) (r : Reader) : Nat → Outcome (Shape × Reader)
  | 0 => .error .malformedYaml
  | fuel + 1 =>
    let item (tokens : List Token) : Outcome (Shape × Reader) :=
      match tokens with
      | .key :: rest => do
        let (number, r) := ({ r with tokens := rest }).add ⟨.mapping, .mapping []⟩
        let (key, r) ← readUnless [.value, .comma, .flowSequenceEnd] false false r fuel
        let (value, r) ← flowValue [.comma, .flowSequenceEnd] r fuel
        flowItems false (number :: items) (r.fill number (.mapping [(key, value)])) fuel
      | .flowSequenceEnd :: rest => .ok (.sequence items.reverse, { r with tokens := rest })
      | tokens => do
        let (item, r) ← read false false { r with tokens } fuel
        flowItems false (item :: items) r fuel
    match first, r.tokens with
    | false, .comma :: rest => item rest
    | false, .flowSequenceEnd :: rest => .ok (.sequence items.reverse, { r with tokens := rest })
    | false, _ => .error r.unexpected
    | true, tokens => item tokens

/-- The entries of a flow mapping up to its brace. An entry without a key indicator has no
value. -/
def flowEntries (first : Bool) (entries : List (Nat × Nat)) (r : Reader) :
    Nat → Outcome (Shape × Reader)
  | 0 => .error .malformedYaml
  | fuel + 1 =>
    let entry (tokens : List Token) : Outcome (Shape × Reader) :=
      match tokens with
      | .key :: rest => do
        let (key, r) ← readUnless [.value, .comma, .flowMappingEnd] false false
          { r with tokens := rest } fuel
        let (value, r) ← flowValue [.comma, .flowMappingEnd] r fuel
        flowEntries false ((key, value) :: entries) r fuel
      | .flowMappingEnd :: rest => .ok (.mapping entries.reverse, { r with tokens := rest })
      | tokens => do
        let (key, r) ← read false false { r with tokens } fuel
        let (value, r) := r.add empty
        flowEntries false ((key, value) :: entries) r fuel
    match first, r.tokens with
    | false, .comma :: rest => entry rest
    | false, .flowMappingEnd :: rest => .ok (.mapping entries.reverse, { r with tokens := rest })
    | false, _ => .error r.unexpected
    | true, tokens => entry tokens

end

/-! ### Documents -/

/-- The directives in front of a document. There is at most one version, whose major number is
one, and each handle gets its meaning once. -/
def directives (versioned : Bool) (handles : List (Text × Text)) :
    List Token → Outcome (List (Text × Text) × List Token)
  | .version major :: rest =>
    if versioned ∨ major ≠ 1 then .error .malformedYaml else directives true handles rest
  | .tagPrefix handle start :: rest =>
    if handles.any fun h => h.1 == handle then .error .malformedYaml
    else directives versioned ((handle, start) :: handles) rest
  | .reserved :: rest => directives versioned handles rest
  | rest => .ok (handles ++ standardHandles, rest)

def startsDirective : List Token → Bool
  | .version _ :: _ => true
  | .tagPrefix .. :: _ => true
  | .reserved :: _ => true
  | _ => false

/-- The number of the root and the nodes. Nothing but marks of the end of the document may follow
the root; a second document is refused at its beginning. -/
def finish (root : Nat) (r : Reader) : Outcome (Option (Nat × Array Node)) :=
  match r.tokens.dropWhile (· == .documentEnd) with
  | [] => .ok (some (root, r.nodes))
  | tokens => do
    let (_, tokens) ← directives false [] tokens
    .error ({ r with tokens } : Reader).unexpected

/-- The root node and all that it holds. -/
def readRoot (r : Reader) : Outcome (Option (Nat × Array Node)) := do
  let (root, r) ← read true false r (4 * r.tokens.length + 4)
  finish root r

/-- The root of the only document of a text, if there is a document, and all nodes. -/
def ofTokens (tokens : List Token) (flaw : Fault) : Outcome (Option (Nat × Array Node)) :=
  let r : Reader := { tokens, flaw, handles := standardHandles }
  if tokens = [] then .ok none
  else if startsDirective tokens ∨ startsWith tokens [.documentStart] then do
    let (handles, tokens) ← directives false [] tokens
    let r := { r with tokens, handles }
    match tokens with
    | .documentStart :: rest =>
      let r := { r with tokens := rest }
      if rest = [] ∨ startsDirective rest ∨ startsWith rest [.documentStart, .documentEnd] then
        let (root, r) := r.add empty
        finish root r
      else readRoot r
    | _ => .error r.unexpected
  else readRoot r

end Node

end LaunchIndex.Yaml
