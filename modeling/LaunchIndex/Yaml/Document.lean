import LaunchIndex.Yaml.Datum

/-! The data of a YAML document. Scalars get their value as soon as they are met; the contents of
a collection are looked at later, collections in the order in which they are met, and the first
flaw in that order counts. Mappings take in the entries of mappings that they merge. Of equal
keys the last value counts, in the place of the first. -/

namespace LaunchIndex.Yaml

/-- What a collection holds. -/
inductive Contents where
  | items (items : List Datum)
  | pairs (pairs : List (Datum × Datum))
  | members (members : List Datum)
  | mapping (entries : List (Datum × Datum))

def Contents.isEmpty : Contents → Bool
  | items ds => ds.isEmpty
  | pairs ps => ps.isEmpty
  | members ds => ds.isEmpty
  | mapping es => es.isEmpty

/-- The data of a document: the root, and what each collection holds. -/
structure Document where
  root : Datum := .null
  contents : List (Nat × Contents) := []

namespace Document

def rootContents? (d : Document) : Option Contents :=
  match d.root with
  | .collection node => (d.contents.find? fun c => c.1 == node).map (·.2)
  | _ => none

def isEmpty (d : Document) : Bool :=
  match d.root with
  | .null => true
  | .bool b => !b
  | .int i => i == 0
  | .real x => x.isZero
  | .text t => t.isEmpty
  | .bytes bytes => bytes.isEmpty
  | .moment _ => false
  | .collection _ => (d.rootContents?.map Contents.isEmpty).getD true

/-! ### Merging -/

def kindOf (nodes : Array Node) (n : Nat) : Kind := ((nodes[n]?).map Node.kind).getD .unknown

def entries? (nodes : Array Node) (n : Nat) : Option (List (Nat × Nat)) :=
  match (nodes[n]?).map Node.shape with
  | some (.mapping entries) => some entries
  | _ => none

def setEntries (entries : List (Nat × Nat)) (n : Nat) (nodes : Array Node) : Array Node :=
  nodes.modify n fun node => { node with shape := .mapping entries }

def isMerge (nodes : Array Node) (entry : Nat × Nat) : Bool := kindOf nodes entry.1 == .merge

/-- The marks of a default value among keys become text. -/
def retag (nodes : Array Node) (entries : List (Nat × Nat)) : Array Node :=
  entries.foldl (fun nodes entry =>
    nodes.modify entry.1 fun node =>
      if node.kind = .default then { node with kind := .text } else node) nodes

/-- The mapping `n` with the entries of the mappings that it merges in front of its own, from the
entry at `index` on; `merged` holds those merged so far. Of several mappings in a sequence the
first counts most. A merge is taken out before what it merges is looked at, so each merge in the
document costs one turn. -/
def flatten (n index : Nat) (merged : List (Nat × Nat)) (nodes : Array Node) :
    Nat → Outcome (Array Node)
  | 0 => .ok nodes
  | turns + 1 =>
    let entries := (entries? nodes n).getD []
    let plain := (entries.drop index).takeWhile fun entry => !isMerge nodes entry
    let nodes := retag nodes plain
    let place := index + plain.length
    match entries[place]? with
    | none => .ok (if merged = [] then nodes else setEntries (merged ++ entries) n nodes)
    | some (_, value) => do
      let nodes := setEntries (entries.eraseIdx place) n nodes
      let flattened (nodes : Array Node) (m : Nat) :
          Outcome (Array Node × List (Nat × Nat)) := do
        if (entries? nodes m).isNone then .error .malformedYaml
        let nodes ← flatten m 0 [] nodes turns
        return (nodes, (entries? nodes m).getD [])
      let (nodes, added) ←
        match (nodes[value]?).map Node.shape with
        | some (.sequence items) =>
          items.foldlM (fun (nodes, added) item => do
            let (nodes, entries) ← flattened nodes item
            return (nodes, entries ++ added)) (nodes, [])
        | _ => flattened nodes value
      flatten n place (merged ++ added) nodes turns

def mergeCount (nodes : Array Node) : Nat :=
  nodes.foldl (fun count node =>
    match node.shape with
    | .mapping entries => count + entries.countP (isMerge nodes)
    | _ => count) 0

/-! ### Scalars -/

/-- The text of a node. A mapping has the text of its default value. -/
def textOf (nodes : Array Node) (n : Nat) : Nat → Outcome Text
  | 0 => .error .tooDeep
  | fuel + 1 =>
    match (nodes[n]?).map Node.shape with
    | some (.scalar text) => .ok text
    | some (.mapping entries) =>
      match entries.find? fun entry => kindOf nodes entry.1 == .default with
      | some (_, value) => textOf nodes value fuel
      | none => .error .malformedYaml
    | _ => .error .malformedYaml

/-- The value of a node that is no collection by its kind. A moment needs a text of its own. -/
def scalar (nodes : Array Node) (n : Nat) : Outcome Datum := do
  let kind := kindOf nodes n
  if [Kind.merge, .default, .unknown].contains kind then .error .malformedYaml
  let text ← textOf nodes n (nodes.size + 1)
  if kind = .moment ∧ (entries? nodes n).isSome then .error (.notTextual "list")
  Datum.ofText kind text

/-! ### Collections -/

/-- A document under construction. `waiting` are the collections whose contents have not been
looked at, last one first, and `met` all collections met so far. -/
structure Builder where
  nodes : Array Node
  met : List Nat := []
  waiting : List Nat := []
  contents : List (Nat × Contents) := []

/-- The datum of a node. The contents of a collection wait. -/
def Builder.datum (b : Builder) (n : Nat) : Outcome (Datum × Builder) :=
  if (kindOf b.nodes n).isCollection then
    if b.met.contains n then .ok (.collection n, b)
    else .ok (.collection n, { b with met := n :: b.met, waiting := n :: b.waiting })
  else (scalar b.nodes n).map fun d => (d, b)

def Builder.data (b : Builder) : List Nat → Outcome (List Datum × Builder)
  | [] => .ok ([], b)
  | n :: rest => do
    let (datum, b) ← b.datum n
    let (data, b) ← b.data rest
    return (datum :: data, b)

def Builder.pairs (b : Builder) : List (Nat × Nat) → Outcome (List (Datum × Datum) × Builder)
  | [] => .ok ([], b)
  | (m, n) :: rest => do
    let (first, b) ← b.datum m
    let (second, b) ← b.datum n
    let (pairs, b) ← b.pairs rest
    return ((first, second) :: pairs, b)

/-- A key of a mapping with the node that it comes from. The words for an undefined number are
all from one. -/
structure Key where
  datum : Datum
  origin : Option Nat

def Key.isSame (a b : Key) : Bool :=
  a.datum.equals b.datum ||
    match a.datum, b.datum with
    | .real x, .real y => x.isNaN && y.isNaN && a.origin == b.origin
    | _, _ => false

/-- The key of a node; a collection cannot be one. -/
def Builder.key (b : Builder) (n : Nat) : Outcome Key := do
  let (datum, _) ← b.datum n
  match datum with
  | .collection _ => .error .malformedYaml
  | .real _ =>
    let text ← textOf b.nodes n (b.nodes.size + 1)
    return ⟨datum, if Datum.isUndefinedWord text then none else some n⟩
  | _ => return ⟨datum, some n⟩

/-- A new value under a key, in the place of the same key or at the end. -/
def put (key : Key) (value : Datum) : List (Key × Datum) → List (Key × Datum)
  | [] => [(key, value)]
  | entry :: rest =>
    if entry.1.isSame key then (entry.1, value) :: rest else entry :: put key value rest

/-- The entries of a mapping, each with a key and then a value. -/
def Builder.entries (b : Builder) (entries : List (Key × Datum)) :
    List (Nat × Nat) → Outcome (List (Datum × Datum) × Builder)
  | [] => .ok (entries.map fun e => (e.1.datum, e.2), b)
  | (m, n) :: rest => do
    let key ← b.key m
    let (value, b) ← b.datum n
    b.entries (put key value entries) rest

/-- The entries of a mapping with what it merges. -/
def Builder.mapping (b : Builder) (n : Nat) : Outcome (List (Datum × Datum) × Builder) := do
  if (entries? b.nodes n).isNone then .error .malformedYaml
  let nodes ← flatten n 0 [] b.nodes (mergeCount b.nodes + 1)
  ({ b with nodes }).entries [] ((entries? nodes n).getD [])

/-- The pairs of a sequence of mappings, of which each has one entry. -/
def Builder.listed (b : Builder) : List Nat → Outcome (List (Datum × Datum) × Builder)
  | [] => .ok ([], b)
  | n :: rest =>
    match entries? b.nodes n with
    | some [entry] => do
      let (pairs, b) ← b.pairs [entry]
      let (later, b) ← b.listed rest
      return (pairs ++ later, b)
    | _ => .error .malformedYaml

/-- The contents of a collection, which must have the shape that its kind asks for. -/
def Builder.fill (b : Builder) (n : Nat) : Outcome Builder := do
  let (contents, b) ←
    match kindOf b.nodes n, (b.nodes[n]?).map Node.shape with
    | .sequence, some (.sequence items) => do
      let (data, b) ← b.data items
      pure (Contents.items data, b)
    | .pairs, some (.sequence items) => do
      let (pairs, b) ← b.listed items
      pure (Contents.pairs pairs, b)
    | .members, _ => do
      let (entries, b) ← b.mapping n
      pure (Contents.members (entries.map (·.1)), b)
    | .mapping, _ => do
      let (entries, b) ← b.mapping n
      pure (Contents.mapping entries, b)
    | _, _ => .error .malformedYaml
  return { b with contents := (n, contents) :: b.contents }

/-- All collections filled, those that wait first and then those met in them. Every turn but the
last fills at least one collection. -/
def Builder.finish (b : Builder) : Nat → Outcome Builder
  | 0 => .ok b
  | turns + 1 =>
    if b.waiting = [] then .ok b
    else do
      let b ← b.waiting.reverse.foldlM Builder.fill { b with waiting := [] }
      b.finish turns

/-- The data of nodes from a root on. -/
def ofNodes (root : Nat) (nodes : Array Node) : Outcome Document := do
  let (datum, b) ← ({ nodes } : Builder).datum root
  let b ← b.finish (nodes.size + 1)
  return { root := datum, contents := b.contents }

end Document

def ofBytes (bytes : Text.Bytes) : Outcome Document := do
  let (tokens, flaw) := Token.ofSource (← Source.ofBytes bytes)
  match ← Node.ofTokens tokens flaw with
  | some (root, nodes) => Document.ofNodes root nodes
  | none => return {}

end LaunchIndex.Yaml
