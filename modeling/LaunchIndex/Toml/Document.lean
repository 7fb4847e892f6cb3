import LaunchIndex.Text.Utf8
import LaunchIndex.Toml.Scalar

/-! TOML documents: keys, values, and the lines that put them into tables. A line holds a
header, or a key with its value, and may end with a comment. -/

namespace LaunchIndex.Toml

/-! ### Keys -/

def isBareKey (c : Char) : Bool := c.isAlphanum || c == '-' || c == '_'

def keyPart (cs : List Char) : Outcome (Text × List Char) :=
  match cs with
  | '"' :: rest => Quoted.line '"' rest
  | '\'' :: rest => Quoted.line '\'' rest
  | _ =>
    let bare := cs.takeWhile isBareKey
    if bare = [] then .error .malformedToml
    else .ok (Text.ofChars bare, cs.dropWhile isBareKey)

/-- The parts of a key with points between them. Blanks may stand around each point. -/
def keyParts (cs : List Char) : Nat → Outcome (List Text × List Char)
  | 0 => .error .malformedToml
  | fuel + 1 => do
    let (part, rest) ← keyPart cs
    match skipBlanks rest with
    | '.' :: rest =>
      let (parts, rest) ← keyParts (skipBlanks rest) fuel
      return (part :: parts, rest)
    | rest => return ([part], rest)

/-- A key, and what follows it and the blanks behind it. -/
def key (cs : List Char) : Outcome (List Text × List Char) := keyParts cs (cs.length + 1)

/-! ### Values -/

/-- Blanks, line breaks and comments between the items of an array. -/
def skipFiller (inComment : Bool) : List Char → Outcome (List Char)
  | [] => .ok []
  | c :: rest =>
    if inComment then
      if c = '\n' then skipFiller false rest
      else if isControl c then .error .malformedToml
      else skipFiller true rest
    else if isBlank c ∨ c = '\n' then skipFiller false rest
    else if c = '#' then skipFiller true rest
    else .ok (c :: rest)

mutual

/-- A value. The fuel bounds the depth and the length of what is nested in it. -/
def value (cs : List Char) : Nat → Outcome (Item × List Char)
  | 0 => .error .malformedToml
  | fuel + 1 =>
    match cs with
    | '"' :: '"' :: '"' :: rest => (Quoted.block '"' rest).map fun r => (.text r.1, r.2)
    | '"' :: rest => (Quoted.line '"' rest).map fun r => (.text r.1, r.2)
    | '\'' :: '\'' :: '\'' :: rest => (Quoted.block '\'' rest).map fun r => (.text r.1, r.2)
    | '\'' :: rest => (Quoted.line '\'' rest).map fun r => (.text r.1, r.2)
    | 't' :: 'r' :: 'u' :: 'e' :: rest => .ok (.bool true, rest)
    | 'f' :: 'a' :: 'l' :: 's' :: 'e' :: rest => .ok (.bool false, rest)
    | '[' :: rest => do
      let rest ← skipFiller false rest
      arrayItems [] rest fuel
    | '\x7b' :: rest =>
      match skipBlanks rest with
      | '\x7d' :: rest => .ok (.table .closed [], rest)
      | rest => inlineEntries [] rest fuel
    | cs => Scalar.read cs

/-- The items of an array up to its closing bracket; a comma may stand behind the last one. -/
def arrayItems (items : List Item) (cs : List Char) : Nat → Outcome (Item × List Char)
  | 0 => .error .malformedToml
  | fuel + 1 =>
    match cs with
    | ']' :: rest => .ok (.array items.reverse, rest)
    | cs => do
      let (item, rest) ← value cs fuel
      match ← skipFiller false rest with
      | ']' :: rest => return (.array (item :: items).reverse, rest)
      | ',' :: rest =>
        let rest ← skipFiller false rest
        arrayItems (item :: items) rest fuel
      | _ => .error .malformedToml

/-- The entries of a table between braces, up to the closing one. -/
def inlineEntries (entries : Entries) (cs : List Char) : Nat → Outcome (Item × List Char)
  | 0 => .error .malformedToml
  | fuel + 1 => do
    let (path, item, rest) ← keyValue cs fuel
    let entries ← entries.insert 0 item path
    match skipBlanks rest with
    | '\x7d' :: rest => return (.table .closed entries, rest)
    | ',' :: rest => inlineEntries entries (skipBlanks rest) fuel
    | _ => .error .malformedToml

def keyValue (cs : List Char) : Nat → Outcome (List Text × Item × List Char)
  | 0 => .error .malformedToml
  | fuel + 1 => do
    match ← key cs with
    | (path, '=' :: rest) =>
      let (item, rest) ← value (skipBlanks rest) fuel
      return (path, item, rest)
    | _ => .error .malformedToml

end

/-! ### Lines -/

/-- A document as read so far: its entries, the header that the next keys stand under and the
count of headers. -/
structure State where
  entries : Entries := []
  header : List Text := []
  count : Nat := 0

/-- A header of a table or of a new element of an array of tables, behind its opening bracket. -/
def header (s : State) (cs : List Char) : Outcome (State × List Char) := do
  let isElement := cs.head? == some '['
  let (path, rest) ← key (skipBlanks (if isElement then cs.drop 1 else cs))
  let change (name : Text) : Entries → Outcome Entries :=
    if isElement then Entries.append name else Entries.declare name
  match path.getLast? with
  | none => .error .malformedToml
  | some name =>
    let entries ← s.entries.within (change name) path.dropLast
    let rest ←
      match isElement, rest with
      | false, ']' :: rest => .ok rest
      | true, ']' :: ']' :: rest => .ok rest
      | _, _ => .error .malformedToml
    return (⟨entries, path, s.count + 1⟩, rest)

/-- What a line says, up to its comment. -/
def statement (s : State) (cs : List Char) (fuel : Nat) : Outcome (State × List Char) :=
  match cs with
  | '[' :: rest => header s rest
  | '#' :: _ => .ok (s, cs)
  | cs => do
    let (path, item, rest) ← keyValue cs fuel
    let entries ← s.entries.within (Entries.insert s.count item path) s.header
    return ({ s with entries }, rest)

/-- The rest behind the end of a line, which may have a comment. There is none behind the last
line. -/
def lineEnd (cs : List Char) : Outcome (Option (List Char)) :=
  let body :=
    match skipBlanks cs with
    | '#' :: rest => rest.dropWhile fun c => !isControl c
    | rest => rest
  match body with
  | [] => .ok none
  | '\n' :: rest => .ok (some rest)
  | _ => .error .malformedToml

def lines (s : State) (cs : List Char) : Nat → Outcome Entries
  | 0 => .error .malformedToml
  | fuel + 1 =>
    match skipBlanks cs with
    | [] => .ok s.entries
    | '\n' :: rest => lines s rest fuel
    | cs => do
      let (s, rest) ← statement s cs fuel
      match ← lineEnd rest with
      | none => return s.entries
      | some rest => lines s rest fuel

/-- A line break is written as one character or as two. -/
def joinLineBreaks : List Char → List Char
  | '\r' :: '\n' :: rest => '\n' :: joinLineBreaks rest
  | c :: rest => c :: joinLineBreaks rest
  | [] => []

/-- The entries of a document. Nothing is nested deeper than three times its length. -/
def ofChars (cs : List Char) : Outcome Entries :=
  lines {} (joinLineBreaks cs) (4 * cs.length + 4)

def ofBytes (bytes : Text.Bytes) : Outcome Entries :=
  match Text.Utf8.decode? bytes with
  | some cs => ofChars cs
  | none => .error .undecodable

end LaunchIndex.Toml
