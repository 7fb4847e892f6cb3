import LaunchIndex.Value.Number
import LaunchIndex.Yaml.Scalar
import LaunchIndex.Yaml.Source

/-! The tokens of a YAML text: markers, indicators, names and scalars, with the beginnings and
ends of blocks that the indentation tells. That a scalar or collection is a key shows only at
the colon behind it, so a place is left in front of everything that may turn out to be one;
the places where a key does start are filled in at the end. -/

namespace LaunchIndex.Yaml

/-- A tag as written: a handle, if it has one, and what follows the handle. -/
structure Tag where
  handle : Option Text
  suffix : Text
deriving DecidableEq

inductive Token where
  | version (major : Nat)
  | tagPrefix (handle start : Text)
  | reserved
  | documentStart
  | documentEnd
  | blockSequence
  | blockMapping
  | blockEnd
  | flowSequence
  | flowSequenceEnd
  | flowMapping
  | flowMappingEnd
  | comma
  | item
  | key
  | value
  | alias (name : Text)
  | anchor (name : Text)
  | tag (tag : Tag)
  | scalar (plain : Bool) (text : Text)
  | place (number : Nat)
  | broken
deriving DecidableEq

/-- Where a character stands. Lines and columns count from zero, and a byte order mark takes no
column. -/
structure Position where
  index : Nat := 0
  line : Nat := 0
  column : Nat := 0

def Position.past (p : Position) (c : Char) : Position :=
  { index := p.index + 1
    line := if isBreak c then p.line + 1 else p.line
    column := if isBreak c then 0 else if c.toNat == 0xFEFF then p.column else p.column + 1 }

/-- The start of something that is a key if a colon follows. It must be one if a block mapping
has its entries in that column. -/
structure KeyStart where
  place : Nat
  required : Bool
  position : Position

/-- A text on the way to tokens. The tokens come last one first; the key starts, innermost
bracket first, one for each open bracket and one for the block around all of them. `failure` is
why the text behind `rest` cannot be had, if there is some, and `flaw` why the tokens break
off. -/
structure Scan where
  rest : List Char
  failure : Option Fault := none
  flaw : Fault := .malformedYaml
  position : Position := {}
  tokens : List Token := []
  places : Nat := 0
  keys : List (Nat × Bool) := []
  indent : Int := -1
  outer : List Int := []
  starts : List (Option KeyStart) := [none]
  keyAllowed : Bool := true

namespace Scan

def inFlow (s : Scan) : Bool := 1 < s.starts.length

def column (s : Scan) : Int := s.position.column

/-- The scan after everything in front of a rest has been passed. -/
def moveTo (rest : List Char) (s : Scan) : Scan :=
  let passed := s.rest.take (s.rest.length - rest.length)
  { s with rest, position := passed.foldl Position.past s.position }

def emit (t : Token) (s : Scan) : Scan := { s with tokens := t :: s.tokens }

def emitFor (n : Nat) (t : Token) (s : Scan) : Scan := (s.emit t).moveTo (s.rest.drop n)

def allowKey (allowed : Bool) (s : Scan) : Scan := { s with keyAllowed := allowed }

/-! ### Keys -/

/-- The innermost key start is given up; it must not be required. -/
def dropStart (s : Scan) : Outcome Scan :=
  match s.starts with
  | some k :: outer =>
    if k.required then .error .malformedYaml else .ok { s with starts := none :: outer }
  | _ => .ok s

/-- A key must have its colon on its line and within 1024 characters. -/
def isStale (s : Scan) (k : KeyStart) : Bool :=
  k.position.line != s.position.line || k.position.index + 1024 < s.position.index

/-- The key starts that have become too old are given up; none of them must be required. -/
def dropStale (s : Scan) : Outcome Scan :=
  if s.starts.any fun k => k.any fun k => s.isStale k && k.required then .error .malformedYaml
  else .ok { s with starts := s.starts.map fun k => k.filter fun k => !s.isStale k }

/-- A key may start here. -/
def markStart (s : Scan) : Outcome Scan :=
  if s.keyAllowed then do
    let s ← s.dropStart
    let start : KeyStart :=
      { place := s.places, required := !s.inFlow && s.indent == s.column, position := s.position }
    return { s.emit (.place s.places) with
      places := s.places + 1, starts := some start :: s.starts.drop 1 }
  else .ok s

/-! ### Indentation -/

/-- The blocks that are indented by more than a column end. -/
def closeBlocks (column : Int) (indent : Int) (tokens : List Token) :
    List Int → Int × List Int × List Token
  | [] => (indent, [], tokens)
  | outer :: more =>
    if column < indent then closeBlocks column outer (.blockEnd :: tokens) more
    else (indent, outer :: more, tokens)

/-- Inside of brackets the indentation tells nothing. -/
def unwind (column : Int) (s : Scan) : Scan :=
  if s.inFlow then s
  else
    let (indent, outer, tokens) := closeBlocks column s.indent s.tokens s.outer
    { s with indent, outer, tokens }

/-- Whether a block starts at a column. -/
def opensBlock (column : Int) (s : Scan) : Bool := s.indent < column

/-- A new block at a column, unless there is one already. -/
def openBlock (column : Int) (s : Scan) : Scan :=
  if s.opensBlock column then { s with indent := column, outer := s.indent :: s.outer } else s

/-! ### Tokens -/

/-- Blanks, comments and breaks before a token. A key may start on a new line of a block. -/
def skipFiller (inFlow : Bool) (keyAllowed : Bool) (cs : List Char) : Nat → Bool × List Char
  | 0 => (keyAllowed, cs)
  | fuel + 1 =>
    match skipComment cs with
    | c :: rest =>
      if isBreak c then skipFiller inFlow (keyAllowed || !inFlow) rest fuel
      else (keyAllowed, c :: rest)
    | [] => (keyAllowed, [])

def toToken (s : Scan) : Scan :=
  let start :=
    match s.rest with
    | c :: rest => if s.position.index = 0 ∧ c.toNat = 0xFEFF then rest else s.rest
    | [] => []
  let (keyAllowed, rest) := skipFiller s.inFlow s.keyAllowed start (start.length + 1)
  (s.moveTo rest).allowKey keyAllowed

/-- Blocks end before a marker or a directive, and no key goes on across it. -/
def endDocument (s : Scan) : Outcome Scan := do
  let s ← (s.unwind (-1)).dropStart
  return s.allowKey false

/-- A handle: an exclamation mark, or two with a name between them. -/
def handle? (cs : List Char) : Option (Text × List Char) :=
  match cs with
  | '!' :: rest =>
    if rest.head? = some ' ' then some ("!", rest)
    else
      let name := rest.takeWhile isNameChar
      match rest.dropWhile isNameChar with
      | '!' :: rest => some (Text.ofChars ('!' :: name ++ ['!']), rest)
      | _ => none
  | _ => none

/-- The characters that a run of bytes behind percent signs stands for. -/
def percentRun (bytes : Text.Bytes) : List Char → Option (Text.Bytes × List Char)
  | '%' :: a :: b :: rest =>
    match hexDigit? a, hexDigit? b with
    | some x, some y => percentRun (bytes ++ [UInt8.ofNat (x * 16 + y)]) rest
    | _, _ => none
  | '%' :: _ => none
  | rest => some (bytes, rest)

/-- The name in a tag, in which bytes may be written as numbers. -/
def tagName (read : List Char) (cs : List Char) : Nat → Option (List Char × List Char)
  | 0 => none
  | fuel + 1 =>
    match cs with
    | '%' :: _ =>
      (percentRun [] cs).bind fun (bytes, rest) =>
        (Text.Utf8.decode? bytes).bind fun added => tagName (read ++ added) rest fuel
    | c :: rest => if isTagChar c then tagName (read ++ [c]) rest fuel else some (read, cs)
    | [] => some (read, [])

def tagName? (cs : List Char) : Option (Text × List Char) :=
  (tagName [] cs (cs.length + 1)).bind fun (name, rest) =>
    if rest.length = cs.length then none else some (Text.ofChars name, rest)

/-- The number of a version behind `%YAML`. Both of its parts must be integers that can be
read. -/
def version? (cs : List Char) : Outcome (Nat × List Char) :=
  let number? (cs : List Char) : Outcome (Nat × List Char) := do
    let n ← Text.readInteger 10 (Text.ofChars (cs.takeWhile Char.isDigit))
    return (n.toNat, cs.dropWhile Char.isDigit)
  let startsNumber (cs : List Char) : Bool := (cs.head?.map Char.isDigit).getD false
  let first := skipSpaces cs
  if startsNumber first then do
    match ← number? first with
    | (major, '.' :: rest) =>
      if startsNumber rest then
        let (_, rest) ← number? rest
        if endsName rest.head? then return (major, rest) else .error .malformedYaml
      else .error .malformedYaml
    | _ => .error .malformedYaml
  else .error .malformedYaml

/-- What a handle stands for, behind `%TAG`. -/
def tagPrefix? (cs : List Char) : Option (Text × Text × List Char) :=
  match handle? (skipSpaces cs) with
  | some (handle, ' ' :: rest) =>
    match tagName? (skipSpaces rest) with
    | some (start, rest) => if endsName rest.head? then some (handle, start, rest) else none
    | none => none
  | _ => none

/-- The directive behind a percent sign. -/
def directive? (cs : List Char) : Outcome (Token × List Char) :=
  let name := cs.takeWhile isNameChar
  let rest := cs.dropWhile isNameChar
  if name = [] ∨ !endsName rest.head? then .error .malformedYaml
  else if name = "YAML".toList then (version? rest).map fun (major, rest) => (.version major, rest)
  else if name = "TAG".toList then
    match tagPrefix? rest with
    | some (handle, start, rest) => .ok (.tagPrefix handle start, rest)
    | none => .error .malformedYaml
  else .ok (.reserved, skipLine rest)

def scanDirective (s : Scan) : Outcome Scan := do
  let s ← s.endDocument
  let (token, rest) ← directive? (s.rest.drop 1)
  let rest := skipComment rest
  if endsLine rest.head? then return (s.emit token).moveTo (rest.drop 1)
  else .error .malformedYaml

def scanMarker (t : Token) (s : Scan) : Outcome Scan := do
  let s ← s.endDocument
  return s.emitFor 3 t

/-- An opening bracket. A flow collection may be a key. -/
def scanOpening (t : Token) (s : Scan) : Outcome Scan := do
  let s ← s.markStart
  let s := { s.emitFor 1 t with starts := none :: s.starts }
  return s.allowKey true

/-- A closing bracket; there must be an open one. -/
def scanClosing (t : Token) (s : Scan) : Outcome Scan := do
  let s ← s.dropStart
  if s.inFlow then return ({ s.emitFor 1 t with starts := s.starts.drop 1 }).allowKey false
  else .error .malformedYaml

def scanComma (s : Scan) : Outcome Scan := do
  let s ← s.dropStart
  return (s.emitFor 1 .comma).allowKey true

/-- The token that starts a block, if the block has to be started in this column. -/
def startBlock (t : Token) (s : Scan) : Outcome Scan :=
  if s.inFlow then .ok s
  else if s.keyAllowed then
    .ok ((if s.opensBlock s.column then s.emit t else s).openBlock s.column)
  else .error .malformedYaml

def scanItem (s : Scan) : Outcome Scan := do
  let s ← s.startBlock .blockSequence
  let s ← s.dropStart
  return (s.emitFor 1 .item).allowKey true

def scanKey (s : Scan) : Outcome Scan := do
  let s ← s.startBlock .blockMapping
  let s ← s.dropStart
  return (s.emitFor 1 .key).allowKey !s.inFlow

/-- A colon before a value. What may have been a key is one. -/
def scanValue (s : Scan) : Outcome Scan :=
  match s.starts with
  | some k :: outer =>
    let column : Int := k.position.column
    let opens := !s.inFlow && s.opensBlock column
    let s := { s with keys := (k.place, opens) :: s.keys, starts := none :: outer }
    let s := if s.inFlow then s else s.openBlock column
    .ok ((s.emitFor 1 .value).allowKey false)
  | _ => do
    let s ← s.startBlock .blockMapping
    let s ← s.dropStart
    return (s.emitFor 1 .value).allowKey !s.inFlow

def name? (cs : List Char) : Option (Text × List Char) :=
  let name := cs.takeWhile isNameChar
  let rest := cs.dropWhile isNameChar
  let ends := endsWord rest.head? ||
    (rest.head?.map fun c => "?:,]\x7d%@`".toList.contains c).getD false
  if name = [] ∨ !ends then none else some (Text.ofChars name, rest)

def tag? (cs : List Char) : Option (Tag × List Char) :=
  match cs with
  | '<' :: rest =>
    match tagName? rest with
    | some (suffix, '>' :: rest) => some (⟨none, suffix⟩, rest)
    | _ => none
  | _ =>
    if endsWord cs.head? then some (⟨none, "!"⟩, cs)
    else if (cs.takeWhile fun c => c != ' ' && !isBreak c).contains '!' then
      (handle? ('!' :: cs)).bind fun (handle, rest) =>
        (tagName? rest).map fun (suffix, rest) => (⟨some handle, suffix⟩, rest)
    else (tagName? cs).map fun (suffix, rest) => (⟨some "!", suffix⟩, rest)

/-- A token that may be a key or stand before one. -/
def scanNamed (read : Option (Token × List Char)) (s : Scan) : Outcome Scan := do
  let s ← s.markStart
  match read with
  | some (token, rest) => return ((s.emit token).moveTo rest).allowKey false
  | none => .error .malformedYaml

def scanTag (s : Scan) : Outcome Scan :=
  s.scanNamed <| (tag? (s.rest.drop 1)).bind fun (tag, rest) =>
    if endsName rest.head? then some (.tag tag, rest) else none

def scanQuoted (quote : Char) (s : Scan) : Outcome Scan := do
  let s ← s.markStart
  let (text, rest) ← Scalar.quoted (s.failure.getD .malformedYaml) quote (s.rest.drop 1)
  return ((s.emit (.scalar false text)).moveTo rest).allowKey false

/-- A key may follow a block scalar. -/
def scanBlock (folded : Bool) (s : Scan) : Outcome Scan := do
  let s ← s.dropStart
  let (text, rest) ← Scalar.block folded s.indent (s.rest.drop 1)
  return ((s.emit (.scalar false (Text.ofChars text))).moveTo rest).allowKey true

/-- A key may follow a plain scalar only on a new line. -/
def scanPlain (s : Scan) : Outcome Scan := do
  let s ← s.markStart
  let (text, rest, crossed) :=
    Scalar.plain s.inFlow (s.indent + 1) [] [] false s.rest (s.rest.length + 1)
  return ((s.emit (.scalar true (Text.ofChars text))).moveTo rest).allowKey crossed

/-- Whether a plain scalar starts with a character. A hyphen, and outside of brackets a question
mark or colon, needs a word behind it. -/
def startsPlain (inFlow : Bool) (c : Char) (next : Option Char) : Bool :=
  if c == '-' then !endsWord next
  else if c == '?' || c == ':' then !inFlow && !endsWord next
  else !(isBlank c || ",[]\x7b\x7d#&*!|>'\"%@`".toList.contains c)

/-- The token that starts with a character. -/
def scanToken (c : Char) (s : Scan) : Outcome Scan :=
  let next := s.rest[1]?
  let word := endsWord next
  let atStart := s.column == 0
  if c = '%' ∧ atStart then s.scanDirective
  else if atStart ∧ startsWith '-' s.rest then s.scanMarker .documentStart
  else if atStart ∧ startsWith '.' s.rest then s.scanMarker .documentEnd
  else if c = '[' then s.scanOpening .flowSequence
  else if c = '\x7b' then s.scanOpening .flowMapping
  else if c = ']' then s.scanClosing .flowSequenceEnd
  else if c = '\x7d' then s.scanClosing .flowMappingEnd
  else if c = ',' then s.scanComma
  else if c = '-' ∧ word then s.scanItem
  else if c = '?' ∧ (s.inFlow ∨ word) then s.scanKey
  else if c = ':' ∧ (s.inFlow ∨ word) then s.scanValue
  else if c = '*' then s.scanNamed ((name? (s.rest.drop 1)).map fun (n, rest) => (.alias n, rest))
  else if c = '&' then s.scanNamed ((name? (s.rest.drop 1)).map fun (n, rest) => (.anchor n, rest))
  else if c = '!' then s.scanTag
  else if c = '|' ∧ !s.inFlow then s.scanBlock false
  else if c = '>' ∧ !s.inFlow then s.scanBlock true
  else if c = '\'' ∨ c = '"' then s.scanQuoted c
  else if startsPlain s.inFlow c next then s.scanPlain
  else .error .malformedYaml

/-- The scan after the next token, or after the last one. `more` tells which. A token counts only
if there is a character behind it or the text is complete. -/
def next (s : Scan) : Outcome (Bool × Scan) := do
  let ensureMore (s : Scan) : Outcome Scan :=
    match s.rest, s.failure with
    | [], some fault => .error fault
    | _, _ => .ok s
  let s ← ensureMore s.toToken
  let s ← s.dropStale
  let s := s.unwind s.column
  match s.rest with
  | [] => return (false, ← (s.unwind (-1)).dropStart)
  | c :: _ => return (true, ← ensureMore (← s.scanToken c))

/-- The tokens up to the first that may still turn out to be a key, and the end of them for a
flaw. -/
def breakOff (flaw : Fault) (s : Scan) : Scan :=
  let undecided := s.starts.filterMap fun k => k.map KeyStart.place
  let tokens :=
    match undecided.min? with
    | some place => (s.tokens.dropWhile (· != .place place)).drop 1
    | none => s.tokens
  { s with tokens := .broken :: tokens, flaw }

/-- All tokens; every one but the last takes a character. -/
def run (s : Scan) : Nat → Scan
  | 0 => s.breakOff .malformedYaml
  | fuel + 1 =>
    match s.dropStale with
    | .error flaw => s.breakOff flaw
    | .ok s =>
      match s.next with
      | .error flaw => s.breakOff flaw
      | .ok (true, s) => s.run fuel
      | .ok (false, s) => s

/-- The tokens with the places filled in at which keys start. -/
def fill (keys : List (Nat × Bool)) (tokens : List Token) : List Token :=
  tokens.flatMap fun
    | .place n =>
      match keys.find? fun k => k.1 == n with
      | some (_, opens) => if opens then [.blockMapping, .key] else [.key]
      | none => []
    | t => [t]

end Scan

/-- The tokens of a text, and why they break off if they do. -/
def Token.ofSource (source : Source) : List Token × Fault :=
  let start : Scan := { rest := source.chars, failure := source.failure }
  let s := start.run (source.chars.length + 1)
  (Scan.fill s.keys s.tokens.reverse, s.flaw)

end LaunchIndex.Yaml
