import LaunchIndex.Yaml.Character

/-! The text of scalars. A scalar is plain, quoted, or a block below an indicator. Line breaks
inside of plain and quoted scalars are folded: one alone becomes a space, and of several the
first is dropped. -/

namespace LaunchIndex.Yaml.Scalar

/-- A line break and the breaks after it, as text. -/
def fold (first : Char) (more : List Char) : List Char :=
  if first ≠ '\n' then first :: more
  else if more = [] then [' ']
  else more

/-! ### Plain scalars -/

/-- Whether a colon ends a plain scalar: a blank, a break or, inside of brackets, an indicator
comes next. -/
def endsAtColon (inFlow : Bool) (next : Option Char) : Bool :=
  endsWord next || (inFlow && (next.map fun c => ",[]\x7b\x7d".toList.contains c).getD false)

/-- The longest run of characters without blanks that belong to a plain scalar. -/
def plainRun (inFlow : Bool) : List Char → List Char × List Char
  | [] => ([], [])
  | c :: rest =>
    if isBlank c || isBreak c || (c == ':' && endsAtColon inFlow rest.head?) ||
        (inFlow && ",?[]\x7b\x7d".toList.contains c) then
      ([], c :: rest)
    else
      let (run, rest) := plainRun inFlow rest
      (c :: run, rest)

/-- What lies behind a run: the text that it adds if the scalar goes on, the rest, whether a
line ended, and the column on the last line. There is no text where a marker of a document
comes next. -/
structure Gap where
  text : List Char
  rest : List Char
  crossed : Bool := false
  column : Nat := 0

/-- Spaces and breaks after the first break. -/
def breaksBehind (first : Char) (breaks : List Char) (column : Nat) : List Char → Gap
  | [] => ⟨fold first breaks, [], true, column⟩
  | c :: rest =>
    if c = ' ' then breaksBehind first breaks (column + 1) rest
    else if isBreak c then
      if atMarker rest then ⟨[], rest, true, 0⟩
      else breaksBehind first (breaks ++ [plainBreak c]) 0 rest
    else ⟨fold first breaks, c :: rest, true, column⟩

def gap (cs : List Char) : Gap :=
  match skipSpaces cs with
  | c :: rest =>
    if isBreak c then
      if atMarker rest then ⟨[], rest, true, 0⟩ else breaksBehind (plainBreak c) [] 0 rest
    else ⟨cs.takeWhile (· == ' '), c :: rest, false, 0⟩
  | [] => ⟨cs, [], false, 0⟩

/-- A plain scalar: its text, the rest, and whether the rest starts on a new line. Lines that it
goes on in are indented by at least `indent` columns. -/
def plain (inFlow : Bool) (indent : Int) (read between : List Char) (crossed : Bool)
    (cs : List Char) : Nat → List Char × List Char × Bool
  | 0 => (read, cs, crossed)
  | fuel + 1 =>
    let (run, rest) := plainRun inFlow cs
    if cs.head? = some '#' ∨ run = [] then (read, cs, crossed)
    else
      let read := read ++ between ++ run
      let g := gap rest
      if g.text = [] ∨ g.rest.head? = some '#' ∨
          (!inFlow ∧ g.crossed ∧ (g.column : Int) < indent) then
        (read, g.rest, g.crossed)
      else plain inFlow indent read g.text g.crossed g.rest fuel

/-! ### Quoted scalars -/

/-- Blanks and breaks after a break. A marker of a document must not come here. Here and below,
`ending` is why a text that ends too early is refused. -/
def quotedBreaks (ending : Fault) (breaks : List Char) (cs : List Char) :
    Nat → Outcome (List Char × List Char)
  | 0 => .error ending
  | fuel + 1 =>
    if atMarker cs then .error .malformedYaml
    else
      match cs.dropWhile isBlank with
      | c :: rest =>
        if isBreak c then quotedBreaks ending (breaks ++ [plainBreak c]) rest fuel
        else .ok (breaks, c :: rest)
      | [] => .error ending

/-- Blanks between words, with the breaks among them. -/
def quotedGap (ending : Fault) (cs : List Char) (fuel : Nat) : Outcome (List Char × List Char) :=
  match cs.dropWhile isBlank with
  | c :: rest =>
    if isBreak c then do
      let (breaks, rest) ← quotedBreaks ending [] rest fuel
      return (fold (plainBreak c) breaks, rest)
    else .ok (cs.takeWhile isBlank, c :: rest)
  | [] => .error ending

/-- Text between single quotes; two of them inside stand for one. `read` is what has been read,
last character first. -/
def single (ending : Fault) (read : List Char) (cs : List Char) :
    Nat → Outcome (List Char × List Char)
  | 0 => .error ending
  | fuel + 1 =>
    match cs with
    | [] => .error ending
    | '\'' :: '\'' :: rest => single ending ('\'' :: read) rest fuel
    | '\'' :: rest => .ok (read.reverse, rest)
    | c :: rest =>
      if isBlank c || isBreak c then do
        let (between, rest) ← quotedGap ending (c :: rest) fuel
        single ending (between.reverse ++ read) rest fuel
      else single ending (c :: read) rest fuel

/-- The character that an escape of one letter stands for. -/
def letter? (c : Char) : Option Nat :=
  (([('0', 0x00), ('a', 0x07), ('b', 0x08), ('t', 0x09), ('\t', 0x09), ('n', 0x0A), ('v', 0x0B),
    ('f', 0x0C), ('r', 0x0D), ('e', 0x1B), (' ', 0x20), ('"', 0x22), ('\\', 0x5C), ('/', 0x2F),
    ('N', 0x85), ('_', 0xA0), ('L', 0x2028), ('P', 0x2029)] : List (Char × Nat)).find?
      fun p => p.1 == c).map (·.2)

/-- The count of digits behind the letter of an escape by number. -/
def width? : Char → Option Nat
  | 'x' => some 2
  | 'u' => some 4
  | 'U' => some 8
  | _ => none

/-- The code point with a number of up to eight hexadecimal digits. -/
def numbered (n : Nat) : Outcome CodePoint :=
  if n < 0x110000 then .ok (CodePoint.ofNat n)
  else if n < 0x80000000 then .error .noSuchCharacter
  else .error (.outOfRange "Python int too large to convert to C int")

/-- What the escape behind a backslash adds to the text. A break adds nothing but the breaks
that follow it. -/
def escape (ending : Fault) (cs : List Char) (fuel : Nat) : Outcome (Text × List Char) :=
  match cs with
  | [] => .error ending
  | c :: rest =>
    match letter? c, width? c with
    | some n, _ => .ok ([CodePoint.ofNat n], rest)
    | none, some width =>
      match hexDigits? width rest with
      | some (n, rest) => (numbered n).map fun c => ([c], rest)
      | none =>
        .error (if rest.length < width ∧ rest.all fun c => (hexDigit? c).isSome then ending
          else .malformedYaml)
    | none, none =>
      if isBreak c then (quotedBreaks ending [] rest fuel).map fun r => (Text.ofChars r.1, r.2)
      else .error .malformedYaml

def double (ending : Fault) (read : Text) (cs : List Char) : Nat → Outcome (Text × List Char)
  | 0 => .error ending
  | fuel + 1 =>
    match cs with
    | [] => .error ending
    | '"' :: rest => .ok (read.reverse, rest)
    | '\\' :: rest => do
      let (added, rest) ← escape ending rest fuel
      double ending (added.reverse ++ read) rest fuel
    | c :: rest =>
      if isBlank c || isBreak c then do
        let (between, rest) ← quotedGap ending (c :: rest) fuel
        double ending (Text.ofChars between.reverse ++ read) rest fuel
      else double ending (CodePoint.ofChar c :: read) rest fuel

def quoted (ending : Fault) (quote : Char) (cs : List Char) : Outcome (Text × List Char) :=
  let fuel := 2 * cs.length + 2
  if quote = '"' then double ending [] cs fuel
  else (single ending [] cs fuel).map fun r => (Text.ofChars r.1, r.2)

/-! ### Block scalars -/

/-- What becomes of the breaks at the end of a block. -/
inductive Chomping where
  | strip
  | clip
  | keep
deriving DecidableEq, Repr

def chomping? : Char → Option Chomping
  | '+' => some .keep
  | '-' => some .strip
  | _ => none

/-- A number of columns from one to nine. -/
def increment? (c : Char) : Option Nat :=
  if c.isDigit && c != '0' then some (c.toNat - 48) else none

/-- The indicators behind the one that starts a block, in either order. -/
def blockIndicators (cs : List Char) : Chomping × Option Nat × List Char :=
  match cs with
  | c :: rest =>
    match chomping? c, increment? c with
    | some chomping, _ =>
      match rest.head?.bind increment? with
      | some n => (chomping, some n, rest.drop 1)
      | none => (chomping, none, rest)
    | none, some n =>
      match rest.head?.bind chomping? with
      | some chomping => (chomping, some n, rest.drop 1)
      | none => (.clip, some n, rest)
    | none, none => (.clip, none, cs)
  | [] => (.clip, none, [])

/-- The lines below the header that hold nothing but spaces: their breaks, the greatest column
in them and in front of the first text, the column reached, and the rest. -/
def leadingLines (breaks : List Char) (column greatest : Nat) :
    List Char → List Char × Nat × Nat × List Char
  | [] => (breaks, greatest, column, [])
  | c :: rest =>
    if c = ' ' then leadingLines breaks (column + 1) (max greatest (column + 1)) rest
    else if isBreak c then leadingLines (breaks ++ [plainBreak c]) 0 greatest rest
    else (breaks, greatest, column, c :: rest)

/-- Empty lines, and the indentation of the line after them up to `indent` columns. -/
def emptyLines (indent : Nat) (breaks : List Char) (column : Nat) :
    List Char → List Char × Nat × List Char
  | [] => (breaks, column, [])
  | c :: rest =>
    if c = ' ' ∧ column < indent then emptyLines indent breaks (column + 1) rest
    else if isBreak c then emptyLines indent (breaks ++ [plainBreak c]) 0 rest
    else (breaks, column, c :: rest)

/-- A block as read so far: its text, the break behind its last line, and the breaks of the
empty lines after that. -/
structure Block where
  text : List Char := []
  last : List Char := []
  breaks : List Char

/-- The lines of a block, the first starting at its indentation. Folding drops the break between
two lines that do not start with a blank. -/
def blockLines (folded : Bool) (indent : Nat) (block : Block) (cs : List Char) :
    Nat → Block × List Char
  | 0 => (block, cs)
  | fuel + 1 =>
    let text := block.text ++ block.breaks ++ cs.takeWhile fun c => !isBreak c
    match skipLine cs with
    | [] => (⟨text, [], []⟩, [])
    | c :: rest =>
      let last := plainBreak c
      let (breaks, column, rest) := emptyLines indent [] 0 rest
      if column = indent ∧ rest ≠ [] then
        let flush (cs : List Char) : Bool := !((cs.head?.map isBlank).getD false)
        let between :=
          if folded ∧ last = '\n' ∧ flush cs ∧ flush rest then
            (if breaks = [] then [' '] else [])
          else [last]
        blockLines folded indent ⟨text ++ between, [], breaks⟩ rest fuel
      else (⟨text, [last], breaks⟩, rest)

/-- The text of a block with what is kept of the breaks at its end. -/
def Block.finish (b : Block) : Chomping → List Char
  | .strip => b.text
  | .clip => b.text ++ b.last
  | .keep => b.text ++ b.last ++ b.breaks

/-- A block scalar behind its first indicator, inside of a block of the given indentation. -/
def block (folded : Bool) (parent : Int) (cs : List Char) : Outcome (List Char × List Char) :=
  let (chomping, increment, rest) := blockIndicators cs
  if !endsName rest.head? then .error .malformedYaml
  else
    match skipComment rest with
    | c :: rest =>
      if isBreak c then
        let least := (max (parent + 1) 1).toNat
        let (indent, breaks, column, rest) :=
          match increment with
          | some n =>
            let indent := least + n - 1
            (indent, emptyLines indent [] 0 rest)
          | none =>
            let (breaks, greatest, column, rest) := leadingLines [] 0 0 rest
            (max least greatest, breaks, column, rest)
        let (block, rest) :=
          if column = indent ∧ rest ≠ [] then
            blockLines folded indent { breaks } rest (rest.length + 1)
          else ({ breaks }, rest)
        .ok (block.finish chomping, rest)
      else .error .malformedYaml
    | [] => .ok ([], [])

end LaunchIndex.Yaml.Scalar
