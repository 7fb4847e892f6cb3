import LaunchIndex.Fault

/-! The characters of YAML by the part that they play: those that may occur, those that end a
line, and those that end a word. Carriage returns do not occur, because lines are separated
by line feeds before the text is looked at. -/

namespace LaunchIndex.Yaml

/-- Characters that a document may hold. Controls may not, apart from tab and line ends. -/
def isAllowed (c : Char) : Bool :=
  let n := c.toNat
  n == 0x9 || n == 0xA || n == 0xD || (0x20 ≤ n && n ≤ 0x7E) || n == 0x85 ||
    (0xA0 ≤ n && n ≤ 0xFFFD) || 0x10000 ≤ n

/-- A line feed, a next line control, or a Unicode line or paragraph separator. -/
def isBreak (c : Char) : Bool :=
  c == '\n' || c.toNat == 0x85 || c.toNat == 0x2028 || c.toNat == 0x2029

/-- The break as it counts inside of text. -/
def plainBreak (c : Char) : Char := if c.toNat == 0x85 then '\n' else c

def isBlank (c : Char) : Bool := c == ' ' || c == '\t'

/-- The character after a word, if there is one, is blank or a break. -/
def endsWord : Option Char → Bool
  | none => true
  | some c => isBlank c || isBreak c

/-- The character after a directive or a tag: a blank other than a tab, or a break. -/
def endsName : Option Char → Bool
  | none => true
  | some c => c == ' ' || isBreak c

/-- The end of a line or of the text. -/
def endsLine : Option Char → Bool
  | none => true
  | some c => isBreak c

/-- The characters of names of anchors and handles. -/
def isNameChar (c : Char) : Bool := c.isAlphanum || c == '-' || c == '_'

/-- The characters of tags, percent signs among them. -/
def isTagChar (c : Char) : Bool := c.isAlphanum || "-;/?:@&=+$,_.!~*'()[]%".toList.contains c

/-- The value of `width` hexadecimal digits, and what follows them. -/
def hexDigits? (width : Nat) (cs : List Char) : Option (Nat × List Char) :=
  let digits := (cs.take width).filterMap hexDigit?
  if digits.length = width then some (digits.foldl (fun n d => n * 16 + d) 0, cs.drop width)
  else none

def skipSpaces (cs : List Char) : List Char := cs.dropWhile (· == ' ')

def skipLine (cs : List Char) : List Char := cs.dropWhile fun c => !isBreak c

/-- Spaces and a comment. -/
def skipComment (cs : List Char) : List Char :=
  match skipSpaces cs with
  | '#' :: rest => skipLine rest
  | rest => rest

/-- Whether the text starts with three hyphens or points that are a word of their own. -/
def startsWith (mark : Char) (cs : List Char) : Bool :=
  cs.take 3 == [mark, mark, mark] && endsWord cs[3]?

/-- Whether the text starts with the mark of the beginning or of the end of a document. -/
def atMarker (cs : List Char) : Bool := startsWith '-' cs || startsWith '.' cs

end LaunchIndex.Yaml
