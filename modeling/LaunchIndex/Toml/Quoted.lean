import LaunchIndex.Fault

/-! Quoted text of TOML. Double quotes take escapes and single quotes take none; three quotes
enclose text of several lines. Each reader starts behind the opening quotes, and gives the
text and what follows the closing ones. -/

namespace LaunchIndex.Toml

def isBlank (c : Char) : Bool := c == ' ' || c == '\t'

def skipBlanks (cs : List Char) : List Char := cs.dropWhile isBlank

/-- Control characters other than the tab, the line break among them. -/
def isControl (c : Char) : Bool := (c.toNat < 0x20 && c != '\t') || c.toNat == 0x7F

namespace Quoted

def hexValue? (cs : List Char) : Option Nat :=
  cs.foldlM (fun n c =>
    if c.isDigit then some (n * 16 + (c.toNat - 48))
    else if 'a' ≤ c ∧ c ≤ 'f' then some (n * 16 + (c.toNat - 87))
    else if 'A' ≤ c ∧ c ≤ 'F' then some (n * 16 + (c.toNat - 55))
    else none) 0

/-- The character with a number given in hexadecimal digits. -/
def numbered? (digits : List Char) : Option Char :=
  (hexValue? digits).bind fun n =>
    if n < 0x110000 ∧ ¬(0xD800 ≤ n ∧ n < 0xE000) then some (Char.ofNat n) else none

/-- The character that an escape of one letter stands for. -/
def letter? : Char → Option Char
  | 'b' => some '\x08'
  | 't' => some '\t'
  | 'n' => some '\n'
  | 'f' => some '\x0c'
  | 'r' => some '\r'
  | '"' => some '"'
  | '\\' => some '\\'
  | _ => none

/-- The character that the escape behind a backslash stands for. -/
def escaped? : List Char → Option (Char × List Char)
  | 'u' :: rest =>
    if (rest.take 4).length = 4 then (numbered? (rest.take 4)).map fun c => (c, rest.drop 4)
    else none
  | 'U' :: rest =>
    if (rest.take 8).length = 8 then (numbered? (rest.take 8)).map fun c => (c, rest.drop 8)
    else none
  | c :: rest => (letter? c).map fun d => (d, rest)
  | [] => none

/-- The rest behind a backslash at the end of a line: blanks, a line break and all blanks and
line breaks after it. -/
def afterLineEnd? (cs : List Char) : Option (List Char) :=
  match skipBlanks cs with
  | '\n' :: rest => some (rest.dropWhile fun c => isBlank c || c == '\n')
  | _ => none

/-- Up to two quotes before the closing ones belong to the text. -/
def closing (quote : Char) (read : List Char) (rest : List Char) : List Char × List Char :=
  let extra := ((rest.take 2).takeWhile (· == quote)).length
  (read.reverse ++ List.replicate extra quote, rest.drop extra)

/-- Text between double quotes. `read` is what has been read, last character first; each step
takes a character of the document, so that its length bounds the steps. -/
def double (multiline : Bool) (read : List Char) (cs : List Char) :
    Nat → Outcome (List Char × List Char)
  | 0 => .error .malformedToml
  | fuel + 1 =>
    match cs with
    | [] => .error .malformedToml
    | '"' :: '"' :: '"' :: rest =>
      if multiline then .ok (closing '"' read rest) else .ok (read.reverse, '"' :: '"' :: rest)
    | '"' :: rest =>
      if multiline then double multiline ('"' :: read) rest fuel else .ok (read.reverse, rest)
    | '\\' :: rest =>
      match escaped? rest, afterLineEnd? rest with
      | some (c, rest), _ => double multiline (c :: read) rest fuel
      | none, some rest =>
        if multiline then double multiline read rest fuel else .error .malformedToml
      | none, none => .error .malformedToml
    | c :: rest =>
      if isControl c && !(multiline && c == '\n') then .error .malformedToml
      else double multiline (c :: read) rest fuel

def single (multiline : Bool) (read : List Char) : List Char → Outcome (List Char × List Char)
  | [] => .error .malformedToml
  | '\'' :: '\'' :: '\'' :: rest =>
    if multiline then .ok (closing '\'' read rest) else .ok (read.reverse, '\'' :: '\'' :: rest)
  | '\'' :: rest =>
    if multiline then single multiline ('\'' :: read) rest else .ok (read.reverse, rest)
  | c :: rest =>
    if isControl c && !(multiline && c == '\n') then .error .malformedToml
    else single multiline (c :: read) rest

def line (quote : Char) (cs : List Char) : Outcome (Text × List Char) :=
  (if quote = '"' then double false [] cs (cs.length + 1) else single false [] cs).map
    fun r => (Text.ofChars r.1, r.2)

/-- Text of several lines behind its opening quotes; a line break right there is left out. -/
def block (quote : Char) (cs : List Char) : Outcome (Text × List Char) :=
  let cs :=
    match cs with
    | '\n' :: rest => rest
    | cs => cs
  (if quote = '"' then double true [] cs (cs.length + 1) else single true [] cs).map
    fun r => (Text.ofChars r.1, r.2)

end Quoted

end LaunchIndex.Toml
