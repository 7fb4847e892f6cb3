import LaunchIndex.Calendar
import LaunchIndex.Text

/-! The kinds of nodes. A tag names the kind; without one, a collection is a sequence or a
mapping, and a plain scalar has the kind that its form tells: a word for a flag or for nothing,
a number in one of several bases, a date, the mark of a merge or of a default value, or else
text. -/

namespace LaunchIndex.Yaml

/-- The kind of a node. -/
inductive Kind where
  | null
  | bool
  | int
  | real
  | moment
  | text
  | bytes
  | merge
  | default
  | sequence
  | mapping
  | members
  | pairs
  | unknown
deriving DecidableEq, Repr

namespace Kind

def isCollection : Kind → Bool
  | sequence | mapping | members | pairs => true
  | _ => false

/-- A text without the line feed at its end. The form of a scalar is told without it. -/
def dropLastFeed (cs : List Char) : List Char :=
  if cs.getLast? = some '\n' then cs.dropLast else cs

/-- Words for nothing. -/
def nullWords : List String := ["~", "null", "Null", "NULL"]

/-- The characters that scalars of no kind consist of. -/
def strayMarks : List Char := ['!', '&', '*']

/-- Words for flags, with what they say. -/
def flagWords : List (String × Bool) :=
  [("yes", true), ("no", false), ("true", true), ("false", false), ("on", true), ("off", false)]

/-- Flags are written in small letters, in capitals, or with one capital in front. -/
def isFlag (cs : List Char) : Bool :=
  let lower := cs.map Char.toLower
  let capitals := cs.map Char.toUpper
  flagWords.any (fun w => w.1.toList == lower) &&
    (cs == lower || cs == capitals || cs == capitals.take 1 ++ lower.drop 1)

def dropSign : List Char → List Char
  | '-' :: rest => rest
  | '+' :: rest => rest
  | cs => cs

def isDigitOrBar (c : Char) : Bool := c.isDigit || c == '_'

def isHex (c : Char) : Bool := c.isDigit || ('a' ≤ c && c ≤ 'f') || ('A' ≤ c && c ≤ 'F')

/-- One or more characters of a class. -/
def isRun (p : Char → Bool) (cs : List Char) : Bool := cs != [] && cs.all p

/-- Sixtieths behind colons: each is a digit, or two with the first below six. There is at least
one, and `rest` tells what may follow. -/
def sixtieths (rest : List Char → Bool) : List Char → Bool
  | ':' :: a :: b :: more =>
    if b.isDigit then a.isDigit && a < '6' && (rest more || sixtieths rest more)
    else a.isDigit && (rest (b :: more) || sixtieths rest (b :: more))
  | [':', a] => a.isDigit && rest []
  | _ => false

/-- Binary, octal, decimal and hexadecimal integers, and integers in sixtieths. Underscores may
stand between the digits. -/
def isInteger (cs : List Char) : Bool :=
  match dropSign cs with
  | '0' :: 'b' :: rest => isRun (fun c => c == '0' || c == '1' || c == '_') rest
  | '0' :: 'x' :: rest => isRun (fun c => isHex c || c == '_') rest
  | ['0'] => true
  | '0' :: rest => isRun (fun c => ('0' ≤ c && c ≤ '7') || c == '_') rest
  | c :: rest =>
    c.isDigit &&
      match rest.dropWhile isDigitOrBar with
      | [] => true
      | more => sixtieths List.isEmpty more
  | [] => false

/-- A power of ten, which needs its sign, or nothing. -/
def isPower : List Char → Bool
  | [] => true
  | e :: sign :: rest =>
    (e == 'e' || e == 'E') && (sign == '-' || sign == '+') && isRun Char.isDigit rest
  | _ => false

/-- Decimal fractions, decimal fractions in sixtieths, and the words for infinite and undefined
numbers. There is always a point. -/
def isReal (cs : List Char) : Bool :=
  let unsigned := dropSign cs
  let word := String.ofList unsigned
  [".inf", ".Inf", ".INF"].contains word ||
    [".nan", ".NaN", ".NAN"].contains (String.ofList cs) ||
    match unsigned with
    | '.' :: c :: rest =>
      unsigned == cs && c.isDigit && isPower (rest.dropWhile isDigitOrBar)
    | c :: rest =>
      c.isDigit &&
        match rest.dropWhile isDigitOrBar with
        | '.' :: rest => isPower (rest.dropWhile isDigitOrBar)
        | rest =>
          sixtieths (fun
            | '.' :: rest => rest.all isDigitOrBar
            | _ => false) rest
    | [] => false

/-! ### Dates -/

def short? (cs : List Char) : Option (Nat × List Char) :=
  match cs with
  | a :: b :: rest =>
    if a.isDigit then
      if b.isDigit then some ((a.toNat - 48) * 10 + (b.toNat - 48), rest)
      else some (a.toNat - 48, b :: rest)
    else none
  | [a] => if a.isDigit then some (a.toNat - 48, []) else none
  | [] => none

def two? (cs : List Char) : Option (Nat × List Char) :=
  match cs with
  | a :: b :: rest =>
    if a.isDigit ∧ b.isDigit then some ((a.toNat - 48) * 10 + (b.toNat - 48), rest) else none
  | _ => none

def expect? (c : Char) : List Char → Option (List Char)
  | d :: rest => if c = d then some rest else none
  | [] => none

def date? (cs : List Char) : Option (Calendar.Date × List Char) := do
  let (century, rest) ← two? cs
  let (year, rest) ← two? rest
  let (month, rest) ← short? (← expect? '-' rest)
  let (day, rest) ← short? (← expect? '-' rest)
  return (⟨century * 100 + year, month, day⟩, rest)

/-- The millionths behind a point; further digits are dropped. -/
def millionths : List Char → Nat × List Char
  | '.' :: rest =>
    let ds := (rest.takeWhile Char.isDigit).take 6
    let value := ds.foldl (fun n c => n * 10 + (c.toNat - 48)) 0
    (value * Nat.pow 10 (6 - ds.length), rest.dropWhile Char.isDigit)
  | rest => (0, rest)

/-- The distance from universal time in seconds, up to the end of the text. -/
def offset? (cs : List Char) : Option (Option Int) :=
  match cs.dropWhile fun c => c == ' ' || c == '\t' with
  | [] => if cs = [] then some none else none
  | ['Z'] => some (some 0)
  | sign :: rest =>
    if sign = '+' ∨ sign = '-' then do
      let (hours, rest) ← short? rest
      let minutes ←
        match rest with
        | [] => some 0
        | _ =>
          match two? (← expect? ':' rest) with
          | some (minutes, []) => some minutes
          | _ => none
      let seconds : Int := hours * 3600 + minutes * 60
      return some (if sign = '-' then -seconds else seconds)
    else none

/-- The time of day behind a date: a letter or blanks, then the time and, if it is given, its
distance from universal time. -/
def time? (cs : List Char) : Option Calendar.Time := do
  let rest ←
    match cs with
    | c :: rest =>
      if c = 'T' ∨ c = 't' then some rest
      else if c = ' ' ∨ c = '\t' then some (rest.dropWhile fun c => c == ' ' || c == '\t')
      else none
    | [] => none
  let (hour, rest) ← short? rest
  let (minute, rest) ← two? (← expect? ':' rest)
  let (second, rest) ← two? (← expect? ':' rest)
  let (microsecond, rest) := millionths rest
  let offset ← offset? rest
  return { hour, minute, second, microsecond, offset }

/-- A date, alone or with a time of day. The numbers may be out of range. -/
def moment? (cs : List Char) : Option Calendar.Moment :=
  (date? cs).bind fun (date, rest) =>
    if rest = [] then some ⟨date, none⟩ else (time? rest).map fun time => ⟨date, some time⟩

/-- A date alone has ten characters; only before a time may month and day have one digit. -/
def isMoment (cs : List Char) : Bool :=
  match moment? cs with
  | some m => m.time.isSome || cs.length == 10
  | none => false

/-- The kind that the form of a scalar tells. The empty scalar stands for nothing. -/
def ofForm (text : List Char) : Kind :=
  let cs := dropLastFeed text
  if text = [] then null
  else if nullWords.contains (String.ofList cs) then null
  else if isFlag cs then bool
  else if isReal cs then real
  else if isInteger cs then int
  else if cs = ['<', '<'] then merge
  else if cs = ['='] then default
  else if isMoment cs then moment
  else if cs.length = 1 ∧ cs.all strayMarks.contains then unknown
  else Kind.text

/-- The kind that a tag of the standard set names. -/
def ofName? (name : Text) : Option Kind :=
  (([("null", null), ("bool", bool), ("int", int), ("float", real), ("timestamp", moment),
    ("str", text), ("binary", bytes), ("merge", merge), ("value", default), ("seq", sequence),
    ("map", mapping), ("set", members), ("omap", pairs), ("pairs", pairs)] :
      List (String × Kind)).find?
      fun p => Text.ofString p.1 == name).map (·.2)

end Kind

end LaunchIndex.Yaml
