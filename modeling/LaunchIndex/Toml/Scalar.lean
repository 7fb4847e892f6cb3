import LaunchIndex.Binary64.Reading
import LaunchIndex.Calendar
import LaunchIndex.Toml.Item
import LaunchIndex.Toml.Quoted
import LaunchIndex.Value.Number

/-! Numbers, dates and times of TOML. Each reader takes the longest beginning that has its
form; what follows is for the caller to accept or refuse. -/

namespace LaunchIndex.Toml.Scalar

/-- The longest run of digits with single underscores between them, the underscores dropped. -/
def digits (isDigit : Char → Bool) : List Char → List Char × List Char
  | '_' :: c :: rest =>
    if isDigit c then
      let (ds, rest) := digits isDigit rest
      (c :: ds, rest)
    else ([], '_' :: c :: rest)
  | c :: rest =>
    if isDigit c then
      let (ds, rest) := digits isDigit rest
      (c :: ds, rest)
    else ([], c :: rest)
  | [] => ([], [])

/-- A run of digits that starts with one. -/
def digitsFrom? (isDigit : Char → Bool) (cs : List Char) : Option (List Char × List Char) :=
  match cs with
  | c :: _ => if isDigit c then some (digits isDigit cs) else none
  | [] => none

/-- The value of digits in a base that is a power of two. -/
def valueIn (base : Nat) (ds : List Char) : Nat :=
  ds.foldl (fun n c => n * base + (if c.isDigit then c.toNat - 48 else c.toLower.toNat - 87)) 0

def isHexDigit (c : Char) : Bool :=
  c.isDigit || ('a' ≤ c && c ≤ 'f') || ('A' ≤ c && c ≤ 'F')

/-- An integer whose base is a power of two. -/
def based? (cs : List Char) : Option (Item × List Char) :=
  let read (base : Nat) (isDigit : Char → Bool) (rest : List Char) : Option (Item × List Char) :=
    (digitsFrom? isDigit rest).map fun r => (.int (valueIn base r.1), r.2)
  match cs with
  | '0' :: 'x' :: rest => read 16 isHexDigit rest
  | '0' :: 'b' :: rest => read 2 (fun c => c == '0' || c == '1') rest
  | '0' :: 'o' :: rest => read 8 (fun c => '0' ≤ c && c ≤ '7') rest
  | _ => none

/-- The digits before a point: zero alone, or a run that does not start with zero. -/
def whole? (cs : List Char) : Option (List Char × List Char) :=
  match cs with
  | '0' :: rest => some (['0'], rest)
  | _ => digitsFrom? Char.isDigit cs

/-- A point and the digits after it; nothing is read where they are not complete. -/
def fraction (cs : List Char) : List Char × List Char :=
  match cs with
  | '.' :: rest =>
    match digitsFrom? Char.isDigit rest with
    | some (ds, rest) => ('.' :: ds, rest)
    | none => ([], cs)
  | _ => ([], cs)

/-- A power of ten; nothing is read where it is not complete. -/
def exponent (cs : List Char) : List Char × List Char :=
  match cs with
  | c :: rest =>
    if c = 'e' ∨ c = 'E' then
      let (sign, rest) :=
        match rest with
        | '-' :: rest => (['-'], rest)
        | '+' :: rest => ([], rest)
        | rest => ([], rest)
      match digitsFrom? Char.isDigit rest with
      | some (ds, rest) => ('e' :: sign ++ ds, rest)
      | none => ([], cs)
    else ([], cs)
  | [] => ([], cs)

def takeSign : List Char → Bool × List Char
  | '-' :: rest => (true, rest)
  | '+' :: rest => (false, rest)
  | cs => (false, cs)

/-- A number in decimal digits. An integer must not have more digits than integers may. -/
def decimal? (cs : List Char) : Option (Outcome (Item × List Char)) :=
  let (negative, unsigned) := takeSign cs
  (whole? unsigned).map fun (ds, rest) =>
    let (part, rest) := fraction rest
    let (power, rest) := exponent rest
    if part = [] ∧ power = [] then
      if Text.maxDigits < ds.length then .error (.tooManyDigits ds.length)
      else
        let n : Int := valueIn 10 ds
        .ok (.int (if negative then -n else n), rest)
    else
      match Binary64.readDecimal (ds ++ part ++ power) with
      | some d => .ok (.real (Binary64.ofDecimal negative d), rest)
      | none => .error .malformedToml

/-- The words for numbers that no digits stand for. -/
def word? (cs : List Char) : Option (Item × List Char) :=
  let (negative, unsigned) := takeSign cs
  match unsigned with
  | 'i' :: 'n' :: 'f' :: rest => some (.real (Binary64.infinity negative), rest)
  | 'n' :: 'a' :: 'n' :: rest =>
    some (.real (if negative then Binary64.undefined else Binary64.nan), rest)
  | _ => none

/-! ### Dates and times -/

def fixed? (width : Nat) (cs : List Char) : Option (Nat × List Char) :=
  let ds := cs.take width
  if ds.length = width ∧ ds.all Char.isDigit then some (valueIn 10 ds, cs.drop width) else none

def expect? (c : Char) : List Char → Option (List Char)
  | d :: rest => if c = d then some rest else none
  | [] => none

def date? (cs : List Char) : Option (Calendar.Date × List Char) := do
  let (year, rest) ← fixed? 4 cs
  let rest ← expect? '-' rest
  let (month, rest) ← fixed? 2 rest
  let rest ← expect? '-' rest
  let (day, rest) ← fixed? 2 rest
  if 1 ≤ month ∧ month ≤ 12 ∧ 1 ≤ day ∧ day ≤ 31 then some (⟨year, month, day⟩, rest) else none

def clock? (cs : List Char) : Option (List Char) := do
  let (hour, rest) ← fixed? 2 cs
  let rest ← expect? ':' rest
  let (minute, rest) ← fixed? 2 rest
  if hour < 24 ∧ minute < 60 then some rest else none

/-- The rest behind a time of day; a fraction of a second is part of it. -/
def time? (cs : List Char) : Option (List Char) := do
  let rest ← clock? cs
  let rest ← expect? ':' rest
  let (second, rest) ← fixed? 2 rest
  if second < 60 then
    match rest with
    | '.' :: c :: more => if c.isDigit then some (more.dropWhile Char.isDigit) else some rest
    | _ => some rest
  else none

/-- The rest behind the distance from universal time, if it is given. -/
def skipOffset (cs : List Char) : List Char :=
  match cs with
  | c :: rest =>
    if c = 'Z' ∨ c = 'z' then rest
    else if c = '+' ∨ c = '-' then (clock? rest).getD cs
    else cs
  | [] => []

/-- The rest behind the time that may follow a date. -/
def skipTime (cs : List Char) : List Char :=
  match cs with
  | c :: rest =>
    if c = 'T' ∨ c = 't' ∨ c = ' ' then
      match time? rest with
      | some rest => skipOffset rest
      | none => cs
    else cs
  | [] => []

/-- The part of a text before a rest of it. -/
def spelling (cs rest : List Char) : Text := Text.ofChars (cs.take (cs.length - rest.length))

/-- A date, alone or with a time, or a time alone. The date must exist. -/
def moment? (cs : List Char) : Option (Outcome (Item × List Char)) :=
  match date? cs with
  | some (date, rest) =>
    let rest := skipTime rest
    some <|
      if date.flaw? = none then .ok (.moment (spelling cs rest), rest)
      else .error .malformedToml
  | none => (time? cs).map fun rest => .ok (.moment (spelling cs rest), rest)

def read (cs : List Char) : Outcome (Item × List Char) :=
  match moment? cs with
  | some result => result
  | none =>
    match based? cs with
    | some result => .ok result
    | none =>
      match decimal? cs with
      | some result => result
      | none =>
        match word? cs with
        | some result => .ok result
        | none => .error .malformedToml

end LaunchIndex.Toml.Scalar
