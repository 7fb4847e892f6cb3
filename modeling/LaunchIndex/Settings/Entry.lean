import LaunchIndex.Complaint
import LaunchIndex.Yaml.Document

/-! Reading the entries of a settings document as integers, real numbers and texts. Flags count
as zero and one where a number is wanted, texts are read as numbers, and reals as integers if
they have no fraction. -/

namespace LaunchIndex.Settings.Entry

open Yaml (Datum)

/-- The characters of a text without surrogates. -/
def characters (t : Text) : Except Defect (List Char) :=
  match t.mapM CodePoint.toChar? with
  | some cs => .ok cs
  | none => .error .notUnicode

/-- The characters of a sequence of bytes, which must be text. -/
def decoded (defect : Defect) (bytes : Text.Bytes) : Except Defect (List Char) :=
  match Text.Utf8.decode? bytes with
  | some cs => .ok cs
  | none => .error defect

def trimmed (cs : List Char) : List Char :=
  let isBlank (c : Char) : Bool := Text.isNumberBlank (CodePoint.ofChar c)
  ((cs.dropWhile isBlank).reverse.dropWhile isBlank).reverse

/-! ### Integers -/

/-- What is behind zeros and underscores, when a digit or a minus sign is there; where a point or
nothing is, one character in front of it stays. `last` is the character before. -/
def dropZeros (last : Char) : List Char → Option (List Char)
  | [] => some [last]
  | c :: rest =>
    if c = '0' ∨ c = '_' then dropZeros c rest
    else if c.isDigit ∨ c = '-' then some (c :: rest)
    else if c = '.' then some (last :: c :: rest)
    else none

/-- A number without zeros at its start. -/
def significant : List Char → Option (List Char)
  | [] => none
  | c :: rest =>
    if c = '0' then dropZeros c rest
    else if c.isDigit ∨ c = '-' then some (c :: rest)
    else none

/-- The part before a point that has only zeros behind it, at least one. -/
def dropFraction (cs : List Char) : List Char :=
  match cs.dropWhile (· != '.') with
  | _ :: zeros =>
    if zeros ≠ [] ∧ zeros.all (· == '0') then cs.takeWhile (· != '.') else cs
  | [] => cs

/-- The characters without underscores, if there are any and they stand between others, one at a
time. -/
def withoutBars? (cs : List Char) : Option (List Char) :=
  if cs.contains '_' && Text.barsBetween cs then some (cs.filter (· != '_')) else none

/-- A number with everything left out that does not count: blanks, a plus sign, zeros at the
start, a fraction of zeros, and underscores. -/
def simplified (cs : List Char) : Option (List Char) :=
  let unsigned :=
    match trimmed cs with
    | '+' :: '-' :: _ => none
    | '+' :: rest => significant rest
    | '-' :: rest => (significant rest).map ('-' :: ·)
    | cs => significant cs
  unsigned.map fun cs => (withoutBars? (dropFraction cs)).getD (dropFraction cs)

/-- The value of a run of digits that starts with zero only if it is zero. -/
def magnitude? (cs : List Char) : Option Nat :=
  if cs = [] ∨ !cs.all Char.isDigit ∨ (cs.head? = some '0' ∧ 1 < cs.length) then none
  else some (Binary64.digitsValue 0 cs)

/-- The integer in the plainest form: an optional minus sign and digits. -/
def plainInteger? (cs : List Char) : Option Int :=
  match cs with
  | '-' :: digits => (magnitude? digits).map fun n => -(n : Int)
  | digits => (magnitude? digits).map Int.ofNat

/-- The characters that a number in the plainest form would take at the start of a text. -/
def plainLength (cs : List Char) : Nat :=
  match cs with
  | '-' :: '0' :: _ => 2
  | '-' :: digits => 1 + (digits.takeWhile Char.isDigit).length
  | '0' :: _ => 1
  | digits => (digits.takeWhile Char.isDigit).length

/-- The integer in a text. A text that starts with a number of too many characters is refused for
that whatever follows. -/
def integerText (cs : List Char) : Except Defect Int :=
  let limited (cs : List Char) : Option Int :=
    if Text.maxDigits < plainLength cs then none else plainInteger? cs
  if Text.maxDigits < plainLength cs then .error .oversizedInteger
  else
    match (plainInteger? cs).or ((simplified cs).bind limited) with
    | some i => .ok i
    | none => .error .unreadableInteger

/-- The bound of the integers that a real number is taken as. -/
def realBound : Int := 9223372036854775808

def integer : Datum → Except Defect Int
  | .bool b => .ok (if b then 1 else 0)
  | .int i => .ok i
  | .real x =>
    match x.truncate? with
    | none => .error .notFinite
    | some i =>
      if !x.isIntegral then .error .fractional
      else if -realBound < i ∧ i < realBound then .ok i
      else .error .oversizedInteger
  | .text t => (characters t).bind integerText
  | .bytes bytes => (decoded .unreadableInteger bytes).bind integerText
  | _ => .error .notInteger

/-! ### Real numbers -/

/-- The real number in a text. Blanks at the ends are allowed only without underscores. -/
def realText (cs : List Char) : Except Defect Binary64 :=
  match (Binary64.read? (trimmed cs)).or ((withoutBars? cs).bind Binary64.read?) with
  | some x => .ok x
  | none => .error .unreadableReal

def real : Datum → Except Defect Binary64
  | .bool b => .ok (if b then Binary64.ofRatio false 1 1 else Binary64.zero false)
  | .int i =>
    match Binary64.ofInt? i with
    | some x => .ok x
    | none => .error .notReal
  | .real x => .ok x
  | .text t => (characters t).bind realText
  | .bytes bytes => (decoded .unreadableReal bytes).bind realText
  | _ => .error .notReal

/-! ### Texts -/

def text : Datum → Except Defect (Option Text)
  | .text t => .ok (some t)
  | .bytes bytes => (decoded .notUnicode bytes).map fun cs => some (Text.ofChars cs)
  | .null => .ok none
  | _ => .error .notText

/-! ### Keys -/

/-- The name of a key in a complaint. Integers of 64 bits and flags are shown as integers. -/
def keyName : Datum → Value
  | .text t => .text t
  | .bool b => .int (if b then 1 else 0)
  | .int i =>
    if -realBound ≤ i ∧ i < realBound then .int i else .text (Text.ofInt i)
  | .real x => .text x.display
  | .moment m => .text m.quoted
  | .bytes bytes => .text (Text.quotedBytes bytes)
  | _ => .text "None"

end LaunchIndex.Settings.Entry
