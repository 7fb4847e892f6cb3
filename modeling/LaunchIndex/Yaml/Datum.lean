import LaunchIndex.Text.Base64
import LaunchIndex.Text.LowerCase
import LaunchIndex.Value.Number
import LaunchIndex.Yaml.Node

/-! The data that scalars stand for, each by its kind. A collection is known by the number of its
node. Data can be keys, and the module says which keys are the same. -/

namespace LaunchIndex.Yaml

inductive Datum where
  | null
  | bool (b : Bool)
  | int (i : Int)
  | real (x : Binary64)
  | text (t : Text)
  | bytes (bs : Text.Bytes)
  | moment (m : Calendar.Moment)
  | collection (node : Nat)

namespace Datum

/-! ### Scalars -/

def withoutBars (t : Text) : Text := t.filter fun c => c != CodePoint.ofChar '_'

/-- A sign in front, minus being true, and the text behind it. -/
def splitSign (t : Text) : Bool × Text :=
  match t with
  | c :: rest =>
    if c = CodePoint.ofChar '-' then (true, rest)
    else if c = CodePoint.ofChar '+' then (false, rest)
    else (false, t)
  | [] => (false, [])

def colon : CodePoint := CodePoint.ofChar ':'

/-- The integer in a text without underscores: in the base that it starts with, or in sixtieths,
or in decimal digits. -/
def readInteger (t : Text) : Outcome Int :=
  let (negative, t) := splitSign t
  let magnitude : Outcome Int :=
    match t with
    | [] => .error .noNumber
    | c :: rest =>
      if t = Text.ofString "0" then .ok 0
      else if (Text.ofString "0b").isPrefixOf t then Text.readInteger 2 (t.drop 2)
      else if (Text.ofString "0x").isPrefixOf t then Text.readInteger 16 (t.drop 2)
      else if c = CodePoint.ofChar '0' then Text.readInteger 8 (c :: rest)
      else if List.elem colon t then do
        let parts ← (t.splitOn colon).mapM (Text.readInteger 10)
        return parts.foldl (fun n part => n * 60 + part) 0
      else Text.readInteger 10 t
  magnitude.map fun n => if negative then -n else n

/-- The sum of parts of which each counts sixty times the next. The last part comes first, and
`weight` is what the first part of the list counts. -/
def sumSixtieths (total : Binary64) (weight : Int) : List Binary64 → Outcome Binary64
  | [] => .ok total
  | part :: rest =>
    match Binary64.ofInt? weight with
    | some w => sumSixtieths (total.add (part.mul w)) (weight * 60) rest
    | none => .error Fault.integerTooLargeForReal

/-- The text of a real number as it is read: in small letters and without underscores. -/
def realForm (t : Text) : Text := Text.lower (withoutBars t)

/-- Whether a text is the word for an undefined number, with or without a sign. -/
def isUndefinedWord (t : Text) : Bool := (splitSign (realForm t)).2 == Text.ofString ".nan"

/-- The real number in a text. -/
def readReal (t : Text) : Outcome Binary64 :=
  let (negative, unsigned) := splitSign (realForm t)
  let magnitude : Outcome Binary64 :=
    if unsigned = Text.ofString ".inf" then .ok (Binary64.infinity false)
    else if List.elem colon unsigned then do
      let parts ← (unsigned.splitOn colon).mapM fun part => (Value.text part).toReal
      sumSixtieths (Binary64.zero false) 1 parts.reverse
    else (Value.text unsigned).toReal
  if realForm t = [] then .error .noNumber
  else if isUndefinedWord t then .ok Binary64.undefined
  else magnitude.map fun x => if negative then x.neg else x

/-- What a word for a flag says, in any letter case. -/
def readFlag (t : Text) : Outcome Bool :=
  let word := Text.lower t
  match Kind.flagWords.find? fun w => Text.ofString w.1 == word with
  | some w => .ok w.2
  | none => .error (.unknownWord word)

/-- The moment that a text names; it must exist. -/
def readMoment (t : Text) : Outcome Calendar.Moment :=
  match (t.mapM CodePoint.toChar?).bind fun cs => Kind.moment? (Kind.dropLastFeed cs) with
  | none => .error .noMoment
  | some m =>
    match m.flaw? with
    | some flaw => .error (.noSuchMoment flaw)
    | none => .ok m

/-- The bytes that a text stands for, three for every four of its characters. -/
def readBytes (t : Text) : Outcome Text.Bytes :=
  match if t.all CodePoint.isAscii then Text.Base64.decode? t else none with
  | some read => .ok read
  | none => .error .malformedYaml

/-- The value of a text of a kind. The mark of a default value has none, and neither has a text
of an unknown kind. -/
def ofText (kind : Kind) (t : Text) : Outcome Datum :=
  match kind with
  | .null => .ok .null
  | .bool => (readFlag t).map .bool
  | .int => (readInteger (withoutBars t)).map .int
  | .real => (readReal t).map .real
  | .moment => (readMoment t).map .moment
  | .text => .ok (.text t)
  | .bytes => (readBytes t).map .bytes
  | _ => .error .malformedYaml

/-! ### Emptiness and keys -/

/-- The number that a flag or number counts as when keys are compared. -/
def number? : Datum → Option (Int × Nat)
  | bool b => some (if b then 1 else 0, 1)
  | int i => some (i, 1)
  | real x => if x.isFinite then some x.ratio else none
  | _ => none

/-- Whether two keys are equal. Numbers of different kinds are if their values are, and moments if
they are the same instant. An undefined number equals none. -/
def equals (a b : Datum) : Bool :=
  match number? a, number? b with
  | some (n, d), some (m, e) => n * e == m * d
  | _, _ =>
    match a, b with
    | null, null => true
    | text t, text u => t == u
    | bytes t, bytes u => t == u
    | moment m, moment n => m.isSame n
    | real x, real y => x.isInfinite && decide (x = y)
    | _, _ => false

end Datum

end LaunchIndex.Yaml
