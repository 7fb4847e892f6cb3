import LaunchIndex.Binary64.Reading
import LaunchIndex.Fault
import LaunchIndex.Text.Trim

/-! Numbers from values of any kind. Flags count as zero and one, reals lose their fraction,
and texts are read as decimal integers in the digits of any script. -/

namespace LaunchIndex

namespace Text

/-- White space around a number. Outside ASCII every blank counts; inside it the separator
controls do not. -/
def isNumberBlank (c : CodePoint) : Bool :=
  CharSet.isBlank c && !(0x1C ≤ c.val && c.val ≤ 0x1F)

/-- The characters of a text in which every digit of any script is an ASCII digit and every
other character stands for itself. -/
def plainDigits (t : Text) : List Char :=
  t.map fun c =>
    match CharSet.digit? c with
    | some d => Char.ofNat (48 + d)
    | none => (CodePoint.toChar? c).getD (Char.ofNat 0xFFFD)

/-- The characters without underscores, each of which must stand between two digits. `after`
tells whether a digit was the last character. -/
def withoutUnderscores (after : Bool) : List Char → Option (List Char)
  | [] => some []
  | '_' :: rest =>
    match rest with
    | c :: _ => if after && c.isDigit then withoutUnderscores false rest else none
    | [] => none
  | c :: rest => (withoutUnderscores c.isDigit rest).map (c :: ·)

/-- A sign in front, minus being true, and the characters behind it. -/
def splitSign : List Char → Bool × List Char
  | '-' :: rest => (true, rest)
  | '+' :: rest => (false, rest)
  | cs => (false, cs)

/-- Numbers in a base that is a power of two may start with zero and the letter of the base. -/
def baseLetter? (base : Nat) : Option Char :=
  if base = 2 then some 'b' else if base = 8 then some 'o' else if base = 16 then some 'x' else none

/-- The characters behind a zero and the letter of the base, if a number starts with these. -/
def dropBaseLetter (base : Nat) (cs : List Char) : List Char :=
  match cs with
  | '0' :: c :: rest => if baseLetter? base = some c.toLower then rest else cs
  | _ => cs

def digitIn? (base : Nat) (c : Char) : Option Nat := (hexDigit? c).filter fun d => d < base

/-- Whether underscores stand one at a time, and neither first nor last. -/
def barsBetween (cs : List Char) : Bool :=
  cs.head? != some '_' && cs.getLast? != some '_' &&
    (cs.zip (cs.drop 1)).all fun p => p != ('_', '_')

/-- The most digits of base ten that a text may have to be read as an integer. -/
def maxDigits : Nat := 4300

/-- The integer in a text: blanks, an optional sign, digits of a base and in any script with
single underscores between them, blanks. A decimal number with too many digits is refused
before what follows it is looked at. -/
def readInteger (base : Nat) (t : Text) : Outcome Int :=
  let isBlank (c : Char) : Bool := isNumberBlank (CodePoint.ofChar c)
  let (negative, cs) := splitSign ((plainDigits t).dropWhile isBlank)
  let cs := dropBaseLetter base cs
  let isPart (c : Char) : Bool := (digitIn? base c).isSome || c == '_'
  let digits := (cs.takeWhile isPart).filterMap (digitIn? base)
  if !barsBetween (cs.takeWhile isPart) then .error (.notDigits base (.text t))
  else if base = 10 ∧ maxDigits < digits.length then .error (.tooManyDigits digits.length)
  else if digits = [] ∨ !(cs.dropWhile isPart).all isBlank then .error (.notDigits base (.text t))
  else
    let size : Int := (digits.foldl (fun n d => n * base + d) 0 : Nat)
    .ok (if negative then -size else size)

/-- Blanks, a decimal number or a word for an infinite or undefined one, blanks. -/
def readReal (t : Text) : Option Binary64 :=
  (withoutUnderscores false (plainDigits (Text.trimBy isNumberBlank t))).bind Binary64.read?

/-- The decimal integer in a sequence of bytes. Those outside ASCII are no part of a number. -/
def readIntegerBytes (bytes : Bytes) : Outcome Int :=
  match readInteger 10 (Utf8.asciiOnly bytes) with
  | .error (.notDigits base _) => .error (.notDigits base (.bytes bytes))
  | outcome => outcome

end Text

namespace Value

/-- The integer that a value stands for. -/
def toInteger : Value → Outcome Int
  | bool b => .ok (if b then 1 else 0)
  | int i => .ok i
  | real x =>
    match x.truncate? with
    | some i => .ok i
    | none => .error (if x.isNaN then .undefinedInteger else Fault.infiniteInteger)
  | text t => Text.readInteger 10 t
  | bytes b => Text.readIntegerBytes b
  | v => .error (.noInteger v.kindName)

/-- The real number that a value stands for. -/
def toReal : Value → Outcome Binary64
  | bool b => .ok (if b then Binary64.ofRatio false 1 1 else Binary64.zero false)
  | int i =>
    match Binary64.ofInt? i with
    | some x => .ok x
    | none => .error Fault.integerTooLargeForReal
  | real x => .ok x
  | text t =>
    match t.readReal with
    | some x => .ok x
    | none => .error (.notANumber (.text t))
  | bytes b =>
    match (Text.Utf8.asciiOnly b).readReal with
    | some x => .ok x
    | none => .error (.notANumber (.bytes b))
  | v => .error (.noReal v.kindName)

def isPositive : Value → Outcome Bool
  | bool b => .ok b
  | int i => .ok (decide (0 < i))
  | real x => .ok (!x.negative && !x.isNaN && !x.isZero)
  | v => .error (.noOrder v.kindName)

end Value

end LaunchIndex
