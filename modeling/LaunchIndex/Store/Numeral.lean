import LaunchIndex.Extended
import LaunchIndex.Text

/-! Numbers in text as the store reads and writes them. Reading keeps up to nineteen digits and
multiplies them by a power of ten in extended precision; writing shows fifteen digits, which
are taken off the number one by one. -/

namespace LaunchIndex.Store.Numeral

def isSpace (c : CodePoint) : Bool := c.val == 32 || (9 ≤ c.val && c.val ≤ 13)

def isDigit (c : CodePoint) : Bool := c.asciiDigit?.isSome

/-- A sign in front, minus being true, and the text behind it. -/
def splitSign (t : Text) : Bool × Text :=
  match t with
  | c :: rest =>
    if c = CodePoint.ofChar '-' then (true, rest)
    else if c = CodePoint.ofChar '+' then (false, rest)
    else (false, t)
  | [] => (false, [])

/-! ### Reading -/

/-- How far a text is a number: as a whole and without a point or a power of ten, as a whole, at
its start and with one of these, or not at all. -/
inductive Form where
  | integer
  | whole
  | start
  | none
deriving DecidableEq, Repr

/-- The greatest significand that takes no more digits. -/
def fullSignificand : Nat := 922337203685477579

/-- The significand that digits make, and how many digits are left out behind it. -/
def takeWhole (significand skipped : Nat) : Text → Nat × Nat
  | [] => (significand, skipped)
  | c :: rest =>
    if fullSignificand ≤ significand then takeWhole significand (skipped + 1) rest
    else takeWhole (significand * 10 + c.asciiDigit?.getD 0) skipped rest

/-- The significand with the digits behind a point, and how many of them it has taken. -/
def takePart (significand taken : Nat) : Text → Nat × Nat
  | [] => (significand, taken)
  | c :: rest =>
    if fullSignificand ≤ significand then takePart significand taken rest
    else takePart (significand * 10 + c.asciiDigit?.getD 0) (taken + 1) rest

/-- A power of ten beyond ten thousand counts as ten thousand. -/
def takeExponent (digits : Text) : Nat :=
  digits.foldl (fun n c => if n < 10000 then n * 10 + c.asciiDigit?.getD 0 else 10000) 0

/-- A number with its power of ten made smaller by factors of ten in the significand, as far as
that goes. -/
def reduce (significand : Nat) (exponent : Int) : Nat → Nat × Int
  | 0 => (significand, exponent)
  | fuel + 1 =>
    if 0 < exponent ∧ significand ≤ fullSignificand then
      reduce (significand * 10) (exponent - 1) fuel
    else if exponent < 0 ∧ significand % 10 = 0 then
      reduce (significand / 10) (exponent + 1) fuel
    else (significand, exponent)

/-- The greatest power of ten that is taken in one step. -/
def greatestStep : Nat := 307

/-- The number `significand * 10 ^ exponent`. -/
def scaled (negative : Bool) (significand : Nat) (exponent : Int) : Binary64 :=
  let (significand, exponent) := reduce significand exponent 20
  let s := Extended.ofNat significand
  let apply (s : Extended) (power : Nat) : Extended :=
    if exponent < 0 then s.div (Extended.powTen power) else s.mul (Extended.powTen power)
  let size := exponent.natAbs
  if significand = 0 then Binary64.zero negative
  else if exponent = 0 then s.toBinary64 negative
  else if size ≤ greatestStep then (apply s size).toBinary64 negative
  else if size < 342 then
    let part := (apply s (size - 308)).toBinary64 negative
    let rest := Binary64.ofRatio false (Nat.pow 10 308) 1
    if exponent < 0 then part.div rest else part.mul rest
  else if exponent < 0 then Binary64.zero negative
  else Binary64.infinity negative

/-- The number in a text, or at its start, and how far the text is one. Spaces may stand around
it. -/
def readReal (t : Text) : Form × Binary64 :=
  let (negative, t) := splitSign (t.dropWhile isSpace)
  let whole := t.takeWhile isDigit
  let (significand, skipped) := takeWhole 0 0 whole
  let t := t.dropWhile isDigit
  let (point, part, t) :=
    match t with
    | c :: rest =>
      if c = CodePoint.ofChar '.' then (true, rest.takeWhile isDigit, rest.dropWhile isDigit)
      else (false, [], t)
    | [] => (false, [], [])
  let (significand, taken) := takePart significand 0 part
  let (letter, digits, exponent, t) :=
    match t with
    | c :: rest =>
      if c.asciiLower = CodePoint.ofChar 'e' then
        let (below, rest) := splitSign rest
        let digits := rest.takeWhile isDigit
        let size : Int := takeExponent digits
        (true, digits, if below then -size else size, rest.dropWhile isDigit)
      else (false, [], 0, t)
    | [] => (false, [], 0, [])
  let value := scaled negative significand (exponent + skipped - taken)
  let hasDigits := !whole.isEmpty || !part.isEmpty
  let complete := !letter || !digits.isEmpty
  let form : Form :=
    if hasDigits && complete && t.all isSpace then
      (if point || letter then .whole else .integer)
    else if hasDigits && ((point && letter) || ((point || letter) && complete)) then .start
    else .none
  (form, value)

/-- How far a text is an integer of 64 bits: as a whole, at its start, or not at all. A text that
starts with one that is too large counts as `tooLarge`. -/
inductive IntegerForm where
  | whole
  | start
  | none
  | tooLarge
deriving DecidableEq, Repr

def leastInteger : Int := -9223372036854775808

def greatestInteger : Int := 9223372036854775807

def fits (i : Int) : Bool := leastInteger ≤ i && i ≤ greatestInteger

/-- The integer in a text, or at its start, and how far the text is one. -/
def readInteger (t : Text) : IntegerForm × Int :=
  let (negative, t) := splitSign (t.dropWhile isSpace)
  let digits := t.takeWhile isDigit
  let size : Int := (digits.foldl (fun n c => n * 10 + c.asciiDigit?.getD 0) 0 : Nat)
  let value := if negative then -size else size
  if digits = [] then (.none, 0)
  else if !fits value then (.tooLarge, if negative then leastInteger else greatestInteger)
  else if (t.dropWhile isDigit).all isSpace then (.whole, value)
  else (.start, value)

/-! ### Writing -/

/-- What is added to a number between one and ten before digits are taken off it: half of a unit
in the fifteenth digit, as two factors rounded to 64 bits. -/
def halfUnit : Extended :=
  let half := Binary64.ofRatio false 5 100000
  Extended.ofBinary64 (half.mul (Binary64.ofRatio false 1 10000000000))

/-- The number nearest to a power of ten that is at most a hundred. -/
def power64 (exponent : Nat) : Extended :=
  Extended.ofBinary64 (Binary64.ofRatio false (Nat.pow 10 exponent) 1)

/-- A power of ten, with its exponent, that a number is not below, as a product of powers with the
exponent `step`. -/
def scaleUp (step : Nat) (x scale : Extended) (exponent : Int) : Nat → Extended × Int
  | 0 => (scale, exponent)
  | fuel + 1 =>
    let next := (power64 step).mul scale
    if next.le x then scaleUp step x (scale.mul (power64 step)) (exponent + step) fuel
    else (scale, exponent)

/-- A number below `bound` multiplied until it is not, with the exponent that it then has. -/
def liftTo (bound : Extended) (step : Nat) (x : Extended) (exponent : Int) :
    Nat → Extended × Int
  | 0 => (x, exponent)
  | fuel + 1 =>
    if bound.le x then (x, exponent)
    else liftTo bound step (x.mul (power64 step)) (exponent - step) fuel

/-- A positive number as one between one and ten and a power of ten. -/
def normalized (x : Extended) : Extended × Int :=
  let (scale, exponent) := scaleUp 100 x Extended.one 0 4
  let (scale, exponent) := scaleUp 10 x scale exponent 10
  let (scale, exponent) := scaleUp 1 x scale exponent 10
  let small := Extended.ofBinary64 (Binary64.ofRatio false 1 100000000)
  let (x, exponent) := liftTo small 8 (x.div scale) exponent 50
  liftTo Extended.one 1 x exponent 10

/-- Digits taken off a number between one and ten. -/
def digitsOf (x : Extended) : Nat → List Nat
  | 0 => []
  | count + 1 =>
    let d := x.floor
    d :: digitsOf ((x.sub (Extended.ofNat d)).mul Extended.ten) count

/-- Digits as text, without zeros at the end. -/
def shown (digits : List Nat) : Text :=
  (digits.flatMap Text.ofNat).reverse.dropWhile (· == CodePoint.ofChar '0') |>.reverse

/-- Fifteen digits with the point behind the first one and a power of ten, or, where the power is
at least -4 and at most 14, with the point in its place. -/
def setOut (digits : List Nat) (exponent : Int) : Text :=
  let zero := CodePoint.ofChar '0'
  let pointed (whole part : Text) : Text :=
    whole ++ CodePoint.ofChar '.' :: (if part = [] then [zero] else part)
  if exponent < -4 ∨ 14 < exponent then
    let size := Text.ofNat exponent.natAbs
    pointed (digits.take 1 |>.flatMap Text.ofNat) (shown (digits.drop 1)) ++
      Text.ofString (if exponent < 0 then "e-" else "e+") ++
        List.replicate (2 - size.length) zero ++ size
  else if exponent < 0 then
    pointed [zero] (List.replicate (-exponent - 1).toNat zero ++ shown digits)
  else
    let place := exponent.toNat + 1
    pointed (digits.take place |>.flatMap Text.ofNat) (shown (digits.drop place))

/-- The text of a number in a column of text. -/
def ofReal (x : Binary64) : Text :=
  let sign : Text := if x.negative && !x.isZero then [CodePoint.ofChar '-'] else []
  if x.isInfinite then sign ++ Text.ofString "Inf"
  else if x.isZero then "0.0"
  else
    let (y, exponent) := normalized (Extended.ofBinary64 x)
    let y := y.add halfUnit
    let tenth := Extended.ofBinary64 (Binary64.ofRatio false 1 10)
    let (y, exponent) :=
      if Extended.ten.le y then (y.mul tenth, exponent + 1) else (y, exponent)
    sign ++ setOut (digitsOf y 15) exponent

end LaunchIndex.Store.Numeral
