import LaunchIndex.Binary64
import LaunchIndex.Text

/-! The decimal text of a number. Of the decimals that round to the number, the shortest is
written, and of several shortest ones the nearest; a fixed count of digits is written where a
column of text receives a number. -/

namespace LaunchIndex.Binary64

/-- The number `digits * 10 ^ exponent`. -/
structure Decimal where
  digits : Nat
  exponent : Int
deriving DecidableEq, Repr

/-- The exponent `k` with `10 ^ k ≤ num / den < 10 ^ (k + 1)`. -/
def decimalExponent (num den : Nat) : Int :=
  let atLeast (k : Int) : Bool := den * Nat.pow 10 k.toNat ≤ num * Nat.pow 10 (-k).toNat
  let guess := Int.fdiv (binaryExponent num den * 30103) 100000
  if atLeast (guess + 1) then guess + 1 else if atLeast guess then guess else guess - 1

/-- The reals that round to a positive number, as bounds in quarters of its last place. Below a
power of two the numbers lie twice as close. -/
structure Interval where
  low : Nat
  high : Nat
  closed : Bool

def interval (x : Binary64) : Interval where
  low := 4 * x.significand - if x.fraction = 0 ∧ 1 < x.exponentField then 1 else 2
  high := 4 * x.significand + 2
  closed := x.significand % 2 = 0

/-- Whether `digits * 10 ^ exponent` rounds to the number. -/
def Decimal.within (d : Decimal) (x : Binary64) : Bool :=
  let quarter := x.scale - 2
  let left := (d.digits * Nat.pow 10 d.exponent.toNat) <<< (-quarter).toNat
  let unit := Nat.pow 10 (-d.exponent).toNat <<< quarter.toNat
  let i := x.interval
  if i.closed then i.low * unit ≤ left && left ≤ i.high * unit
  else i.low * unit < left && left < i.high * unit

/-- The two neighbours of the number among the multiples of `10 ^ exponent`, nearer one first. -/
def neighbours (x : Binary64) (exponent : Int) : List Decimal :=
  let num := x.ratio.1.natAbs * Nat.pow 10 (-exponent).toNat
  let den := x.ratio.2 * Nat.pow 10 exponent.toNat
  let below : Decimal := ⟨num / den, exponent⟩
  let above : Decimal := ⟨num / den + 1, exponent⟩
  if roundQuotient num den = num / den then [below, above] else [above, below]

/-- The first hit when the count of digits goes up from one. -/
def shortestFrom (x : Binary64) (top : Int) : Nat → Nat → Decimal
  | _, 0 => ⟨0, 0⟩
  | count, fuel + 1 =>
    match (x.neighbours (top - count)).find? fun d => d.within x with
    | some d => d
    | none => shortestFrom x top (count + 1) fuel

/-- The shortest decimal that rounds to a positive finite number; seventeen digits suffice. -/
def shortest (x : Binary64) : Decimal :=
  shortestFrom x (decimalExponent x.ratio.1.natAbs x.ratio.2) 0 18

/-- How digits are set out: the exponents that are written without a power of ten. -/
structure Layout where
  least : Int
  greatest : Int

/-- Values in messages and in text made from numbers. -/
def Layout.display : Layout := ⟨-4, 15⟩

/-- A positive decimal set out with a point and at least one digit on either side of it, or with
a power of ten of at least two digits, in front of which a single digit has no point. -/
def Layout.write (l : Layout) (d : Decimal) : Text :=
  let shown := (Text.ofNat d.digits).reverse.dropWhile (· == CodePoint.ofChar '0') |>.reverse
  let dropped := (Text.ofNat d.digits).length - shown.length
  let zero := CodePoint.ofChar '0'
  let point := CodePoint.ofChar '.'
  let exponent : Int := d.exponent + dropped + shown.length - 1
  if l.least ≤ exponent ∧ exponent ≤ l.greatest then
    if exponent < 0 then
      zero :: point :: List.replicate (-exponent - 1).toNat zero ++ shown
    else
      let whole := exponent.toNat + 1
      if shown.length ≤ whole then
        shown ++ List.replicate (whole - shown.length) zero ++ [point, zero]
      else shown.take whole ++ point :: shown.drop whole
  else
    let tail := shown.drop 1
    let digits := if tail = [] then shown else shown.take 1 ++ point :: tail
    let size := Text.ofNat exponent.natAbs
    digits ++ Text.ofString (if exponent < 0 then "e-" else "e+") ++
      List.replicate (2 - size.length) zero ++ size

def withSign (negative : Bool) (t : Text) : Text :=
  if negative then CodePoint.ofChar '-' :: t else t

/-- The shortest text that reads back as the number. -/
def display (x : Binary64) : Text :=
  if x.isNaN then "nan"
  else if x.isInfinite then withSign x.negative "inf"
  else if x.isZero then withSign x.negative "0.0"
  else withSign x.negative (Layout.display.write x.shortest)

end LaunchIndex.Binary64
