/-! Binary floating-point numbers of 64 bits. A number is its bits; sign, significand and
scale are read off them, and every operation is exact arithmetic on integers followed by one
rounding to the nearest number, ties going to the even significand. -/

namespace LaunchIndex

/-- A 64-bit floating-point number, as its bits. -/
structure Binary64 where
  bits : UInt64
deriving DecidableEq, Repr

namespace Binary64

/-- The weight of the sign bit. -/
def signUnit : Nat := 0x8000000000000000

/-- The weight of the lowest bit of the exponent, and of the leading one of a significand. -/
def exponentUnit : Nat := 0x10000000000000

def word (x : Binary64) : Nat := x.bits.toNat

def negative (x : Binary64) : Bool := signUnit ≤ x.word

/-- The eleven bits of the exponent. -/
def exponentField (x : Binary64) : Nat := x.word / exponentUnit % 2048

def fraction (x : Binary64) : Nat := x.word % exponentUnit

def isFinite (x : Binary64) : Bool := x.exponentField < 2047

def isNaN (x : Binary64) : Bool := x.exponentField == 2047 && x.fraction != 0

def isInfinite (x : Binary64) : Bool := x.exponentField == 2047 && x.fraction == 0

/-- The significand as an integer; the leading one is implicit unless the field is zero. -/
def significand (x : Binary64) : Nat :=
  if x.exponentField = 0 then x.fraction else exponentUnit + x.fraction

/-- The power of two that the significand is multiplied by. -/
def scale (x : Binary64) : Int := (max x.exponentField 1 : Nat) - 1075

def isZero (x : Binary64) : Bool := x.isFinite && x.significand == 0

/-- A finite number as a fraction with a positive denominator. -/
def ratio (x : Binary64) : Int × Nat :=
  let magnitude := x.significand <<< x.scale.toNat
  (if x.negative then -(magnitude : Int) else magnitude, 1 <<< (-x.scale).toNat)

def ofWord (negative : Bool) (word : Nat) : Binary64 :=
  ⟨UInt64.ofNat (word + if negative then signUnit else 0)⟩

def zero (negative : Bool) : Binary64 := ofWord negative 0

def infinity (negative : Bool) : Binary64 := ofWord negative (2047 * exponentUnit)

def nan : Binary64 := ofWord false (2047 * exponentUnit + exponentUnit / 2)

/-- The result of an operation that has none, such as a difference of infinities. -/
def undefined : Binary64 := ofWord true (2047 * exponentUnit + exponentUnit / 2)

/-- The quotient rounded to the nearest integer, a half to the even neighbour. -/
def roundQuotient (num den : Nat) : Nat :=
  let q := num / den
  let r := num % den
  if 2 * r < den then q
  else if den < 2 * r then q + 1
  else if q % 2 = 0 then q else q + 1

/-- The exponent `e` with `2 ^ e ≤ num / den < 2 ^ (e + 1)`. -/
def binaryExponent (num den : Nat) : Int :=
  let guess : Int := (Nat.log2 num : Int) - Nat.log2 den
  if num <<< (-guess).toNat < den <<< guess.toNat then guess - 1 else guess

/-- The number nearest to `num / den`. The word of a finite number is its significand plus a
multiple of the exponent unit, so a significand that rounds up to two units carries into the
exponent. -/
def ofRatio (negative : Bool) (num den : Nat) : Binary64 :=
  if num = 0 then zero negative
  else
    let scale := max (binaryExponent num den - 52) (-1074)
    let significand := roundQuotient (num <<< (-scale).toNat) (den <<< scale.toNat)
    let word := (scale + 1074).toNat * exponentUnit + significand
    if word < 2047 * exponentUnit then ofWord negative word else infinity negative

/-- The number nearest to an integer, unless that is infinite. -/
def ofInt? (i : Int) : Option Binary64 :=
  let x := ofRatio (i < 0) i.natAbs 1
  if x.isFinite then some x else none

/-- The integer part; only finite numbers have one. -/
def truncate? (x : Binary64) : Option Int :=
  if x.isFinite then some (Int.tdiv x.ratio.1 x.ratio.2) else none

def isIntegral (x : Binary64) : Bool := x.isFinite && x.ratio.1 % x.ratio.2 == 0

/-- The order of two numbers that are not NaN. -/
def compareNumbers (x y : Binary64) : Ordering :=
  if x.isInfinite || y.isInfinite then
    let side (z : Binary64) : Int := if z.isInfinite then (if z.negative then -1 else 1) else 0
    compare (side x) (side y)
  else compare (x.ratio.1 * y.ratio.2) (y.ratio.1 * x.ratio.2)

/-- The order of an integer and a number that is not NaN, without rounding the integer. -/
def compareInt (i : Int) (y : Binary64) : Ordering :=
  if y.isInfinite then (if y.negative then .gt else .lt)
  else compare (i * y.ratio.2) y.ratio.1

def addInt (x : Binary64) (i : Int) : Binary64 :=
  if x.isFinite then
    let sum := x.ratio.1 + i * x.ratio.2
    if sum = 0 then zero false else ofRatio (sum < 0) sum.natAbs x.ratio.2
  else x

def add (x y : Binary64) : Binary64 :=
  if x.isFinite && y.isFinite then
    let sum := x.ratio.1 * y.ratio.2 + y.ratio.1 * x.ratio.2
    if sum = 0 then zero (x.negative && y.negative)
    else ofRatio (sum < 0) sum.natAbs (x.ratio.2 * y.ratio.2)
  else if x.isNaN then x
  else if y.isNaN then y
  else if x.isInfinite && y.isInfinite && x.negative != y.negative then undefined
  else if x.isFinite then y else x

def mul (x y : Binary64) : Binary64 :=
  let negative := x.negative != y.negative
  if x.isFinite && y.isFinite then
    ofRatio negative (x.ratio.1.natAbs * y.ratio.1.natAbs) (x.ratio.2 * y.ratio.2)
  else if x.isNaN then x
  else if y.isNaN then y
  else if x.isZero || y.isZero then undefined
  else infinity negative

/-- The number with the other sign; one that is not a number keeps its own. -/
def neg (x : Binary64) : Binary64 :=
  if x.isNaN then x
  else if x.negative then ⟨UInt64.ofNat (x.word - signUnit)⟩ else ⟨UInt64.ofNat (x.word + signUnit)⟩

def div (x y : Binary64) : Binary64 :=
  let negative := x.negative != y.negative
  if x.isNaN then x
  else if y.isNaN then y
  else if (x.isInfinite && y.isInfinite) || (x.isZero && y.isZero) then undefined
  else if x.isInfinite || y.isZero then infinity negative
  else if y.isInfinite then zero negative
  else ofRatio negative (x.ratio.1.natAbs * y.ratio.2) (x.ratio.2 * y.ratio.1.natAbs)

def divNat (x : Binary64) (n : Nat) : Binary64 :=
  if x.isFinite then ofRatio x.negative x.ratio.1.natAbs (x.ratio.2 * n) else x

end Binary64

end LaunchIndex
