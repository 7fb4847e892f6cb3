import LaunchIndex.Binary64

/-! Powers of two whose exponent is a real number. The whole part of the exponent is a shift.
The rest is a power of `e`, summed up by its series in fixed point, with so many places to
spare that the one rounding at the end gives the nearest number. -/

namespace LaunchIndex.Binary64

/-- The binary places of a number in fixed point. -/
def places : Nat := 192

def one : Nat := 1 <<< places

/-- The natural logarithm of two: the series of `1 / (k * 2 ^ k)` for positive `k`. -/
def logTwo : Nat :=
  (List.range places).foldl (fun total k => total + (one >>> (k + 1)) / (k + 1)) 0

/-- The series of `e ^ y` for the `count` terms from `y ^ k / k!` on, divided by the first of
them. -/
def series (y k : Nat) : Nat → Nat
  | 0 => one
  | count + 1 => one + series y (k + 1) count * y / (one * (k + 1))

/-- `e ^ y` for a `y` below one. -/
def exponential (y : Nat) : Nat := series y 0 64

/-- Two to the power of a positive number, if there is a finite number near it or the exponent
is infinite. -/
def twoPower? (x : Binary64) : Option Binary64 :=
  if x.isInfinite then some (infinity false)
  else
    let exponent := x.ratio.1.toNat
    let whole := exponent / x.ratio.2
    let rest := exponent % x.ratio.2 * logTwo / x.ratio.2
    if whole < 1024 then some (ofRatio false (exponential rest <<< whole) one) else none

end LaunchIndex.Binary64
