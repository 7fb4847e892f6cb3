import LaunchIndex.Binary64

/-! Floating-point numbers with a significand of 64 bits and no bound on the scale, for the steps
between decimal text and numbers of 64 bits. The numbers are not negative. Every operation is
exact arithmetic on integers followed by one rounding to the nearest number, ties going to the
even significand. -/

namespace LaunchIndex

/-- The number `significand * 2 ^ scale`. -/
structure Extended where
  significand : Nat
  scale : Int
deriving DecidableEq, Repr

namespace Extended

def ratio (x : Extended) : Nat × Nat :=
  (x.significand <<< x.scale.toNat, 1 <<< (-x.scale).toNat)

def ofRatio (num den : Nat) : Extended :=
  if num = 0 then ⟨0, 0⟩
  else
    let scale := Binary64.binaryExponent num den - 63
    ⟨Binary64.roundQuotient (num <<< (-scale).toNat) (den <<< scale.toNat), scale⟩

def ofNat (n : Nat) : Extended := ofRatio n 1

/-- The size of a finite number, which is kept exactly. -/
def ofBinary64 (x : Binary64) : Extended := ofRatio x.ratio.1.natAbs x.ratio.2

def toBinary64 (negative : Bool) (x : Extended) : Binary64 :=
  Binary64.ofRatio negative x.ratio.1 x.ratio.2

def mul (x y : Extended) : Extended := ofRatio (x.ratio.1 * y.ratio.1) (x.ratio.2 * y.ratio.2)

def div (x y : Extended) : Extended := ofRatio (x.ratio.1 * y.ratio.2) (x.ratio.2 * y.ratio.1)

def add (x y : Extended) : Extended :=
  ofRatio (x.ratio.1 * y.ratio.2 + y.ratio.1 * x.ratio.2) (x.ratio.2 * y.ratio.2)

def sub (x y : Extended) : Extended :=
  ofRatio (x.ratio.1 * y.ratio.2 - y.ratio.1 * x.ratio.2) (x.ratio.2 * y.ratio.2)

def le (x y : Extended) : Bool := x.ratio.1 * y.ratio.2 ≤ y.ratio.1 * x.ratio.2

def floor (x : Extended) : Nat := x.ratio.1 / x.ratio.2

def one : Extended := ofNat 1

def ten : Extended := ofNat 10

/-- The power of a base by repeated squaring, `power` being the product so far. Every product is
rounded. -/
def powFrom (base power : Extended) (exponent : Nat) : Extended :=
  let power := if exponent % 2 = 1 then power.mul base else power
  if exponent / 2 = 0 then power else powFrom (base.mul base) power (exponent / 2)
termination_by exponent
decreasing_by omega

def powTen (exponent : Nat) : Extended := powFrom ten one exponent

end Extended

end LaunchIndex
