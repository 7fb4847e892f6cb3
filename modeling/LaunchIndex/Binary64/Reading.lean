import LaunchIndex.Binary64.Shortest

/-! Numbers from decimal text. The digits before and after the point and the power of ten are
read first; the value is rounded once. -/

namespace LaunchIndex.Binary64

/-- The number nearest to `digits * 10 ^ exponent`. Beyond four hundred places the answer is
zero or infinite, and no power of ten is computed. -/
def ofDecimal (negative : Bool) (d : Decimal) : Binary64 :=
  let places : Int := d.exponent + (Nat.toDigits 10 d.digits).length
  if d.digits = 0 ∨ places < -400 then zero negative
  else if 400 < places then infinity negative
  else ofRatio negative (d.digits * Nat.pow 10 d.exponent.toNat)
    (Nat.pow 10 (-d.exponent).toNat)

/-- The number that a run of decimal digits continues. -/
def digitsValue (start : Nat) (cs : List Char) : Nat :=
  cs.foldl (fun n c => n * 10 + (c.toNat - 48)) start

/-- A power of ten: `e` or `E`, an optional sign and digits. -/
def readExponent : List Char → Option Int
  | [] => some 0
  | c :: rest =>
    if c = 'e' ∨ c = 'E' then
      let (negative, digits) :=
        match rest with
        | '-' :: ds => (true, ds)
        | '+' :: ds => (false, ds)
        | ds => (false, ds)
      if digits ≠ [] ∧ digits.all Char.isDigit then
        let size : Int := digitsValue 0 digits
        some (if negative then -size else size)
      else none
    else none

/-- Digits with an optional point and power of ten; one digit is needed before or after the
point. -/
def readDecimal (cs : List Char) : Option Decimal :=
  let whole := cs.takeWhile Char.isDigit
  let (part, rest) :=
    match cs.dropWhile Char.isDigit with
    | '.' :: after => (after.takeWhile Char.isDigit, after.dropWhile Char.isDigit)
    | rest => ([], rest)
  if whole = [] ∧ part = [] then none
  else (readExponent rest).map fun e => ⟨digitsValue 0 (whole ++ part), e - part.length⟩

def readSigned (read : List Char → Option (Bool → Binary64)) : List Char → Option Binary64
  | '-' :: rest => (read rest).map (· true)
  | '+' :: rest => (read rest).map (· false)
  | rest => (read rest).map (· false)

/-- A decimal, or a word for an infinite or undefined number, in any letter case. -/
def readUnsigned (cs : List Char) : Option (Bool → Binary64) :=
  let word := String.ofList (cs.map Char.toLower)
  if word = "inf" ∨ word = "infinity" then some infinity
  else if word = "nan" then some fun negative => if negative then undefined else nan
  else (readDecimal cs).map fun d negative => ofDecimal negative d

/-- A decimal number or a word for an infinite or undefined one, with an optional sign. -/
def read? (cs : List Char) : Option Binary64 := readSigned readUnsigned cs

end LaunchIndex.Binary64
