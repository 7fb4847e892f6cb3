import LaunchIndex.Text.Utf8

/-! Bytes as text in sixty-four characters, of which four stand for three bytes. Characters that
stand for nothing are passed over, and so are equals signs that fill up no group; those that do
fill up a group end the text. -/

namespace LaunchIndex.Text.Base64

/-- The six bits that a character stands for. -/
def value? (c : CodePoint) : Option Nat :=
  let n := c.val
  if 65 ≤ n ∧ n ≤ 90 then some (n - 65)
  else if 97 ≤ n ∧ n ≤ 122 then some (n - 71)
  else if 48 ≤ n ∧ n ≤ 57 then some (n + 4)
  else if n = 43 then some 62
  else if n = 47 then some 63
  else none

/-- The bytes of a text, put in front of those already read in reverse. `place` counts the
characters of the group so far, `left` is the number that their bits beyond whole bytes make, and
`pads` counts the equals signs behind them. -/
def decodeFrom (read : Bytes) (place left pads : Nat) : Text → Option Bytes
  | [] => if place = 0 then some read.reverse else none
  | c :: rest =>
    if c = CodePoint.ofChar '=' then
      if place < 2 then decodeFrom read place left pads rest
      else if 4 ≤ place + pads + 1 then some read.reverse
      else decodeFrom read place left (pads + 1) rest
    else
      match value? c with
      | none => decodeFrom read place left pads rest
      | some bits =>
        let number := left * 64 + bits
        match place with
        | 0 => decodeFrom read 1 number 0 rest
        | 1 => decodeFrom (UInt8.ofNat (number / 16) :: read) 2 (number % 16) 0 rest
        | 2 => decodeFrom (UInt8.ofNat (number / 4) :: read) 3 (number % 4) 0 rest
        | _ => decodeFrom (UInt8.ofNat number :: read) 0 0 0 rest

/-- The bytes that a text stands for, if its last group is complete. -/
def decode? (t : Text) : Option Bytes := decodeFrom [] 0 0 0 t

end LaunchIndex.Text.Base64
