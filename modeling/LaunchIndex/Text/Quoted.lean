import LaunchIndex.Text.CharSet

/-! The quoted form of a text: between single quotes, or between double quotes if only
single quotes occur inside. Backslashes, the quote in use and everything that does not
print are escaped, so the quoted form is always one printable line. -/

namespace LaunchIndex.Text.Quoted

/-- The lower-case hexadecimal digits of `n`, padded with zeros to `width`. -/
def hex (width n : Nat) : Text :=
  let digits := ofChars (Nat.toDigits 16 n)
  List.replicate (width - digits.length) (CodePoint.ofChar '0') ++ digits

/-- Single quotes, unless the text holds a single quote and no double quote. -/
def quoteFor (t : Text) : CodePoint :=
  if t.any (· == CodePoint.ofChar '\'') && !t.any (· == CodePoint.ofChar '"') then
    CodePoint.ofChar '"'
  else CodePoint.ofChar '\''

/-- One code point between quotes of the given kind. -/
def escape (quote c : CodePoint) : Text :=
  if c = quote ∨ c = CodePoint.ofChar '\\' then [CodePoint.ofChar '\\', c]
  else if c.val = 9 then ofString "\\t"
  else if c.val = 10 then ofString "\\n"
  else if c.val = 13 then ofString "\\r"
  else if CharSet.isPrintable c then [c]
  else if c.val < 0x100 then ofString "\\x" ++ hex 2 c.val
  else if c.val < 0x10000 then ofString "\\u" ++ hex 4 c.val
  else ofString "\\U" ++ hex 8 c.val

end Quoted

/-- The text as it is shown inside a message or a larger value. -/
def quoted (t : Text) : Text :=
  let quote := Quoted.quoteFor t
  quote :: t.flatMap (Quoted.escape quote) ++ [quote]

/-- Bytes as they are shown inside a message. Only bytes that are printable ASCII stand for
themselves. -/
def quotedBytes (bytes : List UInt8) : Text :=
  let t : Text := bytes.map fun b => CodePoint.ofNat b.toNat
  let quote := Quoted.quoteFor t
  let escape (c : CodePoint) : Text :=
    if c.val < 0x80 then Quoted.escape quote c else ofString "\\x" ++ Quoted.hex 2 c.val
  CodePoint.ofChar 'b' :: quote :: t.flatMap escape ++ [quote]

end LaunchIndex.Text
