import LaunchIndex.Text.Utf8

/-! Wildcard patterns: a percent sign stands for any run, an underscore for any one code
point, and a backslash makes the next code point stand for itself. Letters of ASCII match in
either case. A text is escaped by three passes, the backslash first, so that no pass touches
the marks that an earlier one has put in. -/

namespace LaunchIndex.Like

def mark : CodePoint := CodePoint.ofChar '\\'

def anyRun : CodePoint := CodePoint.ofChar '%'

def anyOne : CodePoint := CodePoint.ofChar '_'

/-- Every occurrence of one code point gets a mark in front. -/
def guardEach (special : CodePoint) (t : Text) : Text :=
  t.flatMap fun c => if c = special then [mark, c] else [c]

/-- The pattern that matches the text itself. -/
def escape (t : Text) : Text := guardEach anyOne (guardEach anyRun (guardEach mark t))

/-- The text under a pattern without wildcards: each mark goes and what it guards stays. -/
def unescape : Text → Text
  | [] => []
  | [c] => [c]
  | c :: d :: rest => if c = mark then d :: unescape rest else c :: unescape (d :: rest)

/-- The pattern of the texts that start with `t`. -/
def startsWith (t : Text) : Text := escape t ++ [anyRun]

/-- The pattern of the texts in which `t` occurs. -/
def holds (t : Text) : Text := anyRun :: escape t ++ [anyRun]

/-! ### Matching -/

inductive Token where
  | any
  | one
  | exactly (c : CodePoint)
deriving DecidableEq, Repr

/-- The tokens of a pattern; a mark at the very end guards nothing and makes it void. -/
def tokens? : Text → Option (List Token)
  | [] => some []
  | [c] =>
    if c = mark then none
    else if c = anyRun then some [.any]
    else if c = anyOne then some [.one]
    else some [.exactly c]
  | c :: d :: rest =>
    if c = mark then (tokens? rest).map (.exactly d :: ·)
    else if c = anyRun then (tokens? (d :: rest)).map (.any :: ·)
    else if c = anyOne then (tokens? (d :: rest)).map (.one :: ·)
    else (tokens? (d :: rest)).map (.exactly c :: ·)

/-- Two code points that differ at most in the case of an ASCII letter. -/
def sameLetter (c d : CodePoint) : Bool := c.asciiLower == d.asciiLower

/-- Whether some end part of the text, the whole text included, satisfies `p`. -/
def anySuffix (p : Text → Bool) : Text → Bool
  | [] => p []
  | c :: rest => p (c :: rest) || anySuffix p rest

def run : List Token → Text → Bool
  | [], t => t.isEmpty
  | .any :: ts, t => anySuffix (run ts) t
  | .one :: _, [] => false
  | .one :: ts, _ :: rest => run ts rest
  | .exactly _ :: _, [] => false
  | .exactly c :: ts, d :: rest => sameLetter c d && run ts rest

/-- The code point that a code point is taken for: U+FFFE and U+FFFF are no characters and count
as the replacement character. -/
def legible (c : CodePoint) : CodePoint :=
  if c.val = 0xFFFE ∨ c.val = 0xFFFF then CodePoint.ofNat 0xFFFD else c

/-- A stored text as it is read for a match. Bytes that are no UTF-8 are read leniently. -/
def read (t : Text) : Text :=
  if t.isEncodable then t else Text.Utf8.readLenient none (Text.Utf8.rawBytes t)

/-- What is seen of a text. Nothing behind a null character is looked at. -/
def visible (t : Text) : Text := (t.takeWhile (·.val != 0)).map legible

def accepts (pattern t : Text) : Bool :=
  match tokens? (visible pattern) with
  | some ts => run ts (visible t)
  | none => false

def maxBytes : Nat := 50000

def isTooComplex (pattern : Text) : Bool := maxBytes < Text.Utf8.size pattern

end LaunchIndex.Like
