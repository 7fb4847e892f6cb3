import LaunchIndex.Text

/-! The UTF-8 form of text. Encoding fails at the first run of surrogates; a file name may
also hold the surrogates from U+DC80 to U+DCFF, each of which stands for one byte that was
not text. Decoding accepts the shortest forms of the characters and nothing else. -/

namespace LaunchIndex.Text

/-- A sequence of bytes. -/
abbrev Bytes := List UInt8

namespace Utf8

/-- The bytes of a code point by its size. -/
def octets (n : Nat) : Bytes :=
  if n < 0x80 then [UInt8.ofNat n]
  else if n < 0x800 then [UInt8.ofNat (0xC0 + n / 0x40), UInt8.ofNat (0x80 + n % 0x40)]
  else if n < 0x10000 then
    [UInt8.ofNat (0xE0 + n / 0x1000), UInt8.ofNat (0x80 + n / 0x40 % 0x40),
      UInt8.ofNat (0x80 + n % 0x40)]
  else
    [UInt8.ofNat (0xF0 + n / 0x40000), UInt8.ofNat (0x80 + n / 0x1000 % 0x40),
      UInt8.ofNat (0x80 + n / 0x40 % 0x40), UInt8.ofNat (0x80 + n % 0x40)]

def size (t : Text) : Nat := t.foldl (fun n c => n + (octets c.val).length) 0

/-- A run of surrogates that keeps a text from being encoded: the first of them, its position
and the position after the run. -/
structure BadRun where
  first : CodePoint
  start : Nat
  stop : Nat
deriving DecidableEq, Repr

/-- The first run of surrogates, at its first member that `allowed` refuses. -/
def findBadRun (allowed : CodePoint → Bool) (position : Nat) : Text → Option BadRun
  | [] => none
  | c :: rest =>
    if c.isSurrogate && !allowed c then
      some ⟨c, position, position + 1 + (rest.takeWhile CodePoint.isSurrogate).length⟩
    else findBadRun allowed (position + 1) rest

def encode? (t : Text) : Except BadRun Bytes :=
  match findBadRun (fun _ => false) 0 t with
  | some run => .error run
  | none => .ok (t.flatMap fun c => octets c.val)

/-- The surrogates that stand for single bytes in file names. -/
def standsForByte (c : CodePoint) : Bool := 0xDC80 ≤ c.val && c.val ≤ 0xDCFF

/-- The bytes of a code point in a name. -/
def nameOctets (c : CodePoint) : Bytes :=
  if standsForByte c then [UInt8.ofNat (c.val - 0xDC00)] else octets c.val

/-- The bytes of a text in which some surrogates stand for bytes. -/
def rawBytes (t : Text) : Bytes := t.flatMap nameOctets

/-- Bytes as they are shown in a message, those outside ASCII being replaced. -/
def asciiOnly (bytes : Bytes) : Text :=
  bytes.map fun b => CodePoint.ofNat (if b.toNat < 0x80 then b.toNat else 0xFFFD)

def encodeName? (t : Text) : Except BadRun Bytes :=
  match findBadRun standsForByte 0 t with
  | some run => .error run
  | none => .ok (rawBytes t)

def nameSize (t : Text) : Nat :=
  t.foldl (fun n c => n + if standsForByte c then 1 else (octets c.val).length) 0

def isContinuation (b : UInt8) : Bool := 0x80 ≤ b.toNat && b.toNat < 0xC0

/-- The number that continuation bytes carry on from `high`. -/
def continued (high : Nat) (bytes : Bytes) : Nat :=
  bytes.foldl (fun n b => n * 0x40 + (b.toNat - 0x80)) high

/-- The first character of a byte sequence, with the bytes after it. -/
def decodeOne (b : UInt8) (rest : Bytes) : Option (Char × Bytes) :=
  let n := b.toNat
  if n < 0x80 then some (Char.ofNat n, rest)
  else
    let more (count high least : Nat) : Option (Char × Bytes) :=
      let tail := rest.take count
      let value := continued high tail
      if tail.length = count ∧ tail.all isContinuation ∧ least ≤ value ∧ value < 0x110000 ∧
          ¬(0xD800 ≤ value ∧ value < 0xE000) then
        some (Char.ofNat value, rest.drop count)
      else none
    if 0xC2 ≤ n ∧ n < 0xE0 then more 1 (n - 0xC0) 0x80
    else if 0xE0 ≤ n ∧ n < 0xF0 then more 2 (n - 0xE0) 0x800
    else if 0xF0 ≤ n ∧ n < 0xF5 then more 3 (n - 0xF0) 0x10000
    else none

theorem decodeOne_length {b : UInt8} {rest : Bytes} {c : Char} {left : Bytes}
    (h : decodeOne b rest = some (c, left)) : left.length ≤ rest.length := by
  simp only [decodeOne] at h
  split at h
  · simp_all
  · split at h
    · split at h <;> simp at h
      rw [← h.2]; simp
    · split at h
      · split at h <;> simp at h
        rw [← h.2]; simp
      · split at h
        · split at h <;> simp at h
          rw [← h.2]; simp
        · simp at h

/-- The characters of a byte sequence, put in front of those already read in reverse. -/
def decodeFrom (read : List Char) : Bytes → Option (List Char)
  | [] => some read.reverse
  | b :: rest =>
    match _h : decodeOne b rest with
    | some (c, left) => decodeFrom (c :: read) left
    | none => none
termination_by bytes => bytes.length
decreasing_by
  have := decodeOne_length _h
  simp only [List.length_cons]
  omega

def decode? (bytes : Bytes) : Option (List Char) := decodeFrom [] bytes

/-! ### Lenient reading -/

/-- What the first byte of a sequence says of its code point. -/
def leadBits (n : Nat) : Nat :=
  if n < 0xE0 then n - 0xC0
  else if n < 0xF0 then n - 0xE0
  else if n < 0xF8 then n - 0xF0
  else if n < 0xFC then n - 0xF8
  else if n < 0xFE then n - 0xFC
  else 0

/-- The code point that a sequence of bytes is taken for. Surrogates and what has a shorter form
count as the replacement character, and a number beyond the code points equals none of them, for
which a surrogate stands here. -/
def lenientPoint (n : Nat) : CodePoint :=
  if n < 0x80 ∨ 0xD800 ≤ n ∧ n < 0xE000 then CodePoint.ofNat 0xFFFD
  else if n < 0x110000 then CodePoint.ofNat n
  else CodePoint.ofNat 0xD800

/-- The code points of bytes that need not be well-formed. A first byte takes all continuation bytes
that follow it, and a continuation byte without a first byte stands for itself. `begun` is the
number read so far of a sequence that may go on. -/
def readLenient (begun : Option Nat) : Bytes → Text
  | [] => (begun.map lenientPoint).toList
  | b :: rest =>
    match begun, isContinuation b with
    | some n, true => readLenient (some ((n * 0x40 + (b.toNat - 0x80)) % 0x100000000)) rest
    | _, _ =>
      (begun.map lenientPoint).toList ++
        if b.toNat < 0xC0 then CodePoint.ofNat b.toNat :: readLenient none rest
        else readLenient (some (leadBits b.toNat)) rest

/-! ### Unfinished characters -/

/-- Whether bytes that are not a character are the beginning of one. -/
def isUnfinished (b : UInt8) (rest : Bytes) : Bool :=
  [1, 2, 3].any fun count => [0x80, 0xBF].any fun last =>
    match decodeOne b (rest ++ List.replicate count (UInt8.ofNat last)) with
    | some (_, left) => left.isEmpty
    | none => false

/-- The characters at the start of a byte sequence, put in front of those already read in
reverse, and the bytes of one that is not complete. -/
def decodeStart (read : List Char) : Bytes → Option (List Char × Bytes)
  | [] => some (read.reverse, [])
  | b :: rest =>
    match _h : decodeOne b rest with
    | some (c, left) => decodeStart (c :: read) left
    | none => if isUnfinished b rest then some (read.reverse, b :: rest) else none
termination_by bytes => bytes.length
decreasing_by
  have := decodeOne_length _h
  simp only [List.length_cons]
  omega

end Utf8

end LaunchIndex.Text
