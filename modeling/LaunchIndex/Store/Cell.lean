import LaunchIndex.Store.Numeral
import LaunchIndex.Value.Number

/-! The values that a column stores, and how a value becomes one. Parameters are checked when
they are bound; a column of integers then turns numeric text and integral reals into integers,
and a column of text turns numbers into text. Stored values are ordered: null, numbers by
size, texts and then blobs by their bytes. -/

namespace LaunchIndex.Store

/-- A stored value. The bytes of a text that are no UTF-8 stand in it as surrogates. -/
inductive Cell where
  | null
  | int (i : Int)
  | real (x : Binary64)
  | text (t : Text)
  | blob (b : Text.Bytes)
deriving DecidableEq

namespace Cell

def toValue : Cell → Value
  | null => .null
  | int i => .int i
  | real x => .real x
  | text t => .text t
  | blob b => .bytes b

/-- The greatest size in bytes of a stored text or blob. -/
def maxBytes : Nat := 1000000000

/-- The size in bytes of a parameter is checked. One that is no signed integer of 32 bits does not
come as far as the engine. -/
def checkSize (kind : Text) (size : Nat) : Outcome Unit :=
  if 2147483647 < size then .error (Fault.tooLongForStore kind)
  else if maxBytes < size then .error (.store StoreError.tooBig)
  else .ok ()

/-- A parameter of a statement, counted from one. -/
def bind (position : Nat) : Value → Outcome Cell
  | .null => .ok .null
  | .bool b => .ok (.int (if b then 1 else 0))
  | .int i => if Numeral.fits i then .ok (.int i) else .error Fault.integerTooLargeForStore
  | .real x => .ok (if x.isNaN then .null else .real x)
  | .text t =>
    match Text.Utf8.findBadRun (fun _ => false) 0 t with
    | some run => .error (.unencodable run)
    | none => (checkSize "string" (Text.Utf8.size t)).map fun _ => .text t
  | .bytes b => (checkSize "BLOB" b.length).map fun _ => .blob b
  | v => .error (.store (StoreError.unsupportedParameter position v.kindName))

/-! ### Columns -/

/-- A real that is an integer strictly inside the range of integers becomes that integer. -/
def integral : Cell → Cell
  | real x =>
    match x.truncate? with
    | some i =>
      if x.isIntegral && Numeral.leastInteger < i && i < Numeral.greatestInteger then int i
      else real x
    | none => real x
  | c => c

/-- Integers smaller than this are told by the number of 64 bits that a text reads as. -/
def plainBound : Int := 2251799813685248

/-- The integer that a text written as one stands for, unless it is too large. -/
def writtenInteger (t : Text) (x : Binary64) : Cell :=
  match x.truncate?, Numeral.readInteger t with
  | some i, (form, j) =>
    if -plainBound ≤ i ∧ i < plainBound then int i
    else if form = .whole then int j
    else real x
  | none, _ => real x

/-- The value as a column of integers stores it. -/
def forInteger : Cell → Cell
  | text t =>
    match Numeral.readReal t with
    | (.integer, x) => integral (writtenInteger t x)
    | (.whole, x) => integral (real x)
    | _ => text t
  | c => integral c

/-- The value as a column of text stores it. -/
def forText : Cell → Cell
  | int i => text (Text.ofInt i)
  | real x => text (Numeral.ofReal x)
  | c => c

/-- The number that a text counts as in a sum: the integer that it starts with, unless that is too
large or has a point or a power of ten; zero, if it starts with no number. -/
def summand (t : Text) : Cell :=
  match Numeral.readReal t, Numeral.readInteger t with
  | (.none, x), (form, i) => if form = .tooLarge then real x else int i
  | (.integer, x), (form, i) => if form = .whole then int i else real x
  | (_, x), _ => real x

/-- The value plus one, for a column of integers. A sum outside the range of integers is a
real. -/
def addOne (c : Cell) : Cell :=
  let increment : Cell → Cell
    | int i =>
      if Numeral.fits (i + 1) then int (i + 1)
      else
        match Binary64.ofInt? i with
        | some x => real (x.addInt 1)
        | none => null
    | real x => real (x.addInt 1)
    | c => c
  match c with
  | text t => integral (increment (summand t))
  | blob b => integral (increment (summand (b.map fun n => CodePoint.ofNat n.toNat)))
  | c => integral (increment c)

/-! ### Order -/

def rank : Cell → Nat
  | null => 0
  | int _ => 1
  | real _ => 1
  | text _ => 2
  | blob _ => 3

def compareBytes (s t : Text.Bytes) : Ordering := List.compareLex compare s t

/-- Texts are ordered by their bytes. -/
def compareText (s t : Text) : Ordering :=
  compareBytes (Text.Utf8.rawBytes s) (Text.Utf8.rawBytes t)

def order : Cell → Cell → Ordering
  | int i, int j => compare i j
  | int i, real y => Binary64.compareInt i y
  | real x, int j => (Binary64.compareInt j x).swap
  | real x, real y => Binary64.compareNumbers x y
  | text s, text t => compareText s t
  | blob a, blob b => compareBytes a b
  | a, b => compare a.rank b.rank

end Cell

end LaunchIndex.Store
