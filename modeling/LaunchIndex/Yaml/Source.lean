import LaunchIndex.Yaml.Character

/-! The characters of a YAML text, which come in pages of equal length; the first two pages come
together. A page with a character that may not occur is refused as a whole, and so is one that
ends behind bytes that are no characters. What is in front of it can still be read. -/

namespace LaunchIndex.Yaml

/-- The characters that can be read, and why no others can, if some follow. -/
structure Source where
  chars : List Char
  failure : Option Fault := none

namespace Source

/-- The count of characters of a page. -/
def pageSize : Nat := 4096

/-- The least count of bytes that are decoded together. -/
def blockSize : Nat := 8192

/-- A line ends with a line feed, a carriage return, or both. -/
def lineFeeds : List Char → List Char
  | '\r' :: '\n' :: rest => '\n' :: lineFeeds rest
  | '\r' :: rest => '\n' :: lineFeeds rest
  | c :: rest => c :: lineFeeds rest
  | [] => []

/-- Bytes on the way to characters. `unfinished` is the start of a character, and `held` a
carriage return, at the end of the last block. -/
structure Intake where
  bytes : Text.Bytes
  unfinished : Text.Bytes := []
  held : List Char := []
  ready : List Char := []
  blockBytes : Nat := 0
  blockChars : Nat := 1
  ended : Bool := false

/-- The count of bytes that are decoded next where `need` characters are missing. Characters are
expected to have as many bytes as those of the last block. -/
def Intake.nextSize (need : Nat) (i : Intake) : Nat :=
  max blockSize (need * i.blockBytes / max 1 i.blockChars)

/-- The intake with one more block decoded. Behind the last byte nothing may be unfinished. -/
def Intake.decodeBlock (need : Nat) (i : Intake) : Outcome Intake :=
  let size := i.nextSize need
  let block := i.bytes.take size
  match Text.Utf8.decodeStart [] (i.unfinished ++ block) with
  | none => .error .undecodable
  | some (cs, unfinished) =>
    if block = [] ∧ unfinished ≠ [] then .error .undecodable
    else
      let cs := i.held ++ cs
      let held := if cs.getLast? = some '\r' ∧ block ≠ [] then ['\r'] else []
      let cs := lineFeeds (cs.take (cs.length - held.length))
      .ok
        { bytes := i.bytes.drop size, unfinished, held, ready := i.ready ++ cs
          blockBytes := block.length, blockChars := cs.length, ended := block = [] }

/-- The next page. Only the last page is shorter than the others. -/
def Intake.page (i : Intake) : Nat → Outcome (List Char × Intake)
  | 0 => .ok (i.ready, { i with ready := [] })
  | fuel + 1 =>
    if pageSize ≤ i.ready.length ∨ i.ended then
      .ok (i.ready.take pageSize, { i with ready := i.ready.drop pageSize })
    else do (← i.decodeBlock (pageSize - i.ready.length)).page fuel

/-- All pages, up to one that cannot be decoded. -/
def Intake.pages (i : Intake) : Nat → List (List Char) × Option Fault
  | 0 => ([], none)
  | fuel + 1 =>
    match i.page (i.bytes.length + 2) with
    | .error fault => ([], some fault)
    | .ok ([], _) => ([], none)
    | .ok (page, i) =>
      let (later, failure) := i.pages fuel
      (page :: later, failure)

def ofBytes (bytes : Text.Bytes) : Outcome Source :=
  let (pages, failure) := ({ bytes } : Intake).pages (bytes.length + 2)
  let isLegible (page : List Char) : Bool := page.all isAllowed
  let early := if pages.length < 2 then failure else none
  match early with
  | some fault => .error fault
  | none =>
    if !(pages.take 2).all isLegible then .error .malformedYaml
    else
      let legible := pages.takeWhile isLegible
      let failure := if legible.length < pages.length then some .malformedYaml else failure
      .ok ⟨legible.flatten, failure⟩

end Source

end LaunchIndex.Yaml
