import LaunchIndex.Value.Number

/-! What a query returns for one file, and how it is read off a row of named columns. -/

namespace LaunchIndex

/-- A file as a query shows it. The tier ranks the match and is absent outside of a search. -/
structure Record where
  filename : Value
  path : Value
  fileType : Value
  size : Value
  modifiedTime : Value
  launchCount : Int := 0
  tier : Option Int := none

/-- The named columns of one row. -/
abbrev Row := List (Text × Value)

namespace Record

def column (row : Row) (name : Text) : Outcome Value :=
  match Value.lookup row name with
  | some v => .ok v
  | none => .error (.missingColumn name)

/-- The count in a column that may be missing or empty. -/
def readCount (row : Row) : Outcome Int :=
  match Value.lookup row "launch_count" with
  | none => .ok 0
  | some v => if v.isEmpty then .ok 0 else v.toInteger

/-- The tier in a column that may be missing or null. -/
def readTier (row : Row) : Outcome (Option Int) :=
  match Value.lookup row "tier" with
  | none => .ok none
  | some .null => .ok none
  | some v => v.toInteger.map some

/-- The record of a row. The columns are read in the order of the fields, and the first that
cannot be read gives the failure. -/
def ofRow (row : Row) : Outcome Record := do
  let filename ← column row "filename"
  let path ← column row "path"
  let fileType ← column row "file_type"
  let size ← column row "size"
  let modifiedTime ← column row "modified_time"
  let launchCount ← readCount row
  let tier ← readTier row
  return { filename, path, fileType, size, modifiedTime, launchCount, tier }

def toValue (r : Record) : Value :=
  .dict
    [("filename", r.filename), ("path", r.path), ("file_type", r.fileType), ("size", r.size),
      ("modified_time", r.modifiedTime), ("launch_count", .int r.launchCount),
      ("tier", (r.tier.map Value.int).getD .null)]

end Record

end LaunchIndex
