import LaunchIndex.Statement

/-! Making the tables of an index. The directories above the file are made where they are
missing, then the file, then each missing table and index; on a complete index nothing
changes. What has been made before a failure stays. -/

namespace LaunchIndex

namespace Disk

def makeDirectory (d : Disk) (parts : List Text) : Outcome Disk :=
  let name := Path.slash :: Text.join [Path.slash] parts
  match nameBytes name, d.nodeAt? parts.dropLast, d.nodeAt? parts with
  | .error fault, _, _ => .error fault
  | .ok _, some (.file _), _ => .error (.notDirectory name)
  | .ok _, _, some (.file _) => .error (.alreadyExists name)
  | .ok _, _, some .directory => .ok d
  | .ok _, _, none =>
    if isTooLong name then .error (.nameTooLong name) else .ok (d.makeDirectories parts)

/-- Directories down to a place, those above first. What cannot be made leaves those above it.
A file in the way counts when something is to be made below it, or at the place itself. -/
def ensureDirectories (d : Disk) (places : List (List Text)) : Outcome Unit × Disk :=
  match places with
  | [] => (.ok (), d)
  | parts :: rest =>
    match d.nodeAt? parts, rest with
    | some (.file _), _ :: _ => ensureDirectories d rest
    | _, _ =>
      match d.makeDirectory parts with
      | .error fault => (.error fault, d)
      | .ok d => ensureDirectories d rest

end Disk

namespace Schema

/-- What is added to the name of a file for the journal of its changes. -/
def journalSuffix : Text := "-journal"

/-- The missing tables of the database in a file are made. A change needs a journal, whose name
must not be too long. -/
def complete (path : Text) (file : Nat) (w : World) : Outcome Unit × World :=
  let outcome : Except StoreError (Option Store.Database) := do
    let db ← w.readDatabase file
    if db.layout = db.layout.completed then return none
    w.mayChange file
    if Disk.isTooLong (path ++ journalSuffix) then throw StoreError.cannotOpen
    w.mayCommit file
    return some { db with layout := db.layout.completed }
  match outcome with
  | .error e => (.error (.store e), w)
  | .ok none => (.ok (), w)
  | .ok (some db) => (.ok (), { w with disk := w.disk.setDatabase file db })

/-- The index at a path is made, or completed. -/
def createAt (path : Text) (w : World) : Outcome Unit × World :=
  let parts := Disk.partsOf (w.environment.absolute path)
  match w.disk.ensureDirectories (Disk.heads parts.dropLast) with
  | (.error fault, disk) => (.error fault, { w with disk })
  | (.ok (), disk) =>
    match World.openOrMake path { w with disk } with
    | (.error fault, w) => (.error fault, w)
    | (.ok none, w) => (.ok (), w)
    | (.ok (some file), w) => complete path file w

def create (path : Value) (w : World) : Outcome Unit × World :=
  match path.fileName with
  | .error fault => (.error fault, w)
  | .ok path => createAt path w

/-- The names of the tables and indexes of the database at a path, which is made if it is
missing. -/
def namesAt (path : Text) (w : World) : Outcome (List Text) × World :=
  match World.openOrMake path w with
  | (.error fault, w) => (.error fault, w)
  | (.ok none, w) => (.ok [], w)
  | (.ok (some file), w) =>
    (Outcome.ofStore ((w.readDatabase file).map fun db => db.layout.names), w)

def names (path : Value) (w : World) : Outcome (List Text) × World :=
  match path.fileName with
  | .error fault => (.error fault, w)
  | .ok path => namesAt path w

end Schema

end LaunchIndex
