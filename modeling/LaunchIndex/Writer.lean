import LaunchIndex.Connection
import LaunchIndex.Statement

/-! Changing the index. A writer is a short-lived handle that can change an existing file and
never makes one; each change is committed by itself. A launch is recorded through a writer, as
well as it can be: when the file is not indexed or the change fails, nothing is recorded and
the log tells why. -/

namespace LaunchIndex

open Store

/-- One change that the indexing program makes. -/
inductive Change where
  | insert (row : List Value)
  | delete (path : Value)
  | rename (path filename target : Value)
  | setUsage (fileId count last : Value)

namespace Change

/-- The columns of a new row in their order; a short row is filled up with nulls. -/
def bindRow (row : List Value) : Outcome Tables.NewFile := do
  let column (i : Nat) : Outcome Cell := Cell.bind (i + 1) (row.getD i .null)
  let filename ← column 0
  let path ← column 1
  let size ← column 2
  let modifiedTime ← column 3
  let fileType ← column 4
  return { filename, path, size, modifiedTime, fileType }

def run (c : Change) (file : Nat) (w : World) : Outcome Nat × World :=
  match c with
  | insert row =>
    let s : Statement Tables.NewFile := ⟨Layout.requireInsert, bindRow row⟩
    s.change (fun db n => (db.tables.insertFile db.layout.isStrict n).map fun t => (1, t)) file w
  | delete path =>
    let s : Statement Cell := ⟨Layout.requireFiles, Cell.bind 1 path⟩
    s.change
      (fun db path =>
        match Tables.textOf? path with
        | some path => .ok (db.tables.deleteFile path)
        | none => .ok (0, db.tables)) file w
  | rename path filename target =>
    let s : Statement (Cell × Cell × Cell) :=
      ⟨Layout.requireFiles, do
        let filename ← Cell.bind 1 filename
        let target ← Cell.bind 2 target
        let path ← Cell.bind 3 path
        return (filename, target, path)⟩
    s.change
      (fun db (filename, target, path) =>
        match Tables.textOf? path with
        | some path => db.tables.renameFile db.layout.isStrict path { filename, path := target }
        | none => .ok (0, db.tables)) file w
  | setUsage fileId count last =>
    let s : Statement (Cell × Cell × Cell) :=
      ⟨Layout.requireUsage, do
        let fileId ← Cell.bind 1 fileId
        let count ← Cell.bind 2 count
        let last ← Cell.bind 3 last
        return (fileId, count, last)⟩
    s.change
      (fun db (fileId, count, last) =>
        (db.tables.insertUsage true fileId count last).map fun t => (1, t)) file w

end Change

namespace Writer

/-- The file that a writer for a path works on. -/
def target (path : Value) (w : World) : Outcome Nat :=
  if path.isEmpty then .error .emptyDatabasePath
  else
    match Uri.ofValue w.environment "rw" path with
    | .error fault => .error fault
    | .ok _ =>
      match w.databaseNode? path.display with
      | some (.file number) => .ok number
      | _ => .error (.store StoreError.cannotOpen)

/-- The changes one after another, each with its count of rows or the error of the engine. Any
other failure ends them; what has been committed before stays. -/
def runAll (file : Nat) : List Change → World → Outcome (List (Except StoreError Nat)) × World
  | [], w => (.ok [], w)
  | c :: rest, w =>
    let followed (result : Except StoreError Nat) (w : World) :
        Outcome (List (Except StoreError Nat)) × World :=
      let (results, w) := runAll file rest w
      (results.map (result :: ·), w)
    match c.run file w with
    | (.ok count, w) => followed (.ok count) w
    | (.error (.store e), w) => followed (.error e) w
    | (.error fault, w) => (.error fault, w)

end Writer

namespace Connection

/-! ### Launches -/

def fileId (path : Text) (file : Nat) (w : World) : Outcome (Option Int) :=
  let s : Statement Text :=
    ⟨Layout.requireFiles, do
      let _ ← Cell.bind 1 (.text path)
      return path⟩
  s.queryFresh (fun db path => .ok ((db.tables.fileAt? path).map (·.id))) file w

def countLaunch (id time : Int) (file : Nat) (w : World) : Outcome Nat × World :=
  let s : Statement Int :=
    ⟨Layout.requireUsage, do
      let _ ← Cell.bind 2 (.int time)
      return time⟩
  s.change (fun db time => (db.tables.recordLaunch id time).map fun t => (1, t)) file w

/-- The launch of an indexed file is written, and of any other file it is not. -/
def writeLaunch (database path : Text) (time : Int) : Task Bool := do
  liftRoutine (Routine.waitFor .engine)
  let file ← ExceptT.mk (Routine.look fun s => Writer.target (.text database) s.world)
  liftRoutine (Routine.waitFor .engine)
  match ← ExceptT.mk (Routine.look fun s => fileId path file s.world) with
  | none =>
    liftRoutine (log (Event.notIndexed path))
    return false
  | some id =>
    liftRoutine (Routine.waitFor .engine)
    let _ ← ExceptT.mk (Routine.step (Site.onWorld (countLaunch id time file)))
    return true

/-- The failures of a recorded launch that are logged and not passed on. -/
def isLostLaunch : Fault → Bool
  | .store _ => true
  | .unencodable _ => true
  | _ => false

/-- The time of a launch: as given, or from the clock. -/
def launchTime (now : Value) : Task Int :=
  match now with
  | .null => ExceptT.mk (Routine.step (Site.onWorld World.readClock))
  | now => ExceptT.mk (pure now.toInteger)

/-- One launch of the file at a path. The answer tells whether it was recorded. -/
def recordLaunch (filePath now : Value) : Task Bool := do
  let c ← liftRoutine (Routine.look Site.connection)
  let path ← ExceptT.mk (pure (c.requirePath filePath))
  let time ← launchTime now
  match ← liftRoutine (writeLaunch c.path path time).run with
  | .ok recorded => return recorded
  | .error fault =>
    if isLostLaunch fault then
      liftRoutine (log (Event.recordFailed path fault))
      return false
    else throw fault

end Connection

end LaunchIndex
