import LaunchIndex.Writer

/-! What other programs do to the index file: they make it with given rows, add rows in one
transaction, put another file in its place, and hold it with a lock for a while. They do not
check that launched files exist. -/

namespace LaunchIndex

open Store

/-- A row of the table of launches as another program writes it; the file is named by its path
or its id. -/
structure UsageEntry where
  file : Value
  count : Value
  last : Value

/-- What stands at the place of the index. -/
inductive Fixture where
  | complete (files : List (List Value)) (usage : List UsageEntry)
  | withoutUsage (files : List (List Value))
  | namesOnly (files : List (List Value))
  | empty
  | unreadable
  | directory
  | missing

namespace Neighbour

/-- New rows for the table of files. `guard` is whether the first change can be started. -/
def addFiles (guard : Outcome Unit) (t : Tables) (strict : Bool) :
    List (List Value) → Outcome Tables
  | [] => .ok t
  | row :: rest => do
    let n ← Change.bindRow row
    guard
    let t ← Outcome.ofStore (t.insertFile strict n)
    addFiles guard t strict rest

/-- New rows for the table of launches. A path stands for every file at it. -/
def addUsage (guard : Outcome Unit) (t : Tables) : List UsageEntry → Outcome Tables
  | [] => .ok t
  | entry :: rest => do
    let t ←
      match entry.file with
      | .text path => do
        let count ← Cell.bind 1 entry.count
        let last ← Cell.bind 2 entry.last
        let _ ← Cell.bind 3 (.text path)
        guard
        Outcome.ofStore <| (t.filesAt path).foldlM (fun t f =>
          t.insertUsage false (.int f.id) count last) t
      | file => do
        let id ← Cell.bind 1 file
        let count ← Cell.bind 2 entry.count
        let last ← Cell.bind 3 entry.last
        guard
        Outcome.ofStore (t.insertUsage false id count last)
    addUsage guard t rest

/-- The content of the index file, if there is to be a file. -/
def content (f : Fixture) : Outcome (Option Content) :=
  match f with
  | .complete files usage => do
    let t ← addFiles (.ok ()) {} true files
    let t ← addUsage (.ok ()) t usage
    return some (.database (Database.complete t))
  | .withoutUsage files => do
    let t ← addFiles (.ok ()) {} true files
    return some (.database ⟨⟨some .all, false, true⟩, t⟩)
  | .namesOnly files => do
    let t ← addFiles (.ok ()) {} false (files.map fun row => row.take 2)
    return some (.database ⟨⟨some .names, false, false⟩, t⟩)
  | .empty => .ok (some (.bytes []))
  | .unreadable => .ok (some (.bytes [0x6E, 0x6F, 0x0A]))
  | .directory => .ok none
  | .missing => .ok none

def replace (path : Text) (f : Fixture) (w : World) : Outcome Unit × World :=
  let parts := Disk.partsOf (w.environment.absolute path)
  match content f with
  | .error fault => (.error fault, w)
  | .ok (some c) => (.ok (), { w with disk := w.disk.putFile parts c })
  | .ok none =>
    let disk := w.disk.remove parts
    match f with
    | .directory => (.ok (), { w with disk := disk.makeDirectories parts })
    | _ => (.ok (), { w with disk })

/-- The file at a path, which is made if it is missing. -/
def file (path : Text) (w : World) : Outcome Nat × World :=
  match World.openOrMake path w with
  | (.ok (some number), w) => (.ok number, w)
  | (.ok none, w) => (.error (.store StoreError.cannotOpen), w)
  | (.error fault, w) => (.error fault, w)

/-- Rows are added in one transaction, all of them or none. Without rows nothing is touched. -/
def put (path : Text) (files : List (List Value)) (usage : List UsageEntry) (w : World) :
    Outcome Unit × World :=
  let (number, w) := file path w
  let outcome : Outcome (Option (Nat × Database)) := do
    let number ← number
    let guard := Outcome.ofStore (w.mayChange number)
    if files.isEmpty && usage.isEmpty then return none
    let db ← Outcome.ofStore (w.readDatabase number)
    if !files.isEmpty then Outcome.ofStore db.layout.requireInsert
    let tables ← addFiles guard db.tables db.layout.isStrict files
    if !usage.isEmpty then Outcome.ofStore db.layout.requireUsage
    let tables ← addUsage guard tables usage
    Outcome.ofStore (w.mayCommit number)
    return some (number, { db with tables })
  match outcome with
  | .error fault => (.error fault, w)
  | .ok none => (.ok (), w)
  | .ok (some (number, db)) => (.ok (), { w with disk := w.disk.setDatabase number db })

/-- The file at a path is locked until it is released, or until some pauses have passed. -/
def lock (path : Text) (mode : LockMode) (pauses : Option Nat) (w : World) :
    Outcome Unit × World :=
  let (number, w) := file path w
  let outcome : Outcome Nat := do
    let number ← number
    let _ ← Outcome.ofStore (w.readDatabase number)
    if mode != .shared then Outcome.ofStore (w.mayChange number)
    if mode == .exclusive then Outcome.ofStore (w.mayCommit number)
    return number
  match outcome with
  | .error fault => (.error fault, w)
  | .ok number => (.ok (), { w with lock := some ⟨number, mode, pauses⟩ })

def unlock (w : World) : World := { w with lock := none }

def dump (path : Text) (w : World) : Outcome Tables × World :=
  let (number, w) := file path w
  let tables : Outcome Tables := do
    let db ← Outcome.ofStore (w.readDatabase (← number))
    Outcome.ofStore db.layout.requireBoth
    return db.tables
  (tables, w)

end Neighbour

end LaunchIndex
