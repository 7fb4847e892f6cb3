import LaunchIndex.World

/-! Statements on a database file. A statement names tables and columns and carries
parameters; it fails, in this order, if one of them is missing, if a parameter has no stored
form, or if another program's lock is in the way. A handle that has read the file before knows
the layout; a new handle has to read it first and so meets the lock before anything else. -/

namespace LaunchIndex

/-- A statement up to the point where it runs. -/
structure Statement (π : Type) where
  require : Store.Layout → Except StoreError Unit
  bind : Outcome π

/-- A failure of the engine as a fault. -/
def Outcome.ofStore {α : Type} : Except StoreError α → Outcome α
  | .ok a => .ok a
  | .error e => .error (.store e)

namespace Statement

variable {π α : Type}

/-- The database with the tables and columns that the statement names, and its parameters. -/
def prepare (s : Statement π) (db : Except StoreError Store.Database) :
    Outcome (Store.Database × π) := do
  let db ← Outcome.ofStore db
  Outcome.ofStore (s.require db.layout)
  let parameters ← s.bind
  return (db, parameters)

/-- A reading statement on a handle that knows the layout. -/
def query (s : Statement π) (run : Store.Database → π → Except StoreError α) (file : Nat)
    (w : World) : Outcome α := do
  let (db, parameters) ← s.prepare (w.disk.database file)
  Outcome.ofStore (w.mayRead file)
  Outcome.ofStore (run db parameters)

/-- A reading statement on a new handle. -/
def queryFresh (s : Statement π) (run : Store.Database → π → Except StoreError α) (file : Nat)
    (w : World) : Outcome α := do
  let (db, parameters) ← s.prepare (w.readDatabase file)
  Outcome.ofStore (run db parameters)

/-- A changing statement on a new handle: a count of rows, and the rows as they are afterwards.
They must be committed even if none has changed. -/
def change (s : Statement π)
    (run : Store.Database → π → Except StoreError (Nat × Store.Tables)) (file : Nat)
    (w : World) : Outcome Nat × World :=
  let outcome : Outcome (Nat × Store.Database) := do
    let (db, parameters) ← s.prepare (w.readDatabase file)
    Outcome.ofStore (w.mayChange file)
    let (count, tables) ← Outcome.ofStore (run db parameters)
    Outcome.ofStore (w.mayCommit file)
    return (count, { db with tables })
  match outcome with
  | .error fault => (.error fault, w)
  | .ok (count, db) => (.ok count, { w with disk := w.disk.setDatabase file db })

end Statement

end LaunchIndex
