import LaunchIndex.Connection
import LaunchIndex.Statement
import LaunchIndex.Value.Name

/-! The three queries on an open connection. A search ranks the files whose name holds a text;
if its statement fails it finds nothing and leaves an entry in the log. The usage of a file
and the list of the most launched files pass their failures on. -/

namespace LaunchIndex

namespace Limit

/-- How many results are returned unless the caller says otherwise. -/
def default : Int := 50

/-- The greatest limit that a statement takes. -/
def greatest : Int := 9223372036854775807

/-- The limit of a search. Nothing, zero and negative numbers stand for the default. -/
def effective (maxResults : Value) : Outcome Int :=
  match maxResults with
  | .null => .ok default
  | v => do
    let n ← v.toInteger
    return if n ≤ 0 then default else min n greatest

end Limit

namespace Like

/-- The pattern that matches a text, if the value is one. -/
def escapeValue (v : Value) : Outcome Text := (v.textFor "replace").map escape

end Like

namespace Store.SearchParameters

/-- The parameters of a search for a text. -/
def ofQuery (query : Text) (limit : Int) : Store.SearchParameters where
  exact := query
  starts := Like.startsWith query
  holds := Like.holds query
  limit := limit

/-- The parameters of a search whose text and limit may be of any kind. -/
def ofValues (query limit : Value) : Outcome Store.SearchParameters := do
  let query ← query.textFor "replace"
  return ofQuery query (← limit.toInteger)

end Store.SearchParameters

namespace Fault

/-- The failures of a search statement that are logged and not passed on. -/
def isStatementFailure : Fault → Bool
  | store _ => true
  | unencodable _ => true
  | outOfRange _ => true
  | _ => false

end Fault

namespace Handle

/-- What a handle answers. A stand-in goes by what has been asked before. -/
def answer {α : Type} (h : Handle) (query : Nat → World → Outcome α)
    (standIn : StandIn → Past → Outcome α) (w : World) : Outcome α :=
  match h.target with
  | .file number => query number w
  | .directory => .error (.store StoreError.unreadable)
  | .standIn t => standIn t w.asked

end Handle

namespace Connection

open Store

/-- A statement on a handle, which a stand-in may answer. -/
def onHandle {α : Type} (h : Handle) (inquiry : Inquiry) (query : Nat → World → Outcome α)
    (standIn : StandIn → Past → Inquiry → Outcome α) : Task α := do
  liftRoutine (Routine.waitFor h.wait)
  ExceptT.mk <| Routine.step fun s =>
    (h.answer query (fun t past => standIn t past inquiry) s.world,
      s.mapWorld (World.use h inquiry))

/-! ### Search -/

/-- The statement of a search; the text must have an encoded form. -/
def searchStatement (p : SearchParameters) : Statement SearchParameters where
  require := Layout.requireRecords
  bind := do
    let _ ← Cell.bind 1 (.text p.exact)
    let _ ← Cell.bind 2 (.text p.starts)
    let _ ← Cell.bind 3 (.text p.holds)
    let _ ← Cell.bind 4 (.int p.limit)
    return p

def searchRows (p : SearchParameters) (file : Nat) (w : World) : Outcome (List Row) :=
  (searchStatement p).query
    (fun db p => do
      let hits ← db.search p
      hits.mapM fun hit => Tables.fetch hit.toRow)
    file w

def searchParameters (query maxResults : Value) : Outcome SearchParameters := do
  let limit ← Limit.effective maxResults
  return SearchParameters.ofQuery query.display limit

/-- The best matches of a query. An empty query finds nothing, and so does a statement that
fails. -/
def search (query maxResults : Value) : Task (List Record) := do
  let c ← liftRoutine (Routine.look Site.connection)
  if !c.isConnected then throw (.notConnected c.path)
  else if query.isEmpty then return []
  else
    let p ← ExceptT.mk (pure (searchParameters query maxResults))
    let rows := withHandle fun h => onHandle h (.search p) (searchRows p) StandIn.rows
    match ← liftRoutine rows.run with
    | .ok rows => ExceptT.mk (pure (rows.mapM Record.ofRow))
    | .error fault =>
      if fault.isStatementFailure then
        liftRoutine (log (Event.searchFailed query fault))
        return []
      else throw fault

/-! ### Usage -/

structure UsageStat where
  fileId : Int
  launchCount : Int
  lastLaunched : Value

namespace UsageStat

/-- The usage as stored, its count as an integer. -/
def ofRow (u : UsageRow) : Outcome UsageStat := do
  let launchCount ← u.launchCount.toValue.toInteger
  return ⟨u.fileId, launchCount, u.lastLaunched.toValue⟩

end UsageStat

def usageStatement (path : Text) : Statement Text where
  require := Layout.requireBoth
  bind := do
    let _ ← Cell.bind 1 (.text path)
    return path

def usageRow (path : Text) (file : Nat) (w : World) : Outcome (Option UsageRow) :=
  (usageStatement path).query
    (fun db path =>
      match db.tables.usageAt? path with
      | some u => (Tables.fetch (Tables.usageColumns u)).map fun _ => some u
      | none => .ok none)
    file w

/-- The launches of the file at a path, if there have been any. -/
def usage (filePath : Value) : Task (Option UsageStat) := do
  let c ← liftRoutine (Routine.look Site.connection)
  let path ← ExceptT.mk (pure (c.requirePath filePath))
  match ← withHandle fun h => onHandle h (.usage path) (usageRow path) StandIn.usage with
  | none => return none
  | some row => ExceptT.mk (pure ((UsageStat.ofRow row).map some))

/-! ### Most launched files -/

def mostUsedStatement (limit : Int) : Statement Int where
  require := Layout.requireRecords
  bind := do
    let _ ← Cell.bind 1 (.int limit)
    return limit

def mostUsedRows (limit : Int) (file : Nat) (w : World) : Outcome (List Row) :=
  (mostUsedStatement limit).query
    (fun db limit => (db.tables.mostLaunched limit).mapM fun l => Tables.fetch l.toRow) file w

/-- The most launched files, at least one if there is one. -/
def mostUsed (limit : Value) : Task (List Record) := do
  let rows ← withHandle fun h => do
    let n ← ExceptT.mk (pure limit.toInteger)
    onHandle h (.mostUsed (max 1 n)) (mostUsedRows (max 1 n)) StandIn.rows
  ExceptT.mk (pure (rows.mapM Record.ofRow))

end Connection

end LaunchIndex
