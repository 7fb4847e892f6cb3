import LaunchIndex.Preferences
import LaunchIndex.Settings
import LaunchIndex.Writer

/-! The panel in front of the index. It starts from the settings and preferences with a closed
connection; its tools open the index when they need it, and turn the failures of the index
into messages. -/

namespace LaunchIndex

/-- What a panel has settled when it starts. -/
structure Panel where
  settings : Settings
  maxResults : Int
  shortcut : Text

namespace Fault

/-- The failures that belong to the index: missing arguments, a closed or destroyed connection,
and an index that cannot be opened. -/
def isOfIndex : Fault → Bool
  | missingConnection | emptyDatabasePath | emptyFilePath | destroyed _ | notConnected _ => true
  | unavailable .. | openFailed .. => true
  | _ => false

end Fault

namespace Panel

/-! ### Start -/

/-- What is logged at the start, when everything has been read. -/
def startEvents (p : Panel) : List Event :=
  [Event.indexPath p.settings.databasePath,
    Event.retryBounds p.settings.attempts p.settings.initialDelay p.settings.maxDelay,
    Event.shortcut p.shortcut]

/-- The panel and its closed connection. `script` stands for the files that attempts to connect
would meet. -/
def start (script : Option (List Attempt)) (w : World) : Outcome (Panel × Connection) × World :=
  match Settings.load none w with
  | (.error fault, w) => (.error fault, w)
  | (.ok settings, w) =>
    let connection := do
      let policy ← settings.policy
      Connection.create (.text settings.databasePath) policy (.real settings.busyTimeout) script
    match connection with
    | .error fault => (.error fault, w)
    | .ok connection =>
      let preferences := some settings.preferencesPath
      match Preferences.maxResults preferences w with
      | (.error fault, w) => (.error fault, w)
      | (.ok maxResults, w) =>
        match Preferences.resolvedShortcut preferences w with
        | (.error fault, w) => (.error fault, w)
        | (.ok shortcut, w) =>
          let p : Panel := { settings, maxResults, shortcut }
          (.ok (p, connection), p.startEvents.foldl (fun w e => w.log e) w)

/-! ### Messages -/

def failureMessage (reason : Text) : Text := Text.ofString "❌ " ++ reason

def busyMessage (attempts : Value) : Text :=
  failureMessage (Text.ofString "Search index is busy (" ++ attempts.display ++
    Text.ofString " attempts). Is the indexer in the middle of a batch?")

def unreachableMessage (reason : Text) : Text :=
  failureMessage (Text.ofString
    "Cannot connect to search index. Is the indexing daemon running? (" ++ reason ++
      Text.ofString ")")

def recordedMessage : Text := "✅ Launch recorded"

def notRecordedMessage : Text :=
  "ℹ️ Launch not recorded (file not indexed yet or index busy)."

/-! ### Tools -/

def searchSignature : Signature := ⟨"search_files", ["query"], ["max_results"]⟩

def recordSignature : Signature := ⟨"record_launch", ["file_path"], []⟩

def mostUsedSignature : Signature := ⟨"most_used", [], ["limit"]⟩

def statusSignature : Signature := ⟨"index_status", [], []⟩

def openMessage? (fault : Fault) : Option Text :=
  match fault with
  | .unavailable _ attempts _ => some (busyMessage attempts)
  | .openFailed .. => some (unreachableMessage fault.message)
  | _ => none

/-- The index is opened if it is not open; the message says why it could not be. -/
def ensureOpen : Task (Option Text) := do
  let c ← Connection.liftRoutine (Routine.look Site.connection)
  if c.isConnected then return none
  else
    match ← Connection.liftRoutine Connection.establish.run with
    | .ok () => return none
    | .error fault =>
      match openMessage? fault with
      | some message => return some message
      | none => throw fault

/-- The records that a tool found, and what went wrong. -/
structure Listing where
  records : List Record
  failure : Option Text := none

/-- A listing as a dictionary. What went wrong comes first, and a search counts its records. -/
def Listing.toValue (counted : Bool) (l : Listing) : Value :=
  let failure : List (Text × Value) := match l.failure with
    | some message => [("error", .text message)]
    | none => []
  let results : Text × Value := ("results", .list (l.records.map Record.toValue))
  let count : List (Text × Value) := if counted then [("count", .int l.records.length)] else []
  .dict (failure ++ results :: count)

/-- What a query of the index finds, or why the index could not be asked. -/
def listingOf (query : Task (List Record)) (found : Routine Site Unit) : Task Listing := do
  match ← Connection.liftRoutine query.run with
  | .ok records =>
    Connection.liftRoutine found
    return ⟨records, none⟩
  | .error fault =>
    if fault.isOfIndex then return ⟨[], some (failureMessage fault.message)⟩ else throw fault

/-- A listing from a query on the open index. -/
def listing (query : Task (List Record)) (found : Routine Site Unit) : Task Listing := do
  match ← ensureOpen with
  | some message => return ⟨[], some message⟩
  | none => listingOf query found

/-- The limit of a search: as asked for if it is positive, else that of the preferences. -/
def limit (p : Panel) (maxResults : Value) : Outcome Value :=
  maxResults.isPositive.map fun positive => if positive then maxResults else .int p.maxResults

/-- A search with the limit of the panel. -/
def search (p : Panel) (query maxResults : Value) : Task (List Record) := do
  let limit ← ExceptT.mk (pure (p.limit maxResults))
  Connection.search query limit

def searchFiles (p : Panel) (query maxResults : Value) : Task Listing :=
  listing (p.search query maxResults) (Connection.log Event.searched)

def mostUsed (limit : Value) : Task Listing := listing (Connection.mostUsed limit) (pure ())

/-- A launch is recorded if the file is indexed; the message tells. -/
def recordLaunch (filePath : Value) : Task Text := do
  match ← Connection.liftRoutine (Connection.recordLaunch filePath .null).run with
  | .ok recorded => return if recorded then recordedMessage else notRecordedMessage
  | .error fault => if fault.isOfIndex then return failureMessage fault.message else throw fault

/-- Where the index lies, whether it is open, and what the panel has settled. -/
structure Status where
  databasePath : Text
  connected : Bool
  maxResults : Int
  shortcut : Text

def status (p : Panel) (c : Connection) : Status :=
  ⟨c.path, c.isConnected, p.maxResults, p.shortcut⟩

/-! ### Shutdown -/

/-- How a cleanup goes: it comes to its end, or the time that it has is over while it stands in line
for the lock or while the handle is being closed. -/
inductive Cleanup where
  | done
  | stuckInLine
  | stuckClosing
deriving DecidableEq, Repr

/-- The connection is destroyed if the time suffices. A cleanup that is cut off in line has done
nothing, and one that is cut off as it closes the handle has taken the handle away, but the
connection is not destroyed. Nobody is cut off in line at a free lock, nor while closing nothing. -/
def destroyInTime (cleanup : Cleanup) : Task Unit := do
  match cleanup with
  | .done => Connection.destroy
  | .stuckInLine =>
    let c ← Connection.liftRoutine (Routine.look Site.connection)
    if c.lock.isFree then Connection.destroy
    else
      Connection.liftRoutine (Routine.waitFor .pause)
      throw Fault.timedOut
  | .stuckClosing =>
    Connection.locked do
      match ← Connection.liftRoutine (Routine.step Site.detach) with
      | none =>
        Connection.liftRoutine
          (Routine.update (Site.mapConnection fun c => { c with destroyed := true }))
      | some handle =>
        Connection.liftRoutine
          (Routine.update (Site.mapWorld (World.happen (.closed handle.number))))
        Connection.liftRoutine (Routine.waitFor .pause)
        throw Fault.timedOut

/-- The cleanup of a shutdown. If it fails, that is logged. -/
def cleanUp (reason : Text) (cleanup : Cleanup) : Routine Site Unit := do
  Connection.log (Event.shutdown reason)
  Routine.waitFor .pause
  match ← (destroyInTime cleanup).run with
  | .ok () => return ()
  | .error fault => Connection.log (Event.cleanupFailed fault)

/-- The site of a panel, and whether it has been shut down. -/
structure State where
  site : Site
  stopping : Bool := false

namespace State

/-- An operation on the site of a panel. -/
def onSite {α : Type} (r : Routine Site α) : Routine State α :=
  r.zoom State.site fun site s => { s with site }

end State

/-- The panel is shut down, the first time that this is asked for. -/
def shutdown (reason : Text) (cleanup : Cleanup) : Routine State Unit := do
  if ← Routine.step fun s => (s.stopping, { s with stopping := true }) then return ()
  else State.onSite (cleanUp reason cleanup)

end Panel

end LaunchIndex
