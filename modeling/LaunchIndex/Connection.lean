import LaunchIndex.Retry
import LaunchIndex.Routine
import LaunchIndex.Turnstile
import LaunchIndex.World

/-! The connection to the index. It is created closed; opening binds a read-only handle, with a
bounded retry while another program writes; closing releases the handle and can be done at any
time; destroying is final. One lock serves everything that works on the handle. -/

namespace LaunchIndex

/-- What one attempt to connect meets: the file, a failure, or a stand-in for a handle. -/
inductive Attempt where
  | real
  | fails (fault : Fault)
  | standIn (s : StandIn)

structure Connection where
  path : Text
  policy : Policy
  busyTimeout : Binary64
  script : Option (List Attempt)
  handle : Option Handle := none
  connected : Bool := false
  destroyed : Bool := false
  lock : Turnstile := {}

/-- A connection together with the world that it works in. -/
structure Site where
  connection : Connection
  world : World

/-- An operation on a site that may fail. -/
abbrev Task (α : Type) := ExceptT Fault (Routine Site) α

namespace Connection

def isConnected (c : Connection) : Bool := c.connected && c.handle.isSome

/-- A closed connection. The path must not be blank, and the timeout must be a number. -/
def create (path : Value) (policy : Policy) (busyTimeout : Value)
    (script : Option (List Attempt)) : Outcome Connection :=
  match path with
  | .null => .error .emptyDatabasePath
  | path =>
    if Text.isBlank path.display then .error .emptyDatabasePath
    else do
      let seconds ← busyTimeout.toReal
      return { path := path.display, policy, busyTimeout := seconds, script }

def requirePath (c : Connection) (filePath : Value) : Outcome Text :=
  if c.destroyed then .error (.destroyed c.path)
  else if filePath.isEmpty then .error .emptyFilePath
  else .ok filePath.display

def description (c : Connection) : Text :=
  Text.ofString "IndexConnection(path=" ++ c.path.quoted ++ Text.ofString ", connected=" ++
    (Value.bool c.connected).quoted ++ Text.ofString ")"

end Connection

namespace Site

def mapConnection (f : Connection → Connection) (s : Site) : Site :=
  { s with connection := f s.connection }

def mapWorld (f : World → World) (s : Site) : Site := { s with world := f s.world }

def onWorld {α : Type} (f : World → α × World) (s : Site) : α × Site :=
  let (result, world) := f s.world
  (result, { s with world })

/-! ### Steps of a connection -/

def detach (s : Site) : Option Handle × Site :=
  (s.connection.handle, s.mapConnection fun c => { c with handle := none, connected := false })

/-- A handle that is off its connection is closed; a failure is logged and goes no further. -/
def closeHandle (h : Handle) (s : Site) : Site :=
  let s := s.mapWorld (World.happen (.closed h.number))
  match h.target with
  | .standIn { closeFault := some fault, .. } =>
    s.mapWorld (World.log (Event.closeFailed s.connection.path fault))
  | _ => s

/-- The next entry of the script, which is real when the script is used up or absent. -/
def nextAttempt (s : Site) : Attempt × Site :=
  let s := s.mapWorld fun w =>
    w.happen (.attempted s.connection.script.isSome s.connection.path)
  match s.connection.script with
  | some (a :: rest) => (a, s.mapConnection fun c => { c with script := some rest })
  | _ => (.real, s)

/-- The built-in way to connect. The file is opened for reading and probed by a first read; if
that fails the new handle is closed again. -/
def connectFile (path : Text) (w : World) : Outcome Handle × World :=
  match Uri.ofPath w.environment "ro" path with
  | .error fault => (.error fault, w)
  | .ok _ =>
    match w.databaseNode? path with
    | none => (.error (.store StoreError.cannotOpen), w)
    | some .directory =>
      let (handle, w) := w.openHandle .directory
      (.error (.store StoreError.unreadable), w.happen (.closed handle.number))
    | some (.file number) =>
      let (handle, w) := w.openHandle (.file number)
      match w.readDatabase number with
      | .ok _ => (.ok handle, w)
      | .error e => (.error (.store e), w.happen (.closed handle.number))

def connect (attempt : Attempt) (s : Site) : Outcome Handle × Site :=
  match attempt with
  | .fails fault => (.error fault, s)
  | .standIn t => (s.onWorld fun w => let (h, w) := w.openHandle (.standIn t); (.ok h, w))
  | .real => s.onWorld (connectFile s.connection.path)

/-- The handle is bound to the connection. -/
def attach (h : Handle) (s : Site) : Site :=
  s.mapConnection fun c => { c with handle := some h, connected := true }

end Site

namespace Attempt

/-- Only the file itself keeps an attempt waiting. -/
def wait : Attempt → Wait
  | real => .engine
  | fails _ => .standIn
  | standIn _ => .standIn

end Attempt

namespace Handle

def wait (h : Handle) : Wait :=
  match h.target with
  | .standIn _ => .standIn
  | _ => .engine

end Handle

namespace Connection

def liftRoutine {α : Type} (r : Routine Site α) : Task α := ExceptT.lift r

def log (e : Event) : Routine Site Unit := Routine.update (Site.mapWorld (World.log e))

/-- The lock is taken; the ticket is served in its turn. -/
def enter : Routine Site Unit := do
  let ticket ← Routine.step fun s =>
    let (ticket, lock) := s.connection.lock.take
    (ticket, s.mapConnection fun c => { c with lock })
  Routine.holdUntil fun s => s.connection.lock.admits ticket

def leave : Routine Site Unit :=
  Routine.update (Site.mapConnection fun c => { c with lock := c.lock.leave })

/-- An operation that holds the lock from beginning to end, however it ends. -/
def locked {α : Type} (task : Task α) : Task α :=
  ExceptT.mk do
    enter
    let result ← task.run
    leave
    return result

def release : Routine Site Unit := do
  match ← Routine.step Site.detach with
  | none => return ()
  | some handle =>
    Routine.waitFor handle.wait
    Routine.update (Site.closeHandle handle)

/-- The pause before the retry that follows an attempt, the attempts counted from one. -/
def pause (policy : Policy) (attempt : Nat) : Task Unit := do
  match Binary64.ofInt? (policy.delay (attempt - 1)) with
  | none => throw Fault.integerTooLargeForReal
  | some milliseconds =>
    liftRoutine (Routine.update (Site.mapWorld (World.sleep (milliseconds.divNat 1000))))
    liftRoutine (Routine.waitFor .pause)

/-- The attempts that are left. `last` is the error of the attempt before. -/
def attempts (path : Text) (policy : Policy) (last : Option StoreError) (attempt : Nat) :
    Nat → Task Unit
  | 0 => do
    liftRoutine (log (Event.unavailable path policy.givenAttempts))
    throw (.unavailable path policy.givenAttempts last)
  | left + 1 => do
    liftRoutine release
    let next ← liftRoutine (Routine.step Site.nextAttempt)
    liftRoutine (Routine.waitFor next.wait)
    match ← liftRoutine (Routine.step (Site.connect next)) with
    | .ok handle =>
      liftRoutine (Routine.update (Site.attach handle))
      liftRoutine (log (Event.opened path attempt))
    | .error (.store e) =>
      if ← ExceptT.mk (pure e.isTransient) then
        liftRoutine (log (Event.busy attempt policy.givenAttempts))
        if 0 < left then pause policy attempt
        attempts path policy (some e) (attempt + 1) left
      else
        liftRoutine (log (Event.openFailed path e))
        throw (.openFailed path e)
    | .error fault => throw fault

/-- A handle is bound unless there is one already. -/
def establishUnlocked : Task Unit := do
  let c ← liftRoutine (Routine.look Site.connection)
  if c.destroyed then throw (.destroyed c.path)
  else if c.isConnected then return ()
  else
    let rounds ← ExceptT.mk (pure c.policy.rounds)
    attempts c.path c.policy none 1 rounds

def establish : Task Unit := locked establishUnlocked

def close : Task Unit := locked (liftRoutine release)

/-- The connection is closed for good. -/
def destroy : Task Unit :=
  locked do
    liftRoutine release
    liftRoutine (Routine.update (Site.mapConnection fun c => { c with destroyed := true }))

/-- One use of the handle under the lock. -/
def withHandle {α : Type} (use : Handle → Task α) : Task α :=
  locked do
    let c ← liftRoutine (Routine.look Site.connection)
    match c.isConnected, c.handle with
    | true, some handle => use handle
    | _, _ => throw (.notConnected c.path)

/-- A use that leaves the handle alone; it fails if the connection is not open. -/
def acquire : Task Unit := withHandle fun _ => return ()

/-- Why a change of the table of files through a handle is refused: the handle only reads, and
there may be no such table. -/
def refusal (h : Handle) (w : World) : StoreError :=
  match h.target with
  | .file number =>
    match w.disk.database number with
    | .ok db => if db.layout.files.isNone then StoreError.noTable "files" else StoreError.readOnly
    | .error e => e
  | _ => StoreError.readOnly

/-- A change through the handle. -/
def changeThroughHandle : Task Unit :=
  withHandle fun h => do
    let w ← liftRoutine (Routine.look Site.world)
    throw (.store (refusal h w))

/-- A block with the connection open; it is closed at the end of the block. -/
def within {α : Type} (block : Task α) : Task α := do
  establish
  let result ← liftRoutine block.run
  close
  ExceptT.mk (pure result)

end Connection

end LaunchIndex
