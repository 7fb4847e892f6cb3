import LaunchIndex.Disk
import LaunchIndex.Event
import LaunchIndex.Uri

/-! What the index connection works in: the disk, the lock that another program may hold on a
database file, the clock, and a trace of what has happened. Statements are guarded by the lock
of the other program: an exclusive lock keeps everybody out, an immediate one lets others
read, and a shared one lets others read and fails their changes when they are committed. -/

namespace LaunchIndex

inductive LockMode where
  | exclusive
  | immediate
  | shared
deriving DecidableEq, Repr

/-- The lock of another program: on which file, in which mode, and after how many more pauses
it is released. -/
structure Lock where
  file : Nat
  mode : LockMode
  pausesLeft : Option Nat := none

/-- A clock that moves on by one second each time it is read. -/
inductive Clock where
  | whole (seconds : Int)
  | exact (seconds : Binary64)

namespace Clock

/-- The full seconds that the clock shows. -/
def seconds : Clock → Outcome Int
  | whole n => .ok n
  | exact x => (Value.real x).toInteger

def tick : Clock → Clock
  | whole n => whole (n + 1)
  | exact x => exact (x.addInt 1)

end Clock

/-- What a query asks a handle for. -/
inductive Inquiry where
  | search (p : Store.SearchParameters)
  | usage (path : Text)
  | mostUsed (limit : Int)
deriving DecidableEq

/-- What stand-ins have been asked, in order, each question with the number of the handle. -/
abbrev Past := List (Nat × Inquiry)

/-- A stand-in for a database handle. What it answers may depend on everything that stand-ins have
been asked before; any answer may be a failure, and so may closing. -/
structure StandIn where
  rows : Past → Inquiry → Outcome (List Row) := fun _ _ => .ok []
  usage : Past → Inquiry → Outcome (Option Store.UsageRow) := fun _ _ => .ok none
  closeFault : Option Fault := none

/-- What a handle is open on. -/
inductive Target where
  | file (number : Nat)
  | directory
  | standIn (s : StandIn)

/-- An open handle; no two handles have one number. -/
structure Handle where
  number : Nat
  target : Target

/-- What is remembered of a question to a handle: stand-ins alone remember. -/
def Handle.remembered (h : Handle) (inquiry : Inquiry) : Past :=
  match h.target with
  | .standIn _ => [(h.number, inquiry)]
  | _ => []

/-- What can be seen of a run from outside. -/
inductive Happening where
  | attempted (scripted : Bool) (path : Text)
  | opened (handle : Nat)
  | used (handle : Nat)
  | closed (handle : Nat)
  | slept (seconds : Binary64)
  | logged (event : Event)

structure World where
  environment : Environment
  disk : Disk := {}
  lock : Option Lock := none
  clock : Clock := .whole 1700000000
  nextHandle : Nat := 0
  asked : Past := []
  trace : List Happening := []

namespace World

def happen (h : Happening) (w : World) : World := { w with trace := w.trace ++ [h] }

def log (e : Event) (w : World) : World := w.happen (.logged e)

/-- A pause, after which the other program may release its lock. -/
def sleep (seconds : Binary64) (w : World) : World :=
  let lock :=
    match w.lock with
    | some { file, mode, pausesLeft := some n } =>
      if n ≤ 1 then none else some { file, mode, pausesLeft := some (n - 1) }
    | lock => lock
  { w with lock }.happen (.slept seconds)

/-- The seconds on the clock, which moves on. -/
def readClock (w : World) : Outcome Int × World :=
  (w.clock.seconds, { w with clock := w.clock.tick })

/-- The handle numbers go up. -/
def openHandle (target : Target) (w : World) : Handle × World :=
  let handle : Handle := ⟨w.nextHandle, target⟩
  (handle, { w with nextHandle := w.nextHandle + 1 }.happen (.opened handle.number))

def use (h : Handle) (inquiry : Inquiry) (w : World) : World :=
  { w.happen (.used h.number) with asked := w.asked ++ h.remembered inquiry }

/-! ### Names -/

/-- The greatest size in bytes of the full name of a database file. -/
def maxDatabaseBytes : Nat := 504

/-- The node that a database address names. The name of the file ends at a null character. -/
def databaseNode? (w : World) (path : Text) : Option Node :=
  let name := (w.environment.absolute path).takeWhile (·.val != 0)
  if maxDatabaseBytes < Text.Utf8.nameSize name then none else w.disk.find? name

/-- The names of databases that are in no file and are gone as soon as they are closed. -/
def isFleeting (path : Text) : Bool := path == [] || path == Text.ofString ":memory:"

/-- The file of a database that is made if it is missing; a fleeting database has none. -/
def openOrMake (path : Text) (w : World) : Outcome (Option Nat) × World :=
  let start := Path.slash :: Text.join [Path.slash] w.disk.here
  let name := Path.normalize (Path.join start path)
  let parts := Disk.partsOf name
  let cannotOpen : Outcome (Option Nat) × World := (.error (.store StoreError.cannotOpen), w)
  match Disk.nameBytes path with
  | .error fault => (.error fault, w)
  | .ok _ =>
    if isFleeting path then (.ok none, w)
    else if Disk.isTooLong name || maxDatabaseBytes < Text.Utf8.nameSize name then cannotOpen
    else
      match w.disk.nodeAt? parts, w.disk.nodeAt? parts.dropLast with
      | some (.file number), _ => (.ok (some number), w)
      | none, some .directory =>
        let disk := w.disk.putFile parts (.bytes [])
        (.ok (some w.disk.nextFile), { w with disk })
      | _, _ => cannotOpen

/-! ### Guards -/

/-- The mode in which another program holds a file. -/
def lockOn? (w : World) (file : Nat) : Option LockMode :=
  match w.lock with
  | some l => if l.file == file then some l.mode else none
  | none => none

/-- Reading is possible unless the lock is exclusive. -/
def mayRead (w : World) (file : Nat) : Except StoreError Unit :=
  if w.lockOn? file = some .exclusive then .error StoreError.locked else .ok ()

/-- A change can be started if nobody else has started one. -/
def mayChange (w : World) (file : Nat) : Except StoreError Unit :=
  match w.lockOn? file with
  | some .exclusive | some .immediate => .error StoreError.locked
  | _ => .ok ()

/-- A change can be committed if nobody else reads. -/
def mayCommit (w : World) (file : Nat) : Except StoreError Unit :=
  if (w.lockOn? file).isSome then .error StoreError.locked else .ok ()

/-- The database in a file that can be read. -/
def readDatabase (w : World) (file : Nat) : Except StoreError Store.Database := do
  w.mayRead file
  w.disk.database file

end World

end LaunchIndex
