import LaunchIndex.Query
import LaunchIndex.Routine.Gather
import LaunchIndex.Writer

/-! Several connections in one world. A connection keeps its number for good; its name may be
given to another one. An operation on a name works on the connection that has the name at its
start; where no connection has it, the operations on an index say that one is missing. Calls
can be started together, and then take turns on the locks of their connections. -/

namespace LaunchIndex

/-- The connections in the order in which they were made, and the numbers that names stand
for. -/
structure Session where
  connections : List Connection := []
  names : List (Text × Nat) := []
  world : World

namespace Session

/-- An operation on a session that may fail. -/
abbrev Call (α : Type) := ExceptT Fault (Routine Session) α

/-- A connection of a session: its number, and what it was when it was looked up. -/
structure Member where
  number : Nat
  seen : Connection

def member? (s : Session) (name : Text) : Option Member := do
  let entry ← s.names.find? fun n => n.1 == name
  let seen ← s.connections[entry.2]?
  return ⟨entry.2, seen⟩

def current (s : Session) (m : Member) : Connection := s.connections[m.number]?.getD m.seen

/-- A new connection, still without a name. -/
def add (c : Connection) (s : Session) : Member × Session :=
  (⟨s.connections.length, c⟩, { s with connections := s.connections ++ [c] })

/-- A name, if there is one, is given to a connection and taken from the one that had it. -/
def setName (name : Option Text) (m : Member) (s : Session) : Session :=
  match name with
  | none => s
  | some name => { s with names := (s.names.filter fun n => n.1 != name) ++ [(name, m.number)] }

def look {α : Type} (f : Session → α) : Call α := ExceptT.lift (Routine.look f)

def update (f : Session → Session) : Call Unit := ExceptT.lift (Routine.update f)

def onWorld {α : Type} (f : World → Outcome α × World) : Call α :=
  ExceptT.mk <| Routine.step fun s =>
    let (result, world) := f s.world
    (result, { s with world })

def onMember {α : Type} (m : Member) (task : Task α) : Call α :=
  ExceptT.mk <|
    Routine.zoom (fun s => ⟨s.current m, s.world⟩)
      (fun site s =>
        { s with
          connections := s.connections.set m.number site.connection
          world := site.world })
      task.run

/-- An operation on the connection that a caller passes on by name, which may be none. -/
def withConnection {α : Type} (name : Option Text) (task : Task α) (absent : Outcome α) :
    Call α := do
  match ← look fun s => name.bind s.member? with
  | some m => onMember m task
  | none => ExceptT.mk (pure absent)

/-- A query or change that needs a connection. -/
def required {α : Type} (name : Option Text) (task : Task α) : Call α :=
  withConnection name task (.error .missingConnection)

/-- An operation that does nothing without a connection. -/
def optional (name : Option Text) (task : Task Unit) : Call Unit :=
  withConnection name task (.ok ())

/-- Whether opening binds a new handle: the one bound afterwards is not the one before. -/
def establish (m : Member) : Call Bool := do
  let handle (s : Session) : Option Nat := (s.current m).handle.map (·.number)
  let before ← look handle
  onMember m Connection.establish
  let after ← look handle
  return after != before

/-- A new connection under a name; a failure leaves the session as it was. -/
def create (name : Option Text) (c : Outcome Connection) : Call Text := do
  let c ← ExceptT.mk (pure c)
  let m ← ExceptT.lift (Routine.step (add c))
  update (setName name m)
  return c.path

/-- A new connection that is opened before it gets its name; a failure leaves the names as they
were. -/
def openIndex (name : Option Text) (c : Outcome Connection) : Call Text := do
  let c ← ExceptT.mk (pure c)
  let m ← ExceptT.lift (Routine.step (add c))
  onMember m Connection.establish
  update (setName name m)
  return c.path

/-- A block with a connection open; that connection is closed at the end of the block. -/
def within {α : Type} (m : Member) (block : Call α) : Call α := do
  onMember m Connection.establish
  let result ← ExceptT.lift block.run
  onMember m Connection.close
  ExceptT.mk (pure result)

/-- What has happened since the last time that this was asked. -/
def drain (s : Session) : List Happening × Session :=
  (s.world.trace, { s with world := { s.world with trace := [] } })

/-- A number of rounds in which calls that are started together come to their end: each round
takes one of them past a wait, and no call waits more often than four times for each attempt
of a policy, and a few times more. `attempts` bounds those of connections that the calls make
themselves. -/
def roundLimit (s : Session) (calls attempts : Nat) : Nat :=
  let waits := s.connections.foldl (fun n c => n + 4 * c.policy.attempts.toNat) (10 + 4 * attempts)
  (calls + 1) * waits

/-- A call that starts when those that are started with it have had their first turn. -/
def later {α : Type} (call : Routine Session α) : Routine Session α := do
  Routine.waitFor .engine
  call

/-- Calls that are started together, and make connections with so many attempts. -/
def gather {α : Type} (attempts : Nat) (calls : List (Routine Session α)) :
    Routine Session (List (Option α)) :=
  Routine.step fun s =>
    Routine.gather Routine.Pattern.engineOnly (s.roundLimit calls.length attempts) calls s

end Session

end LaunchIndex
