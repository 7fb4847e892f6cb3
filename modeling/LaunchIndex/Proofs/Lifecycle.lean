import LaunchIndex.Writer
import LaunchIndex.Proofs.Balance

/-! The life of a connection: any operations, one after another and in blocks, with other programs
at work in between. Wherever such a life leads, every handle that was ever opened is either the
one that the connection holds or has been closed exactly once. -/

namespace LaunchIndex

/-- One operation on a connection, or what other programs do in the meantime. A block has its own
operations and may end in a failure. -/
inductive Operation where
  | establish
  | close
  | destroy
  | within (block : List Operation) (raised : Option Fault)
  | search (query maxResults : Value)
  | usage (filePath : Value)
  | mostUsed (limit : Value)
  | record (filePath now : Value)
  | elsewhere (disk : Disk) (lock : Option Lock) (clock : Clock)

namespace Operation

open Connection

def ending : Option Fault → Task Unit
  | none => return ()
  | some fault => throw fault

mutual

/-- What an operation does; its result is of no interest here. -/
def task : Operation → Task Unit
  | establish => Connection.establish
  | close => Connection.close
  | destroy => Connection.destroy
  | within block raised => Connection.within do
      tasks block
      ending raised
  | search query maxResults => do
    let _ ← Connection.search query maxResults
  | usage filePath => do
    let _ ← Connection.usage filePath
  | mostUsed limit => do
    let _ ← Connection.mostUsed limit
  | record filePath now => do
    let _ ← Connection.recordLaunch filePath now
  | elsewhere disk lock clock =>
    liftRoutine (Routine.update (Site.mapWorld fun w => { w with disk, lock, clock }))

def tasks : List Operation → Task Unit
  | [] => return ()
  | operation :: rest => do
    let _ ← liftRoutine operation.task.run
    tasks rest

end

end Operation

namespace Site

/-- A property that the operations on the handle keep, and that outlasts entries of the log and
changes of the world that open no handle and leave no trace. -/
structure Lasting (p : Site → Prop) : Prop where
  establish : Connection.establish.Keeps p
  close : Connection.close.Keeps p
  destroy : Connection.destroy.Keeps p
  search : ∀ query maxResults, (Connection.search query maxResults).Keeps p
  usage : ∀ filePath, (Connection.usage filePath).Keeps p
  mostUsed : ∀ limit, (Connection.mostUsed limit).Keeps p
  log : ∀ e, Task.Keeps p (Connection.liftRoutine (Connection.log e))
  world : ∀ s w, p s → w.trace = s.world.trace → w.nextHandle = s.world.nextHandle →
    p { s with world := w }

namespace Lasting

variable {p : Site → Prop}

/-- A launch is written through a handle of its own. -/
theorem writeLaunch (h : Lasting p) (database path : Text) (time : Int) :
    (Connection.writeLaunch database path time).Keeps p := by
  refine (Task.keeps_waitFor _).bind fun _ => (Task.keeps_lookOutcome _).bind fun file =>
    (Task.keeps_waitFor _).bind fun _ => (Task.keeps_lookOutcome _).bind fun id => ?_
  cases id with
  | none => exact (h.log _).bind fun _ => Task.keeps_pure _
  | some id =>
    refine (Task.keeps_waitFor _).bind fun _ => Task.Keeps.bind (fun s hs => ?_) fun _ =>
      Task.keeps_pure _
    have hquiet : (Connection.countLaunch id time file s.world).2.trace = s.world.trace ∧
        (Connection.countLaunch id time file s.world).2.nextHandle = s.world.nextHandle := by
      rw [Connection.countLaunch, Statement.change]
      split <;> exact ⟨rfl, rfl⟩
    exact h.world s _ hs hquiet.1 hquiet.2

theorem record (h : Lasting p) (filePath now : Value) :
    (Connection.recordLaunch filePath now).Keeps p := by
  have htime : (Connection.launchTime now).Keeps p := by
    cases now with
    | null => exact fun s hs => h.world s _ hs rfl rfl
    | _ => exact Task.keeps_ofOutcome _
  refine (Task.keeps_look _).bind fun c => (Task.keeps_ofOutcome _).bind fun path =>
    htime.bind fun time => (h.writeLaunch _ _ _).attempt.bind fun result => ?_
  rcases result with fault | recorded
  · simp only
    split
    · exact (h.log _).bind fun _ => Task.keeps_pure _
    · exact Task.keeps_throw _
  · exact Task.keeps_pure _

end Lasting

theorem lasting_balanced (first : Nat) : Lasting (Balanced first) where
  establish := Connection.keeps_establish
  close := Connection.keeps_close
  destroy := Connection.keeps_destroy
  search := (outlasting_balanced first).search
  usage := (outlasting_balanced first).usage
  mostUsed := (outlasting_balanced first).mostUsed
  log := (outlasting_balanced first).keeps_log
  world _ _ h htrace hnext := h.of_eq rfl htrace hnext

end Site

namespace Operation

variable {p : Site → Prop}

theorem keeps_ending (raised : Option Fault) : (ending raised).Keeps p := by
  cases raised with
  | none => exact Task.keeps_pure _
  | some fault => exact Task.keeps_throw _

mutual

/-- Such a property outlasts blocks too. -/
theorem keeps_task (h : Site.Lasting p) (operation : Operation) : operation.task.Keeps p := by
  cases operation with
  | establish => exact h.establish
  | close => exact h.close
  | destroy => exact h.destroy
  | within block raised =>
    exact Task.Keeps.within ((keeps_tasks h block).bind fun _ => keeps_ending raised) h.establish
      h.close
  | search query maxResults => exact (h.search _ _).bind fun _ => Task.keeps_pure _
  | usage filePath => exact (h.usage _).bind fun _ => Task.keeps_pure _
  | mostUsed limit => exact (h.mostUsed _).bind fun _ => Task.keeps_pure _
  | record filePath now => exact (h.record _ _).bind fun _ => Task.keeps_pure _
  | elsewhere disk lock clock => exact fun s hs => h.world s _ hs rfl rfl

theorem keeps_tasks (h : Site.Lasting p) (operations : List Operation) :
    (tasks operations).Keeps p := by
  cases operations with
  | nil => exact Task.keeps_pure _
  | cons operation rest => exact (keeps_task h operation).attempt.bind fun _ => keeps_tasks h rest

end

end Operation

/-- A connection is created from what is given, and everything else is at its default. -/
theorem Connection.eq_of_create {path timeout : Value} {policy : Policy}
    {script : Option (List Attempt)} {c : Connection}
    (h : create path policy timeout script = .ok c) :
    Text.isBlank path.display = false ∧
      ∃ seconds, c = { path := path.display, policy, busyTimeout := seconds, script } := by
  unfold create at h
  split at h
  · exact absurd h nofun
  · split at h
    · exact absurd h nofun
    · next hblank =>
      cases hseconds : timeout.toReal with
      | error fault => simp [hseconds, bind, Except.bind] at h
      | ok seconds =>
        rw [hseconds] at h
        exact ⟨Bool.eq_false_iff.mpr hblank, seconds, (Except.ok.inj h).symm⟩

theorem Connection.create_fresh {path timeout : Value} {policy : Policy}
    {script : Option (List Attempt)} {c : Connection}
    (h : create path policy timeout script = .ok c) :
    c.handle = none ∧ c.connected = false ∧ c.destroyed = false ∧ c.lock = {} := by
  obtain ⟨-, seconds, rfl⟩ := eq_of_create h
  exact ⟨rfl, rfl, rfl, rfl⟩

/-- A site that a created connection comes to by some operations. -/
def Site.Reachable (s : Site) : Prop :=
  ∃ path policy timeout script c w operations,
    Connection.create path policy timeout script = .ok c ∧ w.trace = [] ∧
      s = (Task.exec (Operation.tasks operations) ⟨c, w⟩).2

namespace Site.Reachable

variable {s : Site}

theorem balanced (h : s.Reachable) : ∃ first, s.Balanced first := by
  obtain ⟨path, policy, timeout, script, c, w, operations, hc, hw, rfl⟩ := h
  obtain ⟨hhandle, hconnected, -⟩ := Connection.create_fresh hc
  refine ⟨w.nextHandle, Operation.keeps_tasks (lasting_balanced _) operations _
    ⟨?_, ?_, fun _ => hhandle⟩⟩
  · rw [hw, hhandle]
    rfl
  · rw [hconnected, hhandle]
    rfl

/-- A handle that was opened is the current one, or was closed once. -/
theorem closed_once (h : s.Reachable) {n : Nat} (hn : .opened n ∈ s.world.trace) :
    openings n s.world.trace = 1 ∧
      (s.connection.handle.map (·.number) = some n ∧ closings n s.world.trace = 0 ∨
        s.connection.handle.map (·.number) ≠ some n ∧ closings n s.world.trace = 1) := by
  obtain ⟨first, hb⟩ := h.balanced
  have hpositive : 0 < openings n s.world.trace :=
    List.countP_pos_iff.mpr ⟨_, hn, by simp [Happening.opens]⟩
  obtain ⟨-, ⟨ho, -⟩ | ⟨ho, hc, hh⟩ | ⟨ho, hc, hh⟩⟩ := Ledger.knows_of_run hb.accounts n
  · exact absurd ho hpositive.ne'
  · exact ⟨ho, .inl ⟨hh, hc⟩⟩
  · exact ⟨ho, .inr ⟨hh, hc⟩⟩

end Site.Reachable

/-- Whether the first read from a node fails, and how. A directory is never read. -/
def World.Unread (w : World) : Node → StoreError → Prop
  | .directory, e => e = StoreError.unreadable
  | .file number, e => w.readDatabase number = .error e

/-- A handle whose first read fails is closed before the error is passed on. -/
theorem Site.connectFile_of_unread {path : Text} {w : World} {uri : Text} {node : Node}
    {e : StoreError} (huri : Uri.ofPath w.environment "ro" path = .ok uri)
    (hnode : w.databaseNode? path = some node) (hread : w.Unread node e) :
    ∃ target, connectFile path w =
      (.error (.store e), (w.openHandle target).2.happen (.closed w.nextHandle)) := by
  cases node with
  | directory =>
    obtain rfl : e = StoreError.unreadable := hread
    exact ⟨.directory, by simp only [connectFile, huri, hnode]; rfl⟩
  | file number =>
    have hread' : (w.openHandle (.file number)).2.readDatabase number = .error e := hread
    exact ⟨.file number, by simp only [connectFile, huri, hnode, hread']; rfl⟩

/-- Every handle is accounted for wherever the life of a connection leads. -/
theorem handles_accounted {s : Site} (h : s.Reachable) :
    (∀ n, .opened n ∈ s.world.trace → openings n s.world.trace = 1 ∧
      (s.connection.handle.map (·.number) = some n ∧ closings n s.world.trace = 0 ∨
        s.connection.handle.map (·.number) ≠ some n ∧ closings n s.world.trace = 1)) ∧
    (∀ past, past <+: s.world.trace → ∀ m n, Unclosed m past → Unclosed n past → m = n) ∧
    (∀ past scripted path, past ++ [.attempted scripted path] <+: s.world.trace →
      ∀ n, ¬Unclosed n past) ∧
    (∀ past n, past ++ [.used n] <+: s.world.trace → Unclosed n past) ∧
    (∃ closed, Task.exec Connection.close s = (.ok (), closed) ∧
      closed.connection.handle = none ∧ closed.connection.isConnected = false) ∧
    (∃ closed, Task.exec Connection.destroy s = (.ok (), closed) ∧
      closed.connection.handle = none ∧ closed.connection.isConnected = false) ∧
    (∀ block : Task Unit,
      (Task.exec (Connection.within block) s).2.connection.handle = none ∧
      (Task.exec (Connection.within block) s).2.connection.isConnected = false) ∧
    (∀ uri node e, Uri.ofPath s.world.environment "ro" s.connection.path = .ok uri →
      s.world.databaseNode? s.connection.path = some node → s.world.Unread node e →
      ∃ after, s.connect .real = (.error (.store e), after) ∧
        after.world.trace =
          s.world.trace ++ [.opened s.world.nextHandle, .closed s.world.nextHandle]) := by
  obtain ⟨first, hb⟩ := h.balanced
  have hidle : ∀ s : Site, s.connection.handle = none → s.connection.isConnected = false := by
    intro s hs
    rw [Connection.isConnected, hs, Option.isSome_none, Bool.and_false]
  have hreleased : s.released.connection.handle = none := by rw [Site.released_connection]
  refine ⟨fun n hn => h.closed_once hn, fun past hp m n hm hn => ?_,
    fun past scripted path hp n => ?_, fun past n hp => ?_, ?_, ?_, fun block => ?_,
    fun uri node e huri hnode hread => ?_⟩
  · exact Ledger.unclosed_unique hb.accounts hp hm hn
  · exact Ledger.not_unclosed_of_attempted hb.accounts hp
  · exact Ledger.unclosed_of_used hb.accounts hp
  · exact ⟨_, Connection.exec_close s, hreleased, hidle _ hreleased⟩
  · exact ⟨_, Connection.exec_destroy s, hreleased, hidle _ hreleased⟩
  · have hnone := Connection.handle_eq_none_of_within hb block
    exact ⟨hnone, hidle _ hnone⟩
  · obtain ⟨target, hfailed⟩ := Site.connectFile_of_unread huri hnode hread
    refine ⟨_, by rw [Site.connect, Site.onWorld, hfailed], ?_⟩
    simp [World.openHandle, World.happen]

/-- A connection whose only handle could not be closed. -/
def stubborn : Site :=
  (Task.exec (Operation.tasks [.establish, .search (.text "a") .null, .close])
    ⟨{ path := "/index", policy := default, busyTimeout := Binary64.zero false,
       script := some [.standIn { closeFault := some .embeddedNull }] },
     { environment := ⟨[], "/", [], "/"⟩ }⟩).2

theorem stubborn_reachable : stubborn.Reachable :=
  ⟨.text "/index", default, .real (Binary64.zero false), _, _, _, _, rfl, rfl, rfl⟩

theorem handles_accounted_stubborn :
    openings 0 stubborn.world.trace = 1 ∧ closings 0 stubborn.world.trace = 1 := by
  have hopened : .opened 0 ∈ stubborn.world.trace := List.mem_cons_of_mem _ List.mem_cons_self
  obtain ⟨hone, ⟨hheld, -⟩ | ⟨-, hclosed⟩⟩ := (handles_accounted stubborn_reachable).1 0 hopened
  · exact absurd hheld nofun
  · exact ⟨hone, hclosed⟩

end LaunchIndex
