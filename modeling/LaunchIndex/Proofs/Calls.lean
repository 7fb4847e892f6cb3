import LaunchIndex.Proofs.Lifecycle
import LaunchIndex.Proofs.TakingTurns

/-! The calls that may be started together on one connection. Each queues for the lock, does what
it does with the lock held, and has nothing to wait for afterwards. A search looks first whether
the connection is open, and does not queue if it is not. -/

namespace LaunchIndex

namespace Routine

variable {α β : Type}

def taking (s : Site) : Nat × Site :=
  (s.connection.lock.take.1, s.withLock s.connection.lock.take.2)

/-- A routine that takes a ticket, waits for its turn and goes on. -/
def queue (rest : Routine Site α) : Routine Site α :=
  act taking fun ticket => hold (fun s => s.connection.lock.admits ticket) rest

/-- A routine that queues before anything else. -/
def Queueing (r : Routine Site α) : Prop := ∃ rest : Routine Site α, rest.Holding ∧ r = queue rest

theorem Queueing.bind {r : Routine Site α} {k : α → Routine Site β} (h : r.Queueing)
    (hk : ∀ a, (k a).Steady false) : (r.bind k).Queueing := by
  obtain ⟨rest, hrest, rfl⟩ := h
  exact ⟨rest.bind k, hrest.bind hk, rfl⟩

/-- Queueing alone leads to the turn. -/
theorem Holding.alike_queue {rest : Routine Site α} (h : rest.Holding)
    (counts : Happening → Bool) (s : Site) :
    Alike counts ((queue rest).run s) (rest.run s) :=
  h.blind.alike (Site.similar_withLock counts _ s)

theorem Queueing.blind {r : Routine Site α} (h : r.Queueing) : r.Blind := by
  obtain ⟨rest, hrest, rfl⟩ := h
  exact hrest.blind.of_alike hrest.alike_queue

end Routine

namespace Task

variable {α β : Type}

def Queueing (task : Task α) : Prop := Routine.Queueing task.run

theorem Queueing.bind {task : Task α} {next : α → Task β} (h : task.Queueing)
    (hnext : ∀ a, (next a).Steady false) : (task >>= next).Queueing :=
  Routine.Queueing.bind h fun
    | .ok a => hnext a
    | .error fault => steady_throw fault

theorem Queueing.attempt {task : Task α} (h : task.Queueing) :
    Queueing (Connection.liftRoutine task.run) :=
  Routine.Queueing.bind h fun result => steady_pure result

theorem queueing_locked {task : Task α} (h : task.Steady true) :
    (Connection.locked task).Queueing :=
  ⟨_, Routine.Steady.bind_holding h fun result => .leave fun _ => .finish result, rfl⟩

theorem queueing_withHandle {use : Handle → Task α} (h : ∀ handle, (use handle).Steady true) :
    (Connection.withHandle use).Queueing := by
  refine queueing_locked (steady_look_bind (fun _ => rfl) fun c => ?_)
  split
  · exact h _
  · exact steady_throw _

/-- A statement is steady if it does not look at the trace. -/
theorem steady_onHandle (handle : Handle) (inquiry : Inquiry) {query : Nat → World → Outcome α}
    (hquery : ∀ file (w : World) trace, query file { w with trace } = query file w)
    (standIn : StandIn → Past → Inquiry → Outcome α) :
    (Connection.onHandle handle inquiry query standIn).Steady true := by
  refine (steady_lift (.waitFor _)).bind fun _ => ?_
  rcases handle with ⟨number, file | _ | t⟩
  · exact Routine.Steady.step ⟨⟨fun _ => rfl, fun _ => rfl⟩, fun _ => rfl⟩ fun s =>
      (hquery file s.world _).symm
  · exact Routine.Steady.step ⟨⟨fun _ => rfl, fun _ => rfl⟩, fun _ => rfl⟩ fun _ => rfl
  · exact Routine.Steady.step ⟨⟨fun _ => rfl, fun _ => rfl⟩, fun _ => rfl⟩ fun _ => rfl

end Task

/-! ### The calls -/

/-- A call that may be started together with others; a search is for something. -/
inductive Call where
  | establish
  | close
  | destroy
  | search (query : Value) (nonempty : query.isEmpty = false) (maxResults : Int)
  | mostUsed (limit : Value)

inductive Answer where
  | nothing
  | records (found : List Record)

namespace Connection

/-- A search behind its gate. -/
def ask (query : Value) (p : Store.SearchParameters) : Task (List Record) := do
  match ← liftRoutine
      (withHandle fun h => onHandle h (.search p) (searchRows p) StandIn.rows).run with
  | .ok rows => ExceptT.mk (pure (rows.mapM Record.ofRow))
  | .error fault =>
    if fault.isStatementFailure then
      liftRoutine (log (Event.searchFailed query fault))
      return []
    else throw fault

theorem queueing_ask (query : Value) (p : Store.SearchParameters) : (ask query p).Queueing := by
  refine Task.Queueing.bind (Task.queueing_withHandle fun handle =>
    Task.steady_onHandle handle _ (fun _ _ _ => rfl) _).attempt fun result => ?_
  rcases result with fault | rows
  · simp only
    split
    · exact (Task.steady_lift (.log _)).bind fun _ => Task.steady_pure _
    · exact Task.steady_throw _
  · exact Task.steady_ofOutcome _

theorem exec_withHandle_closed {α : Type} {s : Site} (use : Handle → Task α)
    (h : s.connection.isConnected = false) :
    Task.exec (withHandle use) s =
      (.error (.notConnected s.connection.path), s.withLock s.connection.lock.take.2.leave) := by
  have h' : (s.withLock s.connection.lock.take.2).connection.isConnected = false := h
  simp only [withHandle, Task.exec_locked, Task.exec_bind, Task.exec_lift, Routine.run_look, h']
  rfl

theorem exec_ask_closed {s : Site} (query : Value) (p : Store.SearchParameters)
    (h : s.connection.isConnected = false) :
    Task.exec (ask query p) s =
      (.error (.notConnected s.connection.path), s.withLock s.connection.lock.take.2.leave) := by
  have hrows :=
    exec_withHandle_closed (fun h => onHandle h (.search p) (searchRows p) StandIn.rows) h
  rw [Task.exec] at hrows
  simp only [ask, Task.exec_bind, Task.exec_lift, hrows]
  rfl

/-- A search for something asks once it is through its gate. -/
theorem search_eq (query : Value) (nonempty : query.isEmpty = false) (maxResults : Int) :
    ∃ p, search query (.int maxResults) = liftRoutine (Routine.look Site.connection) >>= fun c =>
      if c.isConnected then ask query p else throw (.notConnected c.path) := by
  obtain ⟨p, hp⟩ : ∃ p, searchParameters query (.int maxResults) = .ok p := ⟨_, rfl⟩
  refine ⟨p, congrArg (liftRoutine (Routine.look Site.connection) >>= ·) ?_⟩
  funext c
  rcases hc : c.isConnected with _ | _
  · rfl
  · rw [nonempty, hp]
    rfl

theorem queueing_mostUsed (limit : Value) : (mostUsed limit).Queueing := by
  refine (Task.queueing_withHandle fun handle => ?_).bind fun rows => Task.steady_ofOutcome _
  exact (Task.steady_ofOutcome _).bind fun n => Task.steady_onHandle handle _ (fun _ _ _ => rfl) _

theorem queueing_establish : establish.Queueing := Task.queueing_locked steady_establishUnlocked

theorem queueing_close : close.Queueing := Task.queueing_locked (Task.steady_lift .release)

theorem queueing_destroy : destroy.Queueing :=
  Task.queueing_locked <| (Task.steady_lift .release).bind fun _ =>
    Task.steady_lift (.update Site.oblivious_destroy)

end Connection

namespace Call

def recorded (found : List Record) : Task Answer := return .records found

def task : Call → Task Answer
  | establish => do
    Connection.establish
    return .nothing
  | close => do
    Connection.close
    return .nothing
  | destroy => do
    Connection.destroy
    return .nothing
  | search query _ maxResults => Connection.search query (.int maxResults) >>= recorded
  | mostUsed limit => Connection.mostUsed limit >>= recorded

def isSearch : Call → Bool
  | search _ _ _ => true
  | _ => false

/-- Whether a call started on a site ends at once. -/
def skips (c : Call) (s : Site) : Bool := c.isSearch && !s.connection.isConnected

/-- How a call starts, and what it comes to when it has the lock. -/
structure Shape (c : Call) (rest : Routine Site (Outcome Answer)) : Prop where
  holding : rest.Holding
  starts : ∀ suspends passed s, Routine.advance suspends passed c.task.run s =
    if c.skips s then .finished (.error (.notConnected s.connection.path)) s
    else Routine.advance suspends passed (Routine.queue rest) s
  run : ∀ counts s, Routine.Alike counts (c.task.run.run s) (rest.run s)

theorem exists_shape_of_queueing {c : Call} (h : c.task.Queueing) (hc : c.isSearch = false) :
    ∃ rest, c.Shape rest := by
  obtain ⟨rest, hrest, heq⟩ := h
  refine ⟨rest, hrest, fun suspends passed s => ?_, fun counts s => ?_⟩
  · rw [skips, hc, Bool.false_and, if_neg Bool.false_ne_true, heq]
  · rw [heq]
    exact hrest.alike_queue counts s

theorem exists_shape (c : Call) : ∃ rest, c.Shape rest := by
  cases c with
  | establish =>
    exact exists_shape_of_queueing (Connection.queueing_establish.bind fun _ => Task.steady_pure _)
      rfl
  | close =>
    exact exists_shape_of_queueing (Connection.queueing_close.bind fun _ => Task.steady_pure _) rfl
  | destroy =>
    exact exists_shape_of_queueing (Connection.queueing_destroy.bind fun _ => Task.steady_pure _)
      rfl
  | mostUsed limit =>
    exact exists_shape_of_queueing
      ((Connection.queueing_mostUsed limit).bind fun _ => Task.steady_pure _) rfl
  | search query nonempty maxResults =>
    obtain ⟨p, hp⟩ := Connection.search_eq query nonempty maxResults
    obtain ⟨rest, hrest, heq⟩ : (Connection.ask query p >>= recorded).Queueing :=
      (Connection.queueing_ask query p).bind fun _ => Task.steady_pure _
    have hgate : ∀ suspends passed s,
        Routine.advance suspends passed (search query nonempty maxResults).task.run s =
          Routine.advance suspends passed ((if s.connection.isConnected then Connection.ask query p
            else throw (.notConnected s.connection.path)) >>= recorded).run s := by
      intro suspends passed s
      rw [task, hp]
      rfl
    have hstarts : ∀ suspends passed s,
        Routine.advance suspends passed (search query nonempty maxResults).task.run s =
          if (search query nonempty maxResults).skips s then
            .finished (.error (.notConnected s.connection.path)) s
          else Routine.advance suspends passed (Routine.queue rest) s := by
      intro suspends passed s
      rw [hgate, skips, isSearch, Bool.true_and]
      rcases s.connection.isConnected with _ | _
      · rfl
      · exact congrArg (Routine.advance suspends passed · s) heq
    refine ⟨rest, hrest, hstarts, fun counts s => ?_⟩
    have hrun :=
      Routine.run_advance (fun _ _ => false) 0 (search query nonempty maxResults).task.run s
    rw [← hrun, hstarts, skips, isSearch, Bool.true_and]
    rcases hc : s.connection.isConnected with _ | _
    · have hclosed : (Routine.queue rest).run s =
          (.error (.notConnected s.connection.path),
            s.withLock s.connection.lock.take.2.leave) := by
        rw [← heq]
        change Task.exec _ s = _
        rw [Task.exec_bind, Connection.exec_ask_closed query p hc]
      have halike := hrest.alike_queue counts s
      rw [hclosed] at halike
      exact ⟨halike.result, (Site.similar_withLock counts _ s).symm.trans halike.site⟩
    · rw [Bool.not_true, if_neg Bool.false_ne_true, Routine.run_advance]
      exact hrest.alike_queue counts s

/-- A call that runs alone does what it does whatever the lock and the trace are. -/
theorem blind (c : Call) : c.task.run.Blind := by
  obtain ⟨rest, h⟩ := c.exists_shape
  exact h.holding.blind.of_alike h.run

end Call

end LaunchIndex
