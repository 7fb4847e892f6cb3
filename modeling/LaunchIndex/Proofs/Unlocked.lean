import LaunchIndex.Proofs.Calls

/-! Between operations nobody holds the lock: whatever takes it gives it back, however it ends. So
the lock of every reachable site is free. -/

namespace LaunchIndex

def Site.Unlocked (s : Site) : Prop := s.connection.lock = {}

namespace Routine

variable {α : Type}

theorem Steady.run_lock {r : Routine Site α} {mayWait : Bool} (h : r.Steady mayWait) (s : Site) :
    (r.run s).2.connection.lock = s.connection.lock := by
  induction h generalizing s with
  | finish result => rfl
  | act hstep hsame hnext ih => exact (ih _ _).trans (hstep.lock s)
  | await hmay hnext ih => exact ih s

theorem Holding.run_lock {r : Routine Site α} (h : r.Holding) (s : Site) :
    (r.run s).2.connection.lock = s.connection.lock.leave := by
  induction h generalizing s with
  | act hstep hsame hnext ih => exact (ih _ _).trans (congrArg _ (hstep.lock s))
  | await hnext ih => exact ih s
  | leave hnext => exact (hnext ()).run_lock _

end Routine

theorem Task.Queueing.unlocked {α : Type} {task : Task α} (h : task.Queueing) :
    task.Keeps Site.Unlocked := by
  obtain ⟨rest, hrest, heq⟩ := h
  intro s hs
  have hleft : ((Routine.queue rest).run s).2.connection.lock = s.connection.lock.take.2.leave :=
    hrest.run_lock _
  rw [Task.exec, heq, Site.Unlocked, hleft, hs, Turnstile.leave_take]

namespace Connection

theorem unlocked_search (query maxResults : Value) :
    (search query maxResults).Keeps Site.Unlocked := by
  refine (Task.keeps_look _).bind fun c => ?_
  split
  · exact Task.keeps_throw _
  · split
    · exact Task.keeps_pure _
    · exact (Task.keeps_ofOutcome _).bind fun p => (queueing_ask query p).unlocked

theorem unlocked_usage (filePath : Value) : (usage filePath).Keeps Site.Unlocked := by
  refine (Task.keeps_look _).bind fun c => (Task.keeps_ofOutcome _).bind fun path => ?_
  refine (Task.queueing_withHandle fun handle =>
    Task.steady_onHandle handle _ (fun _ _ _ => rfl) _).unlocked.bind fun row => ?_
  cases row with
  | none => exact Task.keeps_pure _
  | some row => exact Task.keeps_ofOutcome _

end Connection

namespace Site

theorem lasting_unlocked : Lasting Unlocked where
  establish := Connection.queueing_establish.unlocked
  close := Connection.queueing_close.unlocked
  destroy := Connection.queueing_destroy.unlocked
  search := Connection.unlocked_search
  usage := Connection.unlocked_usage
  mostUsed limit := (Connection.queueing_mostUsed limit).unlocked
  log _ _ h := h
  world _ _ h _ _ := h

theorem Reachable.unlocked {s : Site} (h : s.Reachable) : s.Unlocked := by
  obtain ⟨path, policy, timeout, script, c, w, operations, hc, -, rfl⟩ := h
  obtain ⟨-, -, -, hlock⟩ := Connection.create_fresh hc
  exact Operation.keeps_tasks lasting_unlocked operations ⟨c, w⟩ hlock

end Site

end LaunchIndex
