import LaunchIndex.Connection

/-! What a task does when it runs alone. The outcome of a task and the site that it leaves are
computed step by step; a lock that nobody else holds is taken and given back on the way. -/

namespace LaunchIndex

namespace Routine

variable {σ α β : Type}

@[simp] theorem run_pure (a : α) (s : σ) : (pure a : Routine σ α).run s = (a, s) := rfl

@[simp] theorem run_then (r : Routine σ α) (k : α → Routine σ β) (s : σ) :
    (r >>= k).run s = (k (r.run s).1).run (r.run s).2 := run_bind r k s

@[simp] theorem run_update (f : σ → σ) (s : σ) : (update f).run s = ((), f s) := rfl

@[simp] theorem run_look (f : σ → α) (s : σ) : (look f).run s = (f s, s) := rfl

@[simp] theorem run_step (f : σ → α × σ) (s : σ) : (step f).run s = f s := rfl

@[simp] theorem run_waitFor (wait : Wait) (s : σ) : (waitFor wait).run s = ((), s) := rfl

@[simp] theorem run_holdUntil (ready : σ → Bool) (s : σ) : (holdUntil ready).run s = ((), s) := rfl

end Routine

namespace Site

def withLock (lock : Turnstile) (s : Site) : Site := s.mapConnection fun c => { c with lock }

@[simp] theorem withLock_lock (lock : Turnstile) (s : Site) :
    (s.withLock lock).connection.lock = lock := rfl

end Site

namespace Task

variable {α β : Type}

/-- The outcome of a task that runs alone, and the site that it leaves. -/
def exec (task : Task α) (s : Site) : Outcome α × Site := task.run.run s

@[simp] theorem exec_pure (a : α) (s : Site) : exec (pure a) s = (.ok a, s) := rfl

@[simp] theorem exec_throw (fault : Fault) (s : Site) :
    exec (throw fault : Task α) s = (.error fault, s) := rfl

@[simp] theorem exec_mk (r : Routine Site (Outcome α)) (s : Site) :
    exec (ExceptT.mk r) s = r.run s := rfl

@[simp] theorem exec_bind (task : Task α) (next : α → Task β) (s : Site) :
    exec (task >>= next) s =
      match exec task s with
      | (.ok a, s) => exec (next a) s
      | (.error fault, s) => (.error fault, s) := by
  change (Routine.bind task.run _).run s = _
  rw [Routine.run_bind, exec]
  rcases task.run.run s with ⟨_ | _, s'⟩ <;> rfl

@[simp] theorem exec_lift (r : Routine Site α) (s : Site) :
    exec (Connection.liftRoutine r) s = (.ok (r.run s).1, (r.run s).2) := by
  change (Routine.bind r _).run s = _
  rw [Routine.run_bind]
  rfl

/-- The lock is taken before a locked task and left after it, however the task ends. -/
theorem exec_locked (task : Task α) (s : Site) :
    exec (Connection.locked task) s =
      let ended := exec task (s.withLock s.connection.lock.take.2)
      (ended.1, ended.2.withLock ended.2.connection.lock.leave) := by
  simp only [exec, Connection.locked, Connection.enter, Connection.leave]
  change Routine.run (_ >>= _) s = _
  simp only [Routine.run_then, Routine.run_step, Routine.run_holdUntil, Routine.run_update,
    Routine.run_pure]
  rfl

/-! ### What tasks keep -/

/-- A property of the site that holds after a task if it holds before. -/
def Keeps (p : Site → Prop) (task : Task α) : Prop := ∀ s, p s → p (exec task s).2

variable {p : Site → Prop}

theorem keeps_ofOutcome (outcome : Outcome α) : Keeps p (ExceptT.mk (pure outcome)) := fun _ h => h

theorem keeps_throw (fault : Fault) : Keeps p (throw fault : Task α) := fun _ h => h

theorem keeps_pure (a : α) : Keeps p (pure a) := fun _ h => h

theorem keeps_look (f : Site → α) : Keeps p (Connection.liftRoutine (Routine.look f)) :=
  fun _ h => h

theorem keeps_lookOutcome (f : Site → Outcome α) : Keeps p (ExceptT.mk (Routine.look f)) :=
  fun _ h => h

theorem keeps_waitFor (wait : Wait) : Keeps p (Connection.liftRoutine (Routine.waitFor wait)) :=
  fun _ h => h

theorem Keeps.bind {task : Task α} {next : α → Task β} (h : task.Keeps p)
    (hnext : ∀ a, (next a).Keeps p) : (task >>= next).Keeps p := by
  intro s hs
  rw [exec_bind]
  have hfirst := h s hs
  rcases hexec : exec task s with ⟨fault | a, s'⟩ <;> rw [hexec] at hfirst
  · exact hfirst
  · exact hnext a s' hfirst

/-- A task whose failure is looked at. -/
theorem Keeps.attempt {task : Task α} (h : task.Keeps p) :
    Keeps p (Connection.liftRoutine task.run) := by
  intro s hs
  rw [exec_lift]
  exact h s hs

theorem Keeps.within {block : Task α} (h : block.Keeps p) (hopen : Connection.establish.Keeps p)
    (hclose : Connection.close.Keeps p) : (Connection.within block).Keeps p :=
  hopen.bind fun _ => h.attempt.bind fun _ => hclose.bind fun _ => keeps_ofOutcome _

end Task

end LaunchIndex
