import LaunchIndex.Query
import LaunchIndex.Proofs.Task

/-! What a query leaves behind. The lock has been taken and given back, the handle of the
connection has been used, and there may be an entry in the log. A property that outlasts these
outlasts every query. -/

namespace LaunchIndex

/-- A property that outlasts all that a query does. -/
structure Site.Outlasting (p : Site → Prop) : Prop where
  lock : ∀ s lock, p s → p (s.withLock lock)
  used : ∀ s (handle : Handle) inquiry, p s → s.connection.handle = some handle →
    p (s.mapWorld (World.use handle inquiry))
  log : ∀ s e, p s → p (s.mapWorld (World.log e))

namespace Site.Outlasting

variable {p : Site → Prop} {α : Type}

theorem keeps_log (h : Outlasting p) (e : Event) :
    Task.Keeps p (Connection.liftRoutine (Connection.log e)) :=
  fun s hs => h.log s e hs

theorem locked (h : Outlasting p) {task : Task α} (htask : task.Keeps p) :
    (Connection.locked task).Keeps p := by
  intro s hs
  rw [Task.exec_locked]
  exact h.lock _ _ (htask _ (h.lock _ _ hs))

theorem withHandle (h : Outlasting p) {use : Handle → Task α}
    (huse : ∀ (handle : Handle) (s : Site), p s → s.connection.handle = some handle →
      p (Task.exec (use handle) s).2) : (Connection.withHandle use).Keeps p := by
  refine h.locked fun s hs => ?_
  rw [Task.exec_bind, Task.exec_lift]
  simp only [Routine.run_look]
  split
  · exact huse _ s hs ‹_›
  · exact hs

theorem onHandle (h : Outlasting p) {s : Site} {handle : Handle} (hs : p s)
    (hh : s.connection.handle = some handle) (inquiry : Inquiry) (query : Nat → World → Outcome α)
    (standIn : StandIn → Past → Inquiry → Outcome α) :
    p (Task.exec (Connection.onHandle handle inquiry query standIn) s).2 := by
  simp only [Connection.onHandle, Task.exec_bind, Task.exec_lift, Routine.run_waitFor,
    Task.exec_mk, Routine.run_step]
  exact h.used s handle inquiry hs hh

theorem search (h : Outlasting p) (query maxResults : Value) :
    (Connection.search query maxResults).Keeps p := by
  refine (Task.keeps_look _).bind fun c => ?_
  split
  · exact Task.keeps_throw _
  · split
    · exact Task.keeps_pure _
    · refine (Task.keeps_ofOutcome _).bind fun parameters => ?_
      refine (h.withHandle fun handle s hs hh => h.onHandle hs hh _ _ _).attempt.bind
        fun result => ?_
      rcases result with fault | rows
      · simp only
        split
        · exact (h.keeps_log _).bind fun _ => Task.keeps_pure _
        · exact Task.keeps_throw _
      · exact Task.keeps_ofOutcome _

theorem usage (h : Outlasting p) (filePath : Value) : (Connection.usage filePath).Keeps p := by
  refine (Task.keeps_look _).bind fun c => (Task.keeps_ofOutcome _).bind fun path => ?_
  refine (h.withHandle fun handle s hs hh => h.onHandle hs hh _ _ _).bind fun row => ?_
  cases row with
  | none => exact Task.keeps_pure _
  | some row => exact Task.keeps_ofOutcome _

theorem mostUsed (h : Outlasting p) (limit : Value) : (Connection.mostUsed limit).Keeps p := by
  refine (h.withHandle fun handle s hs hh => ?_).bind fun rows => Task.keeps_ofOutcome _
  rw [Task.exec_bind, Task.exec_mk, Routine.run_pure]
  rcases limit.toInteger with fault | n
  · exact hs
  · exact h.onHandle hs hh _ _ _

end Site.Outlasting

end LaunchIndex
