import LaunchIndex.Proofs.Unlocked

/-! What stand-ins have been asked. Opening and closing do not go by it. A query does if a stand-in
does, but it asks the same whatever it is answered; where the answer is the same too, the query
comes to the same after one past as after another. -/

namespace LaunchIndex

open Store

namespace Site

/-- The site where stand-ins have been asked something else before. -/
def asking (past : Past) (s : Site) : Site := s.mapWorld fun w => { w with asked := past }

/-- The stand-in that the connection has for a handle. -/
def standIn? (s : Site) : Option StandIn :=
  match s.connection.handle with
  | some ⟨_, .standIn t⟩ => some t
  | _ => none

/-- What a stand-in would answer, if the connection has one for a handle. -/
def reply (s : Site) (inquiry : Inquiry) : Option (Outcome (List Row)) :=
  s.standIn?.map fun t => t.rows s.world.asked inquiry

theorem connectFile_asking (path : Text) (past : Past) (w : World) :
    connectFile path { w with asked := past } =
      ((connectFile path w).1, { (connectFile path w).2 with asked := past }) := by
  have hnode : ({ w with asked := past } : World).databaseNode? path = w.databaseNode? path := rfl
  have hread : ∀ number,
      (World.openHandle (.file number) { w with asked := past }).2.readDatabase number =
        (w.openHandle (.file number)).2.readDatabase number := fun _ => rfl
  unfold connectFile
  rw [hnode]
  rcases Uri.ofPath w.environment "ro" path with fault | uri
  · rfl
  · rcases w.databaseNode? path with _ | _ | number
    · rfl
    · rfl
    · simp only [hread]
      rcases (w.openHandle (.file number)).2.readDatabase number with e | db <;> rfl

end Site

/-! ### Operations that ask nothing -/

namespace Routine

variable {α β : Type}

/-- A routine that does not go by what stand-ins have been asked, and asks nothing. -/
def Heedless (r : Routine Site α) : Prop :=
  ∀ past s, r.run (s.asking past) = ((r.run s).1, (r.run s).2.asking past)

namespace Heedless

theorem bind {r : Routine Site α} {k : α → Routine Site β} (h : r.Heedless)
    (hk : ∀ a, (k a).Heedless) : (r.bind k).Heedless := by
  intro past s
  rw [run_bind, run_bind, h, hk]

theorem finish (result : α) : (Routine.finish result : Routine Site α).Heedless := fun _ _ => rfl

theorem waitFor (wait : Wait) : (Routine.waitFor wait : Routine Site Unit).Heedless :=
  fun _ _ => rfl

theorem step {f : Site → α × Site}
    (h : ∀ past s, f (s.asking past) = ((f s).1, (f s).2.asking past)) :
    (Routine.step f).Heedless := h

theorem log (e : Event) : (Connection.log e).Heedless := fun _ _ => rfl

theorem release : Connection.release.Heedless := by
  refine (step fun _ _ => rfl).bind fun handle => ?_
  cases handle with
  | none => exact finish ()
  | some handle =>
    refine (waitFor _).bind fun _ past s => ?_
    simp only [run_update, Site.closeHandle]
    split <;> rfl

theorem connect (attempt : Attempt) : (Routine.step (Site.connect attempt)).Heedless := by
  refine step fun past s => ?_
  cases attempt with
  | real =>
    have h := Site.connectFile_asking s.connection.path past s.world
    exact congrArg (fun met => (met.1, { s with world := met.2 })) h
  | _ => rfl

end Heedless

end Routine

namespace Task

variable {α β : Type}

def Heedless (task : Task α) : Prop := Routine.Heedless task.run

theorem heedless_ofOutcome (outcome : Outcome α) : Heedless (ExceptT.mk (pure outcome)) :=
  .finish outcome

theorem heedless_throw (fault : Fault) : Heedless (throw fault : Task α) := .finish _

theorem heedless_pure (a : α) : Heedless (pure a : Task α) := .finish _

theorem Heedless.bind {task : Task α} {next : α → Task β} (h : task.Heedless)
    (hnext : ∀ a, (next a).Heedless) : (task >>= next).Heedless :=
  Routine.Heedless.bind h fun
    | .ok a => hnext a
    | .error fault => heedless_throw fault

theorem heedless_lift {r : Routine Site α} (h : r.Heedless) :
    Heedless (Connection.liftRoutine r) :=
  Routine.Heedless.bind h fun a => heedless_pure a

theorem Heedless.attempt {task : Task α} (h : task.Heedless) :
    Heedless (Connection.liftRoutine task.run) :=
  Routine.Heedless.bind h fun outcome => heedless_ofOutcome (.ok outcome)

theorem Heedless.locked {task : Task α} (h : task.Heedless) :
    (Connection.locked task).Heedless := by
  have hentered : Connection.enter.Heedless := fun _ _ => rfl
  have hleft : Connection.leave.Heedless := fun _ _ => rfl
  exact hentered.bind fun _ => Routine.Heedless.bind h fun outcome => hleft.bind fun _ =>
    .finish outcome

end Task

namespace Connection

theorem heedless_attempts (path : Text) (p : Policy) (last : Option StoreError) (n left : Nat) :
    (attempts path p last n left).Heedless := by
  induction left generalizing last n with
  | zero => exact (Task.heedless_lift (.log _)).bind fun _ => Task.heedless_throw _
  | succ left ih =>
    refine (Task.heedless_lift .release).bind fun _ => ?_
    refine (Task.heedless_lift (.step fun past s => ?_)).bind fun next => ?_
    · rw [Site.nextAttempt_eq, Site.nextAttempt_eq]
      rfl
    refine (Task.heedless_lift (.waitFor _)).bind fun _ => ?_
    refine (Task.heedless_lift (.connect next)).bind fun result => ?_
    rcases result with fault | handle
    · cases fault with
      | store e =>
        refine (Task.heedless_ofOutcome _).bind fun busy => ?_
        cases busy with
        | false => exact (Task.heedless_lift (.log _)).bind fun _ => Task.heedless_throw _
        | true =>
          have hpause : (pause p n).Heedless := by
            unfold pause
            split
            · exact Task.heedless_throw _
            · exact (Task.heedless_lift fun _ _ => rfl).bind fun _ =>
                Task.heedless_lift (.waitFor _)
          refine (Task.heedless_lift (.log _)).bind fun _ => ?_
          simp only
          split
          · exact hpause.bind fun _ => ih _ _
          · exact ih _ _
      | _ => exact Task.heedless_throw _
    · exact (Task.heedless_lift fun _ _ => rfl).bind fun _ => Task.heedless_lift (.log _)

theorem heedless_establish : establish.Heedless := by
  refine Task.Heedless.locked ((Task.heedless_lift fun _ _ => rfl).bind fun c => ?_)
  split
  · exact Task.heedless_throw _
  · split
    · exact Task.heedless_pure _
    · exact (Task.heedless_ofOutcome _).bind fun rounds => heedless_attempts _ _ _ _ _

theorem heedless_close : close.Heedless := (Task.heedless_lift .release).locked

theorem heedless_destroy : destroy.Heedless :=
  ((Task.heedless_lift .release).bind fun _ => Task.heedless_lift fun _ _ => rfl).locked

end Connection

/-! ### Queries -/

namespace Task

variable {α β : Type} {s : Site} {past : Past}

/-- After another past, the task comes to the same and asks the same. -/
def Echoes (task : Task α) (s : Site) (past : Past) : Prop :=
  ∃ more, exec task (s.asking past) = ((exec task s).1, (exec task s).2.asking (past ++ more)) ∧
    (exec task s).2.world.asked = s.world.asked ++ more

theorem Echoes.result {task : Task α} (h : task.Echoes s past) :
    (exec task (s.asking past)).1 = (exec task s).1 := by
  obtain ⟨more, hexec, -⟩ := h
  rw [hexec]

theorem Heedless.echoes {task : Task α} (h : task.Heedless) (s : Site) (past : Past) :
    task.Echoes s past := by
  have hself : exec task s = ((exec task s).1, (exec task s).2.asking s.world.asked) :=
    h s.world.asked s
  refine ⟨[], ?_, ?_⟩
  · rw [List.append_nil]
    exact h past s
  · rw [hself, List.append_nil]
    rfl

theorem Echoes.bind {task : Task α} {next : α → Task β} (h : task.Echoes s past)
    (hnext : ∀ a more, (exec task s).2.world.asked = s.world.asked ++ more →
      (next a).Echoes (exec task s).2 (past ++ more)) : (task >>= next).Echoes s past := by
  obtain ⟨more, hexec, hasked⟩ := h
  rw [Echoes, exec_bind, exec_bind, hexec]
  rcases he : exec task s with ⟨fault | a, s'⟩
  · rw [he] at hasked
    exact ⟨more, rfl, hasked⟩
  · obtain ⟨further, hexec', hasked'⟩ := hnext a more hasked
    rw [he] at hasked hexec' hasked'
    rw [hasked, List.append_assoc] at hasked'
    rw [List.append_assoc] at hexec'
    exact ⟨more ++ further, hexec', hasked'⟩

/-- What follows a query and asks nothing. -/
theorem Echoes.bind_heedless {task : Task α} {next : α → Task β} (h : task.Echoes s past)
    (hnext : ∀ a, (next a).Heedless) : (task >>= next).Echoes s past :=
  h.bind fun a _ _ => (hnext a).echoes _ _

theorem Echoes.attempt {task : Task α} (h : task.Echoes s past) :
    Echoes (Connection.liftRoutine task.run) s past := by
  obtain ⟨more, hexec, hasked⟩ := h
  refine ⟨more, ?_, ?_⟩
  · rw [exec_lift, exec_lift]
    exact congrArg (fun ended => (Except.ok ended.1, ended.2)) hexec
  · rw [exec_lift]
    exact hasked

theorem echoes_look_bind {k : Connection → Task α} (h : (k s.connection).Echoes s past) :
    Echoes (Connection.liftRoutine (Routine.look Site.connection) >>= k) s past := h

theorem echoes_ofOutcome_bind {outcome : Outcome α} {next : α → Task β}
    (h : ∀ a, outcome = .ok a → (next a).Echoes s past) :
    Echoes (ExceptT.mk (pure outcome) >>= next) s past := by
  cases outcome with
  | error fault => exact (heedless_throw fault).echoes s past
  | ok a => exact h a rfl

theorem Echoes.locked {task : Task α}
    (h : task.Echoes (s.withLock s.connection.lock.take.2) past) :
    (Connection.locked task).Echoes s past := by
  obtain ⟨more, hexec, hasked⟩ := h
  refine ⟨more, ?_, ?_⟩
  · rw [exec_locked, exec_locked]
    exact congrArg (fun ended => (ended.1, ended.2.withLock ended.2.connection.lock.leave)) hexec
  · rw [exec_locked]
    exact hasked

theorem echoes_withHandle {use : Handle → Task α}
    (h : ∀ handle, s.connection.handle = some handle →
      ∀ lock, (use handle).Echoes (s.withLock lock) past) :
    (Connection.withHandle use).Echoes s past := by
  refine Echoes.locked (echoes_look_bind ?_)
  split
  · exact h _ ‹_› _
  · exact (heedless_throw _).echoes _ _

/-- A statement comes to the same where a stand-in answers the same. -/
theorem echoes_onHandle (handle : Handle) (inquiry : Inquiry) {query : Nat → World → Outcome α}
    (hquery : ∀ file (w : World) asked, query file { w with asked } = query file w)
    {standIn : StandIn → Past → Inquiry → Outcome α}
    (halike : ∀ t, handle.target = .standIn t →
      standIn t past inquiry = standIn t s.world.asked inquiry) :
    (Connection.onHandle handle inquiry query standIn).Echoes s past := by
  have hanswer : handle.answer query (fun t past => standIn t past inquiry)
      { s.world with asked := past } =
        handle.answer query (fun t past => standIn t past inquiry) s.world := by
    rcases handle with ⟨number, file | _ | t⟩
    · exact hquery file s.world past
    · rfl
    · exact halike t rfl
  exact ⟨handle.remembered inquiry, Prod.ext hanswer rfl, rfl⟩

end Task

namespace Connection

variable {s : Site} {past : Past}

theorem standIn?_of_handle {handle : Handle} (hh : s.connection.handle = some handle)
    {t : StandIn} (ht : handle.target = .standIn t) : s.standIn? = some t := by
  obtain ⟨number, target⟩ := handle
  rw [Site.standIn?, hh]
  obtain rfl : target = .standIn t := ht
  rfl

theorem echoes_search {query maxResults : Value}
    (h : ∀ p, searchParameters query maxResults = .ok p → ∀ t, s.standIn? = some t →
      t.rows past (.search p) = t.rows s.world.asked (.search p)) :
    (search query maxResults).Echoes s past := by
  refine Task.echoes_look_bind ?_
  split
  · exact (Task.heedless_throw _).echoes _ _
  · split
    · exact (Task.heedless_pure _).echoes _ _
    · refine Task.echoes_ofOutcome_bind fun p hp => Task.Echoes.bind_heedless
        (Task.echoes_withHandle fun handle hh lock => Task.echoes_onHandle handle _
          (fun _ _ _ => rfl) fun t ht => h p hp t (standIn?_of_handle hh ht)).attempt
        fun result => ?_
      rcases result with fault | rows
      · simp only
        split
        · exact (Task.heedless_lift (.log _)).bind fun _ => Task.heedless_pure _
        · exact Task.heedless_throw _
      · exact Task.heedless_ofOutcome _

theorem echoes_usage {filePath : Value}
    (h : ∀ path t, s.standIn? = some t →
      t.usage past (.usage path) = t.usage s.world.asked (.usage path)) :
    (usage filePath).Echoes s past := by
  refine Task.echoes_look_bind (Task.echoes_ofOutcome_bind fun path _ => ?_)
  refine Task.Echoes.bind_heedless (Task.echoes_withHandle fun handle hh lock =>
    Task.echoes_onHandle handle _ (fun _ _ _ => rfl) fun t ht =>
      h path t (standIn?_of_handle hh ht)) fun row => ?_
  cases row <;> exact Task.heedless_ofOutcome _

theorem echoes_mostUsed {limit : Value}
    (h : ∀ n, limit.toInteger = .ok n → ∀ t, s.standIn? = some t →
      t.rows past (.mostUsed (max 1 n)) = t.rows s.world.asked (.mostUsed (max 1 n))) :
    (mostUsed limit).Echoes s past := by
  refine Task.Echoes.bind_heedless (Task.echoes_withHandle fun handle hh lock => ?_) fun rows =>
    Task.heedless_ofOutcome _
  exact Task.echoes_ofOutcome_bind fun n hn => Task.echoes_onHandle handle _ (fun _ _ _ => rfl)
    fun t ht => h n hn t (standIn?_of_handle hh ht)

end Connection

end LaunchIndex
