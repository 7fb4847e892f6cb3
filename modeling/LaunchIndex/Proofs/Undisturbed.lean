import LaunchIndex.Proofs.InTurn
import LaunchIndex.Proofs.Launching
import LaunchIndex.Proofs.Provision

/-! What queries and launches leave of a connection: all of it, with the lock free again. Nothing is
attempted, opened, closed or waited for on the way, so whatever is done later with the connection
comes to the same as without them, apart from the rows that a recorded launch has written, and from
what a stand-in makes of having been asked. -/

namespace LaunchIndex

open Store

/-! ### Blind tasks -/

namespace Task

variable {α β : Type}

def Blind (task : Task α) : Prop := Routine.Blind task.run

theorem Steady.blind {task : Task α} (h : task.Steady true) : task.Blind :=
  Routine.Steady.blind h

theorem Queueing.blind {task : Task α} (h : task.Queueing) : task.Blind := Routine.Queueing.blind h

theorem blind_ofOutcome (outcome : Outcome α) : Blind (ExceptT.mk (pure outcome)) :=
  Steady.blind (steady_ofOutcome outcome)

theorem Blind.bind {task : Task α} {next : α → Task β} (h : task.Blind)
    (hnext : ∀ a, (next a).Blind) : (task >>= next).Blind :=
  Routine.Blind.bind h fun
    | .ok a => hnext a
    | .error fault => blind_ofOutcome (.error fault)

theorem Blind.attempt {task : Task α} (h : task.Blind) :
    Blind (Connection.liftRoutine task.run) :=
  Routine.Blind.bind h fun outcome => blind_ofOutcome (.ok outcome)

theorem blind_look_bind {k : Connection → Task α}
    (hsame : ∀ c : Connection, k c = k { c with lock := {} }) (hk : ∀ c, (k c).Blind) :
    Blind (Connection.liftRoutine (Routine.look Site.connection) >>= k) :=
  Routine.Blind.act (Site.oblivious_look _).toBlind
    (fun s => congrArg ExceptT.run (hsame s.connection)) hk

end Task

/-- A change goes by the file only, and not by what else is in the world. -/
theorem Statement.change_comm {π : Type} (st : Statement π)
    (run : Database → π → Except StoreError (Nat × Tables)) {file : Nat} {f : World → World}
    {w : World} (hread : (f w).readDatabase file = w.readDatabase file)
    (hchange : (f w).mayChange file = w.mayChange file)
    (hcommit : (f w).mayCommit file = w.mayCommit file) (hdisk : (f w).disk = w.disk)
    (hset : ∀ disk, f { w with disk } = { f w with disk }) :
    st.change run file (f w) = ((st.change run file w).1, f (st.change run file w).2) := by
  unfold change
  rw [hread, hchange, hcommit, hdisk]
  dsimp only
  split
  · rfl
  · exact congrArg _ (hset _).symm

namespace Connection

theorem blind_search (query maxResults : Value) : (search query maxResults).Blind := by
  refine Task.blind_look_bind (fun _ => rfl) fun c => ?_
  split
  · exact Task.blind_ofOutcome _
  · split
    · exact Task.blind_ofOutcome _
    · exact (Task.blind_ofOutcome _).bind fun p => (queueing_ask query p).blind

theorem blind_usage (filePath : Value) : (usage filePath).Blind := by
  refine Task.blind_look_bind (fun _ => rfl) fun c => (Task.blind_ofOutcome _).bind fun path => ?_
  refine Task.Blind.bind (Task.queueing_withHandle fun handle =>
    Task.steady_onHandle handle _ (fun _ _ _ => rfl) _).blind fun row => ?_
  cases row <;> exact Task.blind_ofOutcome _

theorem countLaunch_after (id time : Int) (file : Nat) (past : List Happening) (w : World) :
    countLaunch id time file (w.after past) =
      ((countLaunch id time file w).1, (countLaunch id time file w).2.after past) := by
  unfold countLaunch
  exact Statement.change_comm _ _ rfl rfl rfl rfl fun _ => rfl

theorem countLaunch_asking (id time : Int) (file : Nat) (asked : Past) (w : World) :
    countLaunch id time file { w with asked } =
      ((countLaunch id time file w).1, { (countLaunch id time file w).2 with asked }) := by
  unfold countLaunch
  exact Statement.change_comm (f := fun w => { w with asked }) _ _ rfl rfl rfl rfl fun _ => rfl

theorem steady_writeLaunch (database path : Text) (time : Int) :
    (writeLaunch database path time).Steady true := by
  refine (Task.steady_lift (.waitFor _)).bind fun _ => ?_
  refine Task.Steady.bind (Routine.Steady.step (Site.oblivious_look _) fun _ => rfl) fun file => ?_
  refine (Task.steady_lift (.waitFor _)).bind fun _ => ?_
  refine Task.Steady.bind (Routine.Steady.step (Site.oblivious_look _) fun _ => rfl) fun id => ?_
  cases id with
  | none => exact (Task.steady_lift (.log _)).bind fun _ => Task.steady_pure _
  | some id =>
    refine (Task.steady_lift (.waitFor _)).bind fun _ => Task.Steady.bind ?_ fun _ =>
      Task.steady_pure _
    exact Routine.Steady.step (Site.oblivious_onWorld (countLaunch_after id time file))
      (Site.onWorld_bare_fst (countLaunch_after id time file))

theorem blind_recordLaunch (filePath now : Value) : (recordLaunch filePath now).Blind := by
  refine Task.blind_look_bind (fun _ => rfl) fun c => (Task.blind_ofOutcome _).bind fun path => ?_
  have htime : (launchTime now).Steady true := by
    cases now with
    | null =>
      exact Routine.Steady.step (Site.oblivious_onWorld fun _ _ => rfl)
        (Site.onWorld_bare_fst fun _ _ => rfl)
    | _ => exact Task.steady_ofOutcome _
  refine Task.Blind.bind htime.blind fun time => ?_
  refine (steady_writeLaunch _ _ _).blind.attempt.bind fun outcome => ?_
  rcases outcome with fault | recorded
  · dsimp only
    split
    · exact Task.Steady.blind ((Task.steady_lift (.log _)).bind fun _ => Task.steady_pure _)
    · exact Task.blind_ofOutcome _
  · exact Task.blind_ofOutcome _

theorem heedless_recordLaunch (filePath now : Value) : (recordLaunch filePath now).Heedless := by
  refine (Task.heedless_lift fun _ _ => rfl).bind fun c =>
    (Task.heedless_ofOutcome _).bind fun path => ?_
  have htime : (launchTime now).Heedless := by
    cases now with
    | null => exact Routine.Heedless.step fun _ _ => rfl
    | _ => exact Task.heedless_ofOutcome _
  have hwrite (database : Text) (time : Int) : (writeLaunch database path time).Heedless := by
    refine (Task.heedless_lift (.waitFor _)).bind fun _ => ?_
    refine Task.Heedless.bind (Routine.Heedless.step fun _ _ => rfl) fun file => ?_
    refine (Task.heedless_lift (.waitFor _)).bind fun _ => ?_
    refine Task.Heedless.bind (Routine.Heedless.step fun _ _ => rfl) fun id => ?_
    cases id with
    | none => exact (Task.heedless_lift (.log _)).bind fun _ => Task.heedless_pure _
    | some id =>
      refine (Task.heedless_lift (.waitFor _)).bind fun _ => Task.Heedless.bind
        (Routine.Heedless.step fun past s => ?_) fun _ => Task.heedless_pure _
      have h := countLaunch_asking id time file past s.world
      exact congrArg (fun met => (met.1, { s with world := met.2 })) h
  refine htime.bind fun time => (hwrite _ _).attempt.bind fun outcome => ?_
  rcases outcome with fault | recorded
  · dsimp only
    split
    · exact (Task.heedless_lift (.log _)).bind fun _ => Task.heedless_pure _
    · exact Task.heedless_throw _
  · exact Task.heedless_pure _

end Connection

/-! ### Composed tasks -/

/-- Whatever is composed of the operations on a connection, of what other programs do, and of
decisions on the results so far. -/
inductive Task.Composed : {α : Type} → Task α → Prop
  | outcome {α : Type} (outcome : Outcome α) : Composed (ExceptT.mk (pure outcome))
  | bind {α β : Type} {task : Task α} {next : α → Task β} (first : Composed task)
    (rest : ∀ a, Composed (next a)) : Composed (task >>= next)
  | attempt {α : Type} {task : Task α} (first : Composed task) :
    Composed (Connection.liftRoutine task.run)
  | establish : Composed Connection.establish
  | close : Composed Connection.close
  | destroy : Composed Connection.destroy
  | search (query maxResults : Value) : Composed (Connection.search query maxResults)
  | usage (filePath : Value) : Composed (Connection.usage filePath)
  | mostUsed (limit : Value) : Composed (Connection.mostUsed limit)
  | record (filePath now : Value) : Composed (Connection.recordLaunch filePath now)
  | elsewhere (disk : Disk) (lock : Option Lock) (clock : Clock) :
    Composed (Connection.liftRoutine
      (Routine.update (Site.mapWorld fun w => { w with disk, lock, clock })))

namespace Task.Composed

variable {α : Type} {task : Task α}

theorem blind (h : task.Composed) : task.Blind := by
  induction h with
  | outcome outcome => exact Task.blind_ofOutcome outcome
  | bind first rest ih ihrest => exact ih.bind ihrest
  | attempt first ih => exact ih.attempt
  | establish => exact Connection.queueing_establish.blind
  | close => exact Connection.queueing_close.blind
  | destroy => exact Connection.queueing_destroy.blind
  | search query maxResults => exact Connection.blind_search query maxResults
  | usage filePath => exact Connection.blind_usage filePath
  | mostUsed limit => exact (Connection.queueing_mostUsed limit).blind
  | record filePath now => exact Connection.blind_recordLaunch filePath now
  | elsewhere disk lock clock =>
    have hstep : Site.Oblivious fun s =>
        ((), s.mapWorld fun w => { w with disk, lock, clock }) :=
      ⟨⟨fun _ => rfl, fun s => (List.append_nil s.world.trace).symm⟩, fun _ => rfl⟩
    exact Task.Steady.blind (Task.steady_lift (.update hstep))

theorem keeps {p : Site → Prop} (h : task.Composed) (hp : Site.Lasting p) : task.Keeps p := by
  induction h with
  | outcome outcome => exact Task.keeps_ofOutcome outcome
  | bind first rest ih ihrest => exact ih.bind ihrest
  | attempt first ih => exact ih.attempt
  | establish => exact hp.establish
  | close => exact hp.close
  | destroy => exact hp.destroy
  | search query maxResults => exact hp.search query maxResults
  | usage filePath => exact hp.usage filePath
  | mostUsed limit => exact hp.mostUsed limit
  | record filePath now => exact hp.record filePath now
  | elsewhere disk lock clock => exact fun s hs => hp.world s _ hs rfl rfl

end Task.Composed

/-- The stand-in answers as if a part of what it has been asked had not been. -/
def StandIn.Forgets (before gap : Past) (t : StandIn) : Prop :=
  ∀ after inquiry, t.rows (before ++ gap ++ after) inquiry = t.rows (before ++ after) inquiry ∧
    t.usage (before ++ gap ++ after) inquiry = t.usage (before ++ after) inquiry

theorem StandIn.forgets_nil (before : Past) (t : StandIn) : t.Forgets before [] := by
  intro after inquiry
  rw [List.append_nil]
  exact ⟨rfl, rfl⟩

/-- A composed task comes to the same if every stand-in that it can come to ask forgets. -/
theorem Task.Composed.echoes {α : Type} {task : Task α} {before gap : Past} (h : task.Composed)
    {s : Site} (hs : s.Provided (StandIn.Forgets before gap)) {after : Past}
    (hasked : s.world.asked = before ++ after) : task.Echoes s (before ++ gap ++ after) := by
  induction h generalizing s after with
  | outcome outcome => exact (Task.heedless_ofOutcome outcome).echoes _ _
  | bind first rest ih ihrest =>
    refine (ih hs hasked).bind fun a more hmore => ?_
    rw [hasked, List.append_assoc] at hmore
    rw [List.append_assoc]
    exact ihrest a (first.keeps (Site.lasting_provided _) s hs) hmore
  | attempt first ih => exact (ih hs hasked).attempt
  | establish => exact Connection.heedless_establish.echoes _ _
  | close => exact Connection.heedless_close.echoes _ _
  | destroy => exact Connection.heedless_destroy.echoes _ _
  | search query maxResults =>
    exact Connection.echoes_search fun p _ t ht => hasked ▸ (hs.of_standIn? ht after _).1
  | usage filePath =>
    exact Connection.echoes_usage fun path t ht => hasked ▸ (hs.of_standIn? ht after _).2
  | mostUsed limit =>
    exact Connection.echoes_mostUsed fun n _ t ht => hasked ▸ (hs.of_standIn? ht after _).1
  | record filePath now => exact (Connection.heedless_recordLaunch filePath now).echoes _ _
  | elsewhere disk lock clock => exact (Task.heedless_lift fun _ _ => rfl).echoes _ _

namespace Site

def noting (added : List Happening) (s : Site) : Site :=
  s.mapWorld fun w => { w with trace := w.trace ++ added }

/-- What is in the trace makes no difference to a composed task, which adds to it. -/
theorem exec_noting {α : Type} {s : Site} (hs : s.Unlocked) {later : Task α} (h : later.Composed)
    (added : List Happening) :
    ∃ outcome t more, Task.exec later s = (outcome, t) ∧
      t.world.trace = s.world.trace ++ more ∧
      Task.exec later (s.noting added) =
        (outcome,
          { t with world := { t.world with trace := s.world.trace ++ added ++ more } }) := by
  have hresult := (h.blind.result (s.noting added)).trans (h.blind.result s).symm
  have hbare := (h.blind.bare (s.noting added)).trans (h.blind.bare s).symm
  have hlock : ∀ s : Site, s.Unlocked → (Task.exec later s).2.Unlocked := h.keeps lasting_unlocked
  refine ⟨_, _, _, rfl, h.blind.trace s, Prod.ext hresult (ext_of_bare ?_ ?_ ?_)⟩
  · exact hbare
  · exact h.blind.trace (s.noting added)
  · exact (hlock (s.noting added) hs).trans (hlock s hs).symm

/-- Nor does what stand-ins have been asked, if the task asks none or if they forget it. -/
theorem exec_asking_noting {α : Type} {s : Site} (hs : s.Unlocked) {later : Task α}
    (h : later.Composed) (added : List Happening) {remembered : Past}
    (hforget : remembered = [] ∨ later.Heedless ∨
      s.Provided (StandIn.Forgets s.world.asked remembered)) :
    ∃ outcome t more asked, Task.exec later s = (outcome, t) ∧
      t.world.trace = s.world.trace ++ more ∧ t.world.asked = s.world.asked ++ asked ∧
      Task.exec later ((s.asking (s.world.asked ++ remembered)).noting added) =
        (outcome,
          { t with
            world :=
              { t.world with
                asked := s.world.asked ++ remembered ++ asked
                trace := s.world.trace ++ added ++ more } }) := by
  have hechoes : later.Echoes s (s.world.asked ++ remembered) := by
    have hcomposed (hprovided : s.Provided (StandIn.Forgets s.world.asked remembered)) :=
      h.echoes hprovided (List.append_nil s.world.asked).symm
    rw [List.append_nil] at hcomposed
    rcases hforget with rfl | hheedless | hprovided
    · exact hcomposed fun t _ => t.forgets_nil _
    · exact hheedless.echoes _ _
    · exact hcomposed hprovided
  obtain ⟨asked, hexec, hasked⟩ := hechoes
  have hfree : (s.asking (s.world.asked ++ remembered)).Unlocked := hs
  obtain ⟨outcome, t, more, ht, htrace, hnoting⟩ := exec_noting hfree h added
  obtain ⟨rfl, rfl⟩ := Prod.mk.inj (hexec.symm.trans ht)
  exact ⟨_, _, more, asked, rfl, htrace, hasked, hnoting⟩

end Site

/-! ### The calls -/

namespace Site

def turned (disk : Disk) (clock : Clock) (s : Site) : Site :=
  s.mapWorld fun w => { w with disk, clock }

theorem noting_turned (disk : Disk) (clock : Clock) (s : Site) :
    (s.turned disk clock).noting [] = { s with world := { s.world with disk, clock } } := by
  simp [turned, noting, mapWorld]

/-- The disk after a launch of the file at a path has been counted, in the file that the path of the
connection leads to. -/
def Counted (s : Site) (filePath : Value) (disk : Disk) : Prop :=
  ∃ file db f tables time, Writer.target (.text s.connection.path) s.world = .ok file ∧
    s.world.disk.database file = .ok db ∧ db.tables.fileAt? filePath.display = some f ∧
    db.tables.recordLaunch f.id time = .ok tables ∧
    disk = s.world.disk.setDatabase file { db with tables }

/-- The questions are all to the stand-in that the connection has for a handle. -/
def Questions (s : Site) (remembered : Past) : Prop :=
  ∀ e ∈ remembered, ∃ t, s.connection.handle = some ⟨e.1, .standIn t⟩

/-- The handle is the same, and no stand-in but that for the handle has been asked since. -/
structure Overhears (s t : Site) : Prop where
  handle : t.connection.handle = s.connection.handle
  asked : ∃ remembered, t.world.asked = s.world.asked ++ remembered ∧ s.Questions remembered

theorem Overhears.refl (s : Site) : s.Overhears s :=
  ⟨rfl, [], (List.append_nil _).symm, List.forall_mem_nil _⟩

theorem outlasting_overhears (s : Site) : Outlasting s.Overhears where
  lock _ _ h := ⟨h.handle, h.asked⟩
  used t handle inquiry h hh := by
    obtain ⟨remembered, hasked, hquestions⟩ := h.asked
    refine ⟨h.handle, remembered ++ handle.remembered inquiry, ?_, ?_⟩
    · change t.world.asked ++ handle.remembered inquiry = _
      rw [hasked, List.append_assoc]
    · refine List.forall_mem_append.mpr ⟨hquestions, ?_⟩
      obtain ⟨number, file | _ | standIn⟩ := handle
      · exact List.forall_mem_nil _
      · exact List.forall_mem_nil _
      · exact List.forall_mem_singleton.mpr ⟨standIn, h.handle.symm.trans hh⟩
  log _ _ h := ⟨h.handle, h.asked⟩

/-- What a query leaves of a site with a free lock: all of it, and more in its trace. -/
theorem exec_query {α : Type} {s : Site} (hs : s.Unlocked) {task : Task α} (hblind : task.Blind)
    (hlock : task.Keeps Unlocked) (hkin : task.Keeps fun t => t.Kin s)
    (hoverhears : task.Keeps s.Overhears) :
    ∃ remembered added,
      (Task.exec task s).2 = (s.asking (s.world.asked ++ remembered)).noting added ∧
      (∀ e ∈ added, e.isDeed = false) ∧ s.Questions remembered := by
  obtain ⟨-, remembered, hasked, hquestions⟩ := hoverhears s (.refl s)
  obtain ⟨hbare, htrace⟩ := (hkin s (.refl s)).similar
  rw [hasked] at hbare
  have hadded := hblind.trace s
  refine ⟨remembered, _, ext_of_bare hbare hadded ((hlock s hs).trans hs.symm), ?_, hquestions⟩
  have hfilter : (Task.exec task s).2.world.trace.filter Happening.isDeed =
      s.world.trace.filter Happening.isDeed := htrace
  rw [Task.exec, hadded, List.filter_append, List.append_right_eq_self, List.filter_eq_nil_iff]
    at hfilter
  exact fun e he => Bool.eq_false_iff.mpr (hfilter e he)

end Site

namespace Connection

theorem exec_writeLaunch_world (database path : Text) (time : Int) (s : Site) :
    ∃ disk added, (Task.exec (writeLaunch database path time) s).2 =
        (s.turned disk s.world.clock).noting added ∧
      (∀ e ∈ added, e.isDeed = false) ∧
      (disk = s.world.disk ∨ (Task.exec (writeLaunch database path time) s).1 = .ok true ∧
        ∃ file db f tables, Writer.target (.text database) s.world = .ok file ∧
          s.world.disk.database file = .ok db ∧ db.tables.fileAt? path = some f ∧
          db.tables.recordLaunch f.id time = .ok tables ∧
          disk = s.world.disk.setDatabase file { db with tables }) := by
  have hsame : (s.turned s.world.disk s.world.clock).noting [] = s := s.noting_turned _ _
  rw [exec_writeLaunch]
  rcases htarget : Writer.target (.text database) s.world with fault | file
  · exact ⟨_, [], hsame.symm, List.forall_mem_nil _, .inl rfl⟩
  dsimp only
  rcases hid : fileId path file s.world with fault | _ | id
  · exact ⟨_, [], hsame.symm, List.forall_mem_nil _, .inl rfl⟩
  · exact ⟨s.world.disk, [.logged (Event.notIndexed path)], rfl, by simp [Happening.isDeed],
      .inl rfl⟩
  obtain ⟨db, f, hdb, hf, rfl⟩ := of_fileId_eq_some hid
  dsimp only
  rcases countLaunch_eq f.id time file s.world with
    ⟨fault, hc⟩ | ⟨db', tables, hdb', hrecord, hc⟩ <;>
    rw [hc]
  · exact ⟨_, [], hsame.symm, List.forall_mem_nil _, .inl rfl⟩
  · obtain rfl := Except.ok.inj (hdb.symm.trans hdb')
    exact ⟨_, [], (s.noting_turned _ _).symm, List.forall_mem_nil _,
      .inr ⟨rfl, file, db, f, tables, rfl, hdb, hf, hrecord, rfl⟩⟩

/-- Recording a launch leaves all but the disk and the clock, and the disk too unless it says so. -/
theorem exec_recordLaunch_world (filePath now : Value) (s : Site) :
    ∃ disk clock added, (Task.exec (recordLaunch filePath now) s).2 =
        (s.turned disk clock).noting added ∧
      (∀ e ∈ added, e.isDeed = false) ∧
      (clock = s.world.clock ∨ now = .null ∧ clock = s.world.clock.tick) ∧
      (disk = s.world.disk ∨
        (Task.exec (recordLaunch filePath now) s).1 = .ok true ∧ s.Counted filePath disk) := by
  have hsame (clock : Clock) : (s.turned s.world.disk clock).noting [] =
      { s with world := { s.world with clock } } := s.noting_turned _ clock
  rw [exec_recordLaunch]
  rcases hrequire : s.connection.requirePath filePath with fault | path
  · exact ⟨_, s.world.clock, [], (hsame _).symm, List.forall_mem_nil _, .inl rfl, .inl rfl⟩
  obtain rfl := of_requirePath_eq_ok hrequire
  obtain ⟨clock, hclock, hs₁⟩ := exists_clock_of_exec_launchTime now s
  rcases htime : Task.exec (launchTime now) s with ⟨fault | time, s₁⟩ <;> rw [htime] at hs₁ <;>
    obtain rfl : s₁ = _ := hs₁ <;> dsimp only
  · exact ⟨_, clock, [], (hsame _).symm, List.forall_mem_nil _, hclock, .inl rfl⟩
  obtain ⟨disk, added, hs₂, hadded, hdisk⟩ := exec_writeLaunch_world s.connection.path
    filePath.display time { s with world := { s.world with clock } }
  rcases hwrite : Task.exec (writeLaunch s.connection.path filePath.display time)
    { s with world := { s.world with clock } } with ⟨fault | recorded, s₂⟩ <;>
    rw [hwrite] at hs₂ hdisk <;> obtain rfl : s₂ = _ := hs₂
  · have hdisk := hdisk.resolve_right fun h => by cases h.1
    dsimp only
    split
    · refine ⟨disk, clock, added ++ [.logged (Event.recordFailed filePath.display fault)], ?_, ?_,
        hclock, .inl hdisk⟩
      · simp [Site.noting, Site.turned, Site.mapWorld, World.log, World.happen]
      · intro e he
        rcases List.mem_append.mp he with he | he
        · exact hadded e he
        · rw [List.mem_singleton.mp he]
          rfl
    · exact ⟨disk, clock, added, rfl, hadded, hclock, .inl hdisk⟩
  · refine ⟨disk, clock, added, rfl, hadded, hclock, hdisk.imp id ?_⟩
    rintro ⟨hrecorded, file, db, f, tables, htarget, hdb, hf, hrecord, hdisk⟩
    exact ⟨hrecorded, file, db, f, tables, time, htarget, hdb, hf, hrecord, hdisk⟩

end Connection

namespace Operation

/-- A query, or the recording of a launch. -/
def isEnquiry : Operation → Bool
  | search _ _ | usage _ | mostUsed _ | record _ _ => true
  | _ => false

theorem exec_discard {α : Type} (task : Task α) (s : Site) :
    (Task.exec (task >>= fun _ => return ()) s).2 = (Task.exec task s).2 := by
  rw [Task.exec_bind]
  rcases Task.exec task s with ⟨fault | a, s'⟩ <;> rfl

theorem exec_enquiry {s : Site} (hs : s.Unlocked) {call : Operation}
    (hcall : call.isEnquiry = true) :
    ∃ disk clock remembered added,
      (Task.exec call.task s).2 =
        ((s.turned disk clock).asking (s.world.asked ++ remembered)).noting added ∧
      (∀ e ∈ added, e.isDeed = false) ∧ s.Questions remembered ∧
      (clock = s.world.clock ∨
        (∃ filePath, call = .record filePath .null) ∧ clock = s.world.clock.tick) ∧
      (disk = s.world.disk ∨ ∃ filePath now, call = .record filePath now ∧
        (Task.exec (Connection.recordLaunch filePath now) s).1 = .ok true ∧
        s.Counted filePath disk) := by
  have hquery {α : Type} (task : Task α) (hblind : task.Blind) (hlock : task.Keeps Site.Unlocked)
      (hkin : task.Keeps fun t => t.Kin s) (hoverhears : task.Keeps s.Overhears) :
      ∃ remembered added, (Task.exec (task >>= fun _ => return ()) s).2 =
        ((s.turned s.world.disk s.world.clock).asking
          (s.world.asked ++ remembered)).noting added ∧
        (∀ e ∈ added, e.isDeed = false) ∧ s.Questions remembered := by
    rw [exec_discard]
    exact Site.exec_query hs hblind hlock hkin hoverhears
  have hkin := Site.outlasting_kin s
  have hoverhears := Site.outlasting_overhears s
  cases call with
  | search query maxResults =>
    obtain ⟨remembered, added, h, hadded, hquestions⟩ :=
      hquery _ (Connection.blind_search query maxResults) (Connection.unlocked_search _ _)
        (hkin.search _ _) (hoverhears.search _ _)
    exact ⟨_, _, remembered, added, h, hadded, hquestions, .inl rfl, .inl rfl⟩
  | usage filePath =>
    obtain ⟨remembered, added, h, hadded, hquestions⟩ :=
      hquery _ (Connection.blind_usage filePath) (Connection.unlocked_usage _) (hkin.usage _)
        (hoverhears.usage _)
    exact ⟨_, _, remembered, added, h, hadded, hquestions, .inl rfl, .inl rfl⟩
  | mostUsed limit =>
    obtain ⟨remembered, added, h, hadded, hquestions⟩ :=
      hquery _ (Connection.queueing_mostUsed limit).blind
        (Connection.queueing_mostUsed limit).unlocked (hkin.mostUsed _) (hoverhears.mostUsed _)
    exact ⟨_, _, remembered, added, h, hadded, hquestions, .inl rfl, .inl rfl⟩
  | record filePath now =>
    obtain ⟨disk, clock, added, h, hadded, hclock, hdisk⟩ :=
      Connection.exec_recordLaunch_world filePath now s
    have hasked : (s.turned disk clock).asking (s.world.asked ++ []) = s.turned disk clock := by
      rw [List.append_nil]
      rfl
    refine ⟨disk, clock, [], added, ?_, hadded, List.forall_mem_nil _, hclock.imp id ?_,
      hdisk.imp id ?_⟩
    · rw [hasked]
      exact (exec_discard _ s).trans h
    · rintro ⟨rfl, htick⟩
      exact ⟨⟨filePath, rfl⟩, htick⟩
    · exact fun h => ⟨filePath, now, rfl, h⟩
  | _ => exact absurd hcall nofun

/-- Queries and launches do not move the connection. Wherever the life of a connection has led, and
however a search, a request for usage, a list of the most launched files or a launch ends, the
connection is as it was, with its lock free; nothing was attempted, opened, closed or slept for; and
the disk is the same, unless a launch was recorded and counted in the file of the index. Whatever is
done later with the connection has the same outcome as it would have on that disk without the call,
leaves the same site, and adds the same to the trace. The one thing that can make a difference is a
stand-in for the handle that has been asked and remembers it, and only to later queries. -/
theorem undisturbed {s : Site} (h : s.Reachable) {call : Operation}
    (hcall : call.isEnquiry = true) :
    ∃ disk clock remembered added,
      (Task.exec call.task s).2 =
        ((s.turned disk clock).asking (s.world.asked ++ remembered)).noting added ∧
      (Task.exec call.task s).2.connection = s.connection ∧
      (Task.exec call.task s).2.Unlocked ∧
      (∀ e ∈ added, e.isDeed = false) ∧ s.Questions remembered ∧
      (clock = s.world.clock ∨
        (∃ filePath, call = .record filePath .null) ∧ clock = s.world.clock.tick) ∧
      (disk = s.world.disk ∨ ∃ filePath now, call = .record filePath now ∧
        (Task.exec (Connection.recordLaunch filePath now) s).1 = .ok true ∧
        s.Counted filePath disk) ∧
      ∀ (α : Type) (later : Task α), later.Composed →
        (remembered = [] ∨ later.Heedless ∨
          s.Provided (StandIn.Forgets s.world.asked remembered)) →
        ∃ outcome t more asked,
          Task.exec later (s.turned disk clock) = (outcome, t) ∧
          t.world.trace = s.world.trace ++ more ∧ t.world.asked = s.world.asked ++ asked ∧
          Task.exec later (Task.exec call.task s).2 =
            (outcome,
              { t with
                world :=
                  { t.world with
                    asked := s.world.asked ++ remembered ++ asked
                    trace := s.world.trace ++ added ++ more } }) := by
  obtain ⟨disk, clock, remembered, added, hexec, hadded, hquestions, hclock, hdisk⟩ :=
    exec_enquiry h.unlocked hcall
  have hfree : (s.turned disk clock).Unlocked := h.unlocked
  rw [hexec]
  exact ⟨disk, clock, remembered, added, rfl, rfl, hfree, hadded, hquestions, hclock, hdisk,
    fun _ _ hlater hforget => Site.exec_asking_noting hfree hlater added hforget⟩

/-- A connection that has been opened on the index that its path leads to. -/
def notesEstablished : Site :=
  (Task.exec (tasks [.establish])
    ⟨{ path := "/index", policy := default, busyTimeout := Binary64.zero false, script := none },
     { environment := ⟨[], "/", [], "/"⟩, disk := Connection.twoNotesOpened.world.disk }⟩).2

/-- A launch at a time of too many bits fails, and the open connection can be closed as before. -/
theorem undisturbed_notesEstablished :
    (Task.exec (record (.text "/home/Notes") (.int (2 ^ 63))).task notesEstablished).2.connection =
        notesEstablished.connection ∧
      notesEstablished.connection.isConnected = true ∧
      ∃ t, (Task.exec Connection.close
        (Task.exec (record (.text "/home/Notes") (.int (2 ^ 63))).task notesEstablished).2) =
          (.ok (), t) := by
  have hreachable : notesEstablished.Reachable :=
    ⟨.text "/index", default, .real (Binary64.zero false), _, _, _, _, rfl, rfl, rfl⟩
  obtain ⟨disk, clock, remembered, added, -, hconnection, -, -, -, -, -, hlater⟩ :=
    undisturbed hreachable
      (show (record (.text "/home/Notes") (.int (2 ^ 63))).isEnquiry = true from rfl)
  obtain ⟨outcome, t, more, asked, hwithout, -, -, hclose⟩ :=
    hlater Unit Connection.close .close (.inr (.inl Connection.heedless_close))
  have houtcome : outcome = .ok () := by
    rw [Connection.exec_close] at hwithout
    exact (Prod.mk.inj hwithout).1.symm
  rw [houtcome] at hclose
  exact ⟨hconnection, rfl, _, hclose⟩

end Operation

end LaunchIndex
