import LaunchIndex.Proofs.Lifecycle
import LaunchIndex.Proofs.Stance

/-! The life of a connection with any operations at work on it at the same time. Every operation
minds the lock, so every step of their crowd is a proper one: the connection counts as connected
exactly while it holds a handle, and once it is destroyed it stays so, attempts nothing and refuses
what it is asked. -/

namespace LaunchIndex

open Stance (aside holding)

namespace Task

variable {α β : Type}

/-- A task that begins and ends aside of the lock. -/
def Aside (task : Task α) : Prop := Routine.Minds aside task.run

theorem Aside.bind {task : Task α} {next : α → Task β} (h : task.Aside)
    (hnext : ∀ a, (next a).Aside) : (task >>= next).Aside := by
  refine Routine.Minds.bind h fun outcome => ?_
  rcases outcome with fault | a
  · exact .finish (Except.error fault)
  · exact hnext a

theorem Aside.attempt {task : Task α} (h : task.Aside) :
    Aside (Connection.liftRoutine task.run) :=
  Routine.Minds.bind h fun outcome => .finish (Except.ok outcome)

theorem aside_ofOutcome (outcome : Outcome α) : Aside (ExceptT.mk (pure outcome)) :=
  .finish outcome

theorem aside_look (f : Site → α) : Aside (Connection.liftRoutine (Routine.look f)) :=
  .bystand Site.Bystands.refl fun a => .finish (Except.ok a)

theorem aside_lookOutcome (f : Site → Outcome α) : Aside (ExceptT.mk (Routine.look f)) :=
  .bystand Site.Bystands.refl .finish

theorem aside_waitFor (wait : Wait) : Aside (Connection.liftRoutine (Routine.waitFor wait)) :=
  .await wait (.finish (Except.ok ()))

theorem aside_update {f : Site → Site} (h : ∀ s : Site, s.Bystands (f s)) :
    Aside (Connection.liftRoutine (Routine.update f)) :=
  .bystand h fun _ => .finish (Except.ok ())

theorem aside_step {f : Site → Outcome α × Site} (h : ∀ s : Site, s.Bystands (f s).2) :
    Aside (ExceptT.mk (Routine.step f)) :=
  .bystand h .finish

theorem aside_log (e : Event) : Aside (Connection.liftRoutine (Connection.log e)) :=
  aside_update fun _ => Site.bystands_world (by simp)

theorem aside_locked {task : Task α}
    (h : ∀ s, task.Assures Site.Leaves Site.Handles (fun _ _ => True) s) :
    (Connection.locked task).Aside := by
  have hleave : ∀ (outcome : Outcome α) (c : Connection),
      (Connection.leave.bind fun _ => Routine.finish outcome).Minds (holding c) := fun outcome _ =>
    .leave (.finish outcome)
  have hqueue : (Routine.queue
      (task.run.bind fun outcome => Connection.leave.bind fun _ => .finish outcome)).Minds aside :=
    .enter fun s => Routine.Assures.minds (h s) hleave
  exact hqueue

theorem manner_aside : Manner Site.Leaves Site.Handles fun _ task => task.Aside where
  conduct := ⟨_, _, Site.conduct_handles⟩
  locked := aside_locked
  bind := Aside.bind
  attempt := Aside.attempt
  ofOutcome := aside_ofOutcome
  look := aside_look
  log := aside_log

end Task

namespace Connection

theorem bystands_countLaunch (id time : Int) (file : Nat) (s : Site) :
    s.Bystands (s.onWorld (countLaunch id time file)).2 := by
  refine ⟨rfl, ?_⟩
  simp only [Site.onWorld, countLaunch, Statement.change]
  split <;> rfl

theorem aside_writeLaunch (database path : Text) (time : Int) :
    (writeLaunch database path time).Aside := by
  refine (Task.aside_waitFor _).bind fun _ => (Task.aside_lookOutcome _).bind fun file =>
    (Task.aside_waitFor _).bind fun _ => (Task.aside_lookOutcome _).bind fun id => ?_
  cases id with
  | none => exact (Task.aside_log _).bind fun _ => Task.aside_ofOutcome (.ok _)
  | some id =>
    exact (Task.aside_waitFor _).bind fun _ =>
      (Task.aside_step (bystands_countLaunch id time file)).bind fun _ =>
        Task.aside_ofOutcome (.ok _)

theorem aside_recordLaunch (filePath now : Value) : (recordLaunch filePath now).Aside := by
  have htime : (launchTime now).Aside := by
    cases now with
    | null => exact Task.aside_step fun s => ⟨rfl, rfl⟩
    | _ => exact Task.aside_ofOutcome _
  refine (Task.aside_look _).bind fun c => (Task.aside_ofOutcome _).bind fun path =>
    htime.bind fun time => (aside_writeLaunch _ _ _).attempt.bind fun result => ?_
  rcases result with fault | recorded
  · simp only
    split
    · exact (Task.aside_log _).bind fun _ => Task.aside_ofOutcome (.ok _)
    · exact Task.aside_ofOutcome (.error _)
  · exact Task.aside_ofOutcome (.ok _)

end Connection

namespace Operation

mutual

theorem aside_task (operation : Operation) : operation.task.Aside := by
  have h := Task.manner_aside
  cases operation with
  | establish => exact h.establish
  | close => exact h.close
  | destroy => exact h.destroy
  | within block raised =>
    refine h.establish.bind fun _ => ((aside_tasks block).bind fun _ => ?_).attempt.bind
      fun _ => h.close.bind fun _ => h.ofOutcome _
    cases raised with
    | none => exact h.ofOutcome (.ok _)
    | some fault => exact h.ofOutcome (.error fault)
  | search query maxResults => exact (h.search _ _).bind fun _ => h.ofOutcome (.ok _)
  | usage filePath => exact (h.usage _).bind fun _ => h.ofOutcome (.ok _)
  | mostUsed limit => exact (h.mostUsed _).bind fun _ => h.ofOutcome (.ok _)
  | record filePath now =>
    exact (Connection.aside_recordLaunch _ _).bind fun _ => h.ofOutcome (.ok _)
  | elsewhere disk lock clock => exact Task.aside_update fun _ => Site.bystands_world rfl

theorem aside_tasks (operations : List Operation) : (tasks operations).Aside := by
  cases operations with
  | nil => exact Task.aside_ofOutcome (.ok _)
  | cons operation rest => exact (aside_task operation).attempt.bind fun _ => aside_tasks rest

end

/-- Operations at work on a connection, while others do what they like to the rest of the world but
leave no trace. -/
def setting : Setting Site Operation (Outcome Unit) where
  task operation := operation.task.run
  outside s s' := s'.connection = s.connection ∧ s'.world.trace = s.world.trace

/-- Why a destroyed connection refuses an operation, if it does. -/
def refusal? (path : Text) : Operation → Option Fault
  | establish | within _ _ | usage _ | record _ _ => some (.destroyed path)
  | search _ _ | mostUsed _ => some (.notConnected path)
  | close | destroy | elsewhere _ _ _ => none

end Operation

/-! ### The crowd -/

namespace Crowd

variable {crowd crowd' : Crowd Site Operation (Outcome Unit)}

/-- Every job minds the lock in a stance, and the stances are in line. -/
def Guarded (crowd : Crowd Site Operation (Outcome Unit)) : Prop :=
  ∃ line : List (Stance × Job Site Operation (Outcome Unit)), line.map Prod.snd = crowd.running ∧
    (∀ place ∈ line, place.2.rest.Minds place.1) ∧
    Stance.Lined (line.map Prod.fst) crowd.state.connection

theorem Guarded.put {before after : List (Stance × Job Site Operation (Outcome Unit))}
    {a : Stance} {number : Nat} {operation : Operation} {r : Routine Site (Outcome Unit)}
    (hminds : ∀ place ∈ before ++ after, place.2.rest.Minds place.1) (hr : r.Minds a)
    (hlined : Stance.Lined (before.map Prod.fst ++ a :: after.map Prod.fst)
      crowd.state.connection) :
    (crowd.put (before.map Prod.snd) (after.map Prod.snd) number operation r).Guarded := by
  rcases put_eq crowd (before.map Prod.snd) (after.map Prod.snd) number operation r with
    ⟨result, rfl, heq⟩ | ⟨-, heq⟩ <;> rw [heq]
  · cases hr
    exact ⟨before ++ after, List.map_append, hminds,
      by rw [List.map_append]; exact Stance.lined_aside_iff.mp hlined⟩
  · refine ⟨before ++ (a, ⟨number, operation, r⟩) :: after, by simp, fun place hmem => ?_,
      by simpa using hlined⟩
    rcases List.mem_cons.mp (List.perm_middle.mem_iff.mp hmem) with rfl | hmem
    · exact hr
    · exact hminds place hmem

theorem Guarded.step (h : crowd.Guarded) (hstep : Step Operation.setting crowd crowd') :
    crowd'.Guarded ∧ crowd.state.Proper crowd'.state := by
  obtain ⟨line, hline, hminds, hlined⟩ := h
  cases hstep with
  | start operation allowed =>
    refine ⟨?_, by rw [put_state]; exact Site.proper_of_eq rfl rfl⟩
    have hput := @Guarded.put { crowd with started := crowd.started + 1 } line [] .aside
      crowd.started operation _ (by rwa [List.append_nil]) operation.aside_task
      (Stance.lined_aside_iff.mpr (by rwa [List.map_nil, List.append_nil]))
    rw [hline] at hput
    exact hput
  | work before job after rest s running next =>
    rw [running] at hline
    obtain ⟨before, rest', rfl, rfl, hrest'⟩ := List.map_eq_append_iff.mp hline
    obtain ⟨place, after, rfl, rfl, rfl⟩ := List.map_eq_cons_iff.mp hrest'
    rw [List.map_append, List.map_cons] at hlined
    have hagrees := (Stance.lined_middle_iff.mp hlined).2.1
    obtain ⟨a', hrest, hpass⟩ := (hminds place (by simp)).next hagrees next
    refine ⟨Guarded.put (fun p hp => hminds p ?_) hrest (hlined.pass hpass), ?_⟩
    · exact List.perm_middle.mem_iff.mpr (List.mem_cons_of_mem _ hp)
    · rw [put_state]
      exact hpass.proper
  | outside s outside =>
    obtain ⟨hconnection, htrace⟩ := outside
    refine ⟨⟨line, hline, hminds, by rwa [hconnection]⟩, Site.proper_of_eq (by rw [hconnection]) ?_⟩
    rw [World.tally, htrace, World.tally]

theorem Guarded.run (h : crowd.Guarded) (hrun : Run Operation.setting crowd crowd') :
    crowd'.Guarded ∧ crowd.state.Proper crowd'.state := by
  induction hrun with
  | refl => exact ⟨h, Site.proper_of_eq rfl rfl⟩
  | tail _ hstep ih =>
    obtain ⟨hguarded, hproper⟩ := ih.1.step hstep
    exact ⟨hguarded, ih.2.trans hproper⟩

end Crowd

/-! ### Among proper steps -/

/-- What a routine comes to while everybody else takes proper steps. -/
abbrev Routine.Comes {α : Type} (post : α → Site → Prop) (r : Routine Site α) (s : Site) : Prop :=
  r.Assures Site.Proper (fun _ _ => True) post s

/-- A post-condition that proper steps leave. -/
def Stays {α : Type} (post : α → Site → Prop) : Prop :=
  ∀ a s s', post a s → s.Proper s' → post a s'

theorem Routine.comes_of_forall {α : Type} {post : α → Site → Prop} (h : ∀ a s, post a s)
    (r : Routine Site α) (s : Site) : r.Comes post s := by
  induction r generalizing s with
  | finish result => exact h result s
  | act step next ih => exact fun s' _ => ⟨trivial, ih _ _⟩
  | await wait next ih => exact fun s' _ => ih s'
  | hold ready next ih => exact fun s' _ => ih s'

theorem Task.comes_locked {α : Type} {task : Task α} {post : Outcome α → Site → Prop} {s : Site}
    (hpost : Stays post) (h : ∀ s', s.Proper s' → Routine.Comes post task.run s') :
    Routine.Comes post (Connection.locked task).run s := by
  have hlock : ∀ (s : Site) lock, s.Proper (s.withLock lock) := fun _ _ => Site.proper_of_eq rfl rfl
  refine Task.Assures.locked fun s₁ hs₁ => ⟨trivial, fun s₂ hs₂ => ?_⟩
  refine (h s₂ (hs₁.trans ((hlock s₁ _).trans hs₂))).mono (fun _ _ => id) ?_
  exact fun outcome s₃ ho s₄ hs₄ => ⟨trivial, hpost outcome _ _ ho (hs₄.trans (hlock s₄ _))⟩

/-- A task that starts with a refusal is refused. -/
theorem Task.comes_refused {α β : Type} {task : Task α} {fault : Fault} {s : Site}
    (h : Routine.Comes (fun outcome _ => outcome = .error fault) task.run s) (next : α → Task β) :
    Routine.Comes (fun outcome _ => outcome = .error fault) (task >>= next).run s := by
  refine Task.Assures.bind (Routine.Assures.mono h (fun _ _ => id) fun outcome s' ho => ?_)
  rw [ho]

theorem Connection.comes_destroy (s : Site) :
    Routine.Comes (fun _ s => s.connection.destroyed = true) destroy.run s :=
  Task.comes_locked (fun _ _ _ hd hs => hs.destroyed hd) fun s' _ =>
    (Site.conduct_any Site.Proper).destroyUnlocked s'

/-! ### Once destroyed -/

namespace Site

structure Ruined (path : Text) (s : Site) : Prop where
  path : s.connection.path = path
  destroyed : s.connection.destroyed = true
  sound : s.connection.Sound

variable {path : Text} {s s' : Site}

theorem Ruined.proper (h : s.Ruined path) (hs : s.Proper s') : s'.Ruined path :=
  ⟨hs.path.trans h.path, hs.destroyed h.destroyed, hs.sound h.sound⟩

theorem Ruined.handle (h : s.Ruined path) : s.connection.handle = none :=
  h.sound.destroyed h.destroyed

theorem Ruined.isConnected (h : s.Ruined path) : s.connection.isConnected = false := by
  rw [Connection.isConnected, h.handle, Option.isSome_none, Bool.and_false]

end Site

namespace Connection

variable {α : Type} {path : Text} {s : Site}

theorem comes_establish_ruined (h : s.Ruined path) :
    Routine.Comes (fun outcome _ => outcome = .error (.destroyed path)) establish.run s := by
  refine Task.comes_locked (fun _ _ _ ho _ => ho) fun s₁ hs₁ => ?_
  refine Task.Assures.bind (Task.assures_lift (Routine.assures_look fun s₂ hs₂ => ⟨trivial, ?_⟩))
  have h₂ := (h.proper hs₁).proper hs₂
  simp only [h₂.destroyed, h₂.path, ↓reduceIte]
  exact Task.assures_throw rfl

theorem comes_withHandle_ruined (h : s.Ruined path) (use : Handle → Task α) :
    Routine.Comes (fun outcome _ => outcome = .error (.notConnected path))
      (withHandle use).run s := by
  refine Task.comes_locked (fun _ _ _ ho _ => ho) fun s₁ hs₁ => ?_
  refine Task.Assures.bind (Task.assures_lift (Routine.assures_look fun s₂ hs₂ => ⟨trivial, ?_⟩))
  have h₂ := (h.proper hs₁).proper hs₂
  simp only [h₂.isConnected, h₂.path]
  exact Task.assures_throw rfl

/-- A path is refused before anything else is looked at. -/
theorem comes_requirePath_ruined (h : s.Ruined path) (filePath : Value)
    (next : Connection → Text → Task α) :
    Routine.Comes (fun outcome _ => outcome = .error (.destroyed path)) (ExceptT.run do
      let c ← liftRoutine (Routine.look Site.connection)
      let filePath ← ExceptT.mk (pure (c.requirePath filePath))
      next c filePath) s := by
  refine Task.Assures.bind (Task.assures_lift (Routine.assures_look fun s₁ hs₁ => ⟨trivial, ?_⟩))
  have h₁ := h.proper hs₁
  simp only [requirePath, h₁.destroyed, h₁.path, ↓reduceIte]
  exact Task.Assures.bind (Task.assures_ofOutcome rfl)

end Connection

theorem Operation.comes_refusal {operation : Operation} {path : Text} {fault : Fault} {s : Site}
    (hrefusal : operation.refusal? path = some fault) (h : s.Ruined path) :
    Routine.Comes (fun outcome _ => outcome = .error fault) operation.task.run s := by
  cases operation with
  | establish =>
    cases hrefusal
    exact Connection.comes_establish_ruined h
  | within block raised =>
    cases hrefusal
    exact Task.comes_refused (Connection.comes_establish_ruined h) _
  | search query maxResults =>
    cases hrefusal
    refine Task.comes_refused ?_ _
    refine Task.Assures.bind (Task.assures_lift (Routine.assures_look fun s₁ hs₁ => ⟨trivial, ?_⟩))
    have h₁ := h.proper hs₁
    simp only [h₁.isConnected, h₁.path, Bool.not_false, ↓reduceIte]
    exact Task.assures_throw rfl
  | usage filePath =>
    cases hrefusal
    exact Task.comes_refused (Connection.comes_requirePath_ruined h filePath _) _
  | mostUsed limit =>
    cases hrefusal
    exact Task.comes_refused (Task.comes_refused (Connection.comes_withHandle_ruined h _) _) _
  | record filePath now =>
    cases hrefusal
    exact Task.comes_refused (Connection.comes_requirePath_ruined h filePath _) _
  | close => exact absurd hrefusal nofun
  | destroy => exact absurd hrefusal nofun
  | elsewhere disk lock clock => exact absurd hrefusal nofun

namespace Crowd

variable {crowd crowd' : Crowd Site Operation (Outcome Unit)}
  {post : Nat → Operation → Outcome Unit → Site → Prop}

/-- Every job comes to its post-condition, and every ended call has it. -/
def Comes (post : Nat → Operation → Outcome Unit → Site → Prop)
    (crowd : Crowd Site Operation (Outcome Unit)) : Prop :=
  crowd.All (fun job s => job.rest.Comes (post job.number job.call) s)
    fun e s => post e.number e.call e.result s

theorem Comes.step (h : crowd.Comes post) (hguarded : crowd.Guarded)
    (hstep : Step Operation.setting crowd crowd') (hpost : ∀ n operation, Stays (post n operation))
    (hstart : ∀ operation : Operation,
      operation.task.run.Comes (post crowd.started operation) crowd.state) : crowd'.Comes post := by
  have hproper := (hguarded.step hstep).2
  refine All.step h hstep (fun _ _ _ _ => id) (fun job hjob => ?_)
    (fun e he => hpost _ _ _ _ _ he hproper) (fun operation _ => hstart operation)
    fun job rest s hjob hnext => Routine.Assures.next hjob (Site.proper_of_eq rfl rfl) hnext
  exact Routine.Assures.of_rely hjob (fun _ _ _ => Site.Proper.trans) (hpost _ _) hproper

theorem Guarded.comes_destroyed (h : crowd.Guarded)
    (hcomes : crowd.Comes fun _ operation _ s =>
      operation = .destroy → s.connection.destroyed = true)
    (hrun : Run Operation.setting crowd crowd') :
    crowd'.Comes fun _ operation _ s => operation = .destroy → s.connection.destroyed = true := by
  induction hrun with
  | refl => exact hcomes
  | tail hrun hstep ih =>
    refine ih.step (h.run hrun).1 hstep (fun _ _ _ s s' hd hs ho => hs.destroyed (hd ho)) ?_
    intro operation
    by_cases ho : operation = .destroy
    · subst ho
      exact (Connection.comes_destroy _).mono (fun _ _ => id) fun _ _ hd _ => hd
    · exact Routine.comes_of_forall (fun _ _ hd => absurd hd ho) _ _

/-- What starts on a destroyed connection is refused. -/
theorem Guarded.comes_refused {path : Text} (h : crowd.Guarded) (hruined : crowd.state.Ruined path)
    (hnumbered : crowd.Numbered) (hrun : Run Operation.setting crowd crowd') :
    crowd'.Comes fun n operation outcome _ => crowd.started ≤ n →
      ∀ fault, operation.refusal? path = some fault → outcome = .error fault := by
  -- Jobs that started before are told by their numbers, and nothing is said of them.
  induction hrun with
  | refl =>
    refine ⟨fun job hmem => Routine.comes_of_forall (fun _ _ hn => ?_) _ _, fun e hmem hn => ?_⟩
    · exact absurd (hnumbered.running job hmem) (Nat.not_lt.mpr hn)
    · exact absurd (hnumbered.ended e hmem) (Nat.not_lt.mpr hn)
  | tail hrun hstep ih =>
    have hguarded := (h.run hrun).1
    have hruined' := hruined.proper (h.run hrun).2
    refine ih.step hguarded hstep (fun _ _ _ _ _ ho _ => ho) fun operation => ?_
    rcases hrefusal : operation.refusal? path with _ | fault
    · exact Routine.comes_of_forall (fun _ _ _ fault hf => absurd hf nofun) _ _
    · refine (Operation.comes_refusal hrefusal hruined').mono (fun _ _ => id) ?_
      rintro outcome - ho - fault' hf
      rw [ho, Option.some.inj hf]

end Crowd

namespace Connection

variable {given timeout : Value} {policy : Policy} {script : Option (List Attempt)} {c : Connection}

theorem create_path (h : create given policy timeout script = .ok c) : c.path = given.display := by
  obtain ⟨-, seconds, rfl⟩ := eq_of_create h
  rfl

/-- Whatever is at work on a connection, its flag tells whether it holds a handle, and a destroyed
one holds none and stays destroyed: nothing is attempted any more, and what is asked is refused. -/
theorem lifecycle_invariant {w : World} {crowd : Crowd Site Operation (Outcome Unit)}
    (hc : create given policy timeout script = .ok c)
    (hrun : Crowd.Run Operation.setting { state := ⟨c, w⟩ } crowd) :
    (crowd.state.connection.connected = true ↔ crowd.state.connection.handle ≠ none) ∧
    crowd.state.connection.isConnected = crowd.state.connection.connected ∧
    crowd.state.connection.path = given.display ∧
    (crowd.state.connection.destroyed = true → crowd.state.connection.handle = none) ∧
    (∀ number result, ⟨number, .destroy, result⟩ ∈ crowd.ended →
      crowd.state.connection.destroyed = true) ∧
    (crowd.state.connection.destroyed = true → ∀ later, Crowd.Run Operation.setting crowd later →
      later.state.connection.destroyed = true ∧
      later.state.connection.handle = none ∧
      later.state.connection.isConnected = false ∧
      later.state.world.tally.attempts = crowd.state.world.tally.attempts ∧
      ∀ operation fault, Operation.refusal? given.display operation = some fault →
        (∀ number result, crowd.started ≤ number → ⟨number, operation, result⟩ ∈ later.ended →
          result = .error fault) ∧
        (Task.exec operation.task later.state).1 = .error fault) := by
  obtain ⟨hhandle, hconnected, hdestroyed, hlock⟩ := create_fresh hc
  have hfresh : ({ state := ⟨c, w⟩ } : Crowd Site Operation (Outcome Unit)).Guarded :=
    ⟨[], rfl, by simp, ⟨by rw [hlock], by simp, .nil⟩⟩
  obtain ⟨hguarded, hproper⟩ := hfresh.run hrun
  have hsound : crowd.state.connection.Sound :=
    hproper.sound ⟨by rw [hconnected, hhandle]; rfl, fun _ => hhandle⟩
  have hpath : crowd.state.connection.path = given.display := hproper.path.trans (create_path hc)
  refine ⟨?_, ?_, hpath, hsound.destroyed, fun number result hmem => ?_, fun hd later hlater => ?_⟩
  · rw [hsound.connected, Option.isSome_iff_ne_none]
  · rw [isConnected, hsound.connected, Bool.and_self]
  · have hcomes := hfresh.comes_destroyed (Crowd.all_of_start _) hrun
    exact hcomes.ended _ hmem rfl
  · have hruined : crowd.state.Ruined given.display := ⟨hpath, hd, hsound⟩
    obtain ⟨-, hproper'⟩ := hguarded.run hlater
    have hruined' := hruined.proper hproper'
    have hnumbered : crowd.Numbered := Crowd.Numbered.run (Crowd.all_of_start _) hrun
    have hrefused := hguarded.comes_refused hruined hnumbered hlater
    refine ⟨hruined'.destroyed, hruined'.handle, hruined'.isConnected, hproper'.attempts hd,
      fun operation fault hf => ⟨fun number result hn hmem => ?_, ?_⟩⟩
    · exact hrefused.ended _ hmem hn fault hf
    · exact Routine.Assures.run (Operation.comes_refusal hf hruined') fun _ =>
        Site.proper_of_eq rfl rfl

def newborn : Crowd Site Operation (Outcome Unit) where
  state :=
    ⟨{ path := "/index", policy := default, busyTimeout := Binary64.zero false,
       script := some [.standIn {}] },
     { environment := ⟨[], "/", [], "/"⟩ }⟩

theorem lifecycle_invariant_retired :
    ∃ retired, Crowd.Run Operation.setting newborn retired ∧
      ⟨1, .destroy, .ok ()⟩ ∈ retired.ended ∧ retired.state.world.tally.attempts = 1 ∧
      retired.state.connection.handle = none ∧
      ∀ later, Crowd.Run Operation.setting retired later →
        later.state.world.tally.attempts = 1 ∧
        (Task.exec Connection.establish later.state).1 = .error (.destroyed "/index") := by
  have hcreated : create (.text "/index") default (.real (Binary64.zero false))
      (some [.standIn {}]) = .ok newborn.state.connection := rfl
  have hopened : Crowd.Run Operation.setting newborn (newborn.after Operation.setting .establish) :=
    .call rfl Operation.establish trivial rfl
  have hretired : Crowd.Run Operation.setting (newborn.after Operation.setting .establish)
      ((newborn.after Operation.setting .establish).after Operation.setting .destroy) :=
    .call rfl Operation.destroy trivial rfl
  have hrun := hopened.trans hretired
  obtain ⟨-, -, -, hidle, hdestroyed, hterminal⟩ := lifecycle_invariant hcreated hrun
  have hd := hdestroyed 1 (.ok ()) (List.mem_cons_of_mem _ List.mem_cons_self)
  refine ⟨_, hrun, List.mem_cons_of_mem _ List.mem_cons_self, rfl, hidle hd, fun later hlater => ?_⟩
  obtain ⟨-, -, -, hattempts, hrefused⟩ := hterminal hd later hlater
  exact ⟨hattempts, (hrefused Operation.establish _ rfl).2⟩

end Connection

end LaunchIndex
