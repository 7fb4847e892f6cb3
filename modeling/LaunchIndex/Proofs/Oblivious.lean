import LaunchIndex.Query
import LaunchIndex.Proofs.Opening

/-! Steps that do not look at the lock or at the trace. A blind step does the same to a site as to
the bare site, whose lock is free and whose trace is empty, and only adds to the trace; an oblivious
one leaves the lock alone too. A routine of oblivious steps is steady, and whatever it does when it
runs alone is told by its run on the bare site. -/

namespace LaunchIndex

def World.after (past : List Happening) (w : World) : World := { w with trace := past ++ w.trace }

namespace Site

/-- The site with a free lock and without a trace. -/
def bare (s : Site) : Site where
  connection := { s.connection with lock := {} }
  world := { s.world with trace := [] }

theorem connection_eq_of_bare {s t : Site} (hbare : s.bare = t.bare)
    (hlock : s.connection.lock = t.connection.lock) : s.connection = t.connection := by
  obtain ⟨⟨path, policy, timeout, script, handle, connected, destroyed, lock⟩, w⟩ := s
  obtain ⟨⟨path', policy', timeout', script', handle', connected', destroyed', lock'⟩, w'⟩ := t
  simp only [bare, mk.injEq, Connection.mk.injEq] at hbare hlock ⊢
  tauto

theorem ext_of_bare {s t : Site} (hbare : s.bare = t.bare) (htrace : s.world.trace = t.world.trace)
    (hlock : s.connection.lock = t.connection.lock) : s = t := by
  have hconnection := connection_eq_of_bare hbare hlock
  obtain ⟨c, ⟨environment, disk, lock, clock, next, asked, trace⟩⟩ := s
  obtain ⟨c', ⟨environment', disk', lock', clock', next', asked', trace'⟩⟩ := t
  simp only [bare, mk.injEq, World.mk.injEq] at hbare hconnection htrace ⊢
  tauto

/-- Sites that differ in the lock at most, and in entries of the trace that do not count. -/
structure Similar (counts : Happening → Bool) (s t : Site) : Prop where
  bare : s.bare = t.bare
  trace : s.world.trace.filter counts = t.world.trace.filter counts

theorem Similar.refl (counts : Happening → Bool) (s : Site) : s.Similar counts s := ⟨rfl, rfl⟩

theorem Similar.symm {counts : Happening → Bool} {s t : Site} (h : s.Similar counts t) :
    t.Similar counts s := ⟨h.bare.symm, h.trace.symm⟩

theorem Similar.trans {counts : Happening → Bool} {s t u : Site} (hst : s.Similar counts t)
    (htu : t.Similar counts u) : s.Similar counts u :=
  ⟨hst.bare.trans htu.bare, hst.trace.trans htu.trace⟩

theorem similar_withLock (counts : Happening → Bool) (lock : Turnstile) (s : Site) :
    (s.withLock lock).Similar counts s := ⟨rfl, rfl⟩

theorem world_eq_after (s : Site) : s.world = s.bare.world.after s.world.trace := by
  simp [World.after, bare]

/-- A step that, apart from the lock, does what it does to the bare site, and adds to the trace.
What it returns does not count here. -/
structure Blind {β : Type} (step : Site → β × Site) : Prop where
  bare : ∀ s, (step s).2.bare = (step s.bare).2.bare
  trace : ∀ s, (step s).2.world.trace = s.world.trace ++ (step s.bare).2.world.trace

/-- A blind step that does not touch the lock. -/
structure Oblivious {β : Type} (step : Site → β × Site) : Prop extends Blind step where
  lock : ∀ s, (step s).2.connection.lock = s.connection.lock

variable {β : Type}

theorem oblivious_look (f : Site → β) : Oblivious fun s => (f s, s) where
  bare _ := rfl
  trace s := (List.append_nil s.world.trace).symm
  lock _ := rfl

theorem oblivious_detach : Oblivious detach where
  bare _ := rfl
  trace s := (List.append_nil s.world.trace).symm
  lock _ := rfl

theorem oblivious_attach (h : Handle) : Oblivious fun s => ((), s.attach h) where
  bare _ := rfl
  trace s := (List.append_nil s.world.trace).symm
  lock _ := rfl

theorem oblivious_destroy :
    Oblivious fun s => ((), s.mapConnection fun c => { c with destroyed := true }) where
  bare _ := rfl
  trace s := (List.append_nil s.world.trace).symm
  lock _ := rfl

theorem oblivious_log (e : Event) : Oblivious fun s => ((), s.mapWorld (World.log e)) where
  bare _ := rfl
  trace _ := rfl
  lock _ := rfl

theorem oblivious_sleep (seconds : Binary64) :
    Oblivious fun s => ((), s.mapWorld (World.sleep seconds)) where
  bare _ := rfl
  trace _ := rfl
  lock _ := rfl

theorem oblivious_closeHandle (h : Handle) : Oblivious fun s => ((), s.closeHandle h) where
  bare s := by
    simp only [closeHandle]
    split <;> rfl
  trace s := by
    simp only [closeHandle]
    split
    · exact List.append_assoc s.world.trace _ _
    · rfl
  lock s := by
    simp only [closeHandle]
    split <;> rfl

theorem oblivious_nextAttempt : Oblivious nextAttempt where
  bare s := by rw [nextAttempt_eq, nextAttempt_eq]; rfl
  trace s := by rw [nextAttempt_eq, nextAttempt_eq]; rfl
  lock s := by rw [nextAttempt_eq]; rfl

theorem connectFile_after (path : Text) (past : List Happening) (w : World) :
    connectFile path (w.after past) =
      ((connectFile path w).1, (connectFile path w).2.after past) := by
  have henvironment : (w.after past).environment = w.environment := rfl
  have hnode : (w.after past).databaseNode? path = w.databaseNode? path := rfl
  have hread : ∀ number, ((w.after past).openHandle (.file number)).2.readDatabase number =
    (w.openHandle (.file number)).2.readDatabase number := fun _ => rfl
  unfold connectFile
  rw [henvironment, hnode]
  rcases Uri.ofPath w.environment "ro" path with fault | uri
  · rfl
  · rcases w.databaseNode? path with _ | _ | number
    · rfl
    · simp [World.openHandle, World.happen, World.after]
    · simp only [hread]
      rcases (w.openHandle (.file number)).2.readDatabase number with e | db <;>
        simp [World.openHandle, World.happen, World.after]

theorem oblivious_onWorld {f : World → β × World}
    (h : ∀ past w, f (w.after past) = ((f w).1, (f w).2.after past)) : Oblivious (onWorld f) where
  bare s := by
    simp only [onWorld]
    rw [s.world_eq_after, h]
    rfl
  trace s := by
    simp only [onWorld]
    conv_lhs => rw [s.world_eq_after, h]
    rfl
  lock _ := rfl

theorem onWorld_bare_fst {f : World → β × World}
    (h : ∀ past w, f (w.after past) = ((f w).1, (f w).2.after past)) (s : Site) :
    (s.onWorld f).1 = (s.bare.onWorld f).1 := by
  simp only [onWorld]
  conv_lhs => rw [s.world_eq_after, h]

theorem oblivious_connect (attempt : Attempt) : Oblivious (connect attempt) := by
  cases attempt with
  | fails fault => exact ⟨⟨fun _ => rfl, fun _ => (List.append_nil _).symm⟩, fun _ => rfl⟩
  | standIn t => exact ⟨⟨fun _ => rfl, fun _ => rfl⟩, fun _ => rfl⟩
  | real =>
    have hstep (path : Text) := oblivious_onWorld (connectFile_after path)
    exact ⟨⟨fun s => (hstep _).bare s, fun s => (hstep _).trace s⟩, fun s => (hstep _).lock s⟩

theorem connect_bare_fst (attempt : Attempt) (s : Site) :
    (s.bare.connect attempt).1 = (s.connect attempt).1 := by
  cases attempt with
  | fails fault => rfl
  | standIn t => rfl
  | real => exact (onWorld_bare_fst (connectFile_after s.connection.path) s).symm

end Site

namespace Routine

variable {α β : Type} {mayWait : Bool}

/-- A routine of steps that are oblivious, and whose course does not depend on the lock or the
trace. It waits for no turn, and for nothing at all unless it may wait. -/
inductive Steady (mayWait : Bool) : Routine Site α → Prop
  | finish (result : α) : Steady mayWait (finish result)
  | act {β : Type} {step : Site → β × Site} {next : β → Routine Site α}
      (hstep : Site.Oblivious step) (hsame : ∀ s, next (step s).1 = next (step s.bare).1)
      (hnext : ∀ b, Steady mayWait (next b)) : Steady mayWait (act step next)
  | await {wait : Wait} {next : Routine Site α} (hmay : mayWait = true)
      (hnext : Steady mayWait next) : Steady mayWait (await wait next)

/-- A routine that, run alone, does what it does to the bare site, and adds to the trace. -/
structure Blind (r : Routine Site α) : Prop extends Site.Blind r.run where
  result : ∀ s, (r.run s).1 = (r.run s.bare).1

/-- Outcomes that are the same, with similar sites. -/
structure Alike (counts : Happening → Bool) (x y : α × Site) : Prop where
  result : x.1 = y.1
  site : x.2.Similar counts y.2

theorem Alike.symm {counts : Happening → Bool} {x y : α × Site} (h : Alike counts x y) :
    Alike counts y x :=
  ⟨h.result.symm, h.site.symm⟩

theorem Alike.trans {counts : Happening → Bool} {x y z : α × Site} (hxy : Alike counts x y)
    (hyz : Alike counts y z) : Alike counts x z :=
  ⟨hxy.result.trans hyz.result, hxy.site.trans hyz.site⟩

/-- Run on similar sites, a blind routine comes to the same. -/
theorem Blind.alike {r : Routine Site α} (h : r.Blind) {counts : Happening → Bool} {s t : Site}
    (hst : s.Similar counts t) : Alike counts (r.run s) (r.run t) where
  result := by rw [h.result, h.result t, hst.bare]
  site :=
    { bare := by rw [h.bare, h.bare t, hst.bare]
      trace := by
        rw [h.trace, h.trace t, List.filter_append, List.filter_append, hst.trace, hst.bare] }

/-- A routine that comes to the same as a blind one is blind. -/
theorem Blind.of_alike {r r' : Routine Site α} (h' : r'.Blind)
    (h : ∀ counts s, Alike counts (r.run s) (r'.run s)) : r.Blind := by
  have hresult : ∀ s, (r.run s).1 = (r'.run s).1 := fun s => (h (fun _ => true) s).result
  have hbare : ∀ s, (r.run s).2.bare = (r'.run s).2.bare := fun s => (h (fun _ => true) s).site.bare
  have htrace : ∀ s, (r.run s).2.world.trace = (r'.run s).2.world.trace := fun s => by
    simpa using (h (fun _ => true) s).site.trace
  refine ⟨⟨fun s => ?_, fun s => ?_⟩, fun s => ?_⟩
  · rw [hbare, h'.bare, hbare]
  · rw [htrace, h'.trace, htrace]
  · rw [hresult, h'.result, hresult]

theorem Blind.bind {r : Routine Site α} {k : α → Routine Site β} (h : r.Blind)
    (hk : ∀ a, (k a).Blind) : (r.bind k).Blind where
  result s := by
    rw [run_bind, run_bind, ← h.result, (hk _).result, h.bare]
    exact ((hk _).result _).symm
  bare s := by
    rw [run_bind, run_bind, ← h.result, (hk _).bare, h.bare]
    exact ((hk _).bare _).symm
  trace s := by
    rw [run_bind, run_bind, ← h.result, (hk _).trace, h.bare, h.trace, List.append_assoc]
    exact congrArg _ ((hk _).trace _).symm

theorem Blind.act {step : Site → β × Site} {next : β → Routine Site α} (hstep : Site.Blind step)
    (hsame : ∀ s, next (step s).1 = next (step s.bare).1) (hnext : ∀ b, (next b).Blind) :
    (Routine.act step next).Blind where
  result s := by
    rw [run, run, (hnext _).result, hstep.bare, hsame]
    exact ((hnext _).result _).symm
  bare s := by
    rw [run, run, (hnext _).bare, hstep.bare, hsame]
    exact ((hnext _).bare _).symm
  trace s := by
    rw [run, run, (hnext _).trace, hstep.bare, hsame, hstep.trace, List.append_assoc]
    exact congrArg _ ((hnext _).trace _).symm

namespace Steady

theorem blind {r : Routine Site α} (h : r.Steady mayWait) : r.Blind := by
  induction h with
  | finish result =>
    exact ⟨⟨fun _ => rfl, fun s => (List.append_nil s.world.trace).symm⟩, fun _ => rfl⟩
  | act hstep hsame hnext ih => exact .act hstep.toBlind hsame ih
  | await hmay hnext ih => exact ⟨⟨ih.bare, ih.trace⟩, ih.result⟩

theorem bind {r : Routine Site α} {k : α → Routine Site β} (h : r.Steady mayWait)
    (hk : ∀ a, (k a).Steady mayWait) : (r.bind k).Steady mayWait := by
  induction h with
  | finish result => exact hk result
  | act hstep hsame hnext ih => exact .act hstep (fun s => congrArg (·.bind k) (hsame s)) ih
  | await hmay hnext ih => exact .await hmay ih

theorem update {f : Site → Site} (h : Site.Oblivious fun s => ((), f s)) :
    (Routine.update f).Steady mayWait :=
  .act h (fun _ => rfl) fun _ => .finish ()

theorem step {f : Site → α × Site} (h : Site.Oblivious f) (hsame : ∀ s, (f s).1 = (f s.bare).1) :
    (Routine.step f).Steady mayWait :=
  .act h (fun s => congrArg Routine.finish (hsame s)) .finish

theorem waitFor (wait : Wait) : (Routine.waitFor wait).Steady true := .await rfl (.finish ())

theorem log (e : Event) : (Connection.log e).Steady mayWait := update (Site.oblivious_log e)

theorem release : Connection.release.Steady true := by
  refine (step Site.oblivious_detach fun _ => rfl).bind fun handle => ?_
  cases handle with
  | none => exact .finish ()
  | some handle =>
    exact (waitFor _).bind fun _ => update (Site.oblivious_closeHandle handle)

end Steady

end Routine

namespace Task

variable {α β : Type} {mayWait : Bool}

def Steady (mayWait : Bool) (task : Task α) : Prop := Routine.Steady mayWait task.run

theorem steady_ofOutcome (outcome : Outcome α) : Steady mayWait (ExceptT.mk (pure outcome)) :=
  .finish outcome

theorem steady_throw (fault : Fault) : Steady mayWait (throw fault : Task α) :=
  steady_ofOutcome (.error fault)

theorem steady_pure (a : α) : Steady mayWait (pure a : Task α) := steady_ofOutcome (.ok a)

theorem Steady.bind {task : Task α} {next : α → Task β} (h : task.Steady mayWait)
    (hnext : ∀ a, (next a).Steady mayWait) : (task >>= next).Steady mayWait :=
  Routine.Steady.bind h fun
    | .ok a => hnext a
    | .error fault => steady_throw fault

theorem steady_lift {r : Routine Site α} (h : r.Steady mayWait) :
    Steady mayWait (Connection.liftRoutine r) :=
  Routine.Steady.bind h fun a => steady_pure a

theorem steady_look_bind {k : Connection → Task α}
    (hsame : ∀ c : Connection, k c = k { c with lock := {} }) (hk : ∀ c, (k c).Steady mayWait) :
    Steady mayWait (Connection.liftRoutine (Routine.look Site.connection) >>= k) :=
  Routine.Steady.act (Site.oblivious_look _) (fun s => congrArg ExceptT.run (hsame s.connection))
    hk

end Task

namespace Connection

theorem steady_pause (p : Policy) (attempt : Nat) : (pause p attempt).Steady true := by
  unfold pause
  split
  · exact Task.steady_throw _
  · exact (Task.steady_lift (.update (Site.oblivious_sleep _))).bind fun _ =>
      Task.steady_lift (.waitFor _)

theorem steady_attempts (path : Text) (p : Policy) (last : Option StoreError) (n left : Nat) :
    (attempts path p last n left).Steady true := by
  induction left generalizing last n with
  | zero => exact (Task.steady_lift (.log _)).bind fun _ => Task.steady_throw _
  | succ left ih =>
    refine (Task.steady_lift .release).bind fun _ => ?_
    refine (Task.steady_lift (.step Site.oblivious_nextAttempt fun s => ?_)).bind fun next => ?_
    · rw [Site.nextAttempt_eq, Site.nextAttempt_eq]; rfl
    refine (Task.steady_lift (.waitFor _)).bind fun _ => ?_
    refine (Task.steady_lift (.step (Site.oblivious_connect next) fun s =>
      (Site.connect_bare_fst next s).symm)).bind fun result => ?_
    rcases result with fault | handle
    · cases fault with
      | store e =>
        refine (Task.steady_ofOutcome _).bind fun busy => ?_
        cases busy with
        | false => exact (Task.steady_lift (.log _)).bind fun _ => Task.steady_throw _
        | true =>
          refine (Task.steady_lift (.log _)).bind fun _ => ?_
          simp only
          split
          · exact (steady_pause p n).bind fun _ => ih _ _
          · exact ih _ _
      | _ => exact Task.steady_throw _
    · exact (Task.steady_lift (.update (Site.oblivious_attach handle))).bind fun _ =>
        Task.steady_lift (.log _)

theorem steady_establishUnlocked : establishUnlocked.Steady true := by
  refine Task.steady_look_bind (fun _ => rfl) fun c => ?_
  split
  · exact Task.steady_throw _
  · split
    · exact Task.steady_pure _
    · exact (Task.steady_ofOutcome _).bind fun rounds => steady_attempts _ _ _ _ _

end Connection

end LaunchIndex
