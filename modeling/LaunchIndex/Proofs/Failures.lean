import LaunchIndex.Query
import LaunchIndex.Writer
import LaunchIndex.Proofs.Opening
import LaunchIndex.Proofs.Outcomes
import LaunchIndex.Proofs.Readers

/-! Why the operations on a connection fail. The connection is one that tries files only, and
others may change everything but its path, its policy and the environment. On whatever an operation
finds, its failures are then of a few kinds; each operation has one lemma, made from those of the
tasks that it is composed of. -/

namespace LaunchIndex

open Store

/-- Whether the time that the clock shows can be stored. -/
def World.tellsTime (w : World) : Bool :=
  match w.clock.seconds with
  | .ok n => Numeral.fits n
  | .error _ => false

def Handle.IsReal (h : Handle) : Prop := ∀ t, h.target ≠ .standIn t

/-- What stays the same of a connection that is served: its path, its policy and the environment.
`ends` tells whether it may be destroyed. -/
structure Service where
  path : Text
  policy : Policy
  environment : Environment
  ends : Bool

theorem Limit.greatest_lt_of_not_fits {n : Int} (h : Numeral.fits (max 1 n) = false) :
    Limit.greatest < n := by
  rw [← not_le]
  intro hle
  have hfits : Numeral.fits (max 1 n) = true := by
    rw [Numeral.fits, Bool.and_eq_true, decide_eq_true_iff, decide_eq_true_iff]
    exact ⟨le_trans (by decide) (le_max_left 1 n), Int.max_le.mpr ⟨by decide, hle⟩⟩
  rw [hfits] at h
  exact absurd h (by decide)

namespace Service

variable {v : Service} {s : Site} {α β : Type}

/-- A connection that is served. It tries files only. -/
structure Has (v : Service) (c : Connection) : Prop where
  path : c.path = v.path
  policy : c.policy = v.policy
  script : c.script = none
  handle : ∀ h, c.handle = some h → h.IsReal
  destroyed : c.destroyed = true → v.ends = true

structure Serves (v : Service) (s : Site) : Prop where
  connection : v.Has s.connection
  environment : s.world.environment = v.environment

def Finds (v : Service) (s : Site) : Prop := v.Serves s ∧ s.world.tellsTime = true

/-- The task keeps the connection served; what it returns is good, and its failures are foreseen. -/
def Yields (v : Service) (good : α → Prop) (foreseen : Fault → Prop) (task : Task α) : Prop :=
  Routine.Yields v.Finds v.Serves (Outcome.Ensures good foreseen) task.run

/-! ### Composing tasks -/

section

variable {good : α → Prop} {foreseen foreseen' : Fault → Prop}

theorem Yields.mono {good' : α → Prop} {task : Task α} (h : v.Yields good foreseen task)
    (hgood : ∀ a, good a → good' a) (hforeseen : ∀ fault, foreseen fault → foreseen' fault) :
    v.Yields good' foreseen' task :=
  Routine.Yields.mono h fun _ ho => ho.mono hgood hforeseen

theorem Yields.bind {good' : β → Prop} {task : Task α} {next : α → Task β}
    (h : v.Yields good foreseen task) (hnext : ∀ a, good a → v.Yields good' foreseen (next a)) :
    v.Yields good' foreseen (task >>= next) := by
  refine Routine.Yields.bind (Routine.Yields.mono h fun outcome houtcome => ?_)
  rcases outcome with fault | a
  · exact houtcome
  · exact hnext a houtcome

/-- What a task returns need not be good for the next one. -/
theorem Yields.andThen {good' : β → Prop} {task : Task α} {next : α → Task β}
    (h : v.Yields (fun _ => True) foreseen task) (hnext : ∀ a, v.Yields good' foreseen (next a)) :
    v.Yields good' foreseen (task >>= next) := h.bind fun a _ => hnext a

theorem yields_ofOutcome {o : Outcome α} (h : o.Ensures good foreseen) :
    v.Yields good foreseen (ExceptT.mk (pure o)) := h

theorem yields_ok {o : Outcome α} {a : α} (h : o = .ok a) :
    v.Yields (· = a) foreseen (ExceptT.mk (pure o)) := by
  rw [h]
  exact yields_ofOutcome rfl

theorem yields_lift {r : Routine Site α} (h : r.Yields v.Finds v.Serves good) :
    v.Yields good foreseen (Connection.liftRoutine r) := Routine.Yields.bind h

theorem Yields.attempt {task : Task α} (h : v.Yields good foreseen task) :
    v.Yields (Outcome.Ensures good foreseen) foreseen' (Connection.liftRoutine task.run) :=
  yields_lift h

theorem yields_step {f : Site → α × Site}
    (h : ∀ s, v.Finds s → v.Serves (f s).2 ∧ good (f s).1) :
    v.Yields good foreseen (Connection.liftRoutine (Routine.step f)) := yields_lift h

theorem yields_look {f : Site → α} (h : ∀ s, v.Finds s → good (f s)) :
    v.Yields good foreseen (Connection.liftRoutine (Routine.look f)) :=
  yields_lift (Routine.yields_step fun s hs => ⟨hs.1, h s hs⟩)

theorem yields_update {f : Site → Site} (h : ∀ s, v.Finds s → v.Serves (f s)) :
    v.Yields (fun _ => True) foreseen (Connection.liftRoutine (Routine.update f)) :=
  yields_lift (Routine.yields_update h)

theorem yields_waitFor (wait : Wait) :
    v.Yields (fun _ => True) foreseen (Connection.liftRoutine (Routine.waitFor wait)) :=
  yields_lift trivial

end

variable {good : α → Prop} {foreseen : Fault → Prop}

/-! ### Steps -/

/-- Only the world has changed, and not its environment. -/
theorem Serves.mapWorld (h : v.Serves s) {f : World → World}
    (hf : (f s.world).environment = s.world.environment) : v.Serves (s.mapWorld f) :=
  ⟨h.connection, hf.trans h.environment⟩

theorem Serves.withLock (h : v.Serves s) (lock : Turnstile) : v.Serves (s.withLock lock) :=
  ⟨{ h.connection with }, h.environment⟩

theorem Serves.attach (h : v.Serves s) {handle : Handle} (hreal : handle.IsReal) :
    v.Serves (s.attach handle) :=
  ⟨{ h.connection with handle := fun _ hh => Option.some.inj hh ▸ hreal }, h.environment⟩

theorem Serves.detach (h : v.Serves s) : v.Serves s.detach.2 :=
  ⟨{ h.connection with handle := by simp [Site.detach, Site.mapConnection] }, h.environment⟩

theorem Serves.destroy (h : v.Serves s) (hends : v.ends = true) :
    v.Serves (s.mapConnection fun c => { c with destroyed := true }) :=
  ⟨{ h.connection with destroyed := fun _ => hends }, h.environment⟩

theorem Serves.closeHandle (h : v.Serves s) (handle : Handle) :
    v.Serves (s.closeHandle handle) := by
  rcases s.closeHandle_eq handle with hc | ⟨fault, hc⟩ <;> rw [hc] <;> exact h.mapWorld rfl

theorem Serves.nextAttempt (h : v.Serves s) :
    s.nextAttempt.1 = .real ∧ v.Serves s.nextAttempt.2 := by
  have hscript := h.connection.script
  rw [s.nextAttempt_eq]
  exact ⟨by simp [Site.scripted, hscript],
    { h.connection with script := by simp [Site.noted, hscript] }, h.environment⟩

theorem yields_connection :
    v.Yields v.Has foreseen (Connection.liftRoutine (Routine.look Site.connection)) :=
  yields_look fun _ hs => hs.1.connection

/-- The address of a file cannot be written if its name has no bytes. -/
theorem exists_unencodable {e : Environment} {mode path : Text} {fault : Fault}
    (h : Uri.ofPath e mode path = .error fault) : ∃ run, fault = .unencodable run := by
  unfold Uri.ofPath at h
  split at h
  · exact ⟨_, (Except.error.inj h).symm⟩
  · exact absurd h (by simp)

/-- A file that is locked or no database is refused with the code of the engine. -/
theorem isCoded_of_readDatabase {w : World} {number : Nat} {e : StoreError}
    (h : w.readDatabase number = .error e) : e.IsCoded := by
  simp only [World.readDatabase, World.mayRead, Disk.database, bind, Except.bind] at h
  split at h
  · next hlocked =>
    split at hlocked
    · obtain rfl := Except.error.inj hlocked
      obtain rfl := Except.error.inj h
      exact .inr (.inr ⟨_, rfl⟩)
    · exact absurd hlocked (by simp)
  · split at h
    · exact absurd h (by simp)
    · exact absurd h (by simp)
    · obtain rfl := Except.error.inj h
      exact .inr (.inr ⟨_, rfl⟩)

theorem ensures_connectFile (path : Text) (w : World) :
    (Site.connectFile path w).1.Ensures Handle.IsReal (fun fault =>
      Uri.ofPath w.environment "ro" path = .error fault ∨ ∃ e, fault = .store e ∧ e.IsCoded) := by
  unfold Site.connectFile
  split
  · next fault hfault => exact .inl hfault
  · split
    · exact .inr ⟨_, rfl, .inr (.inr ⟨_, rfl⟩)⟩
    · exact .inr ⟨_, rfl, .inr (.inr ⟨_, rfl⟩)⟩
    · next number _ =>
      dsimp only
      split
      · exact fun t => nofun
      · next e he => exact .inr ⟨e, rfl, isCoded_of_readDatabase he⟩

theorem connectFile_environment (path : Text) (w : World) :
    (Site.connectFile path w).2.environment = w.environment := by
  rcases Site.connectFile_eq path w with ⟨_, h⟩ | ⟨_, h⟩ | ⟨_, _, h⟩ <;> rw [h] <;> rfl

theorem yields_log (e : Event) :
    v.Yields (fun _ => True) foreseen (Connection.liftRoutine (Connection.log e)) :=
  yields_update fun _ hs => hs.1.mapWorld rfl

theorem Yields.locked {task : Task α} (h : v.Yields good foreseen task) :
    v.Yields good foreseen (Connection.locked task) := by
  have hbody : (task.run.bind fun outcome => Connection.leave.bind fun _ =>
      Routine.finish outcome).Yields v.Finds v.Serves (Outcome.Ensures good foreseen) :=
    Routine.Yields.bind (Routine.Yields.mono h fun outcome houtcome =>
      fun s hs => ⟨hs.1.withLock _, houtcome⟩)
  exact fun s hs => ⟨hs.1.withLock _, hbody⟩

/-! ### Opening and closing -/

theorem yields_release : Connection.release.Yields v.Finds v.Serves fun _ => True := by
  refine Routine.Yields.bind (Routine.yields_step fun s hs => ⟨hs.1.detach, ?_⟩)
  cases s.detach.1 with
  | none => exact trivial
  | some handle =>
    exact Routine.Yields.bind (Routine.yields_update fun _ hs => hs.1.closeHandle handle)

/-- The failures to open that have nothing to do with the file: its address cannot be written, or
a pause is too long to be waited for. -/
def Breaks (v : Service) (fault : Fault) : Prop :=
  Uri.ofPath v.environment "ro" v.path = .error fault ∨
    (fault = Fault.integerTooLargeForReal ∧
      ∃ retry, Binary64.ofInt? (v.policy.delay retry) = none)

def Unopened (v : Service) (fault : Fault) : Prop :=
  (∃ given last, fault = .unavailable v.path given last) ∨
    (∃ e, fault = .openFailed v.path e) ∨ v.Breaks fault

theorem yields_pause (n : Nat) :
    v.Yields (fun _ => True) v.Unopened (Connection.pause v.policy n) := by
  unfold Connection.pause
  split
  · next hnone => exact yields_ofOutcome (.inr (.inr (.inr ⟨rfl, _, hnone⟩)))
  · exact (yields_update fun s hs => hs.1.mapWorld rfl).andThen fun _ => yields_waitFor _

theorem yields_attempts (last : Option StoreError) (n left : Nat) :
    v.Yields (fun _ => True) v.Unopened (Connection.attempts v.path v.policy last n left) := by
  induction left generalizing last n with
  | zero =>
    exact (yields_log _).andThen fun _ => yields_ofOutcome (.inl ⟨_, _, rfl⟩)
  | succ left ih =>
    refine (yields_lift yields_release).andThen fun _ => ?_
    have hnext : v.Yields (· = .real) v.Unopened
        (Connection.liftRoutine (Routine.step Site.nextAttempt)) :=
      yields_step fun s hs => hs.1.nextAttempt.symm
    refine hnext.bind ?_
    rintro _ rfl
    refine (yields_waitFor _).andThen fun _ => ?_
    have hconnect : v.Yields (Outcome.Ensures Handle.IsReal fun fault =>
        Uri.ofPath v.environment "ro" v.path = .error fault ∨ ∃ e, fault = .store e ∧ e.IsCoded)
        v.Unopened (Connection.liftRoutine (Routine.step (Site.connect .real))) := by
      refine yields_step fun s hs => ⟨?_, ?_⟩
      · exact hs.1.mapWorld (f := fun w => (Site.connectFile s.connection.path w).2)
          (connectFile_environment _ _)
      · rw [← hs.1.connection.path, ← hs.1.environment]
        exact ensures_connectFile _ _
    refine hconnect.bind fun outcome houtcome => ?_
    rcases outcome with fault | handle
    · rcases houtcome with haddress | ⟨e, rfl, hcoded⟩
      · obtain ⟨run, rfl⟩ := exists_unencodable haddress
        exact yields_ofOutcome (.inr (.inr (.inl haddress)))
      · obtain ⟨busy, hbusy, -⟩ := StoreError.exists_isTransient hcoded
        refine (yields_ok hbusy).bind fun busy _ => ?_
        split
        · refine (yields_log _).andThen fun _ => ?_
          split
          · exact (yields_pause n).andThen fun _ => ih _ _
          · exact ih _ _
        · exact (yields_log _).andThen fun _ => yields_ofOutcome (.inr (.inl ⟨e, rfl⟩))
    · exact (yields_update fun s hs => hs.1.attach houtcome).andThen fun _ => yields_log _

/-- Opening fails as attempts do, or because the connection is destroyed. -/
theorem yields_establish (hrounds : ∃ n, v.policy.rounds = .ok n) :
    v.Yields (fun _ => True)
      (fun fault => v.Unopened fault ∨ v.ends = true ∧ fault = .destroyed v.path)
      Connection.establish := by
  refine Yields.locked ?_
  refine yields_connection.bind fun c hc => ?_
  rw [hc.path, hc.policy]
  split
  · next hd => exact yields_ofOutcome (.inr ⟨hc.destroyed hd, rfl⟩)
  · split
    · exact yields_ofOutcome trivial
    · obtain ⟨n, hn⟩ := hrounds
      refine (yields_ok hn).bind fun n _ => ?_
      exact (yields_attempts none 1 n).mono (fun _ h => h) fun _ h => .inl h

theorem yields_close : v.Yields (fun _ => True) foreseen Connection.close :=
  Yields.locked (yields_lift yields_release)

theorem yields_destroy (h : v.ends = true) :
    v.Yields (fun _ => True) foreseen Connection.destroy := by
  refine Yields.locked ((yields_lift yields_release).andThen fun _ => ?_)
  exact yields_update fun s hs => hs.1.destroy h

/-! ### Queries -/

/-- A use of the handle fails as it does itself, or because there is no handle. -/
theorem Yields.withHandle {use : Handle → Task α}
    (h : ∀ handle : Handle, handle.IsReal → v.Yields good foreseen (use handle)) :
    v.Yields good (fun fault => foreseen fault ∨ fault = .notConnected v.path)
      (Connection.withHandle use) := by
  refine Yields.locked (yields_connection.bind fun c hc => ?_)
  rw [hc.path]
  split
  · next handle _ hhandle =>
    exact (h handle (hc.handle handle hhandle)).mono (fun _ h => h) fun _ h => .inl h
  · exact yields_ofOutcome (.inr rfl)

/-- A statement on a handle fails as it does on a file, or as the engine does. -/
theorem yields_onHandle {handle : Handle} {inquiry : Inquiry} {query : Nat → World → Outcome α}
    {standIn : StandIn → Past → Inquiry → Outcome α} (hreal : handle.IsReal)
    (hquery : ∀ number w, (query number w).Ensures good foreseen)
    (hstore : ∀ e, foreseen (.store e)) :
    v.Yields good foreseen (Connection.onHandle handle inquiry query standIn) := by
  refine (yields_waitFor _).andThen fun _ => Routine.yields_step fun s hs => ?_
  refine ⟨hs.1.mapWorld rfl, ?_⟩
  rw [Handle.answer]
  split
  · exact hquery _ _
  · exact hstore _
  · next t ht => exact absurd ht (hreal t)

/-! ### Statements -/

section

variable {π : Type} {st : Statement π}

theorem ensures_ofStore (x : Except StoreError α) (hstore : ∀ e, foreseen (.store e)) :
    (Outcome.ofStore x).Ensures (fun a => x = .ok a) foreseen := by
  cases x with
  | ok a => exact rfl
  | error e => exact hstore e

theorem ensures_prepare (db : Except StoreError Database)
    (hbind : st.bind.Ensures (fun _ => True) foreseen) (hstore : ∀ e, foreseen (.store e)) :
    (st.prepare db).Ensures (fun _ => True) foreseen := by
  refine (ensures_ofStore db hstore).bind fun db _ => ?_
  refine (ensures_ofStore _ hstore).bind fun _ _ => ?_
  exact hbind.bind fun _ _ => trivial

theorem ensures_query {run : Database → π → Except StoreError α} (file : Nat) (w : World)
    (hbind : st.bind.Ensures (fun _ => True) foreseen) (hstore : ∀ e, foreseen (.store e))
    (hgood : ∀ db parameters a, run db parameters = .ok a → good a) :
    (st.query run file w).Ensures good foreseen := by
  refine (ensures_prepare _ hbind hstore).bind fun r _ => ?_
  refine (ensures_ofStore _ hstore).bind fun _ _ => ?_
  exact (ensures_ofStore _ hstore).mono (hgood r.1 r.2) fun _ h => h

theorem ensures_queryFresh {run : Database → π → Except StoreError α} (file : Nat) (w : World)
    (hbind : st.bind.Ensures (fun _ => True) foreseen) (hstore : ∀ e, foreseen (.store e)) :
    (st.queryFresh run file w).Ensures (fun _ => True) foreseen := by
  refine (ensures_prepare _ hbind hstore).bind fun r _ => ?_
  exact (ensures_ofStore _ hstore).mono (fun _ _ => trivial) fun _ h => h

theorem ensures_change {run : Database → π → Except StoreError (Nat × Tables)} (file : Nat)
    (w : World) (hbind : st.bind.Ensures (fun _ => True) foreseen)
    (hstore : ∀ e, foreseen (.store e)) :
    (st.change run file w).1.Ensures (fun _ => True) foreseen := by
  unfold Statement.change
  dsimp only
  split
  · next fault heq =>
    have hfault : Outcome.Ensures (fun _ => True) foreseen
        (.error fault : Outcome (Nat × Database)) := by
      rw [← heq]
      refine (ensures_prepare _ hbind hstore).bind fun r _ => ?_
      refine (ensures_ofStore _ hstore).bind fun _ _ => ?_
      refine (ensures_ofStore _ hstore).bind fun _ _ => ?_
      exact (ensures_ofStore _ hstore).bind fun _ _ => trivial
    exact hfault
  · exact trivial

theorem change_environment {run : Database → π → Except StoreError (Nat × Tables)} (file : Nat)
    (w : World) : (st.change run file w).2.environment = w.environment := by
  unfold Statement.change
  dsimp only
  split <;> rfl

theorem ensures_bind_text (position : Nat) (t : Text) :
    (Cell.bind position (.text t)).Ensures (fun _ => True) fun fault =>
      Connection.isLostLaunch fault = true ∨
        fault = Fault.tooLongForStore "string" ∧ 2147483647 < Text.Utf8.size t := by
  unfold Cell.bind
  dsimp only
  split
  · exact .inl rfl
  · unfold Cell.checkSize
    split
    · next hlong => exact .inr ⟨rfl, hlong⟩
    · split
      · exact .inl rfl
      · exact trivial

theorem ensures_bind_int (position : Nat) (i : Int) :
    (Cell.bind position (.int i)).Ensures (fun _ => True) fun fault =>
      fault = Fault.integerTooLargeForStore ∧ Numeral.fits i = false := by
  unfold Cell.bind
  dsimp only
  split
  · exact trivial
  · next hfits => exact ⟨rfl, Bool.eq_false_iff.mpr hfits⟩

end

/-! ### Rows -/

/-- The failure of a stored count that is no integer. -/
def IsUncounted (fault : Fault) : Prop := ∃ count : Cell, count.toValue.toInteger = .error fault

theorem ensures_readCount {row : Row} {count : Cell}
    (hcount : Value.lookup row "launch_count" = some count.toValue) :
    (Record.readCount row).Ensures (fun _ => True) IsUncounted := by
  unfold Record.readCount
  rw [hcount]
  dsimp only
  split
  · exact trivial
  · cases hread : count.toValue.toInteger with
    | ok n => exact trivial
    | error fault => exact ⟨count, hread⟩

theorem ensures_ofRow_hit (h : Tables.Hit) :
    (Record.ofRow h.toRow).Ensures (fun _ => True) IsUncounted := by
  have hcount : (Record.readCount h.toRow).Ensures (fun _ => True) IsUncounted :=
    ensures_readCount rfl
  exact hcount.bind fun _ _ => trivial

theorem ensures_ofRow_launched (l : Tables.Launched) :
    (Record.ofRow l.toRow).Ensures (fun _ => True) IsUncounted := by
  have hcount : (Record.readCount l.toRow).Ensures (fun _ => True) IsUncounted :=
    ensures_readCount rfl
  exact hcount.bind fun _ _ => trivial

/-! ### Queries -/

/-- What loses a launch empties a search. -/
theorem isStatementFailure_of_isLostLaunch {fault : Fault}
    (h : Connection.isLostLaunch fault = true) : fault.isStatementFailure = true := by
  cases fault with
  | store e => rfl
  | unencodable run => rfl
  | _ => exact absurd h (by simp [Connection.isLostLaunch])

/-- The parameters of a search are refused in ways that empty it. -/
theorem ensures_bind_searchStatement (p : SearchParameters) :
    (Connection.searchStatement p).bind.Ensures (fun _ => True)
      fun fault => fault.isStatementFailure = true := by
  have htext (position : Nat) (t : Text) : (Cell.bind position (.text t)).Ensures
      (fun _ => True) fun fault => fault.isStatementFailure = true :=
    (ensures_bind_text position t).mono (fun _ h => h) fun _ h =>
      h.elim isStatementFailure_of_isLostLaunch fun h => h.1 ▸ rfl
  refine (htext 1 p.exact).bind fun _ _ => (htext 2 p.starts).bind fun _ _ =>
    (htext 3 p.holds).bind fun _ _ => ?_
  refine ((ensures_bind_int 4 p.limit).mono (fun _ h => h) ?_).bind fun _ _ => trivial
  rintro fault ⟨rfl, -⟩
  rfl

/-- A search fails only if there is no open handle, or if a row that it finds has a count that is
no integer. -/
theorem yields_search (query : Value) {maxResults : Value} {limit : Int}
    (hlimit : Limit.effective maxResults = .ok limit) :
    v.Yields (fun _ => True) (fun fault => fault = .notConnected v.path ∨ IsUncounted fault)
      (Connection.search query maxResults) := by
  refine yields_connection.bind fun c hc => ?_
  rw [hc.path]
  split
  · exact yields_ofOutcome (.inl rfl)
  · split
    · exact yields_ofOutcome trivial
    · refine (yields_ok (by rw [Connection.searchParameters, hlimit]; rfl)).bind fun p _ => ?_
      have hrows : v.Yields
          (fun rows : List Row => ∃ hits : List Tables.Hit, rows = hits.map Tables.Hit.toRow)
          (fun fault => fault.isStatementFailure = true ∨ fault = .notConnected v.path)
          (Connection.withHandle fun h =>
            Connection.onHandle h (.search p) (Connection.searchRows p) StandIn.rows) := by
        refine Yields.withHandle fun handle hreal => yields_onHandle hreal (fun number w => ?_)
          fun _ => rfl
        refine ensures_query number w ?_ (fun _ => rfl) fun db parameters rows hrun => ?_
        · exact ensures_bind_searchStatement p
        · cases hhits : db.search parameters with
          | error e =>
            rw [hhits] at hrun
            cases hrun
          | ok hits =>
            rw [hhits] at hrun
            exact ⟨hits, Tables.of_mapM_fetch_eq_ok hrun⟩
      refine hrows.attempt.bind fun outcome houtcome => ?_
      rcases outcome with fault | rows
      · dsimp only
        split
        · exact (yields_log _).andThen fun _ => yields_ofOutcome trivial
        · next hfailure => exact yields_ofOutcome (.inl (houtcome.resolve_left hfailure))
      · obtain ⟨hits, rfl⟩ := houtcome
        refine yields_ofOutcome (Outcome.Ensures.mono (Outcome.ensures_mapM fun row hrow => ?_)
          (fun _ h => h) fun _ h => .inr h)
        obtain ⟨hit, -, rfl⟩ := List.mem_map.mp hrow
        exact ensures_ofRow_hit hit

/-- The list of the most launched files fails as its statement does, too. -/
theorem yields_mostUsed (limit : Int) :
    v.Yields (fun _ => True) (fun fault => fault = .notConnected v.path ∨ IsUncounted fault ∨
      (∃ e, fault = .store e) ∨
      fault = Fault.integerTooLargeForStore ∧ Limit.greatest < limit)
      (Connection.mostUsed (.int limit)) := by
  have hrows : v.Yields
      (fun rows : List Row =>
        ∃ found : List Tables.Launched, rows = found.map Tables.Launched.toRow)
      (fun fault => ((∃ e, fault = .store e) ∨
        fault = Fault.integerTooLargeForStore ∧ Limit.greatest < limit) ∨
        fault = .notConnected v.path)
      (Connection.withHandle fun h => do
        let n ← ExceptT.mk (pure (Value.int limit).toInteger)
        Connection.onHandle h (.mostUsed (max 1 n)) (Connection.mostUsedRows (max 1 n))
          StandIn.rows) := by
    refine Yields.withHandle fun handle hreal => (yields_ok rfl).bind fun n hn => ?_
    rw [hn]
    refine yields_onHandle hreal (fun number w => ?_) fun e => .inl ⟨e, rfl⟩
    refine ensures_query number w ?_ (fun e => .inl ⟨e, rfl⟩) fun db parameters rows hrun =>
      ⟨_, Tables.of_mapM_fetch_eq_ok hrun⟩
    refine ((ensures_bind_int 1 (max 1 limit)).mono (fun _ h => h) ?_).bind fun _ _ => trivial
    rintro fault ⟨rfl, hfits⟩
    exact .inr ⟨rfl, Limit.greatest_lt_of_not_fits hfits⟩
  refine Yields.bind (hrows.mono (fun _ h => h) fun fault h => ?_) ?_
  · rcases h with (h | h) | h
    · exact .inr (.inr (.inl h))
    · exact .inr (.inr (.inr h))
    · exact .inl h
  · rintro _ ⟨found, rfl⟩
    refine yields_ofOutcome (Outcome.Ensures.mono (Outcome.ensures_mapM fun row hrow => ?_)
      (fun _ h => h) fun _ h => .inr (.inl h))
    obtain ⟨l, -, rfl⟩ := List.mem_map.mp hrow
    exact ensures_ofRow_launched l

/-! ### Launches -/

theorem yields_lookOutcome {f : Site → Outcome α}
    (h : ∀ s, v.Finds s → (f s).Ensures good foreseen) :
    v.Yields good foreseen (ExceptT.mk (Routine.look f)) := fun s hs => ⟨hs.1, h s hs⟩

theorem yields_stepOutcome {f : Site → Outcome α × Site}
    (h : ∀ s, v.Finds s → v.Serves (f s).2 ∧ (f s).1.Ensures good foreseen) :
    v.Yields good foreseen (ExceptT.mk (Routine.step f)) := h

/-- A writer finds its file, but for failures that are logged and an empty path. -/
theorem ensures_target (database : Text) (w : World) :
    (Writer.target (.text database) w).Ensures (fun _ => True) fun fault =>
      Connection.isLostLaunch fault = true ∨ database = [] ∧ fault = .emptyDatabasePath := by
  unfold Writer.target
  split
  · next hempty => exact .inr ⟨List.isEmpty_iff.mp hempty, rfl⟩
  · split
    · next fault hfault =>
      obtain ⟨run, rfl⟩ := exists_unencodable hfault
      exact .inl rfl
    · split
      · exact trivial
      · exact .inl rfl

/-- Looking up a file fails in ways that are logged, or because its path is too long. -/
theorem ensures_fileId (path : Text) (file : Nat) (w : World) :
    (Connection.fileId path file w).Ensures (fun _ => True) fun fault =>
      Connection.isLostLaunch fault = true ∨
        fault = Fault.tooLongForStore "string" ∧ 2147483647 < Text.Utf8.size path := by
  rw [Connection.fileId]
  exact ensures_queryFresh file w ((ensures_bind_text 1 path).bind fun _ _ => trivial)
    fun _ => .inl rfl

/-- Counting a launch fails in ways that are logged, or because its time has too many bits. -/
theorem ensures_countLaunch (id time : Int) (file : Nat) (w : World) :
    (Connection.countLaunch id time file w).1.Ensures (fun _ => True) fun fault =>
      Connection.isLostLaunch fault = true ∨
        fault = Fault.integerTooLargeForStore ∧ Numeral.fits time = false := by
  rw [Connection.countLaunch]
  exact ensures_change file w (Outcome.Ensures.bind
    ((ensures_bind_int 2 time).mono (fun _ h => h) fun _ h => .inr h) fun _ _ => trivial)
    fun _ => .inl rfl

/-- The failures of writing a launch: those that are lost, a path that is too long, and an empty
path of the index. -/
def Unwritten (database path : Text) (fault : Fault) : Prop :=
  Connection.isLostLaunch fault = true ∨
    fault = Fault.tooLongForStore "string" ∧ 2147483647 < Text.Utf8.size path ∨
      database = [] ∧ fault = .emptyDatabasePath

theorem yields_writeLaunch (database path : Text) {time : Int}
    (htime : Numeral.fits time = true) :
    v.Yields (fun _ => True) (Unwritten database path)
      (Connection.writeLaunch database path time) := by
  have htarget (w : World) : (Writer.target (.text database) w).Ensures (fun _ => True)
      (Unwritten database path) :=
    (ensures_target database w).mono (fun _ h => h) fun _ h => h.imp id .inr
  have hid (file : Nat) (w : World) :
      (Connection.fileId path file w).Ensures (fun _ => True) (Unwritten database path) :=
    (ensures_fileId path file w).mono (fun _ h => h) fun _ h => h.imp id .inl
  have hcount (id : Int) (file : Nat) (w : World) :
      (Connection.countLaunch id time file w).1.Ensures (fun _ => True)
        (Unwritten database path) := by
    refine (ensures_countLaunch id time file w).mono (fun _ h => h) ?_
    rintro fault (hlost | ⟨-, hfits⟩)
    · exact .inl hlost
    · exact absurd htime (by simp [hfits])
  refine (yields_waitFor _).andThen fun _ => ?_
  refine (yields_lookOutcome fun s _ => htarget s.world).andThen fun file => ?_
  refine (yields_waitFor _).andThen fun _ => ?_
  refine (yields_lookOutcome fun s _ => hid file s.world).andThen fun id => ?_
  cases id with
  | none => exact (yields_log _).andThen fun _ => yields_ofOutcome trivial
  | some id =>
    refine (yields_waitFor _).andThen fun _ => ?_
    refine (yields_stepOutcome fun s hs => ⟨?_, hcount id file s.world⟩).andThen fun _ =>
      yields_ofOutcome trivial
    exact hs.1.mapWorld (f := fun w => (Connection.countLaunch id time file w).2)
      (change_environment _ _)

theorem yields_launchTime :
    v.Yields (fun time => Numeral.fits time = true) foreseen (Connection.launchTime .null) := by
  refine yields_stepOutcome fun s hs => ⟨hs.1.mapWorld (f := fun w => w.readClock.2) rfl, ?_⟩
  have htime := hs.2
  unfold World.tellsTime at htime
  simp only [Site.onWorld, World.readClock]
  cases hseconds : s.world.clock.seconds with
  | error fault => simp [hseconds] at htime
  | ok n =>
    rw [hseconds] at htime
    exact htime

/-- The failures of recording a launch: the connection is destroyed, or a path is missing or too
long. -/
def Unrecorded (v : Service) (filePath : Value) (fault : Fault) : Prop :=
  v.ends = true ∧ fault = .destroyed v.path ∨ filePath.isEmpty = true ∧ fault = .emptyFilePath ∨
    fault = Fault.tooLongForStore "string" ∧ 2147483647 < Text.Utf8.size filePath.display ∨
      v.path = [] ∧ fault = .emptyDatabasePath

theorem yields_recordLaunch (filePath : Value) :
    v.Yields (fun _ => True) (v.Unrecorded filePath) (Connection.recordLaunch filePath .null) := by
  refine yields_connection.bind fun c hc => ?_
  have hpath : (c.requirePath filePath).Ensures (fun path => path = filePath.display)
      (v.Unrecorded filePath) := by
    unfold Connection.requirePath
    rw [hc.path]
    split
    · next hd => exact .inl ⟨hc.destroyed hd, rfl⟩
    · split
      · next hempty => exact .inr (.inl ⟨hempty, rfl⟩)
      · exact rfl
  refine (yields_ofOutcome hpath).bind fun path hpath => yields_launchTime.bind fun time htime => ?_
  subst hpath
  rw [hc.path]
  refine (yields_writeLaunch v.path _ htime).attempt.bind fun outcome houtcome => ?_
  rcases outcome with fault | recorded
  · dsimp only
    split
    · exact (yields_log _).andThen fun _ => yields_ofOutcome trivial
    · next hlost => exact yields_ofOutcome (.inr (.inr (houtcome.resolve_left hlost)))
  · exact yields_ofOutcome trivial

end Service

end LaunchIndex
