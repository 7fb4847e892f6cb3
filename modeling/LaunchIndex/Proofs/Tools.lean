import LaunchIndex.Panel
import LaunchIndex.Proofs.Failures
import LaunchIndex.Proofs.Lifecycle

/-! What the tools of a panel answer, in any state that its requests lead to and whatever happens to
the file of the index meanwhile. Recording a launch and the status always answer. A search and the
list of the most launched files turn most failures into messages; those that they do not are few and
known, and after a shutdown both fail. -/

namespace LaunchIndex

open Store

namespace Panel

/-- What a panel is asked for. What else closes the index may do so at any time, and a shutdown may
be asked for again, but the first one counts. -/
inductive Request where
  | search (query : Text) (maxResults : Int)
  | record (filePath : Text)
  | mostUsed (limit : Int)
  | status
  | close
  | shutdown (reason : Text) (cleanup : Cleanup)

namespace Request

/-- A tool at work on the index; what it answers, if it does, is of no interest here. -/
def served {α : Type} (tool : Task α) : Routine State (Outcome Unit) :=
  State.onSite (tool >>= fun _ => return ()).run

def routine (p : Panel) : Request → Routine State (Outcome Unit)
  | search query maxResults => served (p.searchFiles (.text query) (.int maxResults))
  | record filePath => served (recordLaunch (.text filePath))
  | mostUsed limit => served (Panel.mostUsed (.int limit))
  | status => served (Connection.liftRoutine (Routine.look fun s => p.status s.connection))
  | close => served Connection.close
  | shutdown reason cleanup => do
    Panel.shutdown reason cleanup
    return .ok ()

/-- The requests of a panel. From outside everything may change but the connection, the environment
and whether the panel is shut down. A shutdown is asked for only if the panel `ends`. -/
def setting (p : Panel) (ends : Bool) : Setting State Request (Outcome Unit) where
  task request := request.routine p
  allowed request _ := ∀ reason cleanup, request = .shutdown reason cleanup → ends = true
  outside s s' :=
    s'.site.connection = s.site.connection ∧
      s'.site.world.environment = s.site.world.environment ∧ s'.stopping = s.stopping

end Request

end Panel

namespace Service

variable {v : Service}

/-- The failures to open the index for which there is no message. -/
def Unopenable (v : Service) (fault : Fault) : Prop :=
  v.ends = true ∧ fault = .destroyed v.path ∨ v.Breaks fault

/-- The failures of a request that reach who asked. -/
def Unanswered (v : Service) : Panel.Request → Fault → Prop
  | .search _ _, fault => v.Unopenable fault ∨ IsUncounted fault
  | .record filePath, fault =>
    fault = Fault.tooLongForStore "string" ∧ 2147483647 < Text.Utf8.size filePath
  | .mostUsed limit, fault =>
    v.Unopenable fault ∨ IsUncounted fault ∨ (∃ e, fault = .store e) ∨
      fault = Fault.integerTooLargeForStore ∧ Limit.greatest < limit
  | _, _ => False

/-- An index that is busy or cannot be opened has a message. -/
theorem yields_ensureOpen (hrounds : ∃ n, v.policy.rounds = .ok n) :
    v.Yields (fun _ => True) v.Unopenable Panel.ensureOpen := by
  refine yields_connection.bind fun c hc => ?_
  split
  · exact yields_ofOutcome trivial
  · refine (yields_establish hrounds).attempt.bind fun outcome houtcome => ?_
    rcases outcome with fault | -
    · rcases houtcome with (⟨given, last, rfl⟩ | ⟨e, rfl⟩ | hbreaks) | hdestroyed
      · exact yields_ofOutcome trivial
      · exact yields_ofOutcome trivial
      · dsimp only
        split
        · exact yields_ofOutcome trivial
        · exact yields_ofOutcome (.inr hbreaks)
      · dsimp only
        split
        · exact yields_ofOutcome trivial
        · exact yields_ofOutcome (.inl hdestroyed)
    · exact yields_ofOutcome trivial

/-- A listing has a message for a connection that was closed before its query. -/
theorem yields_listing {query : Task (List Record)} {found : Routine Site Unit}
    {foreseen : Fault → Prop} (hrounds : ∃ n, v.policy.rounds = .ok n)
    (hquery : v.Yields (fun _ => True)
      (fun fault => fault = .notConnected v.path ∨ foreseen fault) query)
    (hfound : found.Yields v.Finds v.Serves fun _ => True) :
    v.Yields (fun _ => True) (fun fault => v.Unopenable fault ∨ foreseen fault)
      (Panel.listing query found) := by
  refine ((yields_ensureOpen hrounds).mono (fun _ h => h) fun _ h => .inl h).andThen
    fun message => ?_
  cases message with
  | some message => exact yields_ofOutcome trivial
  | none =>
    refine hquery.attempt.bind fun outcome houtcome => ?_
    rcases outcome with fault | records
    · dsimp only
      split
      · exact yields_ofOutcome trivial
      · next hindex =>
        rcases houtcome with rfl | hforeseen
        · exact absurd rfl hindex
        · exact yields_ofOutcome (.inr hforeseen)
    · exact (yields_lift hfound).andThen fun _ => yields_ofOutcome trivial

theorem yields_searchFiles (p : Panel) (hrounds : ∃ n, v.policy.rounds = .ok n) (query : Text)
    (maxResults : Int) :
    v.Yields (fun _ => True) (fun fault => v.Unopenable fault ∨ IsUncounted fault)
      (p.searchFiles (.text query) (.int maxResults)) := by
  have hlimit : ∃ n, p.limit (.int maxResults) = .ok (.int n) := by
    simp only [Panel.limit, Value.isPositive, Except.map]
    split
    · exact ⟨_, rfl⟩
    · exact ⟨_, rfl⟩
  obtain ⟨n, hn⟩ := hlimit
  unfold Panel.searchFiles
  refine yields_listing hrounds ((yields_ok hn).bind fun limit hlimit => ?_)
    (Routine.yields_update fun _ hs => hs.1.mapWorld rfl)
  rw [hlimit]
  exact yields_search (.text query) rfl

/-- A cleanup fails for want of time only. -/
theorem yields_destroyInTime (hends : v.ends = true) (cleanup : Panel.Cleanup) :
    v.Yields (fun _ => True) (· = Fault.timedOut) (Panel.destroyInTime cleanup) := by
  have htimedOut : v.Yields (fun _ => True) (· = Fault.timedOut) (do
      Connection.liftRoutine (Routine.waitFor .pause)
      throw Fault.timedOut : Task Unit) :=
    (yields_waitFor _).andThen fun _ => yields_ofOutcome rfl
  cases cleanup with
  | done => exact yields_destroy hends
  | stuckInLine =>
    refine yields_connection.bind fun c _ => ?_
    split
    · exact yields_destroy hends
    · exact htimedOut
  | stuckClosing =>
    have hdetach : v.Yields (fun _ => True) (· = Fault.timedOut)
        (Connection.liftRoutine (Routine.step Site.detach)) :=
      yields_step fun s hs => ⟨hs.1.detach, trivial⟩
    refine Yields.locked (hdetach.andThen fun handle => ?_)
    cases handle with
    | none => exact yields_update fun s hs => hs.1.destroy hends
    | some handle =>
      exact (yields_update fun s hs => hs.1.mapWorld rfl).andThen fun _ => htimedOut

theorem yields_cleanUp (hends : v.ends = true) (reason : Text) (cleanup : Panel.Cleanup) :
    (Panel.cleanUp reason cleanup).Yields v.Finds v.Serves fun _ => True := by
  have hlog (e : Event) : (Connection.log e).Yields v.Finds v.Serves fun _ => True :=
    Routine.yields_update fun s hs => hs.1.mapWorld rfl
  refine Routine.Yields.bind (Routine.Yields.mono (hlog _) fun _ _ => Routine.Yields.bind ?_)
  refine Routine.Yields.bind (Routine.Yields.mono (yields_destroyInTime hends cleanup) ?_)
  rintro (fault | _) _
  · exact hlog _
  · exact trivial

/-- Recording a launch has no message for a path that is too long. -/
theorem yields_panelRecordLaunch (filePath : Text) :
    v.Yields (fun _ => True) (v.Unanswered (.record filePath))
      (Panel.recordLaunch (.text filePath)) := by
  refine (yields_recordLaunch (.text filePath)).attempt.bind fun outcome houtcome => ?_
  rcases outcome with fault | recorded
  · dsimp only
    split
    · exact yields_ofOutcome trivial
    · next hindex =>
      rcases houtcome with ⟨-, rfl⟩ | ⟨-, rfl⟩ | hlong | ⟨-, rfl⟩
      · exact absurd rfl hindex
      · exact absurd rfl hindex
      · exact yields_ofOutcome hlong
      · exact absurd rfl hindex
  · exact yields_ofOutcome trivial

theorem yields_onSite {α : Type} {post : α → Prop} {r : Routine Site α}
    (h : r.Yields v.Finds v.Serves post) : (Panel.State.onSite r).Yields
      (fun s => v.Finds s.site) (fun s => v.Serves s.site) post :=
  h.zoom fun _ _ => rfl

theorem yields_served {α : Type} {foreseen : Fault → Prop} {tool : Task α}
    (h : v.Yields (fun _ => True) foreseen tool) : (Panel.Request.served tool).Yields
      (fun s => v.Finds s.site) (fun s => v.Serves s.site)
      (Outcome.Ensures (fun _ => True) foreseen) :=
  yields_onSite (h.andThen fun _ => yields_ofOutcome trivial)

/-- A second shutdown does nothing. -/
theorem yields_shutdown (hends : v.ends = true) (reason : Text) (cleanup : Panel.Cleanup) :
    (Panel.shutdown reason cleanup).Yields (fun s => v.Finds s.site) (fun s => v.Serves s.site)
      fun _ => True := by
  refine Routine.Yields.bind fun s hs => ⟨hs.1, ?_⟩
  change Routine.Yields _ _ _ (if s.stopping = true then pure () else _)
  split
  · exact trivial
  · exact yields_onSite (yields_cleanUp hends reason cleanup)

/-- Every request yields an answer, or a failure that is foreseen for it. -/
theorem yields_request (p : Panel) (hrounds : ∃ n, v.policy.rounds = .ok n)
    {request : Panel.Request} {s : Panel.State}
    (hallowed : (Panel.Request.setting p v.ends).allowed request s) :
    (request.routine p).Yields (fun s => v.Finds s.site) (fun s => v.Serves s.site)
      (Outcome.Ensures (fun _ => True) (v.Unanswered request)) := by
  cases request with
  | search query maxResults => exact yields_served (yields_searchFiles p hrounds query maxResults)
  | record filePath => exact yields_served (yields_panelRecordLaunch filePath)
  | mostUsed limit => exact yields_served (yields_listing hrounds (yields_mostUsed limit) trivial)
  | status => exact yields_served (yields_look fun _ _ => trivial)
  | close => exact yields_served yields_close
  | shutdown reason cleanup =>
    exact Routine.Yields.bind (Routine.Yields.mono
      (yields_shutdown (hallowed reason cleanup rfl) reason cleanup) fun _ _ => trivial)

theorem has_of_create {path timeout : Value} {policy : Policy} {c : Connection}
    (h : Connection.create path policy timeout none = .ok c) (e : Environment) (ends : Bool) :
    (⟨c.path, c.policy, e, ends⟩ : Service).Has c ∧ c.policy = policy := by
  obtain ⟨-, seconds, rfl⟩ := Connection.eq_of_create h
  exact ⟨⟨rfl, rfl, rfl, by simp, by simp⟩, rfl⟩

end Service

namespace Panel

/-- A panel starts with a closed connection that tries files only, and the attempts of its policy
can be counted. -/
theorem start_serves {w w' : World} {p : Panel} {c : Connection}
    (h : start none w = (.ok (p, c), w')) (ends : Bool) :
    (⟨c.path, c.policy, w'.environment, ends⟩ : Service).Serves ⟨c, w'⟩ ∧
      ∃ n, c.policy.rounds = .ok n := by
  unfold start at h
  split at h
  · exact absurd (Prod.mk.inj h).1 nofun
  · next settings w₁ _ =>
    dsimp only at h
    split at h
    · exact absurd (Prod.mk.inj h).1 nofun
    · next connection hconnection =>
      obtain rfl : connection = c := by
        split at h
        · exact absurd (Prod.mk.inj h).1 nofun
        · split at h
          · exact absurd (Prod.mk.inj h).1 nofun
          · exact (Prod.mk.inj (Except.ok.inj (Prod.mk.inj h).1)).2
      obtain ⟨policy, hpolicy, hcreate⟩ := Outcome.of_bind_eq_ok hconnection
      obtain ⟨hgiven, -⟩ := Policy.of_int hpolicy
      have hrounds : policy.rounds = .ok policy.attempts.toNat := by rw [Policy.rounds, hgiven]
      obtain ⟨hhas, hsame⟩ := Service.has_of_create hcreate w'.environment ends
      exact ⟨⟨hhas, rfl⟩, policy.attempts.toNat, hsame ▸ hrounds⟩

/-- A destroyed connection is not opened any more, and there is no message for that. -/
theorem exec_listing_destroyed {s : Site} (hdestroyed : s.connection.destroyed = true)
    (hclosed : s.connection.isConnected = false) (query : Task (List Record))
    (found : Routine Site Unit) :
    (Task.exec (listing query found) s).1 = .error (.destroyed s.connection.path) := by
  have hestablish : (Connection.establish.run.run s).1 = .error (.destroyed s.connection.path) := by
    change (Task.exec Connection.establish s).1 = _
    have hlocked : ∀ lock, (s.withLock lock).connection.destroyed = true := fun _ => hdestroyed
    rw [Connection.establish, Task.exec_locked]
    simp only [Connection.establishUnlocked, Task.exec_bind, Task.exec_lift, Routine.run_look,
      hlocked, ↓reduceIte, Task.exec_throw]
    rfl
  have hopen : (Task.exec ensureOpen s).1 = .error (.destroyed s.connection.path) := by
    simp only [ensureOpen, Task.exec_bind, Task.exec_lift, Routine.run_look, hclosed,
      Bool.false_eq_true, ↓reduceIte, hestablish]
    rfl
  rw [listing, Task.exec_bind]
  rcases hexec : Task.exec ensureOpen s with ⟨outcome, s'⟩
  rw [hexec] at hopen
  obtain rfl : outcome = _ := hopen
  rfl

/-- While the clock tells the time, every request that has ended has answered, or has failed in a
way that is foreseen for it: the status always answers, and recording a launch does unless the path
has too many bytes for a parameter; a search fails if the index is destroyed, if it has no address,
if a pause is too long or if a stored count is no integer; and the list of the most launched files
also fails as its statement does, and for a limit with too many bits. Once the index is destroyed
and closed, both fail. -/
theorem requests_answered {w w' : World} {p : Panel} {c : Connection} {ends : Bool}
    {crowd : Crowd State Request (Outcome Unit)} (hstart : start none w = (.ok (p, c), w'))
    (hrun : Crowd.UsualRun (Request.setting p ends) (·.site.world.tellsTime = true)
      { state := { site := ⟨c, w'⟩ } } crowd) :
    (∀ e ∈ crowd.ended, ∀ fault, e.result = .error fault →
      (⟨c.path, c.policy, w'.environment, ends⟩ : Service).Unanswered e.call fault) ∧
      ∀ s : Site, s.connection.destroyed = true → s.connection.isConnected = false →
        ∀ query maxResults limit,
          (Task.exec (p.searchFiles (.text query) (.int maxResults)) s).1 =
              .error (.destroyed s.connection.path) ∧
            (Task.exec (Panel.mostUsed (.int limit)) s).1 =
              .error (.destroyed s.connection.path) := by
  obtain ⟨hserves, hrounds⟩ := start_serves hstart ends
  let service : Service := ⟨c.path, c.policy, w'.environment, ends⟩
  have hbegins : ({ state := { site := ⟨c, w'⟩ } } : Crowd State Request (Outcome Unit)).Yielding
      (fun s => service.Finds s.site) (fun s => service.Serves s.site)
      (fun request => Outcome.Ensures (fun _ => True) (service.Unanswered request)) :=
    Crowd.yielding_of_start hserves
  have hyielding := hbegins.run hrun (fun _ hs ht => ⟨hs, ht⟩)
    (fun request s hallowed => Service.yields_request p hrounds hallowed)
    fun s s' hs houtside => ⟨houtside.1 ▸ hs.connection, houtside.2.1.trans hs.environment⟩
  refine ⟨fun e he fault hfault => ?_, fun s hdestroyed hclosed query maxResults limit => ⟨?_, ?_⟩⟩
  · have hanswer := hyielding.all.ended e he
    rw [hfault] at hanswer
    exact hanswer
  · exact exec_listing_destroyed hdestroyed hclosed _ _
  · exact exec_listing_destroyed hdestroyed hclosed _ _

/-- A start with no file at all, and the panel and the connection that it leads to. -/
def bareStart : World where
  environment := { assignments := [("HOME", "/home")], workingDirectory := "/" }

def barePanel : Panel where
  settings := Settings.default bareStart.environment
  maxResults := Limit.default
  shortcut := Shortcut.default

def bareSite : Site where
  connection :=
    { path := bareStart.environment.databasePath, policy := default,
      busyTimeout := Binary64.zero false, script := none }
  world := (start none bareStart).2

theorem start_bareStart :
    start none bareStart = (.ok (barePanel, bareSite.connection), bareSite.world) := rfl

def launched : Crowd State Request (Outcome Unit) :=
  Crowd.after (Request.setting barePanel true) { state := { site := bareSite } } (.record "/home/a")

/-- After a shutdown, too, and a search that comes after it. -/
def shutDown : Crowd State Request (Outcome Unit) :=
  (launched.after (Request.setting barePanel true) (.shutdown "exit" .done)).after
    (Request.setting barePanel true) (.search "a" 0)

theorem run_shutDown :
    Crowd.UsualRun (Request.setting barePanel true) (·.site.world.tellsTime = true)
      { state := { site := bareSite } } shutDown := by
  have hlaunched : Crowd.UsualRun (Request.setting barePanel true) (·.site.world.tellsTime = true)
      { state := { site := bareSite } } launched :=
    .call rfl (Request.record "/home/a") (fun _ _ _ => rfl) rfl rfl
  have hshut : Crowd.UsualRun (Request.setting barePanel true) (·.site.world.tellsTime = true)
      launched (launched.after (Request.setting barePanel true) (.shutdown "exit" .done)) :=
    .call rfl (Request.shutdown "exit" .done) (fun _ _ _ => rfl) rfl rfl
  have hsearched : Crowd.UsualRun (Request.setting barePanel true) (·.site.world.tellsTime = true)
      (launched.after (Request.setting barePanel true) (.shutdown "exit" .done)) shutDown :=
    .call rfl (Request.search "a" 0) (fun _ _ _ => rfl) rfl rfl
  exact (hlaunched.trans hshut).trans hsearched

theorem failed_shutDown :
    ⟨2, .search "a" 0, .error (.destroyed bareSite.connection.path)⟩ ∈ shutDown.ended :=
  List.mem_append_right _ (List.mem_singleton_self _)

theorem requests_answered_shutDown :
    Crowd.UsualRun (Request.setting barePanel true) (·.site.world.tellsTime = true)
      { state := { site := bareSite } } shutDown ∧
    (∀ e ∈ shutDown.ended, ∀ fault, e.result = .error fault →
      (⟨bareSite.connection.path, bareSite.connection.policy, bareSite.world.environment,
        true⟩ : Service).Unanswered e.call fault) ∧
      ∀ s : Site, s.connection.destroyed = true → s.connection.isConnected = false →
        ∀ query maxResults limit,
          (Task.exec (barePanel.searchFiles (.text query) (.int maxResults)) s).1 =
              .error (.destroyed s.connection.path) ∧
            (Task.exec (Panel.mostUsed (.int limit)) s).1 =
              .error (.destroyed s.connection.path) :=
  ⟨run_shutDown, requests_answered start_bareStart run_shutDown⟩

/-- Not every request is answered: after a shutdown a search fails. -/
theorem not_requests_answered :
    ¬∀ (w w' : World) (p : Panel) (c : Connection) (ends : Bool)
      (crowd : Crowd State Request (Outcome Unit)), start none w = (.ok (p, c), w') →
      Crowd.UsualRun (Request.setting p ends) (·.site.world.tellsTime = true)
        { state := { site := ⟨c, w'⟩ } } crowd →
      ∀ e ∈ crowd.ended, e.result = .ok () := by
  intro hall
  have hanswered := hall _ _ _ _ _ _ start_bareStart run_shutDown _ failed_shutDown
  exact absurd hanswered nofun

end Panel

end LaunchIndex
