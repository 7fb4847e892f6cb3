import LaunchIndex.Session
import LaunchIndex.Proofs.Conduct
import LaunchIndex.Proofs.LastAct

/-! The calls of the library in a session, on any of its connections and at work at the same time.
All of them leave every file as it is, with two exceptions: a launch that is recorded and a change
by the indexing program. These touch one file, and with their last step. -/

namespace LaunchIndex

open Store

/-! ### Names of files -/

theorem Disk.find?_congr {d d' : Disk} (hhere : d'.here = d.here)
    (hentries : d'.entries = d.entries) (name : Text) : d'.find? name = d.find? name := by
  have hnode : ∀ parts, d'.nodeAt? parts = d.nodeAt? parts := fun parts => by
    rw [nodeAt?, nodeAt?, hentries]
  have hwalk : ∀ parts here, d'.walk here parts = d.walk here parts := by
    intro parts
    induction parts with
    | nil => exact fun _ => rfl
    | cons part rest ih => exact fun here => by simp only [walk, hnode, ih]
  simp only [find?, place?, hwalk, hhere, funext hnode]

namespace World

/-- Every name of a file leads where it led. -/
structure SameNames (w w' : World) : Prop where
  environment : w'.environment = w.environment
  here : w'.disk.here = w.disk.here
  entries : w'.disk.entries = w.disk.entries

/-- The files are as they were. -/
structure Quiet (w w' : World) : Prop where
  environment : w'.environment = w.environment
  disk : w'.disk = w.disk

variable {w w' w'' : World}

theorem SameNames.refl (w : World) : w.SameNames w := ⟨rfl, rfl, rfl⟩

theorem SameNames.symm (h : w.SameNames w') : w'.SameNames w :=
  ⟨h.environment.symm, h.here.symm, h.entries.symm⟩

theorem SameNames.trans (h : w.SameNames w') (h' : w'.SameNames w'') : w.SameNames w'' :=
  ⟨h'.environment.trans h.environment, h'.here.trans h.here, h'.entries.trans h.entries⟩

theorem Quiet.refl (w : World) : w.Quiet w := ⟨rfl, rfl⟩

theorem Quiet.sameNames (h : w.Quiet w') : w.SameNames w' :=
  ⟨h.environment, by rw [h.disk], by rw [h.disk]⟩

theorem SameNames.databaseNode? (h : w.SameNames w') (path : Text) :
    w'.databaseNode? path = w.databaseNode? path := by
  simp only [World.databaseNode?, h.environment, Disk.find?_congr h.here h.entries]

theorem SameNames.target (h : w.SameNames w') (path : Value) :
    Writer.target path w' = Writer.target path w := by
  simp only [Writer.target, h.environment, h.databaseNode?]

end World

/-! ### Quiet operations -/

namespace Site

/-- The path of the connection is as it was, and the world changes by a relation. -/
structure Follows (R : World → World → Prop) (s s' : Site) : Prop where
  path : s'.connection.path = s.connection.path
  world : R s.world s'.world

abbrev Quiet (s s' : Site) : Prop := s.Follows World.Quiet s'

theorem Quiet.refl (s : Site) : s.Quiet s := ⟨rfl, .refl _⟩

theorem conduct_quiet : Conduct (fun _ _ => True) Quiet (fun _ => True) fun _ => True where
  same := .refl
  alive_of _ _ := trivial
  alive_rely _ _ _ _ := trivial
  alive_congr _ _ _ _ := trivial
  idle_of _ _ := trivial
  idle_rely _ _ _ _ := trivial
  idle_congr _ _ _ _ := trivial
  detach _ := ⟨rfl, .refl _⟩
  closeHandle h s := by
    rcases s.closeHandle_eq h with hc | ⟨fault, hc⟩ <;> rw [hc] <;> exact ⟨rfl, rfl, rfl⟩
  nextAttempt s _ := by
    rw [nextAttempt_eq]
    exact ⟨rfl, rfl, rfl⟩
  connect attempt s := by
    rcases s.connect_eq attempt with ⟨_, h⟩ | ⟨_, h⟩ | ⟨_, _, h⟩ <;> rw [h] <;>
      exact ⟨rfl, rfl, rfl⟩
  attach _ _ _ := ⟨rfl, .refl _⟩
  used _ _ _ := ⟨rfl, rfl, rfl⟩
  sleep _ _ := ⟨rfl, rfl, rfl⟩
  log _ _ := ⟨rfl, rfl, rfl⟩
  destroy _ _ := ⟨rfl, .refl _⟩

end Site

namespace Task

variable {α β : Type}

def Quiet (task : Task α) : Prop := task.run.Obeys Site.Quiet fun _ => True

theorem manner_quiet : Manner (fun _ _ => True) Site.Quiet fun _ task => task.Quiet where
  conduct := ⟨_, _, Site.conduct_quiet⟩
  locked h _ := Assures.locked fun _ _ => ⟨⟨rfl, .refl _⟩, fun s _ =>
    (h s).mono (fun _ _ => id) fun _ _ _ _ _ => ⟨⟨rfl, .refl _⟩, trivial⟩⟩
  bind {α β task next} h hnext := Routine.Obeys.bind h fun outcome _ => by
    rcases outcome with fault | a
    · exact fun _ => trivial
    · exact hnext a
  attempt h := Routine.Obeys.bind h fun _ _ _ => trivial
  ofOutcome _ _ := trivial
  look _ _ _ _ := ⟨.refl _, trivial⟩
  log _ _ _ _ := ⟨⟨rfl, rfl, rfl⟩, trivial⟩

end Task

/-! ### Sessions -/

namespace Session

variable {α β : Type} {m : Member} {s s' : Session}

def paths (s : Session) : List Text := s.connections.map (·.path)

/-- The session has a connection with the number and the path of a member. -/
def Has (s : Session) (m : Member) : Prop := s.paths[m.number]? = some m.seen.path

/-- No connection is lost, and the world changes by a relation. -/
structure Follows (R : World → World → Prop) (s s' : Session) : Prop where
  paths : s.paths <+: s'.paths
  world : R s.world s'.world

abbrev Quiet (s s' : Session) : Prop := s.Follows World.Quiet s'

theorem Quiet.refl (s : Session) : s.Quiet s := ⟨List.prefix_refl _, .refl _⟩

theorem Has.follows {R : World → World → Prop} (h : s.Has m) (hs : s.Follows R s') : s'.Has m := by
  obtain ⟨rest, hrest⟩ := hs.paths
  obtain ⟨hlt, -⟩ := List.getElem?_eq_some_iff.mp h
  rw [Has, ← hrest, List.getElem?_append_left hlt]
  exact h

theorem Has.current (h : s.Has m) : (s.current m).path = m.seen.path := by
  rw [Has, paths, List.getElem?_map, Option.map_eq_some_iff] at h
  obtain ⟨c, hc, hpath⟩ := h
  rw [Session.current, hc]
  exact hpath

theorem Has.number_lt (h : s.Has m) : m.number < s.connections.length := by
  obtain ⟨hlt, -⟩ := List.getElem?_eq_some_iff.mp h
  rwa [paths, List.length_map] at hlt

/-- The session with the connection and the world of a site put in place. -/
def putBack (m : Member) (site : Site) (s : Session) : Session :=
  { s with
    connections := s.connections.set m.number site.connection
    world := site.world }

theorem current_putBack (site : Site) (h : m.number < s.connections.length) :
    (⟨(s.putBack m site).current m, (s.putBack m site).world⟩ : Site) = site := by
  simp [putBack, current, h]

theorem paths_putBack {site : Site} (h : site.connection.path = (s.current m).path) :
    (s.putBack m site).paths = s.paths := by
  rw [paths, putBack, List.map_set, h]
  rcases Nat.lt_or_ge m.number s.connections.length with hlt | hge
  · have hcurrent : s.current m = s.connections[m.number] := by
      rw [current, List.getElem?_eq_getElem hlt, Option.getD_some]
    rw [hcurrent, ← List.map_set, List.set_getElem_self]
    rfl
  · exact List.set_eq_of_length_le (by rwa [List.length_map])

def Call.Quiet (call : Call α) : Prop := call.run.Obeys Session.Quiet fun _ => True

theorem Call.Quiet.bind {call : Call α} {next : α → Call β} (h : call.Quiet)
    (hnext : ∀ a, (next a).Quiet) : Call.Quiet (call >>= next) :=
  Routine.Obeys.bind h fun outcome _ => by
    rcases outcome with fault | a
    · exact fun _ => trivial
    · exact hnext a

theorem quiet_ofOutcome (outcome : Outcome α) : Call.Quiet (ExceptT.mk (pure outcome)) :=
  fun _ => trivial

theorem quiet_onMember {task : Task α} (h : task.Quiet) : (onMember m task).Quiet := by
  refine Routine.Obeys.zoom h fun s site hsite => ⟨?_, hsite.world⟩
  have hpaths : (s.putBack m site).paths = s.paths := paths_putBack hsite.path
  exact hpaths ▸ List.prefix_refl _

theorem quiet_add (c : Connection) : Call.Quiet (ExceptT.lift (Routine.step (add c))) := by
  refine fun s s' _ => ⟨⟨?_, .refl _⟩, trivial⟩
  rw [paths, paths, add, List.map_append]
  exact List.prefix_append _ _

theorem quiet_setName (name : Option Text) (m : Member) : (update (setName name m)).Quiet := by
  refine fun s s' _ => ⟨?_, trivial⟩
  cases name with
  | none => exact .refl _
  | some name => exact ⟨List.prefix_refl _, .refl _⟩

/-- An operation on the connection that a caller passes on, which may be none. -/
def onGiven (m : Option Member) (task : Task α) (absent : Outcome α) : Call α :=
  match m with
  | some m => onMember m task
  | none => ExceptT.mk (pure absent)

theorem quiet_onGiven {m : Option Member} {task : Task α} (h : task.Quiet) (absent : Outcome α) :
    (onGiven m task absent).Quiet := by
  cases m with
  | none => exact quiet_ofOutcome absent
  | some m => exact quiet_onMember h

end Session

inductive Reply where
  | done
  | made (path : Text)
  | records (found : List Record)
  | stat (usage : Option Connection.UsageStat)
  | recorded (success : Bool)
  | changed (rows : Nat)

/-- Whether a reply says that a file has been written to. -/
def Reply.counts : Reply → Bool
  | recorded success => success
  | changed _ => true
  | _ => false

/-- A call of the library in a session, or a change by the indexing program. -/
inductive Errand where
  | create (name : Option Text) (path : Value) (policy : Policy) (busyTimeout : Value)
    (script : Option (List Attempt))
  | openIndex (name : Option Text) (path : Value) (policy : Policy) (busyTimeout : Value)
    (script : Option (List Attempt))
  | establish (m : Session.Member)
  | close (m : Option Session.Member)
  | destroy (m : Option Session.Member)
  | search (m : Option Session.Member) (query maxResults : Value)
  | usage (m : Option Session.Member) (filePath : Value)
  | mostUsed (m : Option Session.Member) (limit : Value)
  | record (m : Option Session.Member) (filePath : Value) (now : Int)
  | change (path : Value) (c : Change)

namespace Errand

open Session (onMember onGiven)

/-- A change through a writer of its own. -/
def write (path : Value) (c : Change) : Session.Call Nat := do
  ExceptT.lift (Routine.waitFor .engine)
  let file ← ExceptT.mk (Routine.look fun s => Writer.target path s.world)
  ExceptT.lift (Routine.waitFor .engine)
  Session.onWorld (c.run file)

def task : Errand → Session.Call Reply
  | create name path policy busyTimeout script =>
    Session.create name (Connection.create path policy busyTimeout script) >>= fun path =>
      return .made path
  | openIndex name path policy busyTimeout script =>
    Session.openIndex name (Connection.create path policy busyTimeout script) >>= fun path =>
      return .made path
  | establish m => onMember m Connection.establish >>= fun _ => return .done
  | close m => onGiven m Connection.close (.ok ()) >>= fun _ => return .done
  | destroy m => onGiven m Connection.destroy (.ok ()) >>= fun _ => return .done
  | search m query maxResults =>
    onGiven m (Connection.search query maxResults) (.error .missingConnection) >>= fun found =>
      return .records found
  | usage m filePath =>
    onGiven m (Connection.usage filePath) (.error .missingConnection) >>= fun stat =>
      return .stat stat
  | mostUsed m limit =>
    onGiven m (Connection.mostUsed limit) (.error .missingConnection) >>= fun found =>
      return .records found
  | record m filePath now =>
    onGiven m (Connection.recordLaunch filePath (.int now)) (.error .missingConnection) >>=
      fun success => return .recorded success
  | change path c => write path c >>= fun rows => return .changed rows

/-- The connection that a call is for. -/
def member? : Errand → Option Session.Member
  | create _ _ _ _ _ | openIndex _ _ _ _ _ | change _ _ => none
  | establish m => some m
  | close m | destroy m | search m _ _ | usage m _ | mostUsed m _ | record m _ _ => m

/-- Calls that only look at files. -/
def looks : Errand → Bool
  | record _ _ _ | change _ _ => false
  | _ => true

/-- A result that does not say that a file has been written to. -/
def Silent (result : Outcome Reply) : Prop := ∀ reply, result = .ok reply → reply.counts = false

theorem obeys_reply {α : Type} {call : Session.Call α} {reply : α → Reply} (h : call.Quiet)
    (hreply : ∀ a, (reply a).counts = false) :
    (ExceptT.run (call >>= fun a => return reply a)).Obeys Session.Quiet Silent :=
  Routine.Obeys.bind h fun outcome _ _ => by
    rcases outcome with fault | a
    · exact fun _ hr => absurd hr nofun
    · rintro _ ⟨⟩
      exact hreply a

theorem obeys_task {e : Errand} (h : e.looks = true) :
    e.task.run.Obeys Session.Quiet Silent := by
  have hquiet := Task.manner_quiet
  cases e with
  | create name path policy busyTimeout script =>
    refine obeys_reply ?_ fun _ => rfl
    exact (Session.quiet_ofOutcome _).bind fun c => (Session.quiet_add c).bind fun m =>
      (Session.quiet_setName name m).bind fun _ => Session.quiet_ofOutcome (.ok _)
  | openIndex name path policy busyTimeout script =>
    refine obeys_reply ?_ fun _ => rfl
    exact (Session.quiet_ofOutcome _).bind fun c => (Session.quiet_add c).bind fun m =>
      (Session.quiet_onMember hquiet.establish).bind fun _ =>
        (Session.quiet_setName name m).bind fun _ => Session.quiet_ofOutcome (.ok _)
  | establish m => exact obeys_reply (Session.quiet_onMember hquiet.establish) fun _ => rfl
  | close m => exact obeys_reply (Session.quiet_onGiven hquiet.close _) fun _ => rfl
  | destroy m => exact obeys_reply (Session.quiet_onGiven hquiet.destroy _) fun _ => rfl
  | search m query maxResults =>
    exact obeys_reply (Session.quiet_onGiven (hquiet.search _ _) _) fun _ => rfl
  | usage m filePath => exact obeys_reply (Session.quiet_onGiven (hquiet.usage _) _) fun _ => rfl
  | mostUsed m limit =>
    exact obeys_reply (Session.quiet_onGiven (hquiet.mostUsed _) _) fun _ => rfl
  | record m filePath now => exact absurd h nofun
  | change path c => exact absurd h nofun

end Errand

end LaunchIndex
