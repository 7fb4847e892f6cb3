import Mathlib.Algebra.Ring.Int.Defs
import Mathlib.Logic.Function.Iterate
import LaunchIndex.Proofs.Deeds
import LaunchIndex.Proofs.Reading

/-! Exact accounts of launches. In every run of calls, at work at the same time and with another
program locking the files as it likes, each launch that is reported as recorded is counted once for
its file and nothing else is changed: the files of an index stay as they are, each count goes up by
the number of those launches, and the last of them gives the time. -/

namespace LaunchIndex

open Store

/-! ### Files that are written to -/

namespace Disk

variable {d : Disk} {file : Nat} {db : Database}

theorem content?_setContent (d : Disk) (file : Nat) (content : Content) (number : Nat) :
    (d.setContent file content).content? number =
      if number = file then (d.content? number).map fun _ => content else d.content? number := by
  have hkey : ((fun c => c.1 == number) ∘ fun c : Nat × Content =>
      if (c.1 == file) = true then (file, content) else c) = fun c => c.1 == number := by
    funext c
    by_cases hc : c.1 = file <;> simp [hc]
  rw [content?, content?, setContent, List.find?_map, hkey]
  rcases hfound : d.contents.find? (fun c => c.1 == number) with _ | c
  · simp [hfound]
  · have hc : c.1 = number := by simpa using List.find?_some hfound
    by_cases hn : number = file
    · subst hn
      simp [hfound, hc]
    · simp [hfound, hc, hn]

theorem database_setDatabase {before : Database} (h : d.database file = .ok before) :
    (d.setDatabase file db).database file = .ok db := by
  have hthere : (d.content? file).isSome := by
    unfold database at h
    split at h <;> simp_all
  obtain ⟨content, hcontent⟩ := Option.isSome_iff_exists.mp hthere
  simp only [database, setDatabase, content?_setContent, hcontent, Option.map_some, if_true]

theorem database_setDatabase_cases {number : Nat} {before held : Database}
    (h : d.database file = .ok before) (hheld : d.database number = .ok held) (db : Database) :
    (file = number ∧ before = held ∧ (d.setDatabase file db).database number = .ok db) ∨
      (file ≠ number ∧ (d.setDatabase file db).database number = .ok held) := by
  by_cases hfile : file = number
  · subst hfile
    exact .inl ⟨rfl, Except.ok.inj (h.symm.trans hheld), database_setDatabase h⟩
  · refine .inr ⟨hfile, ?_⟩
    simpa only [database, setDatabase, content?_setContent, if_neg (Ne.symm hfile)] using hheld

end Disk

/-! ### Counting -/

namespace Store

/-- The count after some more launches is an integer while it fits. -/
theorem Cell.iterate_addOne {n : Int} (hleast : -2 ^ 63 ≤ n) (k : Nat)
    (hgreatest : n + k < 2 ^ 63) : addOne^[k] (int n) = int (n + k) := by
  induction k generalizing n with
  | zero => simp
  | succ k ih =>
    have hfits : Numeral.fits (n + 1) = true := by
      have hbounds : -9223372036854775808 ≤ n + 1 ∧ n + 1 ≤ 9223372036854775807 := by omega
      exact Bool.and_eq_true_iff.mpr ⟨decide_eq_true hbounds.1, decide_eq_true hbounds.2⟩
    have hone : addOne (int n) = int (n + 1) := by
      simp only [addOne, hfits, if_true, integral]
    rw [Function.iterate_succ_apply, hone, ih (by omega) (by omega)]
    congr 1
    omega

/-- The greatest integer counts on as a real. -/
theorem Cell.addOne_greatest : addOne (int (2 ^ 63 - 1)) = real ⟨0x43E0000000000000⟩ := by
  decide +kernel

namespace Tables

/-- The usage rows of the file with an id. -/
def rowsOf (t : Tables) (id : Int) : List UsageRow := t.usage.filter fun u => u.fileId = id

/-- The usage rows after launches at some times. -/
def countLaunches (id : Int) (times : List Int) (rows : List UsageRow) : List UsageRow :=
  times.foldl (fun rows time => countLaunch id time rows) rows

theorem usage_nodup_iff {t : Tables} :
    (t.usage.map (·.fileId)).Nodup ↔ ∀ id, (t.rowsOf id).length ≤ 1 := by
  have hcount : ∀ id, (t.usage.map (·.fileId)).count id = (t.rowsOf id).length := by
    intro id
    rw [List.count, List.countP_map, List.countP_eq_length_filter]
    exact congrArg List.length (List.filter_congr fun u _ => rfl)
  simp only [List.nodup_iff_count_le_one, hcount]

theorem filter_countLaunch_self (id time : Int) (rows : List UsageRow) :
    (countLaunch id time rows).filter (fun u => u.fileId = id) =
      countLaunch id time (rows.filter fun u => u.fileId = id) := by
  induction rows with
  | nil => simp [countLaunch]
  | cons u rest ih =>
    by_cases hu : u.fileId = id
    · simp [countLaunch, hu]
    · simp [countLaunch, hu, ih]

theorem filter_countLaunch_of_ne {id other : Int} (h : other ≠ id) (time : Int)
    (rows : List UsageRow) :
    (countLaunch id time rows).filter (fun u => u.fileId = other) =
      rows.filter fun u => u.fileId = other := by
  induction rows with
  | nil => simp [countLaunch, h.symm]
  | cons u rest ih =>
    by_cases hu : u.fileId = id
    · simp [countLaunch, hu, h.symm]
    · simp [countLaunch, hu, ih, List.filter_cons]

theorem countLaunches_singleton (id : Int) (times : List Int) (count last : Cell) :
    countLaunches id times [⟨id, count, last⟩] =
      [⟨id, Cell.addOne^[times.length] count, (times.getLast?.map Cell.int).getD last⟩] := by
  induction times generalizing count last with
  | nil => rfl
  | cons time rest ih =>
    have hfirst : countLaunch id time [⟨id, count, last⟩] = [⟨id, count.addOne, .int time⟩] := by
      simp [countLaunch]
    rw [countLaunches, List.foldl_cons, hfirst]
    refine (ih _ _).trans ?_
    rw [List.length_cons, Function.iterate_succ_apply, List.getLast?_cons]
    cases rest.getLast? <;> rfl

theorem countLaunches_nil (id : Int) (times : List Int) :
    countLaunches id times [] =
      (times.getLast?.map fun last =>
        (⟨id, Cell.addOne^[times.length] (.int 0), .int last⟩ : UsageRow)).toList := by
  cases times with
  | nil => rfl
  | cons time rest =>
    have hzero : Cell.addOne (.int 0) = .int 1 := rfl
    refine (countLaunches_singleton id rest (.int 1) (.int time)).trans ?_
    rw [List.length_cons, Function.iterate_succ_apply, hzero, List.getLast?_cons]
    cases rest.getLast? <;> rfl

theorem IsIndex.rowsOf_eq {t : Tables} (h : t.IsIndex) {id n : Int} (hn : t.Launches id n) :
    (t.rowsOf id = [] ∧ n = 0) ∨ ∃ last, t.rowsOf id = [⟨id, .int n, last⟩] := by
  have hone : ∀ rows : List UsageRow, (rows.map (·.fileId)).Nodup → ∀ u ∈ rows,
      (rows.filter fun v => v.fileId = u.fileId) = [u] := by
    intro rows hrows u hu
    have hsub : (rows.filter fun v => v.fileId = u.fileId).Nodup :=
      (List.Nodup.of_map _ hrows).filter _
    refine List.perm_singleton.mp ((List.perm_ext_iff_of_nodup hsub (by simp)).mpr fun v => ?_)
    simp only [List.mem_filter, decide_eq_true_eq, List.mem_singleton]
    constructor
    · rintro ⟨hv, heq⟩
      exact List.inj_on_of_nodup_map hrows hv hu heq
    · rintro rfl
      exact ⟨hu, rfl⟩
  rcases hn with ⟨u, hu, rfl, hcount⟩ | ⟨hnone, rfl⟩
  · refine .inr ⟨u.lastLaunched, ?_⟩
    rw [rowsOf, hone _ h.usage_distinct u hu, ← hcount]
  · exact .inl ⟨List.filter_eq_nil_iff.mpr (by simpa using hnone), rfl⟩

/-- Launches of a file, as its usage rows show them. -/
theorem IsIndex.countLaunches_rowsOf {t : Tables} (h : t.IsIndex) {id n : Int}
    (hn : t.Launches id n) (hleast : -2 ^ 63 ≤ n) (times : List Int)
    (hgreatest : n + times.length < 2 ^ 63) :
    countLaunches id times (t.rowsOf id) =
      match times.getLast? with
      | none => t.rowsOf id
      | some last => [⟨id, .int (n + times.length), .int last⟩] := by
  rcases htimes : times.getLast? with _ | time
  · rw [List.getLast?_eq_none_iff.mp htimes]
    rfl
  · rcases h.rowsOf_eq hn with ⟨hrows, rfl⟩ | ⟨last, hrows⟩
    · rw [hrows, countLaunches_nil, htimes, Cell.iterate_addOne hleast _ hgreatest]
      rfl
    · rw [hrows, countLaunches_singleton, htimes, Cell.iterate_addOne hleast _ hgreatest]
      rfl

/-- A launch of an indexed file, or of one that has usage already, is counted among the usage. -/
theorem of_recordLaunch_eq_ok {t t' : Tables} {id time : Int}
    (h : t.recordLaunch id time = .ok t') :
    ((∃ u ∈ t.usage, u.fileId = id) ∨ ∃ f ∈ t.files, f.id = id) ∧
      t' = { t with usage := countLaunch id time t.usage } := by
  unfold recordLaunch at h
  split at h
  · rename_i hthere
    refine ⟨?_, (Except.ok.inj h).symm⟩
    simpa using hthere
  · exact absurd h nofun

end Tables

end Store

/-! ### What has happened to a file -/

/-- What a call can have done to an index. -/
inductive Incident where
  | launched (path : Text) (time : Int)
  | inserted (path : Text)
  | deleted (path : Text)

namespace Incident

/-- What a change does. Another name for a file is no incident. -/
def ofChange? : Change → Option Incident
  | .insert row =>
    match Change.bindRow row with
    | .ok new => (Tables.textOf? new.path).map inserted
    | .error _ => none
  | .delete path =>
    match Cell.bind 1 path with
    | .ok cell => (Tables.textOf? cell).map deleted
    | .error _ => none
  | .rename _ _ _ | .setUsage _ _ _ => none

/-- What an ended call has done to a file, if it says that it has. Names lead where they lead in the
world. -/
def ofEnded? (file : Nat) (w : World) (e : Ended Errand (Outcome Reply)) : Option Incident :=
  match e.call, e.result with
  | .record (some m) filePath now, .ok (.recorded true) =>
    if (Writer.target (.text m.seen.path) w).toOption = some file then
      some (launched filePath.display now)
    else none
  | .change path c, .ok (.changed _) =>
    if (Writer.target path w).toOption = some file then ofChange? c else none
  | _, _ => none

def launches (path : Text) (incidents : List Incident) : List Int :=
  incidents.filterMap fun
    | launched p time => if p = path then some time else none
    | _ => none

theorem ofEnded?_of_silent {file : Nat} {w : World} {e : Ended Errand (Outcome Reply)}
    (h : Errand.Silent e.result) : ofEnded? file w e = none := by
  unfold ofEnded?
  split
  · rename_i hresult
    exact absurd (h _ hresult) nofun
  · rename_i hresult
    exact absurd (h _ hresult) nofun
  · rfl

end Incident

/-- What the ended calls of a crowd have done to a file, in order. -/
def Crowd.history (file : Nat) (w : World) (crowd : Crowd Session Errand (Outcome Reply)) :
    List Incident := crowd.ended.filterMap (Incident.ofEnded? file w)

namespace Crowd

variable {file : Nat} {w : World} {c c' : Crowd Session Errand (Outcome Reply)}
  {e : Ended Errand (Outcome Reply)}

theorem history_of_append (h : c'.ended = c.ended ++ [e]) :
    c'.history file w = c.history file w ++ (Incident.ofEnded? file w e).toList := by
  rw [history, h, List.filterMap_append, history]
  cases hincident : Incident.ofEnded? file w e <;> simp [hincident]

theorem history_of_silent (hsilent : Errand.Silent e.result) (h : c'.ended = c.ended ++ [e]) :
    c'.history file w = c.history file w := by
  rw [history_of_append h, Incident.ofEnded?_of_silent hsilent]
  exact List.append_nil _

end Crowd

/-! ### Accounts -/

/-- The tables of an index after launches. -/
structure Store.Tables.Accounts (start : Tables) (incidents : List Incident) (t : Tables) :
    Prop where
  files : t.files = start.files
  rows : ∀ f ∈ start.files, ∀ path, f.path = some path → t.rowsOf f.id =
    countLaunches f.id (Incident.launches path incidents) (start.rowsOf f.id)
  others : ∀ id, (∀ f ∈ start.files, f.id ≠ id) → t.rowsOf id = start.rowsOf id

namespace Store.Tables

variable {start t : Tables} {incidents : List Incident}

theorem accounts_nil (t : Tables) : t.Accounts [] t := ⟨rfl, fun _ _ _ _ => rfl, fun _ _ => rfl⟩

/-- One more launch is one more entry in the accounts of its file and of no other. -/
theorem Accounts.launched (h : start.Accounts incidents t)
    (hids : (start.files.map (·.id)).Nodup) (hpaths : (start.files.map (·.path)).Nodup)
    {f : FileRow} (hf : f ∈ start.files) {path : Text} (hpath : f.path = some path) (time : Int) :
    start.Accounts (incidents ++ [.launched path time])
      { t with usage := countLaunch f.id time t.usage } where
  files := h.files
  rows g hg other hother := by
    have hrows := h.rows g hg other hother
    rw [Incident.launches, List.filterMap_append, ← Incident.launches]
    by_cases heq : path = other
    · subst heq
      obtain rfl : g = f := List.inj_on_of_nodup_map hpaths hg hf (hother.trans hpath.symm)
      rw [rowsOf, filter_countLaunch_self, ← rowsOf, hrows, countLaunches, countLaunches]
      simp
    · have hid : g.id ≠ f.id := fun hid => heq (by
        rw [List.inj_on_of_nodup_map hids hg hf hid, hpath] at hother
        exact Option.some.inj hother)
      rw [rowsOf, filter_countLaunch_of_ne hid, ← rowsOf, hrows]
      simp [heq]
  others id hid := by
    rw [rowsOf, filter_countLaunch_of_ne (hid f hf).symm, ← rowsOf, h.others id hid]

end Store.Tables

/-! ### Runs without changes by the indexing program -/

namespace Errand

/-- The calls of the library itself. -/
def IsCall (e : Errand) : Prop := ∀ path c, e ≠ .change path c

variable {s : Session} {crowd : Crowd Session Errand (Outcome Reply)}

/-- In every run names lead where they led, and a file changes only as a launch ends that is
recorded. -/
theorem sameNames_of_run
    (hrun : Crowd.Run (setting IsCall) { state := s } crowd) :
    s.world.SameNames crowd.state.world ∧ ∀ next, Crowd.Step (setting IsCall) crowd next →
      next.state.world.disk = crowd.state.world.disk ∨
        ∃ e, next.ended = crowd.ended ++ [e] ∧ e.result = .ok (.recorded true) := by
  have hrecalls : World.Recalls World.SameNames fun _ _ _ _ => True :=
    ⟨id, fun _ _ => trivial, fun _ _ => trivial⟩
  have hacts : ∀ {e : Errand} {result w w'}, e.IsCall → e.Acts (fun _ _ _ _ => True) result w w' →
      result = .ok (.recorded true) ∧ w.SameNames w' := by
    intro e result w w' hcall hacts
    rcases hacts.cases with ⟨m, filePath, now, rfl, rfl, hcounts⟩ | ⟨path, c, n, file, rfl, -⟩
    · obtain ⟨file, id, db, tables, -, -, -, -, rfl⟩ := hcounts.exists_recordLaunch
      exact ⟨rfl, rfl, rfl, rfl⟩
    · exact absurd rfl (hcall path c)
  have hkeep : ∀ c c' : Crowd Session Errand (Outcome Reply),
      s.world.SameNames c.state.world → Told IsCall (fun _ _ _ _ => True) c c' →
      s.world.SameNames c'.state.world ∧ c.state.world.SameNames c'.state.world := by
    intro c c' hc htold
    have hstep : c.state.world.SameNames c'.state.world := by
      cases htold with
      | quiet hquiet => exact hquiet.world.sameNames
      | silent hquiet => exact hquiet.world.sameNames
      | acts e hact => exact (hacts hact.1 hact.2.world).2
    exact ⟨hc.trans hstep, hstep⟩
  obtain ⟨hnames, htold⟩ := run_keeps (fun c => s.world.SameNames c.state.world) hrecalls
    (fun _ _ _ => World.SameNames.trans) (fun _ _ => .refl _) hkeep (.refl _) hrun
  refine ⟨hnames, fun next hnext => ?_⟩
  cases htold next hnext with
  | quiet hquiet => exact .inl hquiet.world.disk
  | silent hquiet => exact .inl hquiet.world.disk
  | acts e hact hended => exact .inr ⟨e, hended, (hacts hact.1 hact.2.world).1⟩

/-- A step leaves the files and the history as they are, or it ends a call with its act, which then
is the last of the history. -/
theorem Told.quiet_or_acts {admitted : Errand → Prop} {known : Nat → Text → Int → World → Prop}
    {c c' : Crowd Session Errand (Outcome Reply)} (h : Told admitted known c c') (file : Nat)
    (w : World) :
    (c.state.world.Quiet c'.state.world ∧ c'.history file w = c.history file w) ∨
      ∃ e : Ended Errand (Outcome Reply), admitted e.call ∧
        e.call.Acts known e.result c.state.world c'.state.world ∧
        c'.history file w = c.history file w ++ (Incident.ofEnded? file w e).toList := by
  cases h with
  | quiet hquiet hended =>
    exact .inl ⟨hquiet.world, by rw [Crowd.history, hended, Crowd.history]⟩
  | silent hquiet e hsilent hended =>
    exact .inl ⟨hquiet.world, Crowd.history_of_silent hsilent hended⟩
  | acts e hact hended =>
    exact .inr ⟨e, hact.1, hact.2.world, Crowd.history_of_append hended⟩

section Accounts

variable {file : Nat} {db : Database}

/-- The database in a file, but for its usage. -/
def Holds (file : Nat) (db : Database) (w : World) : Prop :=
  ∃ t, w.disk.database file = .ok { db with tables := t } ∧ t.files = db.tables.files

/-- What a look-up tells about the file: the id is that of a row at the path. -/
def Points (file : Nat) (db : Database) (number : Nat) (path : Text) (id : Int) : Prop :=
  number = file → ∃ f ∈ db.tables.files, f.id = id ∧ f.path = some path

theorem recalls_points (file : Nat) (db : Database) :
    World.Recalls (fun w w' => w.SameNames w' ∧ Holds file db w') fun number path id _ =>
      Points file db number path id where
  names h := h.1
  kept h _ := h
  found {w w' number path id} h hid := by
    rintro rfl
    obtain ⟨t, ht, hfiles⟩ := h.2
    obtain ⟨db', f, hdb', hf, rfl⟩ := Connection.of_fileId_eq_some hid
    obtain rfl := Except.ok.inj (ht.symm.trans hdb')
    have hmem : f ∈ t.filesAt path := List.mem_of_head? hf
    rw [Tables.filesAt, List.mem_filter, hfiles] at hmem
    exact ⟨f, hmem.1, rfl, by simpa using hmem.2⟩

theorem accounts_of_counts {m : Session.Member} {filePath : Value} {now : Int} {number : Nat}
    {w₀ w w' : World} {t : Tables} {incidents : List Incident}
    (hcounts : Writer.Counts (fun number path id _ => Points file db number path id) m.seen.path
      filePath.display now w w')
    (hids : (db.tables.files.map (·.id)).Nodup) (hpaths : (db.tables.files.map (·.path)).Nodup)
    (hnames : w₀.SameNames w) (ht : w.disk.database file = .ok { db with tables := t })
    (haccounts : db.tables.Accounts incidents t) :
    w.SameNames w' ∧ ∃ t', w'.disk.database file = .ok { db with tables := t' } ∧
      db.tables.Accounts (incidents ++ (Incident.ofEnded? file w₀
        ⟨number, .record (some m) filePath now, .ok (.recorded true)⟩).toList) t' := by
  obtain ⟨file', id, db', t', htarget, hpoints, hdb', hrecord, rfl⟩ := hcounts.exists_recordLaunch
  rw [hnames.target] at htarget
  refine ⟨⟨rfl, rfl, rfl⟩, ?_⟩
  simp only [Incident.ofEnded?, htarget]
  rcases Disk.database_setDatabase_cases hdb' ht { db' with tables := t' } with
    ⟨rfl, rfl, hset⟩ | ⟨hfile, hset⟩
  · obtain ⟨f, hf, rfl, hpath⟩ := hpoints rfl
    obtain ⟨-, rfl⟩ := Tables.of_recordLaunch_eq_ok hrecord
    exact ⟨_, hset, by
      simpa [Except.toOption] using haccounts.launched hids hpaths hf hpath now⟩
  · exact ⟨t, hset, by simpa [Except.toOption, hfile] using haccounts⟩

/-- Names lead where they led at the start, and the tables in the file are those of the accounts. -/
def Accounted (start : World) (file : Nat) (db : Database)
    (c : Crowd Session Errand (Outcome Reply)) : Prop :=
  start.SameNames c.state.world ∧
    ∃ t, c.state.world.disk.database file = .ok { db with tables := t } ∧
      db.tables.Accounts (c.history file start) t

variable {start : World} {c c' : Crowd Session Errand (Outcome Reply)}

theorem Accounted.holds (h : Accounted start file db c) : Holds file db c.state.world := by
  obtain ⟨-, t, ht, haccounts⟩ := h
  exact ⟨t, ht, haccounts.files⟩

theorem Accounted.quiet (h : Accounted start file db c)
    (hquiet : c.state.world.Quiet c'.state.world)
    (hhistory : c'.history file start = c.history file start) : Accounted start file db c' := by
  obtain ⟨hnames, t, ht, haccounts⟩ := h
  exact ⟨hnames.trans hquiet.sameNames, t, by rwa [hquiet.disk], by rwa [hhistory]⟩

theorem Accounted.step (h : Accounted start file db c)
    (hids : (db.tables.files.map (·.id)).Nodup) (hpaths : (db.tables.files.map (·.path)).Nodup)
    (htold : Told IsCall (fun number path id _ => Points file db number path id) c c') :
    Accounted start file db c' ∧ c.state.world.SameNames c'.state.world := by
  rcases Told.quiet_or_acts htold file start with
    ⟨hquiet, hhistory⟩ | ⟨⟨number, call, result⟩, hcall, hact, hhistory⟩
  · exact ⟨h.quiet hquiet hhistory, hquiet.sameNames⟩
  · obtain ⟨hnames, t, ht, haccounts⟩ := h
    rcases hact.cases with ⟨m, filePath, now, rfl, rfl, hcounts⟩ | ⟨path, ch, n, file, rfl, -⟩
    · obtain ⟨hnames', t', ht', haccounts'⟩ :=
        accounts_of_counts hcounts hids hpaths hnames ht haccounts
      exact ⟨⟨hnames.trans hnames', t', ht', by rwa [hhistory]⟩, hnames'⟩
    · exact absurd rfl (hcall path ch)

theorem accounted_of_run (hrun : Crowd.Run (setting IsCall) { state := s } crowd)
    (hdb : s.world.disk.database file = .ok db) (hids : (db.tables.files.map (·.id)).Nodup)
    (hpaths : (db.tables.files.map (·.path)).Nodup) : Accounted s.world file db crowd := by
  refine (run_keeps (Accounted s.world file db) (recalls_points file db)
    (fun _ _ _ h₁ h₂ => ⟨h₁.1.trans h₂.1, h₂.2⟩) (fun c hc => ⟨.refl _, hc.holds⟩)
    (fun c c' hc htold => ?_) ⟨.refl _, db.tables, hdb, Tables.accounts_nil _⟩ hrun).1
  obtain ⟨hc', hnames⟩ := hc.step hids hpaths htold
  exact ⟨hc', hnames, hc'.holds⟩

end Accounts

/-- The times of the launches of a path that have been recorded in a file, as they ended. -/
def recorded (file : Nat) (w : World) (path : Text)
    (crowd : Crowd Session Errand (Outcome Reply)) : List Int :=
  Incident.launches path (crowd.history file w)

/-- In every run of calls, names lead where they led and a file changes only as a call ends that has
recorded a launch. The files of an index stay as they are. A file without a recorded launch keeps
its usage; any other has one usage row, whose count has gone up by the number of its recorded
launches and whose time is that of the last one. -/
theorem launches_accounted (hrun : Crowd.Run (setting IsCall) { state := s } crowd) :
    (∀ path, crowd.state.world.databaseNode? path = s.world.databaseNode? path) ∧
    (∀ next, Crowd.Step (setting IsCall) crowd next →
      next.state.world.disk = crowd.state.world.disk ∨
        ∃ e, next.ended = crowd.ended ++ [e] ∧ e.result = .ok (.recorded true)) ∧
    ∀ file db, s.world.disk.database file = .ok db → db.tables.IsIndex →
      (db.tables.files.map (·.id)).Nodup →
      ∃ t, crowd.state.world.disk.database file = .ok { db with tables := t } ∧
        t.files = db.tables.files ∧
        (∀ f ∈ t.files, ∀ path, f.path = some path → ∀ n, db.tables.Launches f.id n → -2 ^ 63 ≤ n →
          n + (recorded file s.world path crowd).length < 2 ^ 63 →
          t.rowsOf f.id =
            match (recorded file s.world path crowd).getLast? with
            | none => db.tables.rowsOf f.id
            | some last =>
              [⟨f.id, .int (n + (recorded file s.world path crowd).length), .int last⟩]) ∧
        ∀ id, (∀ f ∈ t.files, f.id ≠ id) → t.rowsOf id = db.tables.rowsOf id := by
  obtain ⟨hnames, hstep⟩ := sameNames_of_run hrun
  refine ⟨hnames.databaseNode?, hstep, fun file db hdb hindex hids => ?_⟩
  obtain ⟨-, t, ht, haccounts⟩ := accounted_of_run hrun hdb hids hindex.paths_distinct
  refine ⟨t, ht, haccounts.files, fun f hf path hpath n hn hleast hgreatest => ?_, fun id hid => ?_⟩
  · rw [haccounts.files] at hf
    rw [haccounts.rows f hf path hpath]
    exact hindex.countLaunches_rowsOf hn hleast _ hgreatest
  · exact haccounts.others id (haccounts.files ▸ hid)

/-! ### One indexed file -/

def note : FileRow := ⟨1, some "a", some "/a", .null, .null, .null⟩

def oneNote : Tables where
  files := [note]
  lastFileId := 1

theorem oneNote_isIndex : oneNote.IsIndex where
  named := by simp [oneNote, note]
  placed := by simp [oneNote, note]
  paths_distinct := by simp [oneNote, note]
  usage_distinct := by simp [oneNote, note]
  counted := by simp [oneNote, note]

/-- A session with a closed connection to that index. -/
def desk : Session where
  connections :=
    [{ path := "/index", policy := default, busyTimeout := Binary64.zero false, script := none }]
  world :=
    { environment := ⟨[], "/", [], "/"⟩
      disk :=
        { entries := [(["index"], .file 0)]
          contents := [(0, .database (.complete oneNote))] } }

def launchNote (now : Int) : Errand :=
  .record (some ⟨0, { path := "/index", policy := default, busyTimeout := Binary64.zero false,
                      script := none }⟩) (.text "/a") now

theorem allowed_launchNote {s : Session} (h : s.paths = ["/index"]) (now : Int) :
    (setting IsCall).allowed (launchNote now) s := by
  refine ⟨fun path c => by simp [launchNote], fun m hm => ?_⟩
  obtain rfl := Option.some.inj hm
  rw [Session.Has, h]
  rfl

theorem launches_accounted_twice :
    ∃ crowd, Crowd.Run (setting IsCall) { state := desk } crowd ∧
      recorded 0 desk.world "/a" crowd = [7, 9] ∧
      ∃ t, crowd.state.world.disk.database 0 = .ok (.complete t) ∧
        t.rowsOf 1 = [⟨1, .int 2, .int 9⟩] := by
  have honce : Crowd.Run (setting IsCall) { state := desk }
      (Crowd.after (setting IsCall) { state := desk } (launchNote 7)) :=
    .call rfl (launchNote 7) (allowed_launchNote rfl 7) rfl
  have htwice := honce.trans (Crowd.Run.call rfl (launchNote 9) (allowed_launchNote rfl 9) rfl)
  obtain ⟨-, -, haccounts⟩ := launches_accounted htwice
  obtain ⟨t, ht, hfiles, hrows, -⟩ :=
    haccounts 0 (.complete oneNote) rfl oneNote_isIndex (by decide)
  have hnote : note ∈ t.files := by
    rw [hfiles]
    exact List.mem_cons_self
  have hnone : oneNote.Launches note.id 0 := .inr ⟨nofun, rfl⟩
  exact ⟨_, htwice, rfl, t, ht, hrows note hnote "/a" rfl 0 hnone (by decide) (by decide)⟩

end Errand

end LaunchIndex
