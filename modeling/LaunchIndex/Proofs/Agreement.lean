import LaunchIndex.Proofs.Accounting
import LaunchIndex.Proofs.Readers

/-! The three queries agree. For every file they tell the same number of launches, and after one
more launch, by whatever connection it was recorded, all of them tell one more. -/

namespace LaunchIndex

open Store

/-! ### After a launch -/

namespace Task

variable {α β : Type}

theorem exec_waitFor_bind (wait : Wait) (next : Unit → Task β) (s : Site) :
    exec (Connection.liftRoutine (Routine.waitFor wait) >>= next) s = exec (next ()) s := rfl

/-- What comes after a task whose failure is looked at goes on with its outcome. -/
theorem exec_attempt_bind (task : Task α) (next : Outcome α → Task β) (s : Site) :
    exec (Connection.liftRoutine task.run >>= next) s =
      exec (next (exec task s).1) (exec task s).2 := by
  rw [exec_bind, exec_lift]
  rfl

end Task

namespace Connection

variable {s s' : Site} {database path : Text} {time : Int} {now : Value}

theorem exec_writeLaunch (database path : Text) (time : Int) (s : Site) :
    Task.exec (writeLaunch database path time) s =
      match Writer.target (.text database) s.world with
      | .error fault => (.error fault, s)
      | .ok file =>
        match fileId path file s.world with
        | .error fault => (.error fault, s)
        | .ok none => (.ok false, s.mapWorld (World.log (Event.notIndexed path)))
        | .ok (some id) =>
          ((countLaunch id time file s.world).1.map fun _ => true,
            { s with world := (countLaunch id time file s.world).2 }) := by
  rw [writeLaunch, Task.exec_waitFor_bind, Task.exec_bind, Task.exec_mk, Routine.run_look]
  rcases Writer.target (.text database) s.world with fault | file
  · rfl
  · simp only [Task.exec_waitFor_bind]
    rw [Task.exec_bind, Task.exec_mk, Routine.run_look]
    rcases fileId path file s.world with fault | _ | id
    · rfl
    · rfl
    · simp only [Task.exec_waitFor_bind]
      rw [Task.exec_bind, Task.exec_mk, Routine.run_step, Site.onWorld]
      rcases countLaunch id time file s.world with ⟨fault | n, w⟩ <;> rfl

/-- Recording a launch is writing it, with the lost failures logged, if there are a path and a
time. -/
theorem exec_recordLaunch (filePath now : Value) (s : Site) :
    Task.exec (recordLaunch filePath now) s =
      match s.connection.requirePath filePath with
      | .error fault => (.error fault, s)
      | .ok path =>
        match Task.exec (launchTime now) s with
        | (.error fault, s₁) => (.error fault, s₁)
        | (.ok time, s₁) =>
          match Task.exec (writeLaunch s.connection.path path time) s₁ with
          | (.ok recorded, s₂) => (.ok recorded, s₂)
          | (.error fault, s₂) =>
            if isLostLaunch fault then
              (.ok false, s₂.mapWorld (World.log (Event.recordFailed path fault)))
            else (.error fault, s₂) := by
  rw [recordLaunch, Task.exec_bind_of_ok (a := s.connection) rfl]
  rcases hrequire : s.connection.requirePath filePath with fault | path
  · rfl
  refine (Task.exec_bind_ofOutcome rfl s).trans ?_
  rw [Task.exec_bind]
  rcases Task.exec (launchTime now) s with ⟨fault | time, s₁⟩
  · rfl
  refine (Task.exec_attempt_bind _ _ s₁).trans ?_
  dsimp only
  rcases Task.exec (writeLaunch s.connection.path path time) s₁ with ⟨fault | recorded, s₂⟩
  · dsimp only
    split <;> rfl
  · rfl

theorem of_exec_writeLaunch (h : Task.exec (writeLaunch database path time) s = (.ok true, s')) :
    ∃ file db f tables, Writer.target (.text database) s.world = .ok file ∧
      s.world.disk.database file = .ok db ∧ db.tables.fileAt? path = some f ∧
      db.tables.recordLaunch f.id time = .ok tables ∧
      s'.world = { s.world with disk := s.world.disk.setDatabase file { db with tables } } := by
  rw [exec_writeLaunch] at h
  rcases htarget : Writer.target (.text database) s.world with fault | file <;> rw [htarget] at h
  · cases h
  rcases hid : fileId path file s.world with fault | _ | id <;> simp only [hid] at h
  · cases h
  · cases h
  obtain ⟨db, f, hdb, hf, rfl⟩ := of_fileId_eq_some hid
  rcases countLaunch_eq f.id time file s.world with
    ⟨fault, hc⟩ | ⟨db', tables, hdb', hrecord, hc⟩ <;>
    rw [hc] at h
  · cases h
  · obtain rfl := Except.ok.inj (hdb.symm.trans hdb')
    obtain ⟨-, rfl⟩ := Prod.mk.inj h
    exact ⟨file, db, f, tables, rfl, hdb, hf, hrecord, rfl⟩

/-- Only the clock goes on while the time of a launch is found, and only if no time is given. -/
theorem exists_clock_of_exec_launchTime (now : Value) (s : Site) :
    ∃ clock, (clock = s.world.clock ∨ now = .null ∧ clock = s.world.clock.tick) ∧
      (Task.exec (launchTime now) s).2 = { s with world := { s.world with clock } } := by
  cases now with
  | null => exact ⟨_, .inr ⟨rfl, rfl⟩, rfl⟩
  | _ => exact ⟨_, .inl rfl, rfl⟩

/-- A recorded launch counts for the file at the path, in the file that the path of the connection
leads to. -/
theorem of_exec_recordLaunch
    (h : Task.exec (recordLaunch (.text path) now) s = (.ok true, s')) :
    ∃ file db f tables time clock,
      Writer.target (.text s.connection.path) s.world = .ok file ∧
      s.world.disk.database file = .ok db ∧ db.tables.fileAt? path = some f ∧
      db.tables.recordLaunch f.id time = .ok tables ∧
      s'.world =
        { s.world with disk := s.world.disk.setDatabase file { db with tables }, clock } := by
  rw [exec_recordLaunch] at h
  rcases hrequire : s.connection.requirePath (.text path) with fault | p <;> rw [hrequire] at h
  · cases h
  obtain rfl : p = path := of_requirePath_eq_ok hrequire
  obtain ⟨clock, -, hclock⟩ := exists_clock_of_exec_launchTime now s
  rcases htime : Task.exec (launchTime now) s with ⟨fault | time, s₁⟩ <;>
    simp only [htime] at h hclock
  · cases h
  rcases hwrite : Task.exec (writeLaunch s.connection.path p time) s₁ with
    ⟨fault | recorded, s₂⟩ <;> simp only [hwrite] at h
  · split at h <;> cases h
  · cases h
    obtain ⟨file, db, f, tables, htarget, hdb, hf, hrecord, hworld⟩ := of_exec_writeLaunch hwrite
    rw [hclock] at htarget hdb hworld
    exact ⟨file, db, f, tables, time, clock, htarget, hdb, hf, hrecord, hworld⟩

end Connection

namespace Store

theorem Cell.toInteger_addOne {n : Int} (hleast : -2 ^ 63 ≤ n) (hgreatest : n < 2 ^ 63) :
    (addOne (int n)).toValue.toInteger = .ok (n + 1) := by
  rcases Int.lt_or_eq_of_le (Int.le_sub_one_of_lt hgreatest) with hlt | rfl
  · have hone : addOne (int n) = int (n + 1) := iterate_addOne hleast 1 (by omega)
    rw [hone]
    rfl
  · have htruncate : (⟨0x43E0000000000000⟩ : Binary64).truncate? = some (2 ^ 63 - 1 + 1) := by
      decide +kernel
    rw [addOne_greatest]
    simp only [toValue, Value.toInteger, htruncate]

namespace Tables

variable {t t' : Tables} {f : FileRow} {time n : Int}

theorem usageOf?_eq_head? (t : Tables) (id : Int) : t.usageOf? id = (t.rowsOf id).head? := by
  rw [rowsOf, List.head?_filter]
  rfl

/-- After a launch a file has one usage row, which counts one more. -/
theorem IsIndex.exists_rowsOf_recordLaunch (ht : t.IsIndex) (h : t.recordLaunch f.id time = .ok t')
    (hn : t.Launches f.id n) (hleast : -2 ^ 63 ≤ n) (hgreatest : n < 2 ^ 63) :
    ∃ count, t'.rowsOf f.id = [⟨f.id, count, .int time⟩] ∧
      count.toValue.toInteger = .ok (n + 1) := by
  obtain ⟨-, rfl⟩ := of_recordLaunch_eq_ok h
  rw [rowsOf, filter_countLaunch_self, ← rowsOf]
  rcases ht.rowsOf_eq hn with ⟨hrows, rfl⟩ | ⟨last, hrows⟩
  · exact ⟨.int 1, by rw [hrows]; rfl, rfl⟩
  · exact ⟨Cell.addOne (.int n), by rw [hrows]; simp [countLaunch],
      Cell.toInteger_addOne hleast hgreatest⟩

theorem IsIndex.isReadable_recordLaunch (ht : t.IsIndex) (hids : (t.files.map (·.id)).Nodup)
    (h : t.recordLaunch f.id time = .ok t') (hn : t.Launches f.id n) (hleast : -2 ^ 63 ≤ n)
    (hgreatest : n < 2 ^ 63) : t'.IsReadable := by
  obtain ⟨count, hrows, hcount⟩ := ht.exists_rowsOf_recordLaunch h hn hleast hgreatest
  obtain ⟨-, rfl⟩ := of_recordLaunch_eq_ok h
  have hothers : ∀ id, id ≠ f.id →
      rowsOf { t with usage := countLaunch f.id time t.usage } id = t.rowsOf id :=
    fun id hid => filter_countLaunch_of_ne hid time t.usage
  refine ⟨hids, ht.paths_distinct, usage_nodup_iff.mpr fun id => ?_, fun u hu => ?_⟩
  · by_cases hid : id = f.id
    · rw [hid, hrows]
      exact Nat.le_refl 1
    · rw [hothers id hid]
      exact usage_nodup_iff.mp ht.usage_distinct id
  · have hmem : u ∈ rowsOf { t with usage := countLaunch f.id time t.usage } u.fileId :=
      List.mem_filter.mpr ⟨hu, by simp⟩
    by_cases hid : u.fileId = f.id
    · rw [hid, hrows, List.mem_singleton] at hmem
      exact ⟨n + 1, by rw [hmem, hcount]⟩
    · rw [hothers u.fileId hid] at hmem
      exact (ht.isReadable hids).counted u (List.mem_filter.mp hmem).1

theorem IsIndex.stat?_recordLaunch (ht : t.IsIndex) (h : t.recordLaunch f.id time = .ok t')
    (hn : t.Launches f.id n) (hleast : -2 ^ 63 ≤ n) (hgreatest : n < 2 ^ 63) :
    t'.stat? f = some ⟨f.id, n + 1, .int time⟩ := by
  obtain ⟨count, hrows, hcount⟩ := ht.exists_rowsOf_recordLaunch h hn hleast hgreatest
  refine IsReadable.stat?_of_eq_some (u := ⟨f.id, count, .int time⟩) ?_ hcount
  rw [usageOf?_eq_head?, hrows]
  rfl

end Tables

end Store

namespace Store

theorem Cell.isLegible_integral {c : Cell} (h : c.isLegible = true) :
    (integral c).isLegible = true := by
  cases c with
  | real x =>
    simp only [integral]
    split
    · split <;> rfl
    · rfl
  | _ => exact h

theorem Cell.isLegible_addOne (n : Int) : (addOne (int n)).isLegible = true := by
  refine isLegible_integral ?_
  simp only
  split
  · rfl
  · split <;> rfl

theorem Tables.IsIndex.isLegible_recordLaunch {t t' : Tables} {id time : Int} (ht : t.IsIndex)
    (hl : t.IsLegible) (h : t.recordLaunch id time = .ok t') : t'.IsLegible := by
  obtain ⟨-, rfl⟩ := of_recordLaunch_eq_ok h
  have hrows : ∀ rows : List UsageRow, (∀ u ∈ rows, ∃ n, u.launchCount = .int n) →
      (∀ u ∈ rows, u.isLegible = true) → ∀ u ∈ countLaunch id time rows, u.isLegible = true := by
    intro rows hcounted hlegible
    induction rows with
    | nil => simp [countLaunch, UsageRow.isLegible, Cell.isLegible]
    | cons u rest ih =>
      obtain ⟨⟨n, hn⟩, hcounted⟩ := List.forall_mem_cons.mp hcounted
      obtain ⟨hu, hlegible⟩ := List.forall_mem_cons.mp hlegible
      rw [countLaunch]
      split
      · refine List.forall_mem_cons.mpr ⟨?_, hlegible⟩
        rw [UsageRow.isLegible, hn, Cell.isLegible_addOne]
        rfl
      · exact List.forall_mem_cons.mpr ⟨hu, ih hcounted hlegible⟩
  exact ⟨hl.files, hrows t.usage ht.counted hl.usage⟩

end Store

theorem Writer.of_target_eq_ok {path : Text} {w : World} {file : Nat}
    (h : target (.text path) w = .ok file) : w.databaseNode? path = some (.file file) := by
  unfold target at h
  split at h
  · exact absurd h nofun
  split at h
  · exact absurd h nofun
  split at h
  · rename_i number hnode
    obtain rfl := Except.ok.inj h
    exact hnode
  · exact absurd h nofun

/-- Readers go on with what a writer has left in the file. -/
theorem Site.Reads.of_setDatabase {s : Site} {t t' : Tables} {number file : Nat} {db : Database}
    {w : World} (hs : s.Reads t) (hhandle : s.connection.handle = some ⟨number, .file file⟩)
    (hdb : s.world.disk.database file = .ok db) (hlock : w.lock = s.world.lock)
    (hdisk : w.disk = s.world.disk.setDatabase file { db with tables := t' })
    (hlegible : t'.IsLegible) : ({ s with world := w } : Site).Reads t' := by
  refine ⟨hs.connected, ?_, hlegible⟩
  obtain ⟨number', file', layout, hhandle', hdb', hfiles, husage, hread⟩ := hs.readable
  obtain ⟨-, htarget⟩ := Handle.mk.inj (Option.some.inj (hhandle.symm.trans hhandle'))
  obtain rfl := Target.file.inj htarget
  obtain rfl := Except.ok.inj (hdb.symm.trans hdb')
  refine ⟨number, file, layout, hhandle, ?_, hfiles, husage, ?_⟩
  · change w.disk.database file = _
    rw [hdisk, Disk.database_setDatabase hdb]
  · change w.mayRead file = _
    rw [← hread, World.mayRead, World.lockOn?, World.mayRead, World.lockOn?, hlock]

namespace Connection

variable {s : Site} {t : Tables}

/-- The three queries agree on an index. For a file at a path, the usage is that of its row, or none
without one; a search that shows the file shows the same count, and zero without usage; and the list
of the most launched files has each file that has usage once, with the same count, and no other
ones. After a launch that a writer on the same file has recorded, all three tell one more. -/
theorem queries_agree (hs : s.Reads t) (halive : s.connection.destroyed = false) (ht : t.IsIndex)
    (hids : (t.files.map (·.id)).Nodup) :
    (∀ f ∈ t.files, ∀ path, f.path = some path → path ≠ [] →
      (∃ stat, s.Tells t path stat ∧ (stat = none ↔ ∀ u ∈ t.usage, u.fileId ≠ f.id) ∧
        ∀ u ∈ t.usage, u.fileId = f.id → ∀ n, u.launchCount = .int n →
          stat = some ⟨u.fileId, n, u.lastLaunched.toValue⟩) ∧
      ∀ number file writer now s', s.connection.handle = some ⟨number, .file file⟩ →
        s.world.databaseNode? writer.path = some (.file file) →
        Task.exec (recordLaunch (.text path) now) ⟨writer, s.world⟩ = (.ok true, s') →
        ∀ n, t.Launches f.id n → -2 ^ 63 ≤ n → n < 2 ^ 63 → ∃ t' last,
          ({ s with world := s'.world } : Site).Reads t' ∧ t'.files = t.files ∧
          ({ s with world := s'.world } : Site).Tells t' path (some ⟨f.id, n + 1, last⟩)) ∧
    ∀ (limit : Value) (n : Int), limit.toInteger = .ok n → t.usage.length ≤ n → n < 2 ^ 63 →
      ∃ records, (Task.exec (mostUsed limit) s).1 = .ok records ∧
        ∀ r ∈ records, ∃ f ∈ t.files, ∃ path, f.path = some path ∧ r.path = .text path := by
  have hreadable := ht.isReadable hids
  refine ⟨fun f hf path hpath hne => ⟨⟨_, hs.tells halive hreadable hf hpath hne, ?_, ?_⟩, ?_⟩,
    ?_⟩
  · rw [hreadable.stat?_eq_none_iff, Tables.usageOf?_eq_none_iff]
  · intro u hu hid n hn
    have hsome := ht.usageOf?_eq hu
    rw [hid] at hsome
    rw [hid]
    exact Tables.IsReadable.stat?_of_eq_some hsome (by rw [hn]; rfl)
  · intro number file writer now s' hhandle hnode hexec n hn hleast hgreatest
    obtain ⟨file', db, g, t', time, clock, htarget, hdb, hg, hrecord, hworld⟩ :=
      of_exec_recordLaunch hexec
    have hsame := hnode.symm.trans (Writer.of_target_eq_ok htarget)
    obtain rfl := Node.file.inj (Option.some.inj hsame)
    obtain ⟨number', file', layout, hhandle', hdb', -⟩ := hs.readable
    obtain ⟨-, hsame⟩ := Handle.mk.inj (Option.some.inj (hhandle.symm.trans hhandle'))
    obtain rfl := Target.file.inj hsame
    obtain rfl := Except.ok.inj (hdb.symm.trans hdb')
    obtain ⟨hmem, hgpath⟩ := List.mem_filter.mp (List.mem_of_head? hg)
    obtain rfl : f = g := hreadable.file_unique hf hmem hpath (eq_of_beq hgpath)
    have hs' : ({ s with world := s'.world } : Site).Reads t' :=
      hs.of_setDatabase hhandle hdb (by rw [hworld]) (by rw [hworld])
        (ht.isLegible_recordLaunch hs.legible hrecord)
    have hfiles : t'.files = t.files := by rw [(Tables.of_recordLaunch_eq_ok hrecord).2]
    have htells := hs'.tells halive (ht.isReadable_recordLaunch hids hrecord hn hleast hgreatest)
      (hfiles ▸ hf) hpath hne
    rw [ht.stat?_recordLaunch hrecord hn hleast hgreatest] at htells
    exact ⟨t', _, hs', hfiles, htells⟩
  · intro limit n hlimit hn hgreatest
    refine ⟨_, hs.exec_mostUsed_eq hreadable hlimit hn hgreatest, fun r hr => ?_⟩
    obtain ⟨l, hl, rfl⟩ := List.mem_map.mp hr
    obtain ⟨hf, -⟩ := Tables.mem_launched.mp ((hreadable.mostLaunched_perm hn).mem_iff.mp hl)
    obtain ⟨path, hpath⟩ := ht.placed l.file hf
    exact ⟨l.file, hf, path, hpath, Record.ofFile_path_eq_iff.mpr hpath⟩

def twoNotesOpened : Site where
  connection := (Site.opened twoNotes).connection
  world :=
    { (Site.opened twoNotes).world with
      disk :=
        { entries := [(["index"], .file 0)]
          contents := [(0, .database (.complete twoNotes))] } }

/-- Of two files one has been launched twice, and then once more. -/
theorem queries_agree_twoNotes :
    twoNotesOpened.Tells twoNotes "/home/notes.txt" none ∧
      twoNotesOpened.Tells twoNotes "/home/Notes" (some ⟨3, 2, .null⟩) ∧
      ∃ s' t' last,
        Task.exec (recordLaunch (.text "/home/Notes") (.int 9)) twoNotesOpened = (.ok true, s') ∧
        ({ twoNotesOpened with world := s'.world } : Site).Tells t' "/home/Notes"
          (some ⟨3, 3, last⟩) := by
  have hs : twoNotesOpened.Reads twoNotes :=
    ⟨rfl, ⟨0, 0, Layout.complete, rfl, rfl, rfl, rfl, rfl⟩, by decide⟩
  obtain ⟨hfiles, -⟩ := queries_agree hs rfl twoNotes_isIndex (by decide)
  obtain ⟨⟨stat, hstat, hnone, -⟩, -⟩ :=
    hfiles _ List.mem_cons_self "/home/notes.txt" rfl (by decide)
  obtain ⟨⟨stat', hstat', -, hsome⟩, hlaunch⟩ :=
    hfiles _ (List.mem_cons_of_mem _ List.mem_cons_self) "/home/Notes" rfl (by decide)
  obtain rfl := hnone.mpr (by simp [twoNotes])
  obtain rfl := hsome _ List.mem_cons_self rfl 2 rfl
  obtain ⟨t', last, -, -, htells⟩ := hlaunch 0 0 twoNotesOpened.connection (.int 9) _ rfl rfl rfl 2
    (.inl ⟨_, List.mem_cons_self, rfl, rfl⟩) (by decide) (by decide)
  exact ⟨hstat, hstat', _, t', last, rfl, htells⟩

end Connection

end LaunchIndex
