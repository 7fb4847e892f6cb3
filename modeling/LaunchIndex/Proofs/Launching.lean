import LaunchIndex.Proofs.Agreement
import LaunchIndex.Proofs.Failures
import LaunchIndex.Proofs.NameBytes

/-! What comes of recording a launch. If the index lists the file and nobody holds it, the launch is
written. Nearly everything that stands in the way is logged and makes the answer no; the exceptions
are a time of too many bits for a file that is listed, and a path of too many bytes, which are
passed on. -/

namespace LaunchIndex

open Store

/-! ### The row of a launch -/

namespace Store

theorem Cell.checkSize_eq_ok_iff {kind : Text} {size : Nat} :
    checkSize kind size = .ok () ↔ size ≤ maxBytes := by
  refine ⟨fun h => ?_, checkSize_eq_ok⟩
  unfold checkSize at h
  split at h
  · exact absurd h nofun
  · split at h
    · exact absurd h nofun
    · next hsmall => exact Nat.not_lt.mp hsmall

theorem Cell.isStorable_of_bind_eq_ok {position : Nat} {t : Text} {c : Cell}
    (h : bind position (.text t) = .ok c) : isStorable t = true := by
  simp only [bind] at h
  split at h
  · cases h
  · next hnone =>
    cases hsize : checkSize "string" (Text.Utf8.size t) with
    | error fault =>
      rw [hsize] at h
      cases h
    | ok _ =>
      rw [isStorable, (Text.Utf8.findBadRun_eq_none_iff_isEncodable _ _).mp hnone, Bool.true_and,
        decide_eq_true_iff]
      exact checkSize_eq_ok_iff.mp hsize

/-- A text of too many bytes does not come as far as the engine. -/
theorem Cell.bind_text_eq_tooLong_iff {position : Nat} {t : Text} :
    bind position (.text t) = .error (Fault.tooLongForStore "string") ↔
      t.isEncodable = true ∧ 2147483647 < Text.Utf8.size t := by
  simp only [bind, ← Text.Utf8.findBadRun_eq_none_iff_isEncodable 0]
  cases Text.Utf8.findBadRun (fun _ => false) 0 t with
  | some run => simp [Fault.tooLongForStore]
  | none =>
    by_cases hlong : 2147483647 < Text.Utf8.size t
    · simp [checkSize, hlong, Except.map]
    · by_cases hbig : maxBytes < Text.Utf8.size t <;>
        simp [checkSize, hlong, hbig, Except.map, Fault.tooLongForStore]

/-- The row of a file after a launch holds the time, and a first row counts one. -/
theorem Tables.find?_countLaunch (id time : Int) (usage : List UsageRow) :
    (countLaunch id time usage).find? (fun u => u.fileId == id) =
      some ⟨id, ((usage.find? fun u => u.fileId == id).map (·.launchCount.addOne)).getD (.int 1),
        .int time⟩ := by
  induction usage with
  | nil => simp [countLaunch]
  | cons u rest ih =>
    by_cases hu : u.fileId = id
    · simp [countLaunch, hu]
    · simpa [countLaunch, hu] using ih

end Store

/-- The index at one path can be read, has both tables, and lists a file at another path. -/
structure World.Lists (w : World) (database path : Text) (file : Nat) (db : Database)
    (f : FileRow) : Prop where
  target : Writer.target (.text database) w = .ok file
  read : w.readDatabase file = .ok db
  files : db.layout.requireFiles = .ok ()
  usage : db.layout.requireUsage = .ok ()
  storable : Cell.isStorable path = true
  row : db.tables.fileAt? path = some f

/-- The index at one path can be read and has a table of files, but the path to be looked up there
has more bytes than a parameter may have. -/
def World.Overtaxes (w : World) (database path : Text) : Prop :=
  (∃ file db, Writer.target (.text database) w = .ok file ∧ w.readDatabase file = .ok db ∧
    db.layout.requireFiles = .ok ()) ∧ path.isEncodable = true ∧ 2147483647 < Text.Utf8.size path

namespace Connection

variable {w : World} {s : Site} {database path : Text} {file : Nat} {db : Database} {f : FileRow}

theorem fileId_eq (path : Text) (file : Nat) (w : World) : fileId path file w =
    match w.readDatabase file with
    | .error e => .error (.store e)
    | .ok db =>
      match db.layout.requireFiles with
      | .error e => .error (.store e)
      | .ok _ =>
        (Cell.bind 1 (.text path)).map fun _ => (db.tables.fileAt? path).map (·.id) := by
  simp only [fileId, Statement.queryFresh, Statement.prepare, Outcome.ofStore, bind, Except.bind,
    pure, Except.pure]
  cases w.readDatabase file with
  | error e => rfl
  | ok db =>
    cases hrequire : db.layout.requireFiles with
    | error e => simp only [hrequire]
    | ok _ => cases hbind : Cell.bind 1 (.text path) <;> simp only [hrequire, Except.map]

theorem fileId_eq_tooLong_iff : fileId path file w = .error (Fault.tooLongForStore "string") ↔
    (∃ db, w.readDatabase file = .ok db ∧ db.layout.requireFiles = .ok ()) ∧
      path.isEncodable = true ∧ 2147483647 < Text.Utf8.size path := by
  rw [fileId_eq, ← @Cell.bind_text_eq_tooLong_iff 1]
  cases w.readDatabase file with
  | error e => simp [Fault.tooLongForStore]
  | ok db =>
    cases hrequire : db.layout.requireFiles with
    | error e => simp [hrequire, Fault.tooLongForStore]
    | ok _ => cases Cell.bind 1 (.text path) <;> simp [hrequire, Except.map]

theorem fileId_eq_some_iff {id : Int} :
    fileId path file w = .ok (some id) ↔ ∃ db f, w.readDatabase file = .ok db ∧
      db.layout.requireFiles = .ok () ∧ Cell.isStorable path = true ∧
      db.tables.fileAt? path = some f ∧ f.id = id := by
  rw [fileId_eq]
  cases w.readDatabase file with
  | error e => simp
  | ok db =>
    cases hrequire : db.layout.requireFiles with
    | error e => simp [hrequire]
    | ok _ =>
      cases hbind : Cell.bind 1 (.text path) with
      | error fault =>
        have hstorable : Cell.isStorable path ≠ true := fun h =>
          absurd ((Cell.bind_text 1 h).symm.trans hbind) nofun
        simp [hrequire, Except.map, hstorable]
      | ok c => simp [hrequire, Except.map, Cell.isStorable_of_bind_eq_ok hbind]

theorem exec_recordLaunch_text (halive : s.connection.destroyed = false) (hpath : path ≠ [])
    (now : Int) :
    Task.exec (recordLaunch (.text path) (.int now)) s =
      match Task.exec (writeLaunch s.connection.path path now) s with
      | (.ok recorded, s') => (.ok recorded, s')
      | (.error fault, s') =>
        if isLostLaunch fault then
          (.ok false, s'.mapWorld (World.log (Event.recordFailed path fault)))
        else (.error fault, s') := by
  have hrequire : s.connection.requirePath (.text path) = .ok path := by
    simp [requirePath, halive, Value.isEmpty, hpath, Value.display]
  have htime : Task.exec (launchTime (.int now)) s = (.ok now, s) := rfl
  have hexec := exec_recordLaunch (.text path) (.int now) s
  rw [hrequire, htime] at hexec
  exact hexec

end Connection

namespace World.Lists

variable {w : World} {s : Site} {database path : Text} {file : Nat} {db : Database} {f : FileRow}

theorem fileId_eq (h : w.Lists database path file db f) :
    Connection.fileId path file w = .ok (some f.id) :=
  Connection.fileId_eq_some_iff.mpr ⟨db, f, h.read, h.files, h.storable, h.row, rfl⟩

theorem not_overtaxes {other : Text} (h : w.Lists database path file db f) :
    ¬w.Overtaxes other path := by
  rintro ⟨-, -, hlong⟩
  have hsize := of_decide_eq_true (Bool.and_eq_true_iff.mp h.storable).2
  simp only [Cell.maxBytes] at hsize
  omega

theorem unique {file' : Nat} {db' : Database} {f' : FileRow} (h : w.Lists database path file db f)
    (h' : w.Lists database path file' db' f') : file = file' ∧ db = db' ∧ f = f' := by
  obtain rfl := Except.ok.inj (h.target.symm.trans h'.target)
  obtain rfl := Except.ok.inj (h.read.symm.trans h'.read)
  exact ⟨rfl, rfl, Option.some.inj (h.row.symm.trans h'.row)⟩

theorem recordLaunch_eq (h : w.Lists database path file db f) (time : Int) :
    db.tables.recordLaunch f.id time =
      .ok { db.tables with usage := Tables.countLaunch f.id time db.tables.usage } := by
  obtain ⟨hmem, -⟩ := List.mem_filter.mp (List.mem_of_head? h.row)
  have hany : (db.tables.files.any fun g => g.id == f.id) = true :=
    List.any_eq_true.mpr ⟨f, hmem, by simp⟩
  rw [Tables.recordLaunch, hany, Bool.or_true, if_pos rfl]

theorem countLaunch_eq (h : w.Lists database path file db f) (time : Int) :
    Connection.countLaunch f.id time file w =
      if Numeral.fits time = false then (.error Fault.integerTooLargeForStore, w)
      else if (w.lockOn? file).isSome then (.error (.store StoreError.locked), w)
      else
        (.ok 1, { w with
          disk := w.disk.setDatabase file
            { db with
              tables :=
                { db.tables with usage := Tables.countLaunch f.id time db.tables.usage } } }) := by
  have hchange : w.mayChange file = .ok () ∨ w.mayChange file = .error StoreError.locked ∧
      (w.lockOn? file).isSome = true := by
    unfold World.mayChange
    split
    · next hlock => exact .inr ⟨rfl, by rw [hlock]; rfl⟩
    · next hlock => exact .inr ⟨rfl, by rw [hlock]; rfl⟩
    · exact .inl rfl
  have hrecord := h.recordLaunch_eq time
  simp only [Connection.countLaunch, Statement.change, Statement.prepare, h.read, h.usage,
    Outcome.ofStore, bind, Except.bind, pure, Except.pure, Except.map, Cell.bind]
  cases hfits : Numeral.fits time with
  | false => rfl
  | true =>
    rcases hchange with hc | ⟨hc, hlock⟩
    · cases hlock : (w.lockOn? file).isSome <;> simp [hc, hrecord, World.mayCommit, hlock]
    · simp [hc, hlock]

end World.Lists

namespace Connection

variable {w : World} {s : Site} {path : Text} {file : Nat} {db : Database} {f : FileRow}

/-- A launch of a listed file is refused if its time does not fit, and lost if the file is held. -/
theorem exec_recordLaunch_of_lists (halive : s.connection.destroyed = false) (hpath : path ≠ [])
    (h : s.world.Lists s.connection.path path file db f) (now : Int) :
    Task.exec (recordLaunch (.text path) (.int now)) s =
      if Numeral.fits now = false then (.error Fault.integerTooLargeForStore, s)
      else if (s.world.lockOn? file).isSome then
        (.ok false, s.mapWorld (World.log (Event.recordFailed path (.store StoreError.locked))))
      else
        (.ok true, s.mapWorld fun w =>
          { w with
            disk := w.disk.setDatabase file
              { db with
                tables :=
                  { db.tables with
                    usage := Tables.countLaunch f.id now db.tables.usage } } }) := by
  rw [exec_recordLaunch_text halive hpath, exec_writeLaunch, h.target]
  simp only [h.fileId_eq, h.countLaunch_eq now]
  cases Numeral.fits now with
  | false => rfl
  | true => cases (s.world.lockOn? file).isSome <;> rfl

theorem exec_recordLaunch_of_overtaxes (halive : s.connection.destroyed = false) (hpath : path ≠ [])
    (h : s.world.Overtaxes s.connection.path path) (now : Int) :
    Task.exec (recordLaunch (.text path) (.int now)) s =
      (.error (Fault.tooLongForStore "string"), s) := by
  obtain ⟨⟨file, db, htarget, hread, hfiles⟩, hlong⟩ := h
  have hid := fileId_eq_tooLong_iff.mpr ⟨⟨db, hread, hfiles⟩, hlong⟩
  rw [exec_recordLaunch_text halive hpath, exec_writeLaunch, htarget]
  simp only [hid]
  rfl

theorem exec_recordLaunch_of_not_lists (halive : s.connection.destroyed = false)
    (hplaced : s.connection.path ≠ []) (hpath : path ≠ [])
    (hshort : ¬s.world.Overtaxes s.connection.path path)
    (h : ∀ file db f, ¬s.world.Lists s.connection.path path file db f) (now : Int) :
    ∃ event, (event = Event.notIndexed path ∨
        ∃ fault, isLostLaunch fault = true ∧ event = Event.recordFailed path fault) ∧
      Task.exec (recordLaunch (.text path) (.int now)) s =
        (.ok false, s.mapWorld (World.log event)) := by
  have hlost (fault : Fault) (hfault : isLostLaunch fault = true)
      (hwrite : Task.exec (writeLaunch s.connection.path path now) s = (.error fault, s)) :
      ∃ event, (event = Event.notIndexed path ∨
          ∃ fault, isLostLaunch fault = true ∧ event = Event.recordFailed path fault) ∧
        Task.exec (recordLaunch (.text path) (.int now)) s =
          (.ok false, s.mapWorld (World.log event)) := by
    refine ⟨Event.recordFailed path fault, .inr ⟨fault, hfault, rfl⟩, ?_⟩
    rw [exec_recordLaunch_text halive hpath, hwrite]
    simp only [hfault, ↓reduceIte]
  have hensured := Service.ensures_target s.connection.path s.world
  rcases htarget : Writer.target (.text s.connection.path) s.world with fault | file
  · rw [htarget] at hensured
    refine hlost fault (hensured.resolve_right fun h => hplaced h.1) ?_
    rw [exec_writeLaunch, htarget]
  have hensured := Service.ensures_fileId path file s.world
  rcases hid : fileId path file s.world with fault | _ | id
  · rw [hid] at hensured
    have hlogged : isLostLaunch fault = true := hensured.resolve_right fun ⟨heq, _⟩ => by
      obtain ⟨⟨db, hread, hfiles⟩, hlong⟩ := fileId_eq_tooLong_iff.mp (heq ▸ hid)
      exact hshort ⟨⟨file, db, htarget, hread, hfiles⟩, hlong⟩
    refine hlost fault hlogged ?_
    rw [exec_writeLaunch, htarget]
    simp only [hid]
  · refine ⟨Event.notIndexed path, .inl rfl, ?_⟩
    rw [exec_recordLaunch_text halive hpath, exec_writeLaunch, htarget]
    simp only [hid]
  -- The file is found, so it is the table of launches that is missing.
  obtain ⟨db, f, hread, hfiles, hstorable, hrow, rfl⟩ := fileId_eq_some_iff.mp hid
  rcases husage : db.layout.requireUsage with e | _
  · refine hlost (.store e) rfl ?_
    rw [exec_writeLaunch, htarget]
    simp only [hid, countLaunch, Statement.change, Statement.prepare, hread, husage,
      Outcome.ofStore, bind, Except.bind, Except.map]
  · exact absurd ⟨htarget, hread, hfiles, husage, hstorable, hrow⟩ (h file db f)

end Connection

/-! ### Among others -/

/-- Others leave the path of the connection and do not destroy it. -/
def Site.Spares (s s' : Site) : Prop :=
  s'.connection.path = s.connection.path ∧
    (s.connection.destroyed = false → s'.connection.destroyed = false)

namespace Connection

variable {s : Site} {path : Text}

/-- What a launch is refused for: a time of too many bits, or a path of too many bytes. -/
def Excessive (path : Text) (now : Int) (fault : Fault) : Prop :=
  fault = Fault.integerTooLargeForStore ∧ Numeral.fits now = false ∨
    fault = Fault.tooLongForStore "string" ∧ 2147483647 < Text.Utf8.size path

/-- Writing a launch fails in ways that are logged, or because its time or its path is excessive,
whatever others do meanwhile. -/
theorem assures_writeLaunch {database : Text} (hplaced : database ≠ []) (path : Text) (now : Int)
    (s : Site) :
    Task.Assures Site.Spares (fun s s' => s'.connection = s.connection)
      (fun outcome _ => outcome.Ensures (fun _ => True) fun fault =>
        isLostLaunch fault = true ∨ Excessive path now fault)
      (writeLaunch database path now) s := by
  refine Task.Assures.bind (Task.assures_lift (Routine.assures_waitFor fun s₁ _ => ?_))
  refine Task.Assures.bind (Routine.assures_look fun s₂ _ => ⟨rfl, ?_⟩)
  have htarget := Service.ensures_target database s₂.world
  rcases hw : Writer.target (.text database) s₂.world with fault | file <;> rw [hw] at htarget
  · exact .inl (htarget.resolve_right fun h => hplaced h.1)
  refine Task.Assures.bind (Task.assures_lift (Routine.assures_waitFor fun s₃ _ => ?_))
  refine Task.Assures.bind (Routine.assures_look fun s₄ _ => ⟨rfl, ?_⟩)
  have hid := Service.ensures_fileId path file s₄.world
  rcases hf : fileId path file s₄.world with fault | _ | id <;> rw [hf] at hid
  · exact hid.imp id .inr
  · refine Task.Assures.bind (Task.assures_lift ?_)
    exact Routine.assures_update fun s₅ _ => ⟨rfl, trivial⟩
  refine Task.Assures.bind (Task.assures_lift (Routine.assures_waitFor fun s₅ _ => ?_))
  refine Task.Assures.bind (Routine.assures_step fun s₆ _ => ⟨rfl, ?_⟩)
  have hcount := Service.ensures_countLaunch id now file s₆.world
  rcases hc : countLaunch id now file s₆.world with ⟨fault | n, w⟩
  · rw [hc] at hcount
    simp only [Site.onWorld, hc]
    exact hcount.imp_right .inl
  · simp only [Site.onWorld, hc]
    exact trivial

theorem assures_recordLaunch (halive : s.connection.destroyed = false)
    (hplaced : s.connection.path ≠ []) (hpath : path ≠ []) (now : Int) :
    Task.Assures Site.Spares (fun s s' => s'.connection = s.connection)
      (fun outcome _ => outcome.Ensures (fun _ => True) (Excessive path now))
      (recordLaunch (.text path) (.int now)) s := by
  refine Task.Assures.bind (Task.assures_lift (Routine.assures_look fun s₁ hs₁ => ⟨rfl, ?_⟩))
  have hrequire : s₁.connection.requirePath (.text path) = .ok path := by
    simp [requirePath, hs₁.2 halive, Value.isEmpty, hpath, Value.display]
  refine Task.Assures.bind (Task.assures_ofOutcome ?_)
  rw [hrequire]
  refine Task.Assures.bind (Task.assures_ofOutcome (Task.Assures.bind (Task.Assures.attempt ?_)))
  refine (assures_writeLaunch (hs₁.1 ▸ hplaced) path now s₁).mono (fun _ _ h => h) ?_
  rintro (fault | recorded) s₂ houtcome
  · dsimp only
    split
    · exact Task.Assures.bind (Task.assures_lift (Routine.assures_update fun _ _ => ⟨rfl, trivial⟩))
    · next hlost => exact Task.assures_throw (houtcome.resolve_left hlost)
  · exact Task.assures_pure trivial

/-- Recording a launch is best-effort, but for its time and the size of its path. On any connection
that is not destroyed, and whatever its index is like, it ends in one of four ways. If the index
lists the file, nobody holds it and the time fits, the answer is yes, and all that has changed is
the usage row of the file, which has the time of the launch. If the index lists the file and the
time does not fit, or if there is a table to look for the file in and its path has too many bytes to
be looked up, the launch is refused with a failure and nothing has changed. In every other case the
answer is no, with an entry in the log. Nothing that others do meanwhile adds a failure. -/
theorem recordLaunch_answers (halive : s.connection.destroyed = false)
    (hplaced : Text.isBlank s.connection.path = false) (hpath : path ≠ []) (now : Int) :
    ((∃ file db f tables, s.world.Lists s.connection.path path file db f ∧
        s.world.lockOn? file = none ∧ Numeral.fits now = true ∧
        db.tables.recordLaunch f.id now = .ok tables ∧
        tables.usageOf? f.id = some ⟨f.id,
          ((db.tables.usageOf? f.id).map (·.launchCount.addOne)).getD (.int 1), .int now⟩ ∧
        (s.world.disk.setDatabase file { db with tables }).database file = .ok { db with tables } ∧
        Task.exec (recordLaunch (.text path) (.int now)) s = (.ok true, s.mapWorld fun w =>
          { w with disk := w.disk.setDatabase file { db with tables } })) ∨
      (∃ event, (event = Event.notIndexed path ∨
            ∃ fault, isLostLaunch fault = true ∧ event = Event.recordFailed path fault) ∧
        (∀ file db f, s.world.Lists s.connection.path path file db f →
          s.world.lockOn? file ≠ none ∧ Numeral.fits now = true) ∧
        ¬s.world.Overtaxes s.connection.path path ∧
        Task.exec (recordLaunch (.text path) (.int now)) s =
          (.ok false, s.mapWorld (World.log event))) ∨
      ((∃ file db f, s.world.Lists s.connection.path path file db f) ∧ Numeral.fits now = false ∧
        Task.exec (recordLaunch (.text path) (.int now)) s =
          (.error Fault.integerTooLargeForStore, s)) ∨
      (s.world.Overtaxes s.connection.path path ∧
        Task.exec (recordLaunch (.text path) (.int now)) s =
          (.error (Fault.tooLongForStore "string"), s))) ∧
    Task.Assures Site.Spares (fun s s' => s'.connection = s.connection)
      (fun outcome _ => outcome.Ensures (fun _ => True) (Excessive path now))
      (recordLaunch (.text path) (.int now)) s := by
  have hne : s.connection.path ≠ [] := by
    rintro hnil
    rw [hnil] at hplaced
    exact absurd hplaced (by decide)
  refine ⟨?_, assures_recordLaunch halive hne hpath now⟩
  by_cases hlisted : ∃ file db f, s.world.Lists s.connection.path path file db f
  · obtain ⟨file, db, f, h⟩ := hlisted
    have hexec := exec_recordLaunch_of_lists halive hpath h now
    cases hfits : Numeral.fits now with
    | false =>
      rw [hfits, if_pos rfl] at hexec
      exact .inr (.inr (.inl ⟨⟨file, db, f, h⟩, rfl, hexec⟩))
    | true =>
      rw [hfits, if_neg nofun] at hexec
      cases hlock : s.world.lockOn? file with
      | none =>
        rw [hlock, if_neg nofun] at hexec
        have hdb := Statement.of_readDatabase_eq_ok h.read
        exact .inl ⟨file, db, f, _, h, hlock, rfl, h.recordLaunch_eq now,
          Tables.find?_countLaunch f.id now db.tables.usage, Disk.database_setDatabase hdb, hexec⟩
      | some mode =>
        rw [hlock, Option.isSome_some, if_pos rfl] at hexec
        refine .inr (.inl ⟨_, .inr ⟨_, rfl, rfl⟩, fun file' db' f' h' => ⟨?_, rfl⟩,
          h.not_overtaxes, hexec⟩)
        obtain ⟨rfl, -, -⟩ := h.unique h'
        rw [hlock]
        exact nofun
  by_cases hlong : s.world.Overtaxes s.connection.path path
  · exact .inr (.inr (.inr ⟨hlong, exec_recordLaunch_of_overtaxes halive hpath hlong now⟩))
  · obtain ⟨event, hevent, hexec⟩ := exec_recordLaunch_of_not_lists halive hne hpath hlong
      (fun file db f h => hlisted ⟨file, db, f, h⟩) now
    exact .inr (.inl ⟨event, hevent, fun file db f h => absurd ⟨file, db, f, h⟩ hlisted, hlong,
      hexec⟩)

/-- The index lists the file, but the time is the first one that does not fit. -/
theorem recordLaunch_answers_late :
    Task.exec (recordLaunch (.text "/home/Notes") (.int (2 ^ 63))) twoNotesOpened =
      (.error Fault.integerTooLargeForStore, twoNotesOpened) := by
  have hlists : twoNotesOpened.world.Lists twoNotesOpened.connection.path "/home/Notes" 0
      (.complete twoNotes)
      ⟨3, some "Notes", some "/home/Notes", .int 12, .int 1700000000, .text "txt"⟩ :=
    ⟨rfl, rfl, rfl, rfl, by decide, by decide⟩
  have hfits : Numeral.fits (2 ^ 63) = false := by decide
  rcases (@recordLaunch_answers twoNotesOpened "/home/Notes" rfl (by decide) (by decide)
    (2 ^ 63)).1 with ⟨-, -, -, -, -, -, h, -⟩ | ⟨-, -, h, -⟩ | ⟨-, -, h⟩ | ⟨h, -⟩
  · exact absurd (h.symm.trans hfits) nofun
  · exact absurd ((h _ _ _ hlists).2.symm.trans hfits) nofun
  · exact h
  · exact absurd h hlists.not_overtaxes

/-- Not every launch on a connection that is not destroyed is answered with yes or no. -/
theorem not_recordLaunch_answers :
    ¬∀ (s : Site) (path : Text) (now : Int), s.connection.destroyed = false →
      Text.isBlank s.connection.path = false → path ≠ [] →
      ∃ recorded, (Task.exec (recordLaunch (.text path) (.int now)) s).1 = .ok recorded := by
  intro h
  obtain ⟨recorded, hrecorded⟩ :=
    h twoNotesOpened "/home/Notes" (2 ^ 63) rfl (by decide) (by decide)
  cases hrecorded

end Connection

end LaunchIndex
