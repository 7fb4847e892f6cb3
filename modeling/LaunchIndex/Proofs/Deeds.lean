import LaunchIndex.Proofs.Errands

/-! What a call that writes does with its last step. A recorded launch counts one launch in the file
that the path of its connection names, under an id that was looked up before; a change by the
indexing program is one statement on the file that it names. Until then both leave every file as it
is, and if they fail they have done nothing. -/

namespace LaunchIndex

open Store

namespace Outcome

variable {α : Type}

theorem of_ofStore_eq_ok {x : Except StoreError α} {a : α} (h : ofStore x = .ok a) : x = .ok a := by
  rcases x with e | b
  · exact absurd h nofun
  · exact congrArg Except.ok (Except.ok.inj h)

end Outcome

namespace Statement

variable {π : Type}

theorem of_prepare_eq_ok {st : Statement π} {found : Except StoreError Database} {db : Database}
    {parameters : π} (h : st.prepare found = .ok (db, parameters)) :
    found = .ok db ∧ st.require db.layout = .ok () ∧ st.bind = .ok parameters := by
  obtain ⟨db', hdb, h⟩ := Outcome.of_bind_eq_ok h
  obtain ⟨_, hrequire, h⟩ := Outcome.of_bind_eq_ok h
  obtain ⟨parameters', hbind, h⟩ := Outcome.of_bind_eq_ok h
  obtain ⟨rfl, rfl⟩ := Prod.mk.inj (Except.ok.inj h)
  exact ⟨Outcome.of_ofStore_eq_ok hdb, Outcome.of_ofStore_eq_ok hrequire, hbind⟩

theorem of_readDatabase_eq_ok {file : Nat} {w : World} {db : Database}
    (h : w.readDatabase file = .ok db) : w.disk.database file = .ok db := by
  unfold World.readDatabase at h
  rcases hread : w.mayRead file with e | _ <;> rw [hread] at h
  · exact absurd h nofun
  · exact h

/-- A changing statement fails and changes nothing, or runs on the database in the file. -/
theorem change_eq (st : Statement π) (run : Database → π → Except StoreError (Nat × Tables))
    (file : Nat) (w : World) :
    (∃ fault, st.change run file w = (.error fault, w)) ∨
      ∃ db parameters n tables, w.disk.database file = .ok db ∧ st.require db.layout = .ok () ∧
        st.bind = .ok parameters ∧ run db parameters = .ok (n, tables) ∧
        st.change run file w =
          (.ok n, { w with disk := w.disk.setDatabase file { db with tables } }) := by
  unfold change
  extract_lets outcome
  rcases h : outcome with fault | ⟨n, db⟩
  · exact .inl ⟨_, rfl⟩
  · obtain ⟨⟨db', parameters⟩, hprepare, h⟩ := Outcome.of_bind_eq_ok h
    obtain ⟨_, -, h⟩ := Outcome.of_bind_eq_ok h
    obtain ⟨⟨n', tables⟩, hrun, h⟩ := Outcome.of_bind_eq_ok h
    obtain ⟨_, -, h⟩ := Outcome.of_bind_eq_ok h
    obtain ⟨rfl, rfl⟩ := Prod.mk.inj (Except.ok.inj h)
    obtain ⟨hread, hrequire, hbind⟩ := of_prepare_eq_ok hprepare
    exact .inr ⟨db', parameters, n', tables, of_readDatabase_eq_ok hread, hrequire, hbind,
      Outcome.of_ofStore_eq_ok hrun, rfl⟩

end Statement

/-! ### Changes -/

theorem Store.of_map_eq_ok {made : Except StoreError Tables} {n : Nat} {tables : Tables}
    (h : (made.map fun t => (1, t)) = .ok (n, tables)) : n = 1 ∧ made = .ok tables := by
  rcases made with e | t
  · exact absurd h nofun
  · obtain ⟨rfl, rfl⟩ := Prod.mk.inj (Except.ok.inj h)
    exact ⟨rfl, rfl⟩

/-- What a change that succeeds does to the tables, and how many rows it counts. -/
inductive Change.Alters : Change → Database → Nat → Tables → Prop
  | insert {row : List Value} {db : Database} {new : Tables.NewFile} {tables : Tables}
    (hrow : bindRow row = .ok new)
    (hinsert : db.tables.insertFile db.layout.isStrict new = .ok tables) :
    Alters (.insert row) db 1 tables
  | delete {path : Value} {db : Database} {cell : Cell} {p : Text}
    (hcell : Cell.bind 1 path = .ok cell) (hp : Tables.textOf? cell = some p) :
    Alters (.delete path) db (db.tables.deleteFile p).1 (db.tables.deleteFile p).2
  | rename {path filename target : Value} {db : Database} {cell name targetCell : Cell} {p : Text}
    {n : Nat} {tables : Tables} (hname : Cell.bind 1 filename = .ok name)
    (htarget : Cell.bind 2 target = .ok targetCell) (hcell : Cell.bind 3 path = .ok cell)
    (hp : Tables.textOf? cell = some p)
    (hrename : db.tables.renameFile db.layout.isStrict p { filename := name, path := targetCell } =
      .ok (n, tables)) : Alters (.rename path filename target) db n tables
  | setUsage {fileId count last : Value} {db : Database} {fileIdCell countCell lastCell : Cell}
    {tables : Tables}
    (hinsert : db.tables.insertUsage true fileIdCell countCell lastCell = .ok tables) :
    Alters (.setUsage fileId count last) db 1 tables
  | deleteNothing {path : Value} {db : Database} {cell : Cell} (hcell : Cell.bind 1 path = .ok cell)
    (hp : Tables.textOf? cell = none) : Alters (.delete path) db 0 db.tables
  | renameNothing {path filename target : Value} {db : Database} :
    Alters (.rename path filename target) db 0 db.tables

/-- A change fails and leaves the world as it is, or alters the tables in the file. -/
theorem Change.run_eq (c : Change) (file : Nat) (w : World) :
    (∃ fault, c.run file w = (.error fault, w)) ∨
      ∃ db n tables, w.disk.database file = .ok db ∧ c.Alters db n tables ∧
        c.run file w = (.ok n, { w with disk := w.disk.setDatabase file { db with tables } }) := by
  unfold run
  cases c with
  | insert row =>
    refine (Statement.change_eq _ _ file w).imp id ?_
    rintro ⟨db, new, n, tables, hdb, -, hrow, hrun, h⟩
    obtain ⟨rfl, hinsert⟩ := Store.of_map_eq_ok hrun
    exact ⟨db, 1, tables, hdb, .insert hrow hinsert, h⟩
  | delete path =>
    refine (Statement.change_eq _ _ file w).imp id ?_
    rintro ⟨db, cell, n, tables, hdb, -, hcell, hrun, h⟩
    refine ⟨db, n, tables, hdb, ?_, h⟩
    rcases hp : Tables.textOf? cell with _ | p <;> simp only [hp] at hrun
    · obtain ⟨rfl, rfl⟩ := Prod.mk.inj (Except.ok.inj hrun)
      exact .deleteNothing hcell hp
    · obtain ⟨rfl, rfl⟩ := Prod.mk.inj (Except.ok.inj hrun)
      exact .delete hcell hp
  | rename path filename target =>
    refine (Statement.change_eq _ _ file w).imp id ?_
    rintro ⟨db, ⟨name, targetCell, cell⟩, n, tables, hdb, -, hbind, hrun, h⟩
    refine ⟨db, n, tables, hdb, ?_, h⟩
    obtain ⟨name', hname, hbind⟩ := Outcome.of_bind_eq_ok hbind
    obtain ⟨targetCell', htarget, hbind⟩ := Outcome.of_bind_eq_ok hbind
    obtain ⟨cell', hcell, hbind⟩ := Outcome.of_bind_eq_ok hbind
    obtain ⟨rfl, hrest⟩ := Prod.mk.inj (Except.ok.inj hbind)
    obtain ⟨rfl, rfl⟩ := Prod.mk.inj hrest
    rcases hp : Tables.textOf? cell' with _ | p <;> simp only [hp] at hrun
    · obtain ⟨rfl, rfl⟩ := Prod.mk.inj (Except.ok.inj hrun)
      exact .renameNothing
    · exact .rename hname htarget hcell hp hrun
  | setUsage fileId count last =>
    refine (Statement.change_eq _ _ file w).imp id ?_
    rintro ⟨db, ⟨idCell, countCell, lastCell⟩, n, tables, hdb, -, -, hrun, h⟩
    obtain ⟨rfl, hinsert⟩ := Store.of_map_eq_ok hrun
    exact ⟨db, 1, tables, hdb, .setUsage hinsert, h⟩

/-! ### A recorded launch -/

/-- What others leave while a launch is recorded: every name leads where it led, and what is known
from looking up a file stays known. -/
structure World.Recalls (rely : World → World → Prop)
    (known : Nat → Text → Int → World → Prop) : Prop where
  names : ∀ {w w'}, rely w w' → w.SameNames w'
  found : ∀ {w w' file path id}, rely w w' →
    Connection.fileId path file w' = .ok (some id) → known file path id w'
  kept : ∀ {w w' file path id}, known file path id w → rely w w' → known file path id w'

/-- One more launch is counted, under an id that is known for the path. -/
def Writer.Counts (known : Nat → Text → Int → World → Prop) (database path : Text) (time : Int)
    (w w' : World) : Prop :=
  ∃ file id, target (.text database) w = .ok file ∧ known file path id w ∧
    Connection.countLaunch id time file w = (.ok 1, w')

/-- What is quiet comes before what acts. -/
theorem Routine.Assures.then_actsLast {σ α β : Type} {rely quiet : σ → σ → Prop}
    {silent : Outcome β → Prop} {acts : Outcome β → σ → σ → Prop}
    {first : ExceptT Fault (Routine σ) α} {next : α → ExceptT Fault (Routine σ) β} {s : σ}
    (h : Assures rely quiet (fun
      | .ok a => (next a).run.ActsLast rely quiet silent acts
      | .error fault => fun _ => silent (.error fault)) first.run s) :
    (first >>= next).run.ActsLast rely quiet silent acts s := by
  refine Assures.bind_actsLast (Assures.mono h (fun _ _ => id) ?_)
  rintro (fault | a) s houtcome <;> exact houtcome

namespace Connection

open Routine (assures_waitFor assures_look)

variable {rely : World → World → Prop} {known : Nat → Text → Int → World → Prop}

theorem countLaunch_eq (id time : Int) (file : Nat) (w : World) :
    (∃ fault, countLaunch id time file w = (.error fault, w)) ∨
      ∃ db tables, w.disk.database file = .ok db ∧ db.tables.recordLaunch id time = .ok tables ∧
        countLaunch id time file w =
          (.ok 1, { w with disk := w.disk.setDatabase file { db with tables } }) := by
  unfold countLaunch
  extract_lets st
  rcases st.change_eq (fun db time => (db.tables.recordLaunch id time).map fun t => (1, t)) file w
    with h | ⟨db, time', n, tables, hdb, -, hbind, hrun, h⟩
  · exact .inl h
  · have htime : time' = time := by
      obtain ⟨-, -, hbind⟩ := Outcome.of_bind_eq_ok hbind
      exact (Except.ok.inj hbind).symm
    rw [htime] at hrun
    obtain ⟨rfl, hrecord⟩ := Store.of_map_eq_ok hrun
    exact .inr ⟨db, tables, hdb, hrecord, h⟩

/-- A look-up that finds a file reads it from the table. -/
theorem of_fileId_eq_some {path : Text} {file : Nat} {w : World} {id : Int}
    (h : fileId path file w = .ok (some id)) :
    ∃ db f, w.disk.database file = .ok db ∧ db.tables.fileAt? path = some f ∧ f.id = id := by
  unfold fileId Statement.queryFresh at h
  obtain ⟨⟨db, path'⟩, hprepare, hrun⟩ := Outcome.of_bind_eq_ok h
  obtain ⟨hread, -, hbind⟩ := Statement.of_prepare_eq_ok hprepare
  obtain ⟨-, -, hbind⟩ := Outcome.of_bind_eq_ok hbind
  obtain rfl := Except.ok.inj hbind
  have hfound := Except.ok.inj (Outcome.of_ofStore_eq_ok hrun)
  obtain ⟨f, hf, hid⟩ := Option.map_eq_some_iff.mp hfound
  exact ⟨db, f, Statement.of_readDatabase_eq_ok hread, hf, hid⟩

theorem of_requirePath_eq_ok {c : Connection} {filePath : Value} {path : Text}
    (h : c.requirePath filePath = .ok path) : path = filePath.display := by
  unfold requirePath at h
  split at h
  · exact absurd h nofun
  split at h
  · exact absurd h nofun
  · exact (Except.ok.inj h).symm

theorem actsLast_writeLaunch (h : World.Recalls rely known) (database path : Text) (time : Int)
    (s : Site) :
    (writeLaunch database path time).run.ActsLast (Site.Follows rely) Site.Quiet
      (fun outcome => outcome ≠ .ok true)
      (fun outcome s s' => outcome = .ok true ∧ s'.connection = s.connection ∧
        Writer.Counts known database path time s.world s'.world) s := by
  refine Routine.Assures.then_actsLast (Task.assures_lift (assures_waitFor fun s₁ _ => ?_))
  refine Routine.Assures.then_actsLast (assures_look fun s₂ _ => ⟨.refl _, ?_⟩)
  rcases htarget : Writer.target (.text database) s₂.world with fault | file
  · exact nofun
  refine Routine.Assures.then_actsLast (Task.assures_lift (assures_waitFor fun s₃ hs₃ => ?_))
  refine Routine.Assures.then_actsLast (assures_look fun s₄ hs₄ => ⟨.refl _, ?_⟩)
  rcases hid : fileId path file s₄.world with fault | _ | id
  · exact nofun
  · refine Routine.Assures.actsLast (Task.Assures.bind (Task.assures_lift ?_))
    exact Routine.assures_update fun s₅ _ => ⟨⟨rfl, rfl, rfl⟩, Task.assures_pure nofun⟩
  refine Routine.Assures.then_actsLast (Task.assures_lift (assures_waitFor fun s₅ hs₅ s₆ hs₆ => ?_))
  -- The id was read two waits ago; what was known of it then has been kept through both.
  have hknown : known file path id s₆.world :=
    h.kept (h.kept (h.found hs₄.world hid) hs₅.world) hs₆.world
  have hnames := (((h.names hs₃.world).trans (h.names hs₄.world)).trans (h.names hs₅.world)).trans
    (h.names hs₆.world)
  have hstep : ∀ outcome w, countLaunch id time file s₆.world = (outcome, w) →
      s₆.onWorld (countLaunch id time file) = (outcome, { s₆ with world := w }) := by
    intro outcome w hc
    simp only [Site.onWorld, hc]
  rcases countLaunch_eq id time file s₆.world with ⟨fault, hc⟩ | ⟨db, tables, -, -, hc⟩
  · rw [hstep _ _ hc]
    exact .inl ⟨.refl _, nofun⟩
  · rw [hstep _ _ hc]
    exact .inr ⟨.ok true, rfl, rfl, rfl, file, id, by rw [hnames.target, htarget], hknown, hc⟩

theorem actsLast_recordLaunch (h : World.Recalls rely known) {database : Text} {s : Site}
    (hpath : s.connection.path = database) (filePath : Value) (now : Int) :
    (recordLaunch filePath (.int now)).run.ActsLast (Site.Follows rely) Site.Quiet
      (fun outcome => outcome ≠ .ok true)
      (fun outcome s s' => outcome = .ok true ∧ s'.connection = s.connection ∧
        Writer.Counts known database filePath.display now s.world s'.world) s := by
  refine Routine.Assures.then_actsLast
    (Task.assures_lift (assures_look fun s₁ hs₁ => ⟨.refl _, ?_⟩))
  obtain rfl : s₁.connection.path = database := hs₁.path.trans hpath
  refine Routine.Assures.then_actsLast (Task.assures_ofOutcome ?_)
  rcases hrequire : s₁.connection.requirePath filePath with fault | path
  · exact nofun
  obtain rfl := of_requirePath_eq_ok hrequire
  refine Routine.Assures.then_actsLast (Task.assures_ofOutcome ?_)
  have hlooked :
      (liftRoutine (writeLaunch s₁.connection.path filePath.display now).run).run.ActsLast
      (Site.Follows rely) Site.Quiet
      (fun looked => ∃ outcome, looked = .ok outcome ∧ outcome ≠ .ok true)
      (fun looked s s' => looked = .ok (.ok true) ∧ s'.connection = s.connection ∧
        Writer.Counts known s₁.connection.path filePath.display now s.world s'.world) s₁ :=
    (actsLast_writeLaunch h _ _ now s₁).bind (fun outcome _ houtcome => ⟨outcome, rfl, houtcome⟩)
      fun outcome s s' ⟨ho, hrest⟩ => ⟨.ok outcome, rfl, by rw [ho], hrest⟩
  refine hlooked.bind ?_ ?_
  · rintro _ s₂ ⟨fault | recorded, rfl, houtcome⟩
    · refine Routine.Assures.actsLast ?_
      change Task.Assures _ _ _ (if isLostLaunch fault then _ else _) s₂
      split
      · refine Task.Assures.bind (Task.assures_lift (Routine.assures_update fun s₃ _ => ?_))
        exact ⟨⟨rfl, rfl, rfl⟩, Task.assures_pure nofun⟩
      · exact Task.assures_throw nofun
    · exact houtcome
  · rintro _ s₂ s₃ ⟨rfl, hacts⟩
    exact ⟨.ok true, rfl, rfl, hacts⟩

end Connection

/-- A launch that is counted goes to the tables in the file. -/
theorem Writer.Counts.exists_recordLaunch {known : Nat → Text → Int → World → Prop}
    {database path : Text} {time : Int} {w w' : World} (h : Counts known database path time w w') :
    ∃ file id db tables, target (.text database) w = .ok file ∧ known file path id w ∧
      w.disk.database file = .ok db ∧ db.tables.recordLaunch id time = .ok tables ∧
      w' = { w with disk := w.disk.setDatabase file { db with tables } } := by
  obtain ⟨file, id, htarget, hknown, hcount⟩ := h
  rcases Connection.countLaunch_eq id time file w with ⟨fault, hc⟩ | ⟨db, tables, hdb, hrecord, hc⟩
  · exact absurd (hcount.symm.trans hc) nofun
  · exact ⟨file, id, db, tables, htarget, hknown, hdb, hrecord,
      (Prod.mk.inj (hcount.symm.trans hc)).2⟩

/-! ### Errands -/

namespace Errand

open Session (Member onMember)

variable {rely : World → World → Prop} {known : Nat → Text → Int → World → Prop} {s : Session}

/-- What a call that writes does to the world with its last step. -/
def Acts (known : Nat → Text → Int → World → Prop) : Errand → Outcome Reply → World → World → Prop
  | record (some m) filePath now, .ok (.recorded true), w, w' =>
    Writer.Counts known m.seen.path filePath.display now w w'
  | change path c, .ok (.changed n), w, w' =>
    ∃ file, Writer.target path w = .ok file ∧ c.run file w = (.ok n, w')
  | _, _, _, _ => False

theorem Acts.cases {e : Errand} {result : Outcome Reply} {w w' : World}
    (h : e.Acts known result w w') :
    (∃ m filePath now, e = record (some m) filePath now ∧ result = .ok (.recorded true) ∧
      Writer.Counts known m.seen.path filePath.display now w w') ∨
    ∃ path c n file, e = change path c ∧ result = .ok (.changed n) ∧
      Writer.target path w = .ok file ∧ c.run file w = (.ok n, w') := by
  unfold Acts at h
  split at h
  · exact .inl ⟨_, _, _, rfl, rfl, h⟩
  · obtain ⟨file, htarget, hrun⟩ := h
    exact .inr ⟨_, _, _, file, rfl, rfl, htarget, hrun⟩
  · exact h.elim

theorem actsLast_record (h : World.Recalls rely known) {m : Member} (hm : s.Has m)
    (filePath : Value) (now : Int) :
    (record (some m) filePath now).task.run.ActsLast (Session.Follows rely) Session.Quiet Silent
      (fun result => Session.Follows ((record (some m) filePath now).Acts known result)) s := by
  have hsame : ∀ s : Session, s.Has m → ∀ site : Site,
      site.connection.path = (s.current m).path → (s.putBack m site).paths = s.paths := fun _ _ _ =>
    Session.paths_putBack
  have hcall : (onMember m (Connection.recordLaunch filePath (.int now))).run.ActsLast
      (Session.Follows rely) Session.Quiet (fun outcome => outcome ≠ .ok true)
      (fun outcome s s' => outcome = .ok true ∧ s.paths <+: s'.paths ∧
        Writer.Counts known m.seen.path filePath.display now s.world s'.world) s := by
    have hsite := Connection.actsLast_recordLaunch (s := ⟨s.current m, s.world⟩) h hm.current
      filePath now
    refine Routine.ActsLast.zoom (fun s => s.Has m) (fun s => ⟨s.current m, s.world⟩)
      (Session.putBack m) hsite hm ?_ ?_ ?_ ?_ ?_
    · exact fun _ _ ht hs => ht.follows hs
    · intro t site ht hq
      have hpaths := hsame t ht site hq.path
      exact ⟨(congrArg (fun paths : List Text => paths[m.number]?) hpaths).trans ht,
        Session.current_putBack site ht.number_lt⟩
    · exact fun t t' ht hs => ⟨(ht.follows hs).current.trans ht.current.symm, hs.world⟩
    · intro t site ht hq
      exact ⟨hsame t ht site hq.path ▸ List.prefix_refl _, hq.world⟩
    · rintro outcome t site ht ⟨rfl, hconnection, hcounts⟩
      have hpath : site.connection.path = (t.current m).path := congrArg Connection.path hconnection
      exact ⟨rfl, hsame t ht site hpath ▸ List.prefix_refl _, hcounts⟩
  refine hcall.bind ?_ ?_
  · rintro (fault | success) s₁ houtcome
    · exact fun _ hr => absurd hr nofun
    · rintro _ ⟨⟩
      exact Bool.eq_false_iff.mpr fun hs => houtcome (congrArg Except.ok hs)
  · rintro _ s₁ s₂ ⟨rfl, hpaths, hcounts⟩
    exact ⟨_, rfl, hpaths, hcounts⟩

theorem actsLast_change (h : World.Recalls rely known) (path : Value) (c : Change) :
    (change path c).task.run.ActsLast (Session.Follows rely) Session.Quiet Silent
      (fun result => Session.Follows ((change path c).Acts known result)) s := by
  have hwrite : (write path c).run.ActsLast (Session.Follows rely) Session.Quiet
      (fun outcome => ∀ n, outcome ≠ .ok n)
      (fun outcome s s' => ∃ n, outcome = .ok n ∧ s.paths <+: s'.paths ∧
        ∃ file, Writer.target path s.world = .ok file ∧
          c.run file s.world = (.ok n, s'.world)) s := by
    refine Routine.Assures.then_actsLast
      (Routine.Assures.bind (Routine.assures_waitFor fun s₁ _ => ?_))
    refine Routine.Assures.then_actsLast (Routine.assures_look fun s₂ _ => ⟨.refl _, ?_⟩)
    rcases htarget : Writer.target path s₂.world with fault | file
    · exact fun _ => nofun
    refine Routine.Assures.then_actsLast (Routine.Assures.bind (Routine.assures_waitFor
      fun s₃ hs₃ s₄ hs₄ => ?_))
    have hnames := (h.names hs₃.world).trans (h.names hs₄.world)
    rcases hrun : c.run file s₄.world with ⟨outcome, w⟩
    rcases c.run_eq file s₄.world with ⟨fault, heq⟩ | ⟨db, n, tables, -, -, heq⟩
    · obtain ⟨rfl, rfl⟩ := Prod.mk.inj (hrun.symm.trans heq)
      refine .inl ?_
      simp only [hrun]
      exact ⟨.refl _, fun _ => nofun⟩
    · obtain ⟨rfl, rfl⟩ := Prod.mk.inj (hrun.symm.trans heq)
      refine .inr ⟨.ok n, ?_, n, rfl, ?_, file, by rw [hnames.target, htarget], ?_⟩ <;>
        simp only [hrun]
      exact List.prefix_refl _
  refine hwrite.bind ?_ ?_
  · rintro (fault | n) s₁ houtcome
    · exact fun _ hr => absurd hr nofun
    · exact absurd rfl (houtcome n)
  · rintro _ s₁ s₂ ⟨n, rfl, hpaths, hacts⟩
    exact ⟨_, rfl, hpaths, hacts⟩

theorem actsLast_task (h : World.Recalls rely known) (e : Errand)
    (hhas : ∀ m ∈ e.member?, s.Has m) :
    e.task.run.ActsLast (Session.Follows rely) Session.Quiet Silent
      (fun result => Session.Follows (e.Acts known result)) s := by
  rcases hlooks : e.looks with _ | _
  · cases e with
    | record m filePath now =>
      cases m with
      | none => exact fun _ hr => absurd hr nofun
      | some m => exact actsLast_record h (hhas m rfl) filePath now
    | change path c => exact actsLast_change h path c
    | _ => exact absurd hlooks nofun
  · exact ((obeys_task hlooks).assures s).actsLast

/-! ### Runs -/

/-- Any calls that are admitted, on connections that the session has; meanwhile another program
takes and releases its lock, and the clock goes on. -/
def setting (admitted : Errand → Prop) : Setting Session Errand (Outcome Reply) where
  task e := e.task.run
  allowed e s := admitted e ∧ ∀ m ∈ e.member?, s.Has m
  outside s s' := ∃ lock clock, s' = { s with world := { s.world with lock, clock } }

/-- A step of a crowd of calls is quiet, or ends an admitted call with its act. -/
abbrev Told (admitted : Errand → Prop) (known : Nat → Text → Int → World → Prop)
    (c c' : Crowd Session Errand (Outcome Reply)) : Prop :=
  Crowd.Told Session.Quiet (fun _ => Silent)
    (fun e result s s' => admitted e ∧ s.Follows (e.Acts known result) s') c c'

/-- What every step keeps, every run keeps, if every step is one that calls can rely on. -/
theorem run_keeps {admitted : Errand → Prop} (inv : Crowd Session Errand (Outcome Reply) → Prop)
    {crowd : Crowd Session Errand (Outcome Reply)} (h : World.Recalls rely known)
    (htrans : ∀ w₁ w₂ w₃, rely w₁ w₂ → rely w₂ w₃ → rely w₁ w₃)
    (hrefl : ∀ c, inv c → rely c.state.world c.state.world)
    (hkeep : ∀ c c', inv c → Told admitted known c c' → inv c' ∧ rely c.state.world c'.state.world)
    (hstart : inv { state := s }) (hrun : Crowd.Run (setting admitted) { state := s } crowd) :
    inv crowd ∧ ∀ next, Crowd.Step (setting admitted) crowd next →
      Told admitted known crowd next := by
  have htask : ∀ (c : Crowd Session Errand (Outcome Reply)) e,
      (setting admitted).allowed e c.state →
      ((setting admitted).task e).ActsLast (Session.Follows rely) Session.Quiet Silent
        (fun result s s' => admitted e ∧ s.Follows (e.Acts known result) s') c.state := by
    rintro c e ⟨hadmitted, hhas⟩
    exact (actsLast_task h e hhas).mono fun _ _ _ hacts => ⟨hadmitted, hacts⟩
  have houtside : ∀ s s', (setting admitted).outside s s' → Session.Quiet s s' := by
    rintro s _ ⟨lock, clock, rfl⟩
    exact ⟨List.prefix_refl _, rfl, rfl⟩
  have hself : ∀ c, inv c → c.state.Follows rely c.state := fun c hc =>
    ⟨List.prefix_refl _, hrefl c hc⟩
  suffices hall : inv crowd ∧ crowd.ActsLast (Session.Follows rely) Session.Quiet (fun _ => Silent)
      (fun e result s s' => admitted e ∧ s.Follows (e.Acts known result) s') from
    ⟨hall.1, fun next hnext => hall.2.told hnext (hself _ hall.1) Session.Quiet.refl
      (htask crowd) houtside⟩
  -- The invariant alone is not kept: what a step does is told by the promise of the job that takes
  -- it, and the promises of the others outlast the step because the invariant says what it leaves.
  induction hrun with
  | refl => exact ⟨hstart, Crowd.all_of_start _⟩
  | @tail c c' _ hstep ih =>
    obtain ⟨hc, hacts⟩ := ih
    have htold := hacts.told hstep (hself c hc) Session.Quiet.refl (htask c) houtside
    obtain ⟨hc', hrely⟩ := hkeep c c' hc htold
    have hpaths : c.state.paths <+: c'.state.paths := by
      cases htold with
      | quiet hquiet => exact hquiet.paths
      | silent hquiet => exact hquiet.paths
      | acts e hacts => exact hacts.2.paths
    refine ⟨hc', hacts.step hstep (hself c hc) Session.Quiet.refl ?_ (htask c) ⟨hpaths, hrely⟩⟩
    exact fun _ _ _ h₁ h₂ => ⟨h₁.paths.trans h₂.paths, htrans _ _ _ h₁.world h₂.world⟩

end Errand

end LaunchIndex
