import Mathlib.Data.List.Nodup
import Mathlib.Tactic.Push
import LaunchIndex.Query
import LaunchIndex.Proofs.Task

/-! An open index. A site reads an index if its connection has a handle on a file with every table,
if nobody keeps readers out of that file, and if the stored texts are texts. What the tables promise
is stated of the rows: every file has a name and a path, no path stands twice, and no file has two
usage rows. A query on such a site comes down to what its statement says about the tables. -/

namespace LaunchIndex

open Store

namespace Store

/-- The rows that a complete layout admits, with counts that are integers. -/
structure Tables.IsIndex (t : Tables) : Prop where
  named : ∀ f ∈ t.files, ∃ name, f.filename = some name
  placed : ∀ f ∈ t.files, ∃ path, f.path = some path
  paths_distinct : (t.files.map (·.path)).Nodup
  usage_distinct : (t.usage.map (·.fileId)).Nodup
  counted : ∀ u ∈ t.usage, ∃ n, u.launchCount = .int n

/-- A file with an id has been launched `n` times; without a usage row that is never. -/
def Tables.Launches (t : Tables) (id n : Int) : Prop :=
  (∃ u ∈ t.usage, u.fileId = id ∧ u.launchCount = .int n) ∨
    ((∀ u ∈ t.usage, u.fileId ≠ id) ∧ n = 0)

namespace Tables.IsIndex

variable {t : Tables}

theorem eq_of_fileId_eq (h : t.IsIndex) {u v : UsageRow} (hu : u ∈ t.usage) (hv : v ∈ t.usage)
    (he : u.fileId = v.fileId) : u = v :=
  List.inj_on_of_nodup_map h.usage_distinct hu hv he

theorem usageOf?_eq (h : t.IsIndex) {u : UsageRow} (hu : u ∈ t.usage) :
    t.usageOf? u.fileId = some u := by
  obtain ⟨v, hv⟩ : ∃ v, t.usageOf? u.fileId = some v := by
    rw [← Option.isSome_iff_exists, usageOf?, List.find?_isSome]
    exact ⟨u, hu, by simp⟩
  have hid : v.fileId = u.fileId := by simpa using List.find?_some hv
  rw [hv, h.eq_of_fileId_eq (List.mem_of_find?_eq_some hv) hu hid]

/-- The count that a search shows is that of the launches. -/
theorem countOf_eq_iff (h : t.IsIndex) (f : FileRow) (n : Int) :
    t.countOf f = .int n ↔ t.Launches f.id n := by
  unfold countOf Launches
  by_cases hf : ∃ u ∈ t.usage, u.fileId = f.id
  · obtain ⟨u, hu, hid⟩ := hf
    obtain ⟨m, hm⟩ := h.counted u hu
    have hsome := h.usageOf?_eq hu
    rw [hid] at hsome
    simp only [hsome, hm, reduceCtorEq, ↓reduceIte, Cell.int.injEq]
    constructor
    · rintro rfl
      exact .inl ⟨u, hu, hid, hm⟩
    · rintro (⟨v, hv, hvid, hvn⟩ | ⟨hnone, -⟩)
      · rw [h.eq_of_fileId_eq hv hu (hvid.trans hid.symm), hm] at hvn
        exact Cell.int.inj hvn
      · exact absurd hid (hnone u hu)
  · push Not at hf
    have hnone : t.usageOf? f.id = none := by
      rw [usageOf?, List.find?_eq_none]
      intro u hu
      simpa using hf u hu
    simp only [hnone, Cell.int.injEq]
    constructor
    · rintro rfl
      exact .inr ⟨hf, rfl⟩
    · rintro (⟨u, hu, hid, -⟩ | ⟨-, rfl⟩)
      · exact absurd hid (hf u hu)
      · rfl

theorem exists_countOf (h : t.IsIndex) (f : FileRow) : ∃ n, t.countOf f = .int n := by
  by_cases hf : ∃ u ∈ t.usage, u.fileId = f.id
  · obtain ⟨u, hu, hid⟩ := hf
    obtain ⟨n, hn⟩ := h.counted u hu
    exact ⟨n, (h.countOf_eq_iff f n).mpr (.inl ⟨u, hu, hid, hn⟩)⟩
  · push Not at hf
    exact ⟨0, (h.countOf_eq_iff f 0).mpr (.inr ⟨hf, rfl⟩)⟩

end Tables.IsIndex

/-! ### Legible tables -/

/-- A text that every program can have stored: it is UTF-8 and not too long. -/
def Cell.isStorable (t : Text) : Bool :=
  t.isEncodable && decide (Text.Utf8.size t ≤ Cell.maxBytes)

def Cell.isLegible : Cell → Bool
  | text t => isStorable t
  | _ => true

/-- The columns of a file are legible. -/
def FileRow.isLegible (f : FileRow) : Bool :=
  f.filename.all Cell.isStorable && f.path.all Cell.isStorable && f.fileType.isLegible &&
    f.size.isLegible && f.modifiedTime.isLegible

def UsageRow.isLegible (u : UsageRow) : Bool := u.launchCount.isLegible && u.lastLaunched.isLegible

/-- Whatever is stored as a text is one. -/
structure Tables.IsLegible (t : Tables) : Prop where
  files : ∀ f ∈ t.files, f.isLegible = true
  usage : ∀ u ∈ t.usage, u.isLegible = true

instance (t : Tables) : Decidable t.IsLegible :=
  decidable_of_iff ((∀ f ∈ t.files, f.isLegible = true) ∧ ∀ u ∈ t.usage, u.isLegible = true)
    ⟨fun h => ⟨h.1, h.2⟩, fun h => ⟨h.files, h.usage⟩⟩

theorem Cell.isEncodable_of_isStorable {t : Text} (h : Cell.isStorable t = true) :
    t.isEncodable = true := (Bool.and_eq_true_iff.mp h).1

theorem Cell.isFetchable_toValue {c : Cell} (h : c.isLegible = true) :
    Tables.isFetchable c.toValue = true := by
  cases c with
  | text t => exact isEncodable_of_isStorable h
  | _ => rfl

namespace FileRow

variable {f : FileRow}

theorem isStorable_filename (h : f.isLegible = true) {name : Text}
    (hname : f.filename = some name) : Cell.isStorable name = true := by
  simp only [isLegible, hname, Option.all_some, Bool.and_eq_true] at h
  exact h.1.1.1.1

theorem isStorable_path (h : f.isLegible = true) {path : Text} (hpath : f.path = some path) :
    Cell.isStorable path = true := by
  simp only [isLegible, hpath, Option.all_some, Bool.and_eq_true] at h
  exact h.1.1.1.2

end FileRow

namespace Tables

theorem mem_of_mem_limited {α : Type} {a : α} {limit : Int} {rows : List α}
    (h : a ∈ limited limit rows) : a ∈ rows := by
  unfold limited at h
  split at h
  · exact h
  · exact List.mem_of_mem_take h

theorem mem_hits_of_search {t : Tables} {p : SearchParameters} {h : Hit} (hh : h ∈ t.search p) :
    h ∈ t.hits p := List.mem_mergeSort.mp (mem_of_mem_limited hh)

theorem isFetchable_int (n : Int) : isFetchable (.int n) = true := rfl

theorem isFetchable_nameValue {name : Option Text} (h : name.all Cell.isStorable = true) :
    isFetchable (nameValue name) = true := by
  cases name with
  | none => rfl
  | some name => exact Cell.isEncodable_of_isStorable h

theorem fetch_eq_ok {row : Row} (h : ∀ column ∈ row, isFetchable column.2 = true) :
    fetch row = .ok row := by
  have hnone : row.find? (fun column => !isFetchable column.2) = none :=
    List.find?_eq_none.mpr fun column hmem => by simp [h column hmem]
  rw [fetch, hnone]

theorem of_fetch_eq_ok {row fetched : Row} (h : fetch row = .ok fetched) : row = fetched := by
  unfold fetch at h
  split at h
  · exact absurd h nofun
  · exact Except.ok.inj h

/-- Rows are handed out as they are, or not at all. -/
theorem of_mapM_fetch_eq_ok {α : Type} {f : α → Row} {l : List α} {rows : List Row}
    (h : l.mapM (fun a => fetch (f a)) = .ok rows) : rows = l.map f := by
  induction l generalizing rows with
  | nil => exact (Except.ok.inj h).symm
  | cons a l ih =>
    rw [List.mapM_cons] at h
    cases hfetch : fetch (f a) with
    | error e =>
      rw [hfetch] at h
      cases h
    | ok row =>
      cases hmore : l.mapM (fun a => fetch (f a)) with
      | error e =>
        rw [hfetch, hmore] at h
        cases h
      | ok more =>
        rw [hfetch, hmore] at h
        rw [← Except.ok.inj h, List.map_cons, of_fetch_eq_ok hfetch, ih hmore]

theorem isFetchable_fileColumns {f : FileRow} (h : f.isLegible = true) :
    ∀ column ∈ fileColumns f, isFetchable column.2 = true := by
  simp only [FileRow.isLegible, Bool.and_eq_true] at h
  simp [fileColumns, isFetchable_nameValue h.1.1.1.1, isFetchable_nameValue h.1.1.1.2,
    Cell.isFetchable_toValue h.1.1.2, Cell.isFetchable_toValue h.1.2, Cell.isFetchable_toValue h.2]

namespace IsLegible

variable {t : Tables}

theorem countOf (h : t.IsLegible) (f : FileRow) : (t.countOf f).isLegible = true := by
  unfold Tables.countOf
  split
  · next u hu =>
    split
    · rfl
    · exact (Bool.and_eq_true_iff.mp (h.usage u (List.mem_of_find?_eq_some hu))).1
  · rfl

theorem fetch_usageColumns (h : t.IsLegible) {u : UsageRow} (hu : u ∈ t.usage) :
    fetch (usageColumns u) = .ok (usageColumns u) := by
  have hu := Bool.and_eq_true_iff.mp (h.usage u hu)
  refine fetch_eq_ok ?_
  simp [usageColumns, isFetchable_int, Cell.isFetchable_toValue hu.1,
    Cell.isFetchable_toValue hu.2]

end IsLegible

end Tables

end Store

/-- The connection has a handle on a file with the tables, and the lock of another program does
not keep readers out. -/
structure Site.Reads (s : Site) (t : Tables) : Prop where
  connected : s.connection.connected = true
  readable : ∃ number file layout, s.connection.handle = some ⟨number, .file file⟩ ∧
    s.world.disk.database file = .ok ⟨layout, t⟩ ∧ layout.files = some .all ∧ layout.usage = true ∧
    s.world.mayRead file = .ok ()
  legible : t.IsLegible

namespace Site.Reads

variable {s : Site} {t : Tables}

theorem isConnected (h : s.Reads t) : s.connection.isConnected = true := by
  obtain ⟨number, file, layout, hh, -⟩ := h.readable
  simp [Connection.isConnected, h.connected, hh]

end Site.Reads

def Site.opened (t : Tables) : Site where
  connection :=
    { path := "/index", policy := default, busyTimeout := Binary64.zero false, script := none,
      handle := some ⟨0, .file 0⟩, connected := true }
  world :=
    { environment := ⟨[], "/", [], "/"⟩, disk := { contents := [(0, .database (.complete t))] },
      nextHandle := 1 }

theorem Site.opened_reads {t : Tables} (h : t.IsLegible) : (Site.opened t).Reads t where
  connected := rfl
  readable := ⟨0, 0, Layout.complete, rfl, rfl, rfl, rfl, rfl⟩
  legible := h

theorem Statement.query_eq {π α : Type} {st : Statement π} {db : Database} {parameters : π}
    {file : Nat} {w : World} (hdisk : w.disk.database file = .ok db)
    (hrequire : st.require db.layout = .ok ()) (hbind : st.bind = .ok parameters)
    (hread : w.mayRead file = .ok ()) (run : Database → π → Except StoreError α) :
    st.query run file w = Outcome.ofStore (run db parameters) := by
  have hprepare : st.prepare (w.disk.database file) = .ok (db, parameters) := by
    rw [prepare, hdisk, hbind]
    change (Outcome.ofStore (st.require db.layout) >>= fun _ => Except.ok (db, parameters)) = _
    rw [hrequire]
    rfl
  rw [query, hprepare, hread]
  rfl

namespace Connection

variable {α : Type}

theorem exec_onHandle_file (number file : Nat) (inquiry : Inquiry)
    (query : Nat → World → Outcome α) (standIn : StandIn → Past → Inquiry → Outcome α) (s : Site) :
    Task.exec (onHandle ⟨number, .file file⟩ inquiry query standIn) s =
      (query file s.world, s.mapWorld (World.happen (.used number))) := by
  have hused : s.mapWorld (World.use ⟨number, .file file⟩ inquiry) =
      s.mapWorld (World.happen (.used number)) := by
    simp [Site.mapWorld, World.use, World.happen, Handle.remembered]
  simp only [onHandle, Task.exec_bind, Task.exec_lift, Routine.run_waitFor, Task.exec_mk,
    Routine.run_step, hused]
  rfl

theorem exec_withHandle {s : Site} {h : Handle} (hc : s.connection.isConnected = true)
    (hh : s.connection.handle = some h) (use : Handle → Task α) :
    (Task.exec (withHandle use) s).1 =
      (Task.exec (use h) (s.withLock s.connection.lock.take.2)).1 := by
  have hc' : (s.withLock s.connection.lock.take.2).connection.isConnected = true := hc
  have hh' : (s.withLock s.connection.lock.take.2).connection.handle = some h := hh
  simp only [withHandle, Task.exec_locked, Task.exec_bind, Task.exec_lift, Routine.run_look, hc',
    hh']

section Search

variable {s : Site} {query maxResults : Value} (hc : s.connection.isConnected = true)
include hc

theorem exec_search_of_isEmpty (hempty : query.isEmpty = true) (maxResults : Value) :
    (Task.exec (search query maxResults) s).1 = .ok [] := by
  simp only [search, Task.exec_bind, Task.exec_lift, Routine.run_look, hc, hempty, Bool.not_true,
    Bool.false_eq_true, ↓reduceIte]
  rfl

theorem exec_search_of_refused (hempty : query.isEmpty = false) {fault : Fault}
    (hp : searchParameters query maxResults = .error fault) :
    (Task.exec (search query maxResults) s).1 = .error fault := by
  simp only [search, Task.exec_bind, Task.exec_lift, Routine.run_look, hc, hempty, Bool.not_true,
    Bool.false_eq_true, ↓reduceIte, Task.exec_mk, Routine.run_pure, hp]

/-- A search turns the rows of its statement into records, and some failures into none. -/
theorem exec_search_of_parameters (hempty : query.isEmpty = false) {p : Store.SearchParameters}
    (hp : searchParameters query maxResults = .ok p) :
    (Task.exec (search query maxResults) s).1 =
      match (Task.exec
          (withHandle fun h => onHandle h (.search p) (searchRows p) StandIn.rows) s).1 with
      | .ok rows => rows.mapM Record.ofRow
      | .error fault => if fault.isStatementFailure then .ok [] else .error fault := by
  simp only [search, Task.exec_bind, Task.exec_lift, Routine.run_look, hc, hempty, Bool.not_true,
    Bool.false_eq_true, ↓reduceIte, Task.exec_mk, Routine.run_pure, hp]
  rcases hrows : Task.exec
    (withHandle fun h => onHandle h (.search p) (searchRows p) StandIn.rows) s with
    ⟨fault | rows, s'⟩ <;> rw [Task.exec] at hrows <;> rw [hrows]
  · dsimp only
    split <;> rfl
  · rfl

end Search

end Connection

end LaunchIndex
