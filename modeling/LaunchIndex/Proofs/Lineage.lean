import Mathlib.Algebra.Ring.Nat
import LaunchIndex.Proofs.Accounting

/-! No file inherits the launches of another one. A new file gets the number of its insertion as its
id, so that no id is given twice, and with a file its usage goes. In a run that starts with a fresh
index, the usage of a file is therefore that of its own launches: those since it was inserted. -/

namespace LaunchIndex

open Store

/-! ### Ids in the order of insertions -/

namespace Incident

/-- The files that have been inserted, in order: the path of each, and what has happened since. -/
def births : List Incident → List (Text × List Incident)
  | [] => []
  | inserted path :: rest => (path, rest) :: births rest
  | launched _ _ :: rest | deleted _ :: rest => births rest

theorem births_append (incidents : List Incident) (i : Incident) :
    births (incidents ++ [i]) =
      (births incidents).map (fun b => (b.1, b.2 ++ [i])) ++ births [i] := by
  induction incidents with
  | nil => rfl
  | cons first rest ih => cases first <;> simp [births, ih]

theorem launches_append (path : Text) (incidents later : List Incident) :
    launches path (incidents ++ later) = launches path incidents ++ launches path later :=
  List.filterMap_append

end Incident

namespace Store

/-- How a number of launches is stored. Above the greatest integer it stays at the next number,
which is a real. -/
def Cell.ofLaunches (n : Nat) : Cell := if n < 2 ^ 63 then int n else real ⟨0x43E0000000000000⟩

theorem Cell.iterate_addOne_zero (n : Nat) : addOne^[n] (int 0) = ofLaunches n := by
  unfold ofLaunches
  split
  · rw [iterate_addOne (by decide) n (by omega), Int.zero_add]
  · obtain ⟨k, rfl⟩ : ∃ k, n = k + 1 + (2 ^ 63 - 1) := ⟨n - 2 ^ 63, by omega⟩
    have hstays : addOne (real ⟨0x43E0000000000000⟩) = real ⟨0x43E0000000000000⟩ := by
      decide +kernel
    rw [Function.iterate_add_apply, iterate_addOne (by decide) _ (by decide),
      Function.iterate_succ_apply]
    exact (congrArg addOne^[k] addOne_greatest).trans (Function.iterate_fixed hstays k)

namespace Tables

variable {t t' : Tables} {incidents : List Incident}

theorem countLaunches_append (id : Int) (times later : List Int) (rows : List UsageRow) :
    countLaunches id (times ++ later) rows = countLaunches id later (countLaunches id times rows) :=
  List.foldl_append

/-- The launches of a file that starts without any. -/
theorem countLaunches_eq_ofLaunches (id : Int) (times : List Int) :
    countLaunches id times [] =
      match times.getLast? with
      | none => []
      | some last => [⟨id, Cell.ofLaunches times.length, .int last⟩] := by
  rw [countLaunches_nil, Cell.iterate_addOne_zero]
  cases times.getLast? <;> rfl

/-- A row is of a file that was inserted, and its usage of the launches since. -/
def Descends (incidents : List Incident) (t : Tables) (f : FileRow) : Prop :=
  ∃ (number : Nat) (path : Text) (since : List Incident), f.id = number + 1 ∧
    (Incident.births incidents)[number]? = some (path, since) ∧ f.path = some path ∧
    t.rowsOf f.id = countLaunches f.id (Incident.launches path since) []

/-- The tables of an index after some incidents. -/
structure Lineage (incidents : List Incident) (t : Tables) : Prop where
  numbered : t.lastFileId = (Incident.births incidents).length
  ids : (t.files.map (·.id)).Nodup
  paths : (t.files.map (·.path)).Nodup
  descends : ∀ f ∈ t.files, t.Descends incidents f
  referenced : ∀ u ∈ t.usage, ∃ f ∈ t.files, f.id = u.fileId

theorem lineage_nil : Lineage [] {} :=
  ⟨rfl, List.nodup_nil, List.nodup_nil, nofun, nofun⟩

theorem Lineage.id_le (h : t.Lineage incidents) : ∀ f ∈ t.files, f.id ≤ t.lastFileId := by
  intro f hf
  obtain ⟨number, path, since, hid, hborn, -⟩ := h.descends f hf
  obtain ⟨hlt, -⟩ := List.getElem?_eq_some_iff.mp hborn
  rw [hid, h.numbered]
  omega

theorem Lineage.rowsOf_eq_nil (h : t.Lineage incidents) {id : Int}
    (hid : ∀ f ∈ t.files, f.id ≠ id) : t.rowsOf id = [] := by
  refine List.filter_eq_nil_iff.mpr fun u hu heq => ?_
  obtain ⟨f, hf, hfid⟩ := h.referenced u hu
  exact hid f hf (hfid.trans (of_decide_eq_true heq))

theorem Lineage.usage_nodup (h : t.Lineage incidents) : (t.usage.map (·.fileId)).Nodup := by
  refine usage_nodup_iff.mpr fun id => ?_
  by_cases hid : ∃ f ∈ t.files, f.id = id
  · obtain ⟨f, hf, rfl⟩ := hid
    obtain ⟨number, path, since, -, -, -, hrows⟩ := h.descends f hf
    rw [hrows, countLaunches_eq_ofLaunches]
    split <;> simp
  · rw [h.rowsOf_eq_nil fun f hf heq => hid ⟨f, hf, heq⟩]
    exact Nat.zero_le 1

/-- What an incident does to the tables. -/
inductive Turn : Option Incident → Tables → Tables → Prop
  | same (t : Tables) : Turn none t t
  | launched {t : Tables} {f : FileRow} {path : Text} (hf : f ∈ t.files)
    (hpath : f.path = some path) (time : Int) : Turn (some (.launched path time)) t
      { t with usage := countLaunch f.id time t.usage }
  | inserted {t : Tables} {f : FileRow} {path : Text} (hid : f.id = t.lastFileId + 1)
    (hpath : f.path = some path) (hnew : ∀ g ∈ t.files, g.path ≠ some path) :
    Turn (some (.inserted path)) t { t with files := t.files ++ [f], lastFileId := f.id }
  | deleted (t : Tables) (path : Text) : Turn (some (.deleted path)) t (t.deleteFile path).2
  | renamed (t : Tables) (rename : FileRow → FileRow) (hid : ∀ f, (rename f).id = f.id)
    (hpath : ∀ f, (rename f).path = f.path) :
    Turn none t { t with files := t.files.map rename }

/-- What happens to other files leaves the descent of a row as it is. -/
theorem Descends.later {f f' : FileRow} (h : t.Descends incidents f) {i : Incident}
    (hid : f'.id = f.id) (hpath : f'.path = f.path)
    (hlaunches : ∀ path, f.path = some path → Incident.launches path [i] = [])
    (hrows : t'.rowsOf f.id = t.rowsOf f.id) : t'.Descends (incidents ++ [i]) f' := by
  obtain ⟨number, path, since, hnumber, hborn, hfpath, hlaunched⟩ := h
  obtain ⟨hlt, -⟩ := List.getElem?_eq_some_iff.mp hborn
  refine ⟨number, path, since ++ [i], hid.trans hnumber, ?_, hpath.trans hfpath, ?_⟩
  · rw [Incident.births_append, List.getElem?_append_left (by simpa using hlt), List.getElem?_map,
      hborn]
    rfl
  · rw [hid, hrows, hlaunched, Incident.launches_append, hlaunches path hfpath, List.append_nil]

theorem Lineage.launched (h : t.Lineage incidents) {f : FileRow} (hf : f ∈ t.files) {path : Text}
    (hpath : f.path = some path) (time : Int) :
    Lineage (incidents ++ [.launched path time])
      { t with usage := countLaunch f.id time t.usage } where
  numbered := by simpa [Incident.births_append, Incident.births] using h.numbered
  ids := h.ids
  paths := h.paths
  descends g hg := by
    by_cases heq : g.id = f.id
    · obtain rfl : g = f := List.inj_on_of_nodup_map h.ids hg hf heq
      obtain ⟨number, path', since, hnumber, hborn, hpath', hrows⟩ := h.descends g hg
      obtain rfl : path = path' := Option.some.inj (hpath.symm.trans hpath')
      obtain ⟨hlt, -⟩ := List.getElem?_eq_some_iff.mp hborn
      refine ⟨number, path, since ++ [.launched path time], hnumber, ?_, hpath, ?_⟩
      · rw [Incident.births_append, List.getElem?_append_left (by simpa using hlt),
          List.getElem?_map, hborn]
        rfl
      · rw [Incident.launches_append, countLaunches_append, ← hrows, rowsOf,
          filter_countLaunch_self, rowsOf]
        simp [Incident.launches, countLaunches]
    · refine (h.descends g hg).later rfl rfl (fun other hother => ?_)
        (filter_countLaunch_of_ne heq _ _)
      -- Launches are told by path and counted by id, and no other file is at the path.
      have hne : path ≠ other := by
        rintro rfl
        exact heq (congrArg FileRow.id
          (List.inj_on_of_nodup_map h.paths hg hf (hother.trans hpath.symm)))
      simp [Incident.launches, hne]
  referenced u hu := by
    have hids : u.fileId = f.id ∨ ∃ v ∈ t.usage, v.fileId = u.fileId := by
      by_cases heq : u.fileId = f.id
      · exact .inl heq
      · have hmem : u ∈ (countLaunch f.id time t.usage).filter fun v => v.fileId = u.fileId :=
          List.mem_filter.mpr ⟨hu, by simp⟩
        rw [filter_countLaunch_of_ne heq, List.mem_filter] at hmem
        exact .inr ⟨u, hmem.1, rfl⟩
    rcases hids with heq | ⟨v, hv, heq⟩
    · exact ⟨f, hf, heq.symm⟩
    · exact heq ▸ h.referenced v hv

theorem Lineage.inserted (h : t.Lineage incidents) {f : FileRow} {path : Text}
    (hid : f.id = t.lastFileId + 1) (hpath : f.path = some path)
    (hnew : ∀ g ∈ t.files, g.path ≠ some path) :
    Lineage (incidents ++ [.inserted path])
      { t with files := t.files ++ [f], lastFileId := f.id } where
  numbered := by simp [Incident.births_append, Incident.births, hid, h.numbered]
  ids := by
    rw [List.map_append, List.nodup_append]
    refine ⟨h.ids, by simp, fun id hmem other hother => ?_⟩
    obtain ⟨g, hg, rfl⟩ := List.mem_map.mp hmem
    obtain rfl : other = f.id := by simpa using hother
    have := h.id_le g hg
    omega
  paths := by
    rw [List.map_append, List.nodup_append]
    refine ⟨h.paths, by simp, fun p hmem other hother => ?_⟩
    obtain ⟨g, hg, rfl⟩ := List.mem_map.mp hmem
    obtain rfl : other = f.path := by simpa using hother
    exact hpath ▸ hnew g hg
  descends g hg := by
    rcases List.mem_append.mp hg with hg | hg
    · exact (h.descends g hg).later rfl rfl (fun _ _ => rfl) rfl
    · obtain rfl : g = f := List.mem_singleton.mp hg
      refine ⟨(Incident.births incidents).length, path, [], by rw [hid, h.numbered], ?_, hpath, ?_⟩
      · rw [Incident.births_append, List.getElem?_append_right (by simp)]
        simp [Incident.births]
      · -- Usage is of files that are there, and all of them have smaller ids.
        refine h.rowsOf_eq_nil fun f hf heq => ?_
        have := h.id_le f hf
        omega
  referenced u hu := by
    obtain ⟨g, hg, heq⟩ := h.referenced u hu
    exact ⟨g, List.mem_append_left _ hg, heq⟩

theorem Lineage.deleted (h : t.Lineage incidents) (path : Text) :
    Lineage (incidents ++ [.deleted path]) (t.deleteFile path).2 := by
  have hgone : ∀ id, (t.filesAt path).any (fun f => f.id == id) = true ↔
      ∃ f ∈ t.files, f.path = some path ∧ f.id = id := by
    simp [filesAt]
  refine ⟨?_, h.ids.sublist (List.filter_sublist.map _),
    h.paths.sublist (List.filter_sublist.map _), fun f hf => ?_, fun u hu => ?_⟩
  · rw [Incident.births_append, Incident.births, Incident.births, List.append_nil, List.length_map]
    exact h.numbered
  · obtain ⟨hf, hpath⟩ := List.mem_filter.mp hf
    have hstays : (t.filesAt path).any (fun g => g.id == f.id) = false := by
      refine Bool.eq_false_iff.mpr fun hany => ?_
      obtain ⟨g, hg, hgpath, hid⟩ := (hgone f.id).mp hany
      rw [List.inj_on_of_nodup_map h.ids hg hf hid] at hgpath
      simp [hgpath] at hpath
    refine (h.descends f hf).later rfl rfl (fun _ _ => rfl) ?_
    rw [rowsOf, deleteFile, List.filter_filter, rowsOf]
    refine List.filter_congr fun u _ => ?_
    by_cases hu : u.fileId = f.id <;> simp [hu, hstays]
  · obtain ⟨hu, hstays⟩ := List.mem_filter.mp hu
    obtain ⟨f, hf, hid⟩ := h.referenced u hu
    refine ⟨f, List.mem_filter.mpr ⟨hf, ?_⟩, hid⟩
    by_contra hpath
    rw [(hgone u.fileId).mpr ⟨f, hf, by simpa using hpath, hid⟩] at hstays
    cases hstays

theorem Lineage.renamed (h : t.Lineage incidents) {rename : FileRow → FileRow}
    (hid : ∀ f, (rename f).id = f.id) (hpath : ∀ f, (rename f).path = f.path) :
    Lineage incidents { t with files := t.files.map rename } where
  numbered := h.numbered
  ids := by simpa [Function.comp_def, hid] using h.ids
  paths := by simpa [Function.comp_def, hpath] using h.paths
  descends := by
    rintro _ hg
    obtain ⟨f, hf, rfl⟩ := List.mem_map.mp hg
    rw [Descends, hid, hpath]
    exact h.descends f hf
  referenced u hu := by
    obtain ⟨f, hf, heq⟩ := h.referenced u hu
    exact ⟨rename f, List.mem_map_of_mem hf, (hid f).trans heq⟩

/-- Every incident leaves usage with the files that it is of. -/
theorem Lineage.turn (h : t.Lineage incidents) {i : Option Incident} (hturn : Turn i t t') :
    t'.Lineage (incidents ++ i.toList) := by
  cases hturn with
  | same => simpa using h
  | launched hf hpath time => exact h.launched hf hpath time
  | inserted hid hpath hnew => exact h.inserted hid hpath hnew
  | deleted _ path => exact h.deleted path
  | renamed _ rename hid hpath => simpa using h.renamed hid hpath

/-! ### Ids that are known -/

/-- Every old id is that of the same file, or of none. -/
structure Succeeds (t t' : Tables) : Prop where
  ids : (t'.files.map (·.id)).Nodup
  id_le : ∀ f ∈ t'.files, f.id ≤ t'.lastFileId
  grows : t.lastFileId ≤ t'.lastFileId
  older : ∀ g ∈ t'.files, g.id ≤ t.lastFileId → ∃ f ∈ t.files, f.id = g.id ∧ f.path = g.path

theorem Succeeds.trans {t'' : Tables} (h : t.Succeeds t') (h' : t'.Succeeds t'') :
    t.Succeeds t'' where
  ids := h'.ids
  id_le := h'.id_le
  grows := Int.le_trans h.grows h'.grows
  older g hg hid := by
    obtain ⟨f', hf', hid', hpath'⟩ := h'.older g hg (Int.le_trans hid h.grows)
    obtain ⟨f, hf, hfid, hpath⟩ := h.older f' hf' (hid' ▸ hid)
    exact ⟨f, hf, hfid.trans hid', hpath.trans hpath'⟩

theorem Lineage.succeeds_self (h : t.Lineage incidents) : t.Succeeds t :=
  ⟨h.ids, h.id_le, Int.le_refl _, fun g hg _ => ⟨g, hg, rfl, rfl⟩⟩

/-- A file is an old one, or it has just been inserted and has the next id. -/
theorem Turn.files {i : Option Incident} (h : Turn i t t') : ∀ g ∈ t'.files,
    (∃ f ∈ t.files, f.id = g.id ∧ f.path = g.path) ∨
      ∃ path, i = some (.inserted path) ∧ g.path = some path ∧ g.id = t.lastFileId + 1 := by
  intro g hg
  cases h with
  | same | launched => exact .inl ⟨g, hg, rfl, rfl⟩
  | inserted hid hpath hnew =>
    rcases List.mem_append.mp hg with hg | hg
    · exact .inl ⟨g, hg, rfl, rfl⟩
    · obtain rfl := List.mem_singleton.mp hg
      exact .inr ⟨_, rfl, hpath, hid⟩
  | deleted => exact .inl ⟨g, (List.mem_filter.mp hg).1, rfl, rfl⟩
  | renamed _ rename hid hpath =>
    obtain ⟨f, hf, rfl⟩ := List.mem_map.mp hg
    exact .inl ⟨f, hf, (hid f).symm, (hpath f).symm⟩

theorem Lineage.succeeds (h : t.Lineage incidents) {i : Option Incident} (hturn : Turn i t t') :
    t.Succeeds t' where
  ids := (h.turn hturn).ids
  id_le := (h.turn hturn).id_le
  grows := by
    cases hturn with
    | inserted hid => exact hid ▸ Int.le_add_one (Int.le_refl _)
    | _ => exact Int.le_refl _
  older g hg hid := by
    rcases hturn.files g hg with hold | ⟨_, _, _, hnew⟩
    · exact hold
    · omega

theorem NewFile.of_names_eq_ok {n : NewFile} {filename path : Option Text}
    (h : n.names true = .ok (filename, path)) : path = textOf? n.path ∧ ∃ p, path = some p := by
  simp only [names, Bool.true_and] at h
  split at h
  · exact absurd h nofun
  split at h
  · exact absurd h nofun
  · rename_i hsome
    obtain ⟨-, rfl⟩ := Prod.mk.inj (Except.ok.inj h)
    exact ⟨rfl, Option.ne_none_iff_exists'.mp (by simpa using hsome)⟩

/-- What is inserted into a strict table has a path of its own. -/
theorem turn_of_insertFile {n : NewFile} (h : t.insertFile true n = .ok t') :
    Turn ((textOf? n.path).map .inserted) t t' := by
  unfold insertFile at h
  split at h
  · exact absurd h nofun
  · rename_i filename path hnames
    obtain ⟨hpath, p, rfl⟩ := NewFile.of_names_eq_ok hnames
    split at h
    · exact absurd h nofun
    · rename_i hnew
      obtain rfl := Except.ok.inj h
      rw [← hpath]
      exact .inserted rfl rfl (by simpa using hnew)

/-- Under its own path a file gets another name only. -/
theorem turn_of_renameFile {path : Text} {n : NewFile} {count : Nat}
    (h : t.renameFile true path n = .ok (count, t')) (hpath : textOf? n.path = some path) :
    Turn none t t' := by
  unfold renameFile at h
  split at h
  · obtain ⟨-, rfl⟩ := Prod.mk.inj (Except.ok.inj h)
    exact .same t
  split at h
  · exact absurd h nofun
  · rename_i filename target hnames
    obtain rfl : target = some path := (NewFile.of_names_eq_ok hnames).1.trans hpath
    split at h
    · exact absurd h nofun
    · obtain ⟨-, rfl⟩ := Prod.mk.inj (Except.ok.inj h)
      refine .renamed t _ (fun f => ?_) (fun f => ?_) <;> split
      · rfl
      · rfl
      · rename_i hf
        exact (eq_of_beq hf).symm
      · rfl

end Tables

theorem Cell.of_bind_eq_ok {position other : Nat} {v : Value} {cell : Cell}
    (h : bind position v = .ok cell) : bind other v = .ok cell := by
  cases v <;> first | exact h | exact absurd h nofun

end Store

/-- The calls of the library, and the changes of the indexing program other than to usage and to
paths. -/
def Errand.Indexes : Errand → Prop
  | change _ (.setUsage _ _ _) => False
  | change _ (.rename path _ target) => target = path
  | _ => True

/-- A change to a strict table is the incident that it is told as. -/
theorem Change.Alters.turn {c : Change} {db : Database} {n : Nat} {t : Tables}
    (h : c.Alters db n t) (hstrict : db.layout.isStrict = true) {path : Value}
    (hc : (Errand.change path c).Indexes) : Tables.Turn (Incident.ofChange? c) db.tables t := by
  cases h with
  | @insert row _ new _ hrow hinsert =>
    rw [hstrict] at hinsert
    simpa only [Incident.ofChange?, hrow] using Tables.turn_of_insertFile hinsert
  | @delete path _ cell p hcell hp =>
    simpa only [Incident.ofChange?, hcell, hp] using .deleted db.tables p
  | @rename path filename target _ cell name targetCell p _ _ hname htarget hcell hp hrenamed =>
    obtain rfl : target = path := hc
    obtain rfl : targetCell = cell := Except.ok.inj (htarget.symm.trans (Cell.of_bind_eq_ok hcell))
    rw [hstrict] at hrenamed
    exact Tables.turn_of_renameFile hrenamed hp
  | setUsage => exact hc.elim
  | @deleteNothing path _ cell hcell hp =>
    simpa only [Incident.ofChange?, hcell, hp] using .same db.tables
  | renameNothing => exact .same _

/-! ### Runs with changes by the indexing program -/

namespace Errand

variable {file : Nat} {start : World} {s : Session} {t : Tables}
  {crowd c c' : Crowd Session Errand (Outcome Reply)}

/-- What others leave of an index: an old id is that of the same file. -/
def Keeps (file : Nat) (w w' : World) : Prop :=
  w.SameNames w' ∧ ∃ t t', w.disk.database file = .ok (.complete t) ∧
    w'.disk.database file = .ok (.complete t') ∧ t.Succeeds t'

/-- What a look-up tells for good: the id is that of a file at the path, or of none. -/
def Knows (file : Nat) (number : Nat) (path : Text) (id : Int) (w : World) : Prop :=
  number = file → ∃ t, w.disk.database file = .ok (.complete t) ∧ id ≤ t.lastFileId ∧
    ∀ f ∈ t.files, f.id = id → f.path = some path

theorem complete_unique {w : World} {t t' : Tables}
    (h : w.disk.database file = .ok (.complete t))
    (h' : w.disk.database file = .ok (.complete t')) :
    t = t' := congrArg Database.tables (Except.ok.inj (h.symm.trans h'))

theorem recalls_knows (file : Nat) : World.Recalls (Keeps file) (Knows file) where
  names h := h.1
  found {w w' number path id} h hid := by
    rintro rfl
    obtain ⟨-, _, t, -, ht, hsucceeds⟩ := h
    obtain ⟨db, f, hdb, hf, rfl⟩ := Connection.of_fileId_eq_some hid
    obtain rfl := Except.ok.inj (ht.symm.trans hdb)
    obtain ⟨hmem, hpath⟩ := List.mem_filter.mp (List.mem_of_head? hf)
    refine ⟨t, ht, hsucceeds.id_le f hmem, fun g hg hgid => ?_⟩
    rw [List.inj_on_of_nodup_map hsucceeds.ids hg hmem hgid]
    exact eq_of_beq hpath
  kept {w w' number path id} hknows h hnumber := by
    obtain ⟨-, t, t', ht, ht', hsucceeds⟩ := h
    obtain ⟨t₀, ht₀, hle, hpath⟩ := hknows hnumber
    obtain rfl := complete_unique ht₀ ht
    refine ⟨t', ht', Int.le_trans hle hsucceeds.grows, fun g hg hid => ?_⟩
    obtain ⟨f, hf, hfid, hfpath⟩ := hsucceeds.older g hg (hid ▸ hle)
    exact hfpath.symm.trans (hpath f hf (hfid.trans hid))

theorem turn_of_counts {m : Session.Member} {filePath : Value} {now : Int} {number : Nat}
    {w w' : World} {incidents : List Incident}
    (hcounts : Writer.Counts (Knows file) m.seen.path filePath.display now w w')
    (hnames : start.SameNames w) (ht : w.disk.database file = .ok (.complete t))
    (hlineage : t.Lineage incidents) :
    ∃ t', w.SameNames w' ∧ w'.disk.database file = .ok (.complete t') ∧
      Tables.Turn (Incident.ofEnded? file start
        ⟨number, .record (some m) filePath now, .ok (.recorded true)⟩) t t' := by
  obtain ⟨file', id, db, t', htarget, hknows, hdb, hrecord, rfl⟩ := hcounts.exists_recordLaunch
  rw [hnames.target] at htarget
  simp only [Incident.ofEnded?, htarget]
  rcases Disk.database_setDatabase_cases hdb ht { db with tables := t' } with
    ⟨rfl, rfl, hset⟩ | ⟨hfile, hset⟩
  · obtain ⟨t₀, ht₀, -, hpath⟩ := hknows rfl
    obtain rfl := complete_unique ht₀ ht
    obtain ⟨hthere, rfl⟩ := Tables.of_recordLaunch_eq_ok hrecord
    obtain ⟨f, hf, rfl⟩ : ∃ f ∈ t₀.files, f.id = id := by
      rcases hthere with ⟨u, hu, rfl⟩ | hthere
      · exact hlineage.referenced u hu
      · exact hthere
    refine ⟨_, ⟨rfl, rfl, rfl⟩, hset, ?_⟩
    simpa [Except.toOption] using .launched hf (hpath f hf rfl) now
  · exact ⟨t, ⟨rfl, rfl, rfl⟩, hset, by simpa [Except.toOption, hfile] using .same t⟩

/-- A change that has been made is told as what it is. -/
theorem turn_of_change {path : Value} {ch : Change} {n number other : Nat} {w w' : World}
    (hch : (change path ch).Indexes) (htarget : Writer.target path w = .ok other)
    (hrun : ch.run other w = (.ok n, w')) (hnames : start.SameNames w)
    (ht : w.disk.database file = .ok (.complete t)) :
    ∃ t', w.SameNames w' ∧ w'.disk.database file = .ok (.complete t') ∧
      Tables.Turn (Incident.ofEnded? file start ⟨number, .change path ch, .ok (.changed n)⟩)
        t t' := by
  rw [hnames.target] at htarget
  simp only [Incident.ofEnded?, htarget]
  rcases ch.run_eq other w with ⟨fault, heq⟩ | ⟨db, n', t', hdb, halters, heq⟩
  · cases hrun.symm.trans heq
  obtain ⟨-, rfl⟩ := Prod.mk.inj (hrun.symm.trans heq)
  rcases Disk.database_setDatabase_cases hdb ht { db with tables := t' } with
    ⟨rfl, rfl, hset⟩ | ⟨hfile, hset⟩
  · refine ⟨t', ⟨rfl, rfl, rfl⟩, hset, ?_⟩
    simpa [Except.toOption, Database.complete] using halters.turn rfl hch
  · exact ⟨t, ⟨rfl, rfl, rfl⟩, hset, by simpa [Except.toOption, hfile] using .same t⟩

/-- Names lead where they led at the start, and the tables in the file come from what has
happened. -/
structure Descended (start : World) (file : Nat) (c : Crowd Session Errand (Outcome Reply))
    (t : Tables) : Prop where
  names : start.SameNames c.state.world
  tables : c.state.world.disk.database file = .ok (.complete t)
  lineage : t.Lineage (c.history file start)

/-- The tables take one turn with each step. -/
theorem Descended.step (h : Descended start file c t) (htold : Told Indexes (Knows file) c c') :
    ∃ t' i, Descended start file c' t' ∧ Tables.Turn i t t' ∧
      c'.history file start = c.history file start ++ i.toList := by
  rcases Told.quiet_or_acts htold file start with
    ⟨hquiet, hhistory⟩ | ⟨⟨number, call, result⟩, hcall, hact, hhistory⟩
  · refine ⟨t, none, ⟨h.names.trans hquiet.sameNames, ?_, hhistory ▸ h.lineage⟩, .same t, ?_⟩
    · rw [hquiet.disk]
      exact h.tables
    · exact hhistory.trans (List.append_nil _).symm
  · have hturn : ∃ t', c.state.world.SameNames c'.state.world ∧
        c'.state.world.disk.database file = .ok (.complete t') ∧
        Tables.Turn (Incident.ofEnded? file start ⟨number, call, result⟩) t t' := by
      rcases hact.cases with ⟨m, filePath, now, rfl, rfl, hcounts⟩ |
        ⟨path, ch, n, other, rfl, rfl, htarget, hrun⟩
      · exact turn_of_counts hcounts h.names h.tables h.lineage
      · exact turn_of_change hcall htarget hrun h.names h.tables
    obtain ⟨t', hnames, ht', hturn⟩ := hturn
    exact ⟨t', _, ⟨h.names.trans hnames, ht', hhistory ▸ h.lineage.turn hturn⟩, hturn, hhistory⟩

theorem descended_of_run (hrun : Crowd.Run (setting Indexes) { state := s } crowd)
    (hfresh : s.world.disk.database file = .ok (.complete {})) :
    (∃ t, Descended s.world file crowd t) ∧
      ∀ next, Crowd.Step (setting Indexes) crowd next → Told Indexes (Knows file) crowd next := by
  refine run_keeps (fun c => ∃ t, Descended s.world file c t) (recalls_knows file) ?_ ?_ ?_
    ⟨{}, .refl _, hfresh, Tables.lineage_nil⟩ hrun
  · rintro w₁ w₂ w₃ ⟨hnames, t₁, t₂, h₁, h₂, hsucceeds⟩ ⟨hnames', t₂', t₃, h₂', h₃, hsucceeds'⟩
    obtain rfl := complete_unique h₂ h₂'
    exact ⟨hnames.trans hnames', t₁, t₃, h₁, h₃, hsucceeds.trans hsucceeds'⟩
  · rintro c ⟨t, ht⟩
    exact ⟨.refl _, t, t, ht.tables, ht.tables, ht.lineage.succeeds_self⟩
  · rintro c c' ⟨t, ht⟩ htold
    obtain ⟨t', i, ht', hturn, -⟩ := ht.step htold
    exact ⟨⟨t', ht'⟩, ht.names.symm.trans ht'.names, t, t', ht.tables, ht'.tables,
      ht.lineage.succeeds hturn⟩

/-- In every run that starts with a fresh index, usage is of existing files, with one row for each
at most, and no two files have the same id. A file with the id `number + 1` is the one that was
inserted after `number` others; it has no usage if none of its launches since has been recorded, and
else one row with their number and the time of the last one. With a step a file can only come by an
insertion, and then its id is above all that have been given before. -/
theorem launches_not_inherited (hrun : Crowd.Run (setting Indexes) { state := s } crowd)
    (hfresh : s.world.disk.database file = .ok (.complete {})) :
    ∃ t, crowd.state.world.disk.database file = .ok (.complete t) ∧
      (∀ u ∈ t.usage, ∃ f ∈ t.files, f.id = u.fileId) ∧ (t.usage.map (·.fileId)).Nodup ∧
      (t.files.map (·.id)).Nodup ∧
      (∀ f ∈ t.files, ∃ (number : Nat) (path : Text) (since : List Incident), f.id = number + 1 ∧
        (Incident.births (crowd.history file s.world))[number]? = some (path, since) ∧
        f.path = some path ∧ t.rowsOf f.id =
          match (Incident.launches path since).getLast? with
          | none => []
          | some last => [⟨f.id, .ofLaunches (Incident.launches path since).length, .int last⟩]) ∧
      ∀ next, Crowd.Step (setting Indexes) crowd next → ∃ t',
        next.state.world.disk.database file = .ok (.complete t') ∧ ∀ g ∈ t'.files,
          (∃ f ∈ t.files, f.id = g.id ∧ f.path = g.path) ∨
            ∃ path, next.history file s.world = crowd.history file s.world ++ [.inserted path] ∧
              g.path = some path ∧
              g.id = (Incident.births (crowd.history file s.world)).length + 1 := by
  obtain ⟨⟨t, ht⟩, htold⟩ := descended_of_run hrun hfresh
  refine ⟨t, ht.tables, ht.lineage.referenced, ht.lineage.usage_nodup, ht.lineage.ids, ?_, ?_⟩
  · intro f hf
    obtain ⟨number, path, since, hid, hborn, hpath, hrows⟩ := ht.lineage.descends f hf
    exact ⟨number, path, since, hid, hborn, hpath,
      hrows.trans (Tables.countLaunches_eq_ofLaunches f.id _)⟩
  · intro next hnext
    obtain ⟨t', i, ht', hturn, hhistory⟩ := ht.step (htold next hnext)
    refine ⟨t', ht'.tables, fun g hg => ?_⟩
    rcases hturn.files g hg with hold | ⟨path, rfl, hpath, hid⟩
    · exact .inl hold
    · exact .inr ⟨path, hhistory, hpath, ht.lineage.numbered ▸ hid⟩

/-- The tables that are made in an empty database are those of a fresh index. -/
example : { Database.empty with layout := Database.empty.layout.completed } = .complete {} := rfl

/-! ### A file that is inserted again -/

def freshDesk : Session where
  connections := desk.connections
  world :=
    { environment := desk.world.environment
      disk := { entries := desk.world.disk.entries, contents := [(0, .database (.complete {}))] } }

def insertNote : Errand := .change (.text "/index") (.insert [.text "a", .text "/a"])

def deleteNote : Errand := .change (.text "/index") (.delete (.text "/a"))

theorem allowed_change {path : Value} {ch : Change} (h : (change path ch).Indexes) :
    (setting Indexes).allowed (change path ch) s :=
  ⟨h, fun m hm => by simp [member?] at hm⟩

/-- A file that is deleted after a launch and inserted again has another id and no launches. -/
theorem launches_not_inherited_again :
    ∃ crowd, Crowd.Run (setting Indexes) { state := freshDesk } crowd ∧
      crowd.history 0 freshDesk.world =
        [.inserted "/a", .launched "/a" 7, .deleted "/a", .inserted "/a"] ∧
      ∃ t, crowd.state.world.disk.database 0 = .ok (.complete t) ∧
        ∃ f ∈ t.files, f.id = 2 ∧ f.path = some "/a" ∧ t.rowsOf f.id = [] := by
  have hfirst : Crowd.Run (setting Indexes) { state := freshDesk }
      (Crowd.after (setting Indexes) { state := freshDesk } insertNote) :=
    .call rfl insertNote (allowed_change trivial) rfl
  have hsecond := hfirst.trans
    (Crowd.Run.call rfl (launchNote 7) ⟨trivial, (allowed_launchNote rfl 7).2⟩ rfl)
  have hthird := hsecond.trans (Crowd.Run.call rfl deleteNote (allowed_change trivial) rfl)
  obtain ⟨crowd, hrun, hhistory, hdb⟩ : ∃ crowd,
      Crowd.Run (setting Indexes) { state := freshDesk } crowd ∧
      crowd.history 0 freshDesk.world =
        [.inserted "/a", .launched "/a" 7, .deleted "/a", .inserted "/a"] ∧
      crowd.state.world.disk.database 0 =
        .ok (.complete { files := [{ note with id := 2 }], lastFileId := 2 }) :=
    ⟨_, hthird.trans (Crowd.Run.call rfl insertNote (allowed_change trivial) rfl), rfl, rfl⟩
  have hfresh : freshDesk.world.disk.database 0 = .ok (.complete {}) := rfl
  obtain ⟨t, ht, -, -, -, hrows, -⟩ := launches_not_inherited hrun hfresh
  obtain rfl := complete_unique ht hdb
  obtain ⟨number, path, since, hid, hborn, hpath, hrows⟩ := hrows _ List.mem_cons_self
  refine ⟨crowd, hrun, hhistory, _, ht, _, List.mem_cons_self, rfl, rfl, ?_⟩
  obtain rfl : number = 1 := by
    simp only at hid
    omega
  rw [hhistory] at hborn
  obtain ⟨rfl, rfl⟩ := Prod.mk.inj (Option.some.inj hborn)
  exact hrows

end Errand

end LaunchIndex
