import Mathlib.Algebra.Ring.Int.Defs
import LaunchIndex.Proofs.Deeds
import LaunchIndex.Proofs.Search

/-! What the three queries tell of the launches of a file. The usage of a file, the count that a
search shows, and the list of the most launched files are read from the same rows in three ways; on
rows that the keys of the tables let be, each of them tells the usage as its row reads. -/

namespace LaunchIndex

open Store

/-! ### Rows of results -/

theorem Statement.of_query_eq_ok {π α : Type} {st : Statement π}
    {run : Database → π → Except StoreError α} {file : Nat} {w : World} {a : α}
    (h : st.query run file w = .ok a) :
    ∃ db parameters, w.disk.database file = .ok db ∧ st.bind = .ok parameters ∧
      run db parameters = .ok a := by
  obtain ⟨⟨db, parameters⟩, hprepare, h⟩ := Outcome.of_bind_eq_ok h
  obtain ⟨_, -, h⟩ := Outcome.of_bind_eq_ok h
  obtain ⟨hdb, -, hbind⟩ := of_prepare_eq_ok hprepare
  exact ⟨db, parameters, hdb, hbind, Outcome.of_ofStore_eq_ok h⟩

theorem Binary64.truncate?_of_isZero {x : Binary64} (h : x.isZero = true) :
    x.truncate? = some 0 := by
  obtain ⟨hfinite, hzero⟩ := Bool.and_eq_true_iff.mp h
  have hratio : x.ratio.1 = 0 := by
    rw [ratio, eq_of_beq hzero]
    simp
  rw [truncate?, if_pos hfinite, hratio, Int.zero_tdiv]

theorem Store.Cell.eq_zero_of_isEmpty {c : Cell} {n : Int} (hn : c.toValue.toInteger = .ok n)
    (hempty : c.toValue.isEmpty = true) : n = 0 := by
  cases c with
  | null => cases hn
  | int i =>
    obtain rfl : i = n := Except.ok.inj hn
    simpa [toValue, Value.isEmpty] using hempty
  | real x =>
    simp only [toValue, Value.toInteger, Binary64.truncate?_of_isZero hempty] at hn
    exact (Except.ok.inj hn).symm
  | text t =>
    obtain rfl : t = [] := by simpa [toValue, Value.isEmpty] using hempty
    cases hn
  | blob b =>
    obtain rfl : b = [] := by simpa [toValue, Value.isEmpty] using hempty
    cases hn

namespace Record

theorem readCount_eq {row : Row} {c : Cell} {n : Int}
    (hcolumn : Value.lookup row "launch_count" = some c.toValue)
    (hn : c.toValue.toInteger = .ok n) : readCount row = .ok n := by
  rw [readCount, hcolumn]
  simp only
  split
  · rename_i hempty
    rw [Cell.eq_zero_of_isEmpty hn hempty]
  · exact hn

def ofFile (f : FileRow) (n : Int) (tier : Option Int) : Record where
  filename := Tables.nameValue f.filename
  path := Tables.nameValue f.path
  fileType := f.fileType.toValue
  size := f.size.toValue
  modifiedTime := f.modifiedTime.toValue
  launchCount := n
  tier := tier

theorem ofFile_path_eq_iff {f : FileRow} {n : Int} {tier : Option Int} {path : Text} :
    (ofFile f n tier).path = .text path ↔ f.path = some path := by
  cases hpath : f.path <;> simp [ofFile, Tables.nameValue, hpath]

theorem ofRow_hit {h : Tables.Hit} {n : Int} (hn : h.count.toValue.toInteger = .ok n) :
    ofRow h.toRow = .ok (ofFile h.file n (some h.tier)) := by
  have hcount : readCount h.toRow = .ok n := readCount_eq rfl hn
  rw [ofRow, hcount]
  rfl

theorem ofRow_launched {l : Tables.Launched} {n : Int}
    (hn : l.usage.launchCount.toValue.toInteger = .ok n) :
    ofRow l.toRow = .ok (ofFile l.file n none) := by
  have hcount : readCount l.toRow = .ok n := readCount_eq rfl hn
  rw [ofRow, hcount]
  rfl

end Record

/-! ### Usage in the tables -/

namespace Store.Tables

variable {t : Tables} {f : FileRow} {path : Text}

/-- Rows as the keys of both tables let them be, with counts that read as integers. -/
structure IsReadable (t : Tables) : Prop where
  ids_distinct : (t.files.map (·.id)).Nodup
  paths_distinct : (t.files.map (·.path)).Nodup
  usage_distinct : (t.usage.map (·.fileId)).Nodup
  counted : ∀ u ∈ t.usage, ∃ n, u.launchCount.toValue.toInteger = .ok n

theorem IsIndex.isReadable (h : t.IsIndex) (hids : (t.files.map (·.id)).Nodup) : t.IsReadable where
  ids_distinct := hids
  paths_distinct := h.paths_distinct
  usage_distinct := h.usage_distinct
  counted u hu := by
    obtain ⟨n, hn⟩ := h.counted u hu
    exact ⟨n, by rw [hn]; rfl⟩

theorem usageOf?_eq_none_iff {id : Int} : t.usageOf? id = none ↔ ∀ u ∈ t.usage, u.fileId ≠ id := by
  simp [usageOf?]

theorem of_usageOf?_eq_some {id : Int} {u : UsageRow} (h : t.usageOf? id = some u) :
    u ∈ t.usage ∧ u.fileId = id :=
  ⟨List.mem_of_find?_eq_some h, by simpa using List.find?_some h⟩

theorem mem_launched {l : Launched} :
    l ∈ t.launched ↔ l.file ∈ t.files ∧ t.usageOf? l.file.id = some l.usage := by
  simp only [launched, List.mem_filterMap, Option.map_eq_some_iff]
  constructor
  · rintro ⟨f, hf, u, hu, rfl⟩
    exact ⟨hf, hu⟩
  · rintro ⟨hf, hu⟩
    exact ⟨l.file, hf, l.usage, hu, rfl⟩

theorem mem_launched_of_mostLaunched {l : Launched} {limit : Int} (h : l ∈ t.mostLaunched limit) :
    l ∈ t.launched := List.mem_mergeSort.mp (mem_of_mem_limited h)

theorem map_file_launched :
    t.launched.map (·.file) = t.files.filter fun f => (t.usageOf? f.id).isSome := by
  rw [launched, List.map_filterMap, ← List.filterMap_eq_filter]
  refine List.filterMap_congr fun f _ => ?_
  cases hu : t.usageOf? f.id <;> simp [Option.guard, hu]

namespace IsReadable

theorem file_unique (h : t.IsReadable) {g : FileRow} (hf : f ∈ t.files) (hg : g ∈ t.files)
    (hpath : f.path = some path) (hpath' : g.path = some path) : f = g :=
  List.inj_on_of_nodup_map h.paths_distinct hf hg (hpath.trans hpath'.symm)

theorem usageAt?_eq (h : t.IsReadable) (hf : f ∈ t.files) (hpath : f.path = some path) :
    t.usageAt? path = t.usageOf? f.id := by
  have hfile : ∀ l ∈ t.launched, (l.file.path == some path) = true → l.file = f :=
    fun l hl hlpath => h.file_unique (mem_launched.mp hl).1 hf (eq_of_beq hlpath) hpath
  rcases hu : t.usageOf? f.id with _ | u
  · refine Option.map_eq_none_iff.mpr (List.find?_eq_none.mpr fun l hl hlpath => ?_)
    rw [← hfile l hl hlpath, (mem_launched.mp hl).2] at hu
    exact absurd hu nofun
  · obtain ⟨l, hfound⟩ : ∃ l, t.launched.find? (fun l => l.file.path == some path) = some l := by
      rw [← Option.isSome_iff_exists, List.find?_isSome]
      exact ⟨⟨f, u⟩, mem_launched.mpr ⟨hf, hu⟩, by simp [hpath]⟩
    have hl := List.mem_of_find?_eq_some hfound
    have husage := (mem_launched.mp hl).2
    have hlpath := List.find?_some (p := fun l : Launched => l.file.path == some path) hfound
    rw [hfile l hl hlpath, hu] at husage
    rw [usageAt?, hfound, Option.map_some, ← Option.some.inj husage]

/-- A file shows once, so no usage row is met twice. -/
theorem nodup_usage_launched (h : t.IsReadable) : (t.launched.map (·.usage)).Nodup := by
  have hids : (t.launched.map fun l => l.usage.fileId) = (t.launched.map (·.file)).map (·.id) := by
    rw [List.map_map]
    exact List.map_congr_left fun l hl => (of_usageOf?_eq_some (mem_launched.mp hl).2).2
  have hnodup : ((t.launched.map (·.usage)).map (·.fileId)).Nodup := by
    rw [List.map_map]
    refine (congrArg List.Nodup hids).mpr ?_
    rw [map_file_launched]
    exact h.ids_distinct.sublist (List.filter_sublist.map _)
  exact List.Nodup.of_map _ hnodup

theorem length_launched_le (h : t.IsReadable) : t.launched.length ≤ t.usage.length := by
  have hsubset : t.launched.map (·.usage) ⊆ t.usage := by
    intro u hu
    obtain ⟨l, hl, rfl⟩ := List.mem_map.mp hu
    exact (of_usageOf?_eq_some (mem_launched.mp hl).2).1
  simpa using (List.subperm_of_subset h.nodup_usage_launched hsubset).length_le

/-- All files with usage fit in a list that is as long as the table of usage. -/
theorem mostLaunched_perm (h : t.IsReadable) {n : Int} (hn : t.usage.length ≤ n) :
    (t.mostLaunched (max 1 n)).Perm t.launched := by
  have hsorted := List.mergeSort_perm t.launched fun a b => (a.order b).isLE
  have hlength := h.length_launched_le
  rw [mostLaunched, limited, if_neg (by omega), List.take_of_length_le]
  · exact hsorted
  · rw [hsorted.length_eq]
    omega

end IsReadable

/-- The usage of a file as its row reads. -/
def stat? (t : Tables) (f : FileRow) : Option Connection.UsageStat :=
  (t.usageOf? f.id).bind fun u => (Connection.UsageStat.ofRow u).toOption

/-- A count that may be missing; without one there have been no launches. -/
def launches (stat : Option Connection.UsageStat) : Int := (stat.map (·.launchCount)).getD 0

namespace IsReadable

theorem stat?_of_eq_none (hu : t.usageOf? f.id = none) : t.stat? f = none := by
  rw [stat?, hu]
  rfl

theorem ofRow_eq {u : UsageRow} (hu : t.usageOf? f.id = some u) {n : Int}
    (hn : u.launchCount.toValue.toInteger = .ok n) :
    Connection.UsageStat.ofRow u = .ok ⟨f.id, n, u.lastLaunched.toValue⟩ := by
  rw [Connection.UsageStat.ofRow, hn, (of_usageOf?_eq_some hu).2]
  rfl

theorem stat?_of_eq_some {u : UsageRow} (hu : t.usageOf? f.id = some u) {n : Int}
    (hn : u.launchCount.toValue.toInteger = .ok n) :
    t.stat? f = some ⟨f.id, n, u.lastLaunched.toValue⟩ := by
  rw [stat?, hu, Option.bind_some, ofRow_eq hu hn]
  rfl

theorem stat?_eq_none_iff (h : t.IsReadable) : t.stat? f = none ↔ t.usageOf? f.id = none := by
  refine ⟨fun hstat => ?_, stat?_of_eq_none⟩
  rcases hu : t.usageOf? f.id with _ | u
  · rfl
  · obtain ⟨n, hn⟩ := h.counted u (of_usageOf?_eq_some hu).1
    rw [stat?_of_eq_some hu hn] at hstat
    exact absurd hstat nofun

theorem toInteger_countOf (h : t.IsReadable) (f : FileRow) :
    (t.countOf f).toValue.toInteger = .ok (launches (t.stat? f)) := by
  rcases hu : t.usageOf? f.id with _ | u
  · rw [countOf, stat?_of_eq_none hu, hu]
    rfl
  · obtain ⟨n, hn⟩ := h.counted u (of_usageOf?_eq_some hu).1
    have hsome : u.launchCount ≠ .null := by
      intro hnull
      rw [hnull] at hn
      exact absurd hn nofun
    rw [countOf, stat?_of_eq_some hu hn, hu]
    simp only [hsome, ↓reduceIte]
    exact hn

theorem toInteger_launched (h : t.IsReadable) {l : Launched} (hl : l ∈ t.launched) :
    l.usage.launchCount.toValue.toInteger = .ok (launches (t.stat? l.file)) := by
  have hu := (mem_launched.mp hl).2
  obtain ⟨n, hn⟩ := h.counted l.usage (of_usageOf?_eq_some hu).1
  rw [hn, stat?_of_eq_some hu hn]
  rfl

end IsReadable

end Store.Tables

/-! ### The queries -/

/-- What comes after a task that succeeds goes on from its end. -/
theorem Task.exec_bind_of_ok {α β : Type} {task : Task α} {next : α → Task β} {s : Site} {a : α}
    (h : (exec task s).1 = .ok a) : exec (task >>= next) s = exec (next a) (exec task s).2 := by
  rw [exec_bind]
  rcases hexec : exec task s with ⟨outcome, s'⟩
  rw [hexec] at h
  obtain rfl : outcome = .ok a := h
  rfl

theorem Task.exec_bind_ofOutcome {α β : Type} {outcome : Outcome α} {next : α → Task β} {a : α}
    (h : outcome = .ok a) (s : Site) :
    exec (ExceptT.mk (pure outcome) >>= next) s = exec (next a) s := by
  rw [h]
  rfl

namespace Connection

variable {s : Site} {t : Tables} {f : FileRow} {path : Text} {file : Nat} {w : World}
  {layout : Layout} {limit : Int}

theorem usageRow_eq (hdisk : w.disk.database file = .ok ⟨layout, t⟩) (hl : t.IsLegible)
    (hfiles : layout.files = some .all) (husage : layout.usage = true)
    (hread : w.mayRead file = .ok ()) (hstorable : Cell.isStorable path = true) :
    usageRow path file w = .ok (t.usageAt? path) := by
  have hrequire : layout.requireBoth = .ok () := by
    rw [Layout.requireBoth, hfiles, husage]
    rfl
  have hbind : (usageStatement path).bind = .ok path := by
    simp only [usageStatement, Cell.bind_text 1 hstorable]
    rfl
  rw [usageRow, Statement.query_eq hdisk hrequire hbind hread]
  cases hu : t.usageAt? path with
  | none => rfl
  | some u =>
    obtain ⟨l, hl', rfl⟩ := Option.map_eq_some_iff.mp hu
    have hmem := Tables.mem_launched.mp (List.mem_of_find?_eq_some hl')
    simp only [hl.fetch_usageColumns (Tables.of_usageOf?_eq_some hmem.2).1]
    rfl

theorem fetch_launched (hl : t.IsLegible) {l : Tables.Launched} (h : l ∈ t.launched) :
    Tables.fetch l.toRow = .ok l.toRow := by
  obtain ⟨hfile, husage⟩ := Tables.mem_launched.mp h
  have hu := Bool.and_eq_true_iff.mp (hl.usage _ (Tables.of_usageOf?_eq_some husage).1)
  refine Tables.fetch_eq_ok ?_
  rw [Tables.Launched.toRow, List.forall_mem_append]
  refine ⟨Tables.isFetchable_fileColumns (hl.files _ hfile), ?_⟩
  simp [Cell.isFetchable_toValue hu.1]

theorem mostUsedRows_eq (hdisk : w.disk.database file = .ok ⟨layout, t⟩) (hl : t.IsLegible)
    (hfiles : layout.files = some .all) (husage : layout.usage = true)
    (hread : w.mayRead file = .ok ()) (h₁ : 0 ≤ limit) (h₂ : limit ≤ Limit.greatest) :
    mostUsedRows limit file w = .ok ((t.mostLaunched limit).map Tables.Launched.toRow) := by
  have hrequire : layout.requireRecords = .ok () := by
    rw [Layout.requireRecords, Layout.requireBoth, hfiles, husage]
    rfl
  have hbind : (mostUsedStatement limit).bind = .ok limit := by
    simp only [mostUsedStatement, Cell.bind_int 1 h₁ h₂]
    rfl
  have hrows : (t.mostLaunched limit).mapM (fun l => Tables.fetch l.toRow) =
      .ok ((t.mostLaunched limit).map Tables.Launched.toRow) :=
    Outcome.mapM_eq_ok fun l hmem => fetch_launched hl (Tables.mem_launched_of_mostLaunched hmem)
  rw [mostUsedRows, Statement.query_eq hdisk hrequire hbind hread]
  exact congrArg Outcome.ofStore hrows

theorem of_bind_searchStatement_eq_ok {p p' : SearchParameters}
    (h : (searchStatement p).bind = .ok p') : p = p' := by
  obtain ⟨_, -, h⟩ := Outcome.of_bind_eq_ok h
  obtain ⟨_, -, h⟩ := Outcome.of_bind_eq_ok h
  obtain ⟨_, -, h⟩ := Outcome.of_bind_eq_ok h
  obtain ⟨_, -, h⟩ := Outcome.of_bind_eq_ok h
  exact Except.ok.inj h

theorem of_searchRows_eq_ok {p : SearchParameters} {rows : List Row}
    (hdisk : w.disk.database file = .ok ⟨layout, t⟩) (h : searchRows p file w = .ok rows) :
    ∀ row ∈ rows, ∃ hit ∈ t.hits p, hit.toRow = row := by
  obtain ⟨db, p', hdb, hbind, hrun⟩ := Statement.of_query_eq_ok h
  obtain rfl := Except.ok.inj (hdisk.symm.trans hdb)
  obtain rfl := of_bind_searchStatement_eq_ok hbind
  intro row hrow
  unfold Database.search at hrun
  split at hrun
  · exact absurd hrun nofun
  · obtain ⟨hit, hhit, hfetch⟩ := Outcome.exists_of_mapM_eq_ok hrun row hrow
    exact ⟨hit, Tables.mem_hits_of_search hhit, Tables.of_fetch_eq_ok hfetch⟩

theorem exec_usage (hs : s.Reads t) (halive : s.connection.destroyed = false) (hpath : path ≠ [])
    (hstorable : Cell.isStorable path = true) :
    (Task.exec (usage (.text path)) s).1 =
      match t.usageAt? path with
      | none => .ok none
      | some u => (UsageStat.ofRow u).map some := by
  obtain ⟨number, file, layout, hhandle, hdisk, hfiles, husage, hread⟩ := hs.readable
  have hempty : (Value.text path).isEmpty = false := by simp [Value.isEmpty, hpath]
  have hrequire : s.connection.requirePath (.text path) = .ok path := by
    simp only [requirePath, halive, hempty, Bool.false_eq_true, ↓reduceIte]
    rfl
  have hrow : (Task.exec (withHandle fun h => 
      onHandle h (.usage path) (usageRow path) StandIn.usage) s).1 =
      .ok (t.usageAt? path) := by
    rw [exec_withHandle hs.isConnected hhandle, exec_onHandle_file]
    exact usageRow_eq hdisk hs.legible hfiles husage hread hstorable
  rw [usage, Task.exec_bind_of_ok (a := s.connection) rfl]
  refine (congrArg Prod.fst (Task.exec_bind_ofOutcome hrequire s)).trans ?_
  rw [Task.exec_bind_of_ok hrow]
  cases t.usageAt? path <;> rfl

theorem of_exec_search (hs : s.Reads t) {query maxResults : Value} {records : List Record}
    (h : (Task.exec (search query maxResults) s).1 = .ok records) :
    ∀ r ∈ records, ∃ p, ∃ hit ∈ t.hits p, Record.ofRow hit.toRow = .ok r := by
  obtain ⟨number, file, layout, hhandle, hdisk, -⟩ := hs.readable
  cases hempty : query.isEmpty with
  | true =>
    rw [exec_search_of_isEmpty hs.isConnected hempty] at h
    obtain rfl := Except.ok.inj h
    exact List.forall_mem_nil _
  | false =>
    rcases hparameters : searchParameters query maxResults with fault | p
    · rw [exec_search_of_refused hs.isConnected hempty hparameters] at h
      cases h
    rw [exec_search_of_parameters hs.isConnected hempty hparameters,
      exec_withHandle hs.isConnected hhandle, exec_onHandle_file] at h
    rcases hrows : searchRows p file (s.withLock s.connection.lock.take.2).world with
      fault | rows <;> simp only [hrows] at h
    · split at h
      · obtain rfl := Except.ok.inj h
        exact List.forall_mem_nil _
      · cases h
    · intro r hr
      obtain ⟨row, hrow, hrecord⟩ := Outcome.exists_of_mapM_eq_ok h r hr
      obtain ⟨hit, hhit, rfl⟩ := of_searchRows_eq_ok hdisk hrows row hrow
      exact ⟨p, hit, hhit, hrecord⟩

theorem exec_mostUsed (hs : s.Reads t) {limit : Value} {n : Int} (hlimit : limit.toInteger = .ok n)
    (hn : n ≤ Limit.greatest) :
    (Task.exec (mostUsed limit) s).1 =
      ((t.mostLaunched (max 1 n)).map Tables.Launched.toRow).mapM Record.ofRow := by
  obtain ⟨number, file, layout, hhandle, hdisk, hfiles, husage, hread⟩ := hs.readable
  have hgreatest : max 1 n ≤ Limit.greatest := Int.max_le.mpr ⟨by decide, hn⟩
  have hrows : (Task.exec (withHandle fun h => do
      let n ← ExceptT.mk (pure limit.toInteger)
      onHandle h (.mostUsed (max 1 n)) (mostUsedRows (max 1 n)) StandIn.rows) s).1 =
        .ok ((t.mostLaunched (max 1 n)).map Tables.Launched.toRow) := by
    rw [exec_withHandle hs.isConnected hhandle, Task.exec_bind_ofOutcome hlimit,
      exec_onHandle_file]
    exact mostUsedRows_eq hdisk hs.legible hfiles husage hread (by omega) hgreatest
  rw [mostUsed, Task.exec_bind_of_ok hrows]
  rfl

end Connection

/-! ### What they tell -/

/-- What the three queries tell of the launches of the file at a path. -/
structure Site.Tells (s : Site) (t : Tables) (path : Text) (stat : Option Connection.UsageStat) :
    Prop where
  usage : (Task.exec (Connection.usage (.text path)) s).1 = .ok stat
  search : ∀ query maxResults records,
    (Task.exec (Connection.search query maxResults) s).1 = .ok records →
      ∀ r ∈ records, r.path = .text path → r.launchCount = Tables.launches stat
  mostUsed : ∀ (limit : Value) (n : Int), limit.toInteger = .ok n → t.usage.length ≤ n →
    n < 2 ^ 63 →
    ∃ records, (Task.exec (Connection.mostUsed limit) s).1 = .ok records ∧
      (records.map (·.path)).Nodup ∧ ∀ count,
        (∃ r ∈ records, r.path = .text path ∧ r.launchCount = count) ↔
          ∃ found ∈ stat, found.launchCount = count

namespace Site.Reads

variable {s : Site} {t : Tables} {f : FileRow} {path : Text}

theorem exec_usage_eq (hs : s.Reads t) (halive : s.connection.destroyed = false) (ht : t.IsReadable)
    (hf : f ∈ t.files) (hpath : f.path = some path) (hne : path ≠ []) :
    (Task.exec (Connection.usage (.text path)) s).1 = .ok (t.stat? f) := by
  have hstorable := FileRow.isStorable_path (hs.legible.files f hf) hpath
  rw [Connection.exec_usage hs halive hne hstorable, ht.usageAt?_eq hf hpath]
  rcases hu : t.usageOf? f.id with _ | u
  · rw [Tables.IsReadable.stat?_of_eq_none hu]
  · obtain ⟨n, hn⟩ := ht.counted u (Tables.of_usageOf?_eq_some hu).1
    simp only [Tables.IsReadable.stat?_of_eq_some hu hn, Tables.IsReadable.ofRow_eq hu hn]
    rfl

theorem launchCount_of_search (hs : s.Reads t) (ht : t.IsReadable) (hf : f ∈ t.files)
    (hpath : f.path = some path) {query maxResults : Value} {records : List Record}
    (h : (Task.exec (Connection.search query maxResults) s).1 = .ok records) {r : Record}
    (hr : r ∈ records) (hrpath : r.path = .text path) :
    r.launchCount = Tables.launches (t.stat? f) := by
  obtain ⟨p, hit, hhit, hrecord⟩ := Connection.of_exec_search hs h r hr
  obtain ⟨g, hg, -, rfl⟩ := (Tables.mem_hits_iff _ _).mp hhit
  rw [Record.ofRow_hit (ht.toInteger_countOf g)] at hrecord
  obtain rfl := Except.ok.inj hrecord
  obtain rfl : f = g := ht.file_unique hf hg hpath (Record.ofFile_path_eq_iff.mp hrpath)
  rfl

theorem exec_mostUsed_eq (hs : s.Reads t) (ht : t.IsReadable) {limit : Value} {n : Int}
    (hlimit : limit.toInteger = .ok n) (hn : t.usage.length ≤ n) (hgreatest : n < 2 ^ 63) :
    (Task.exec (Connection.mostUsed limit) s).1 = .ok ((t.mostLaunched (max 1 n)).map fun l =>
      .ofFile l.file (Tables.launches (t.stat? l.file)) none) := by
  have hle : n ≤ Limit.greatest := by
    simp only [Limit.greatest]
    omega
  rw [Connection.exec_mostUsed hs hlimit hle, List.mapM_map]
  exact Outcome.mapM_eq_ok fun l hl =>
    Record.ofRow_launched (ht.toInteger_launched ((ht.mostLaunched_perm hn).mem_iff.mp hl))

theorem nodup_mostUsed (ht : t.IsReadable) {n : Int} (hn : t.usage.length ≤ n) :
    (((t.mostLaunched (max 1 n)).map fun l => Record.ofFile l.file
      (Tables.launches (t.stat? l.file)) none).map (·.path)).Nodup := by
  have hnames : Function.Injective Tables.nameValue := by
    rintro (_ | a) (_ | b) <;> simp [Tables.nameValue]
  have hpaths : (t.launched.map fun l => Tables.nameValue l.file.path) =
      ((t.launched.map (·.file)).map (·.path)).map Tables.nameValue := by
    simp only [List.map_map, Function.comp_def]
  rw [List.map_map]
  refine ((ht.mostLaunched_perm hn).map _).nodup_iff.mpr ?_
  refine (congrArg List.Nodup hpaths).mpr (List.Nodup.map hnames ?_)
  rw [Tables.map_file_launched]
  exact ht.paths_distinct.sublist (List.filter_sublist.map _)

/-- All three queries tell the usage of a file as its row reads. -/
theorem tells (hs : s.Reads t) (halive : s.connection.destroyed = false) (ht : t.IsReadable)
    (hf : f ∈ t.files) (hpath : f.path = some path) (hne : path ≠ []) :
    s.Tells t path (t.stat? f) where
  usage := hs.exec_usage_eq halive ht hf hpath hne
  search _ _ _ h _ hr hrpath := hs.launchCount_of_search ht hf hpath h hr hrpath
  mostUsed limit n hlimit hn hgreatest := by
    refine ⟨_, hs.exec_mostUsed_eq ht hlimit hn hgreatest, nodup_mostUsed ht hn, fun count => ?_⟩
    constructor
    · rintro ⟨r, hr, hrpath, rfl⟩
      obtain ⟨l, hl, rfl⟩ := List.mem_map.mp hr
      have hl := (ht.mostLaunched_perm hn).mem_iff.mp hl
      obtain ⟨hmem, hu⟩ := Tables.mem_launched.mp hl
      obtain rfl : f = l.file := ht.file_unique hf hmem hpath (Record.ofFile_path_eq_iff.mp hrpath)
      have hstat := Tables.IsReadable.stat?_of_eq_some hu (ht.toInteger_launched hl)
      exact ⟨_, hstat, rfl⟩
    · rintro ⟨found, hstat, rfl⟩
      obtain ⟨u, hu, -⟩ := Option.bind_eq_some_iff.mp hstat
      refine ⟨_, List.mem_map.mpr ⟨⟨f, u⟩, (ht.mostLaunched_perm hn).mem_iff.mpr
        (Tables.mem_launched.mpr ⟨hf, hu⟩), rfl⟩, Record.ofFile_path_eq_iff.mpr hpath, ?_⟩
      rw [Record.ofFile, hstat]
      rfl

end Site.Reads

end LaunchIndex
