import LaunchIndex.Proofs.Answers
import LaunchIndex.Proofs.Launching
import LaunchIndex.Proofs.Order
import LaunchIndex.Proofs.Queries

/-! What a launch does to the answer of a search. The launched file goes up among the files of its
tier, or stays where it is, and shows one launch more. All other files are listed as they were and
in the order that they had. Where a limit cuts the list, a file that was listed before it was
launched is still listed afterwards. -/

namespace LaunchIndex

open Store

/-- If one list is cut in two ways, and nothing above the second cut is below the first, then the
second cut is the higher one. -/
theorem exists_passed {α : Type} {above below above' below' : List α}
    (hsame : above ++ below = above' ++ below') (hnone : ∀ x ∈ above', x ∉ below) :
    ∃ passed, above = above' ++ passed ∧ below' = passed ++ below := by
  rcases List.append_eq_append_iff.mp hsame with ⟨extra, habove', hbelow⟩ | h
  · have hextra : extra = [] := by
      apply List.eq_nil_iff_forall_not_mem.mpr
      intro x hx
      refine hnone x ?_ ?_
      · simp [habove', hx]
      · simp [hbelow, hx]
    subst hextra
    exact ⟨[], by simpa using habove'.symm, by simpa using hbelow.symm⟩
  · exact h

namespace Store.Tables

/-! ### Hits -/

namespace Hit

variable {h x : Hit} {n : Int}

theorem tier_le_of_precedes (hx : h.precedes x = true) : h.tier ≤ x.tier := by
  rw [precedes, order, Ordering.isLE_then_iff_or] at hx
  rcases hx with hlt | ⟨heq, -⟩
  · exact (compare_lt_iff_lt.mp hlt).le
  · exact (compare_eq_iff_eq.mp heq).le

/-- With one launch more a hit goes before itself, and not the other way round. -/
theorem not_precedes_launched (hn : h.count = .int n) :
    ¬h.precedes { h with count := .int (n + 1) } = true := by
  have hmore : compare (n + 1) n = .gt := compare_gt_iff_gt.mpr (by omega)
  simp [precedes, order, hn, Cell.order, hmore]

theorem path_shown_iff {path : Text} : h.shown.path = .text path ↔ h.file.path = some path :=
  Record.ofFile_path_eq_iff

end Hit

/-! ### Counts -/

def afterLaunch (t : Tables) (id time : Int) : Tables :=
  { t with usage := countLaunch id time t.usage }

variable {t : Tables} {f g : FileRow} {time n : Int}

theorem countOf_eq_of_rowsOf {t' : Tables} (h : t'.rowsOf g.id = t.rowsOf g.id) :
    t'.countOf g = t.countOf g := by
  rw [countOf, countOf, usageOf?_eq_head?, usageOf?_eq_head?, h]

theorem countOf_afterLaunch_of_ne (hne : g.id ≠ f.id) :
    (t.afterLaunch f.id time).countOf g = t.countOf g :=
  countOf_eq_of_rowsOf (filter_countLaunch_of_ne hne time t.usage)

theorem IsIndex.countOf_afterLaunch (ht : t.IsIndex) (hn : t.countOf f = .int n)
    (hleast : -2 ^ 63 ≤ n) (hgreatest : n < 2 ^ 63 - 1) :
    (t.afterLaunch f.id time).countOf f = .int (n + 1) := by
  have hone : Cell.addOne (.int n) = .int (n + 1) := Cell.iterate_addOne hleast 1 (by omega)
  have hrows : (t.afterLaunch f.id time).rowsOf f.id = countLaunch f.id time (t.rowsOf f.id) :=
    filter_countLaunch_self f.id time t.usage
  have hself : ∃ last, (t.afterLaunch f.id time).rowsOf f.id = [⟨f.id, .int (n + 1), last⟩] := by
    rcases ht.rowsOf_eq ((ht.countOf_eq_iff f n).mp hn) with ⟨hnone, rfl⟩ | ⟨last, hlast⟩
    · exact ⟨.int time, by rw [hrows, hnone]; rfl⟩
    · exact ⟨.int time, by rw [hrows, hlast]; simp [countLaunch, hone]⟩
  obtain ⟨last, hself⟩ := hself
  rw [countOf, usageOf?_eq_head?, hself]
  rfl

/-- Counts within bounds are within bounds for every file, with usage or without. -/
theorem IsIndex.exists_countOf_bounded (ht : t.IsIndex)
    (hcounts : ∀ u ∈ t.usage, ∀ n, u.launchCount = .int n → -2 ^ 63 ≤ n ∧ n < 2 ^ 63 - 1)
    (f : FileRow) : ∃ n, t.countOf f = .int n ∧ -2 ^ 63 ≤ n ∧ n < 2 ^ 63 - 1 := by
  obtain ⟨n, hn⟩ := ht.exists_countOf f
  refine ⟨n, hn, ?_⟩
  rcases (ht.countOf_eq_iff f n).mp hn with ⟨u, hu, -, hcount⟩ | ⟨-, rfl⟩
  · exact hcounts u hu n hcount
  · decide

/-! ### The launched file among the hits -/

/-- Whether a hit is on a file at another path. -/
def Hit.isElsewhere (path : Text) (h : Hit) : Bool := h.file.path != some path

section

variable {query path : Text} {limit : Int} (hf : f ∈ t.files) (hpath : f.path = some path)
include hf hpath

theorem hits_elsewhere (hids : (t.files.map (·.id)).Nodup) :
    ((t.afterLaunch f.id time).hits (.ofQuery query limit)).filter (Hit.isElsewhere path) =
      (t.hits (.ofQuery query limit)).filter (Hit.isElsewhere path) := by
  have hmatching : (t.afterLaunch f.id time).matching query = t.matching query := rfl
  rw [hits_eq_map, hits_eq_map, hmatching, List.filter_map, List.filter_map]
  apply List.map_congr_left
  intro g hg
  obtain ⟨hg, helsewhere⟩ := List.mem_filter.mp hg
  have hne : g.id ≠ f.id := by
    intro hid
    obtain rfl : g = f := List.inj_on_of_nodup_map hids (List.mem_of_mem_filter hg) hf hid
    simp [Hit.isElsewhere, hpath] at helsewhere
  rw [countOf_afterLaunch_of_ne hne]

theorem ordered_elsewhere (hids : (t.files.map (·.id)).Nodup) :
    ((t.afterLaunch f.id time).ordered (.ofQuery query limit)).filter (Hit.isElsewhere path) =
      (t.ordered (.ofQuery query limit)).filter (Hit.isElsewhere path) := by
  rw [filter_ordered, filter_ordered, hits_elsewhere hf hpath hids]

theorem eq_of_mem_ordered (hpaths : (t.files.map (·.path)).Nodup) {h : Hit}
    (hh : h ∈ t.ordered (.ofQuery query limit)) (helsewhere : ¬h.isElsewhere path = true) :
    f ∈ t.matching query ∧ h = ⟨f, t.countOf f, tier (.ofQuery query limit) f⟩ := by
  obtain ⟨g, hg, rfl⟩ := List.mem_map.mp (mem_ordered_iff.mp hh)
  have hgpath : g.path = some path := by simpa [Hit.isElsewhere] using helsewhere
  obtain rfl : g = f := List.inj_on_of_nodup_map hpaths (List.mem_of_mem_filter hg) hf
    (hgpath.trans hpath.symm)
  exact ⟨hg, rfl⟩

omit hf in
/-- Where the hit on the file stands among the others. -/
theorem exists_ordered_eq (hpaths : (t.files.map (·.path)).Nodup) (hmatch : f ∈ t.matching query) :
    ∃ above below, t.ordered (.ofQuery query limit) =
        above ++ ⟨f, t.countOf f, tier (.ofQuery query limit) f⟩ :: below ∧
      (∀ x ∈ above ++ below, x.isElsewhere path = true) ∧
      (t.ordered (.ofQuery query limit)).filter (Hit.isElsewhere path) = above ++ below ∧
      (∀ x ∈ above, x.precedes ⟨f, t.countOf f, tier (.ofQuery query limit) f⟩ = true) ∧
      ∀ x ∈ below, Hit.precedes ⟨f, t.countOf f, tier (.ofQuery query limit) f⟩ x = true := by
  generalize hhit : (⟨f, t.countOf f, tier (.ofQuery query limit) f⟩ : Hit) = hit
  have hmem : hit ∈ t.ordered (.ofQuery query limit) :=
    mem_ordered_iff.mpr (hhit ▸ List.mem_map_of_mem hmatch)
  have hplace : hit.file.path = some path := by rw [← hhit, hpath]
  have hnodup : ((t.ordered (.ofQuery query limit)).map (·.file.path)).Nodup := by
    rw [((t.ordered_perm _).map _).nodup_iff, hits_eq_map, List.map_map]
    exact hpaths.sublist (List.filter_sublist.map _)
  obtain ⟨above, below, hsplit⟩ := List.append_of_mem hmem
  have hsorted := t.pairwise_ordered (.ofQuery query limit)
  rw [hsplit] at hsorted hnodup
  obtain ⟨-, hbelow, habove⟩ := List.pairwise_append.mp hsorted
  rw [List.map_append, List.map_cons, List.nodup_middle, ← List.map_append, hplace] at hnodup
  have helsewhere : ∀ x ∈ above ++ below, x.isElsewhere path = true := by
    intro x hx
    apply bne_iff_ne.mpr
    intro hxpath
    exact (List.nodup_cons.mp hnodup).1 (List.mem_map.mpr ⟨x, hx, hxpath⟩)
  have hself : ¬hit.isElsewhere path = true := by simp [Hit.isElsewhere, hplace]
  refine ⟨above, below, hsplit, helsewhere, ?_, fun x hx => habove x hx hit List.mem_cons_self,
    (List.pairwise_cons.mp hbelow).1⟩
  rw [hsplit, List.filter_append, List.filter_cons_of_neg hself, ← List.filter_append,
    List.filter_eq_self.mpr helsewhere]

theorem ordered_afterLaunch_of_notMem (hids : (t.files.map (·.id)).Nodup)
    (hpaths : (t.files.map (·.path)).Nodup) (hmatch : f ∉ t.matching query) :
    (t.afterLaunch f.id time).ordered (.ofQuery query limit) = t.ordered (.ofQuery query limit) ∧
      ∀ h ∈ t.ordered (.ofQuery query limit), h.isElsewhere path = true := by
  have hall : ∀ t' : Tables, t'.files = t.files →
      ∀ h ∈ t'.ordered (.ofQuery query limit), h.isElsewhere path = true := by
    intro t' hfiles h hh
    by_contra helsewhere
    have hmatching : t'.matching query = t.matching query := by rw [matching, hfiles, matching]
    have hf' := (eq_of_mem_ordered (hfiles ▸ hf) hpath (hfiles ▸ hpaths) hh helsewhere).1
    exact hmatch (hmatching ▸ hf')
  have hsame := @ordered_elsewhere t f time query path limit hf hpath hids
  rw [List.filter_eq_self.mpr (hall (t.afterLaunch f.id time) rfl),
    List.filter_eq_self.mpr (hall t rfl)] at hsame
  exact ⟨hsame, hall t rfl⟩

/-- A file that matches passes others of its tier, if any, and shows one launch more. -/
theorem IsIndex.ordered_afterLaunch_of_mem (ht : t.IsIndex) (hids : (t.files.map (·.id)).Nodup)
    (hmatch : f ∈ t.matching query) (hn : t.countOf f = .int n) (hleast : -2 ^ 63 ≤ n)
    (hgreatest : n < 2 ^ 63 - 1) :
    ∃ above passed below,
      t.ordered (.ofQuery query limit) =
        above ++ passed ++ ⟨f, .int n, tier (.ofQuery query limit) f⟩ :: below ∧
      (t.afterLaunch f.id time).ordered (.ofQuery query limit) =
        above ++ ⟨f, .int (n + 1), tier (.ofQuery query limit) f⟩ :: (passed ++ below) ∧
      (∀ x ∈ passed, x.tier = tier (.ofQuery query limit) f) ∧
      ∀ x ∈ above ++ passed ++ below, x.isElsewhere path = true := by
  obtain ⟨above, below, hsplit, helsewhere, hothers, habove, hbelow⟩ :=
    @exists_ordered_eq t f query path limit hpath ht.paths_distinct hmatch
  obtain ⟨above', below', hsplit', -, hothers', habove', hbelow'⟩ :=
    @exists_ordered_eq (t.afterLaunch f.id time) f query path limit hpath ht.paths_distinct hmatch
  rw [hn] at hsplit habove hbelow
  rw [ht.countOf_afterLaunch hn hleast hgreatest] at hsplit' habove' hbelow'
  have hsame : above ++ below = above' ++ below' := by
    rw [← hothers, ← hothers', ordered_elsewhere hf hpath hids]
  obtain ⟨passed, rfl, rfl⟩ := exists_passed hsame fun x hx' hx =>
    Hit.not_precedes_launched (h := ⟨f, .int n, tier (.ofQuery query limit) f⟩) rfl
      (Hit.precedes_trans _ _ _ (hbelow x hx) (habove' x hx'))
  refine ⟨above', passed, below, hsplit, hsplit', fun x hx => ?_, helsewhere⟩
  -- what is passed stood before the hit and stands behind it now
  have hle := Hit.tier_le_of_precedes (habove x (List.mem_append_right _ hx))
  have hge := Hit.tier_le_of_precedes (hbelow' x (List.mem_append_left _ hx))
  exact le_antisymm hle hge

end

end Store.Tables

/-! ### Answers before and after -/

namespace Record

/-- What one launch of a file does to an answer. It is the same if the file is not listed. If it is,
its record counts one launch more and goes ahead of some others of its tier, or of none; all other
records stay as they are and in their order. -/
inductive Promoted (path : Text) : List Record → List Record → Prop
  | unlisted (records : List Record) (elsewhere : ∀ x ∈ records, x.path ≠ .text path) :
    Promoted path records records
  | moved (above passed below : List Record) (r : Record) (here : r.path = .text path)
    (elsewhere : ∀ x ∈ above ++ passed ++ below, x.path ≠ .text path)
    (tiers : ∀ x ∈ passed, x.tier = r.tier) :
    Promoted path (above ++ passed ++ r :: below)
      (above ++ { r with launchCount := r.launchCount + 1 } :: (passed ++ below))

/-- Down a list the tiers do not get better. -/
def Tiered (records : List Record) : Prop :=
  records.Pairwise fun a b => ∃ m n, a.tier = some m ∧ b.tier = some n ∧ m ≤ n

def IsListed (path : Text) (records : List Record) : Prop := ∃ r ∈ records, r.path = .text path

theorem Promoted.isListed_take {path : Text} {before after : List Record}
    (h : Promoted path before after) (k : Nat) (hlisted : IsListed path (before.take k)) :
    IsListed path (after.take k) := by
  cases h with
  | unlisted elsewhere => exact hlisted
  | moved above passed below r here elsewhere tiers =>
    by_cases hk : k ≤ above.length
    · obtain ⟨x, hx, hxpath⟩ := hlisted
      rw [List.append_assoc, List.take_append_of_le_length hk] at hx
      have hmem : x ∈ above ++ passed ++ below := by simp [List.mem_of_mem_take hx]
      exact absurd hxpath (elsewhere x hmem)
    · obtain ⟨m, hm⟩ : ∃ m, k - above.length = m + 1 := ⟨k - above.length - 1, by omega⟩
      refine ⟨{ r with launchCount := r.launchCount + 1 }, ?_, here⟩
      rw [List.take_append, hm, List.take_succ_cons]
      exact List.mem_append_right _ List.mem_cons_self

end Record

namespace Store.Tables

variable {t : Tables} {f : FileRow} {time n : Int} {query path : Text} {limit : Int}

def shown (t : Tables) (query : Text) (limit : Int) : List Record :=
  (t.ordered (.ofQuery query limit)).map Hit.shown

theorem length_shown (t : Tables) (query : Text) (limit : Int) :
    (t.shown query limit).length = (t.matching query).length := by
  rw [shown, List.length_map, (t.ordered_perm _).length_eq, hits_eq_map, List.length_map]

theorem tiered_shown (t : Tables) (query : Text) (limit : Int) :
    Record.Tiered (t.shown query limit) := by
  apply List.pairwise_map.mpr
  apply (t.pairwise_ordered (.ofQuery query limit)).imp
  intro a b hab
  exact ⟨a.tier, b.tier, rfl, rfl, Hit.tier_le_of_precedes hab⟩

theorem IsIndex.promoted (ht : t.IsIndex) (hids : (t.files.map (·.id)).Nodup) (hf : f ∈ t.files)
    (hpath : f.path = some path) (hn : t.countOf f = .int n) (hleast : -2 ^ 63 ≤ n)
    (hgreatest : n < 2 ^ 63 - 1) (query : Text) (limit time : Int) :
    Record.Promoted path (t.shown query limit) ((t.afterLaunch f.id time).shown query limit) := by
  have helse : ∀ hits : List Hit, (∀ h ∈ hits, h.isElsewhere path = true) →
      ∀ r ∈ hits.map Hit.shown, r.path ≠ .text path := by
    intro hits helsewhere r hr hrpath
    obtain ⟨h, hh, rfl⟩ := List.mem_map.mp hr
    exact bne_iff_ne.mp (helsewhere h hh) (Hit.path_shown_iff.mp hrpath)
  by_cases hmatch : f ∈ t.matching query
  · obtain ⟨above, passed, below, hbefore, hafter, htiers, helsewhere⟩ :=
      @IsIndex.ordered_afterLaunch_of_mem t f time n query path limit hf hpath ht hids hmatch hn
        hleast hgreatest
    have hmore : ∀ tier, Hit.shown ⟨f, .int (n + 1), tier⟩ =
        { Hit.shown ⟨f, .int n, tier⟩ with
          launchCount := (Hit.shown ⟨f, .int n, tier⟩).launchCount + 1 } := by
      intro tier
      simp only [Hit.shown, Cell.reading_int]
      rfl
    have helsewhere := helse _ helsewhere
    rw [shown, shown, hbefore, hafter]
    simp only [List.map_append, List.map_cons, hmore] at helsewhere ⊢
    refine .moved _ _ _ _ (Hit.path_shown_iff.mpr hpath) helsewhere fun r hr => ?_
    obtain ⟨x, hx, rfl⟩ := List.mem_map.mp hr
    exact congrArg some (htiers x hx)
  · obtain ⟨hsame, helsewhere⟩ :=
      @ordered_afterLaunch_of_notMem t f time query path limit hf hpath hids ht.paths_distinct
        hmatch
    rw [shown, shown, hsame]
    exact .unlisted _ (helse _ helsewhere)

end Store.Tables

/-! ### A launch between two searches -/

theorem Site.Reads.exists_tables {s : Site} {t : Tables} (hs : s.Reads t) :
    ∃ h, s.connection.handle = some h ∧ h.IsReal ∧ h.tables s.world = .ok t := by
  obtain ⟨number, file, layout, hhandle, hdisk, hfiles, husage, hread⟩ := hs.readable
  have hrequire : layout.requireRecords = .ok () := by
    rw [Layout.requireRecords, Layout.requireBoth, hfiles, husage]
    rfl
  have hreal : (⟨number, .file file⟩ : Handle).IsReal := by
    intro standIn htarget
    cases htarget
  exact ⟨_, hhandle, hreal, Handle.tables_eq_ok_iff.mpr ⟨layout, hdisk, hrequire, hread⟩⟩

theorem Site.outlasting_reads (t : Tables) (handle : Handle) (path : Text) (node : Node) :
    Outlasting fun s : Site => s.Reads t ∧ s.connection.handle = some handle ∧
      s.world.databaseNode? path = some node where
  lock _ _ h := ⟨⟨h.1.connected, h.1.readable, h.1.legible⟩, h.2⟩
  used _ _ _ h _ := ⟨⟨h.1.connected, h.1.readable, h.1.legible⟩, h.2⟩
  log _ _ h := ⟨⟨h.1.connected, h.1.readable, h.1.legible⟩, h.2⟩

theorem Site.outlasting_disk (s : Site) :
    Outlasting fun t : Site => t.world.disk = s.world.disk ∧
      t.world.environment = s.world.environment ∧ t.world.lock = s.world.lock where
  lock _ _ h := h
  used _ _ _ h _ := h
  log _ _ h := h

/-- After a launch that a writer on the same file has recorded, a reader goes on with one launch
more of the file at the path. -/
theorem Site.Reads.afterLaunch {s later : Site} {t : Tables} {writer : Connection} {now : Value}
    {path : Text} {number file : Nat} (hs : s.Reads t) (ht : t.IsIndex)
    (hhandle : s.connection.handle = some ⟨number, .file file⟩)
    (hnode : s.world.databaseNode? writer.path = some (.file file))
    (hlaunch : Task.exec (Connection.recordLaunch (.text path) now) ⟨writer, s.world⟩ =
      (.ok true, later)) :
    ∃ f ∈ t.files, f.path = some path ∧ ∃ time,
      ({ s with world := later.world } : Site).Reads (t.afterLaunch f.id time) := by
  obtain ⟨file', db, f, t', time, clock, htarget, hdb, hf, hrecord, hworld⟩ :=
    Connection.of_exec_recordLaunch hlaunch
  obtain rfl := Node.file.inj (Option.some.inj (hnode.symm.trans (Writer.of_target_eq_ok htarget)))
  obtain ⟨number', file', layout, hhandle', hdb', -⟩ := hs.readable
  obtain ⟨-, hsame⟩ := Handle.mk.inj (Option.some.inj (hhandle.symm.trans hhandle'))
  obtain rfl := Target.file.inj hsame
  obtain rfl := Except.ok.inj (hdb.symm.trans hdb')
  obtain rfl : t' = t.afterLaunch f.id time := (Tables.of_recordLaunch_eq_ok hrecord).2
  obtain ⟨hmem, hpath⟩ := List.mem_filter.mp (List.mem_of_head? hf)
  exact ⟨f, hmem, eq_of_beq hpath, time,
    hs.of_setDatabase hhandle hdb (by rw [hworld]) (by rw [hworld])
      (ht.isLegible_recordLaunch hs.legible hrecord)⟩

namespace Connection

variable {s s' : Site} {t t' : Tables} {query maxResults : Value} {limit : Int}

/-- Two searches for one text on indexes of the same files: both find nothing, or both list the
first of their matches. -/
theorem exec_search_alike (hs : s.Reads t) (hs' : s'.Reads t') (hfiles : t'.files = t.files)
    (hcounts : ∀ g ∈ t.files, ∃ n, t.countOf g = .int n)
    (hcounts' : ∀ g ∈ t'.files, ∃ n, t'.countOf g = .int n)
    (hlimit : Limit.effective maxResults = .ok limit) :
    ((Task.exec (search query maxResults) s).1 = .ok [] ∧
      (Task.exec (search query maxResults) s').1 = .ok []) ∨
    ((Task.exec (search query maxResults) s).1 =
        .ok ((t.shown query.display limit).take limit.toNat) ∧
      (Task.exec (search query maxResults) s').1 =
        .ok ((t'.shown query.display limit).take limit.toNat)) := by
  obtain ⟨h, hhandle, hreal, htables⟩ := hs.exists_tables
  obtain ⟨h', hhandle', hreal', htables'⟩ := hs'.exists_tables
  by_cases hempty : query.isEmpty = true
  · exact .inl ⟨exec_search_of_isEmpty hs.isConnected hempty maxResults,
      exec_search_of_isEmpty hs'.isConnected hempty maxResults⟩
  have hempty : query.isEmpty = false := Bool.eq_false_iff.mpr hempty
  obtain ⟨hleast, -⟩ := Limit.of_effective_eq_ok hlimit
  rw [exec_search_eq hs.isConnected hhandle hreal hempty hlimit,
    exec_search_eq hs'.isConnected hhandle' hreal' hempty hlimit]
  have hrecords : ∀ u : Tables, (∀ g ∈ u.files, ∃ n, u.countOf g = .int n) →
      (u.search (.ofQuery query.display limit)).mapM Tables.Hit.record =
        .ok ((u.shown query.display limit).take limit.toNat) := by
    intro u hcounts
    have hlimit : 0 ≤ (SearchParameters.ofQuery query.display limit).limit :=
      show 0 ≤ limit by omega
    rw [Tables.search_eq_take hlimit, Tables.shown, ← List.map_take]
    apply Outcome.mapM_eq_ok
    intro hit hhit
    obtain ⟨g, hg, rfl⟩ := List.mem_map.mp
      (Tables.mem_ordered_iff.mp (List.mem_of_mem_take hhit))
    obtain ⟨n, hn⟩ := hcounts g (List.mem_of_mem_filter hg)
    exact Tables.Hit.record_eq_ok_iff.mpr ⟨⟨n, by rw [hn, Cell.reading_int]⟩, rfl⟩
  rcases found_alike htables htables' hfiles (.ofQuery query.display limit) with
    ⟨fault, hfound, hfound'⟩ | ⟨hfound, hfound'⟩
  · rw [hfound, hfound']
    exact .inl ⟨rfl, rfl⟩
  · simp only [hfound, hfound', hs.legible.all_isFetchable_search,
      hs'.legible.all_isFetchable_search, ↓reduceIte]
    exact .inr ⟨hrecords t hcounts, hrecords t' hcounts'⟩

/-- Two searches around a launch that a writer on the same file has recorded. Both list the files
by tiers. If the limit leaves out no match, then the launched file is promoted in the list: it
counts one launch more and goes ahead of others of its tier only, and all else stays as it is and in
its order; if it is not listed, the list stays the same. Whatever the limit is, the file is listed
after the launch if it was before. -/
theorem launch_promotes {writer : Connection} {now : Value} {path : Text} {number file : Nat}
    {later : Site} (hs : s.Reads t) (ht : t.IsIndex) (hids : (t.files.map (·.id)).Nodup)
    (hcounts : ∀ u ∈ t.usage, ∀ n, u.launchCount = .int n → -2 ^ 63 ≤ n ∧ n < 2 ^ 63 - 1)
    (hhandle : s.connection.handle = some ⟨number, .file file⟩)
    (hnode : s.world.databaseNode? writer.path = some (.file file))
    (hlimit : Limit.effective maxResults = .ok limit)
    (hlaunch : Task.exec (recordLaunch (.text path) now)
      ⟨writer, (Task.exec (search query maxResults) s).2.world⟩ = (.ok true, later)) :
    ∃ before after, (Task.exec (search query maxResults) s).1 = .ok before ∧
      (Task.exec (search query maxResults)
        { (Task.exec (search query maxResults) s).2 with world := later.world }).1 = .ok after ∧
      Record.Tiered before ∧ Record.Tiered after ∧
      ((t.matching query.display).length ≤ limit → Record.Promoted path before after) ∧
      (Record.IsListed path before → Record.IsListed path after) := by
  obtain ⟨hs₁, hhandle₁, hnode₁⟩ :=
    (Site.outlasting_reads t ⟨number, .file file⟩ writer.path (.file file)).search query maxResults
      s ⟨hs, hhandle, hnode⟩
  obtain ⟨f, hf, hpath, time, hlater⟩ := hs₁.afterLaunch ht hhandle₁ hnode₁ hlaunch
  obtain ⟨n, hn, hleast, hgreatest⟩ := ht.exists_countOf_bounded hcounts f
  have hpromoted := ht.promoted hids hf hpath hn hleast hgreatest query.display limit time
  have hcounted : ∀ g ∈ t.files, ∃ m, (t.afterLaunch f.id time).countOf g = .int m := by
    intro g hg
    by_cases hid : g.id = f.id
    · obtain rfl : g = f := List.inj_on_of_nodup_map hids hg hf hid
      exact ⟨n + 1, ht.countOf_afterLaunch hn hleast hgreatest⟩
    · rw [Tables.countOf_afterLaunch_of_ne hid]
      exact ht.exists_countOf g
  rcases exec_search_alike hs hlater rfl (fun g _ => ht.exists_countOf g) hcounted hlimit with
    ⟨hbefore, hafter⟩ | ⟨hbefore, hafter⟩
  · exact ⟨[], [], hbefore, hafter, List.Pairwise.nil, List.Pairwise.nil,
      fun _ => .unlisted [] (List.forall_mem_nil _), id⟩
  · refine ⟨_, _, hbefore, hafter, (t.tiered_shown _ _).take, (Tables.tiered_shown _ _ _).take,
      fun hall => ?_, hpromoted.isListed_take _⟩
    have hlength : ∀ u : Tables, u.files = t.files →
        (u.shown query.display limit).length ≤ limit.toNat := by
      intro u hfiles
      rw [Tables.length_shown, Tables.matching, hfiles, ← Tables.matching]
      omega
    rw [List.take_of_length_le (hlength t rfl),
      List.take_of_length_le (hlength (t.afterLaunch f.id time) rfl)]
    exact hpromoted

def freshNotes : Tables := { twoNotes with usage := [] }

/-- A connection that is open on the index of these files, to which its path leads. -/
def freshNotesOpened : Site where
  connection := (Site.opened freshNotes).connection
  world :=
    { (Site.opened freshNotes).world with
      disk :=
        { entries := [(["index"], .file 0)], contents := [(0, .database (.complete freshNotes))] } }

theorem exists_launched {w : World} (hdisk : w.disk = freshNotesOpened.world.disk)
    (henvironment : w.environment = freshNotesOpened.world.environment) (hlock : w.lock = none) :
    ∃ later, Task.exec (recordLaunch (.text "/home/notes.txt") (.int 9))
      ⟨freshNotesOpened.connection, w⟩ = (.ok true, later) := by
  obtain ⟨environment, disk, lock, clock, nextHandle, asked, trace⟩ := w
  obtain rfl : disk = _ := hdisk
  obtain rfl : environment = _ := henvironment
  obtain rfl : lock = none := hlock
  have hlists : World.Lists ⟨freshNotesOpened.world.environment, freshNotesOpened.world.disk, none,
      clock, nextHandle, asked, trace⟩ "/index" "/home/notes.txt" 0 (.complete freshNotes)
      ⟨7, some "notes.txt", some "/home/notes.txt", .null, .null, .null⟩ :=
    ⟨rfl, rfl, rfl, rfl, by decide, by decide⟩
  exact ⟨_, exec_recordLaunch_of_lists rfl (by decide) hlists 9⟩

/-- The file that is behind the other one by its name is launched. -/
theorem launch_promotes_note :
    ∃ before after later,
      (Task.exec (search (.text "notes") .null) freshNotesOpened).1 = .ok before ∧
      Task.exec (recordLaunch (.text "/home/notes.txt") (.int 9)) ⟨freshNotesOpened.connection,
        (Task.exec (search (.text "notes") .null) freshNotesOpened).2.world⟩ = (.ok true, later) ∧
      (Task.exec (search (.text "notes") .null)
        { (Task.exec (search (.text "notes") .null) freshNotesOpened).2 with
          world := later.world }).1 = .ok after ∧
      Record.Promoted "/home/notes.txt" before after := by
  have hs : freshNotesOpened.Reads freshNotes :=
    ⟨rfl, ⟨0, 0, Layout.complete, rfl, rfl, rfl, rfl, rfl⟩, by decide⟩
  have ht : freshNotes.IsIndex :=
    { twoNotes_isIndex with usage_distinct := by decide, counted := by simp [freshNotes] }
  obtain ⟨hdisk, henvironment, hlock⟩ := (Site.outlasting_disk freshNotesOpened).search
    (.text "notes") .null freshNotesOpened ⟨rfl, rfl, rfl⟩
  obtain ⟨later, hlater⟩ := exists_launched hdisk henvironment hlock
  obtain ⟨before, after, hbefore, hafter, -, -, hpromoted, -⟩ :=
    @launch_promotes freshNotesOpened freshNotes (.text "notes") .null 50
      freshNotesOpened.connection (.int 9) "/home/notes.txt" 0 0 later hs ht (by decide)
      (by simp [freshNotes]) rfl rfl rfl hlater
  exact ⟨before, after, later, hbefore, hlater, hafter, hpromoted (by decide)⟩

end Connection

end LaunchIndex
