import Mathlib.Data.List.Lex
import Mathlib.Data.List.Sort
import Mathlib.Data.Prod.Lex
import LaunchIndex.Proofs.ByteOrder
import LaunchIndex.Proofs.Outcomes
import LaunchIndex.Proofs.Pattern
import LaunchIndex.Proofs.Reading

/-! The ranking of a search. What a search can show of a file is an entry, which says nothing of
row ids. For a query the entries have ranks, compared key by key: the tier, more launches first,
the name without regard to the case of ASCII letters, the path. The answer of a search is the
start of the one list of all matching entries that goes up in rank. -/

namespace LaunchIndex

namespace Store

/-! ### Entries -/

/-- A file as a search shows it. -/
structure Entry where
  filename : Text
  path : Text
  fileType : Cell
  size : Cell
  modifiedTime : Cell
  launches : Int

namespace Entry

/-- Zero for the query itself, one for a name that starts with it, two for the rest; `fold` tells
which texts count as the same at the start of a name. -/
def tier (fold : Text → Text) (query : Text) (e : Entry) : Int :=
  if e.filename = query then 0 else if fold query <+: fold e.filename then 1 else 2

/-- Where an entry stands in the answer to a query. -/
def rank (fold : Text → Text) (query : Text) (e : Entry) : Int ×ₗ Int ×ₗ Text ×ₗ Text :=
  toLex (e.tier fold query, toLex (-e.launches, toLex (Text.asciiLower e.filename, e.path)))

/-- Whether an entry may come before another in the answer of a search. -/
def precedes (query : Text) (a b : Entry) : Bool :=
  decide (a.rank Like.folded query ≤ b.rank Like.folded query)

theorem precedes_trans (query : Text) (a b c : Entry) (hab : a.precedes query b = true)
    (hbc : b.precedes query c = true) : a.precedes query c = true :=
  decide_eq_true (le_trans (of_decide_eq_true hab) (of_decide_eq_true hbc))

theorem precedes_total (query : Text) (a b : Entry) :
    (a.precedes query b || b.precedes query a) = true := by
  simpa [precedes] using le_total (a.rank Like.folded query) (b.rank Like.folded query)

def record (fold : Text → Text) (query : Text) (e : Entry) : Record where
  filename := .text e.filename
  path := .text e.path
  fileType := e.fileType.toValue
  size := e.size.toValue
  modifiedTime := e.modifiedTime.toValue
  launchCount := e.launches
  tier := some (e.tier fold query)

end Entry

/-- The tables have a file that shows as the entry. -/
def Tables.Lists (t : Tables) (e : Entry) : Prop :=
  ∃ f ∈ t.files, f.filename = some e.filename ∧ f.path = some e.path ∧ f.fileType = e.fileType ∧
    f.size = e.size ∧ f.modifiedTime = e.modifiedTime ∧ t.Launches f.id e.launches

/-- The records are the first `limit` of the list of all matching entries that goes up in rank.
A name matches if its fold holds the fold of the query. -/
def Tables.Ranks (fold : Text → Text) (t : Tables) (query : Text) (limit : Nat)
    (records : List Record) : Prop :=
  ∃ ranked : List Entry,
    ranked.Pairwise (fun a b => a.rank fold query < b.rank fold query) ∧
    (∀ e, e ∈ ranked ↔ t.Lists e ∧ fold query <:+: fold e.filename) ∧
    (ranked.map (·.path)).Nodup ∧
    records = (ranked.take limit).map (Entry.record fold query)

/-- There is at most one such list, and it depends on the entries alone. -/
theorem Tables.Ranks.unique {fold : Text → Text} {t u : Tables} {query : Text} {limit : Nat}
    {xs ys : List Record} (hx : t.Ranks fold query limit xs) (hy : u.Ranks fold query limit ys)
    (same : ∀ e, t.Lists e ↔ u.Lists e) : xs = ys := by
  obtain ⟨l, hl, hlm, -, rfl⟩ := hx
  obtain ⟨m, hm, hmm, -, rfl⟩ := hy
  have hirrefl : Std.Irrefl fun a b : Entry => a.rank fold query < b.rank fold query :=
    ⟨fun _ => lt_irrefl _⟩
  have hanti : Std.Antisymm fun a b : Entry => a.rank fold query < b.rank fold query :=
    ⟨fun _ _ h h' => absurd h (lt_asymm h')⟩
  have : l = m := hl.eq_of_mem_iff hm fun e => by rw [hlm, hmm, same]
  rw [this]

/-- A list goes by another fold if that agrees on the query and on every name. -/
theorem Tables.Ranks.congr {fold fold' : Text → Text} {t : Tables} {query : Text} {limit : Nat}
    {records : List Record} (h : t.Ranks fold query limit records)
    (hquery : fold query = fold' query)
    (hnames : ∀ f ∈ t.files, ∀ name ∈ f.filename, fold name = fold' name) :
    t.Ranks fold' query limit records := by
  obtain ⟨ranked, hsorted, hranked, hpaths, rfl⟩ := h
  have hname : ∀ e, t.Lists e → fold e.filename = fold' e.filename := by
    rintro e ⟨f, hf, hname, -⟩
    exact hnames f hf _ hname
  have htier : ∀ e ∈ ranked, e.tier fold query = e.tier fold' query := by
    intro e he
    rw [Entry.tier, Entry.tier, hquery, hname e ((hranked e).mp he).1]
  refine ⟨ranked, hsorted.imp_of_mem fun {a b} ha hb hab => ?_, fun e => ?_, hpaths, ?_⟩
  · rwa [Entry.rank, Entry.rank, htier a ha, htier b hb] at hab
  · rw [hranked, ← hquery]
    exact and_congr_right fun he => by rw [hname e he]
  · refine List.map_congr_left fun e he => ?_
    rw [Entry.record, Entry.record, htier e (List.mem_of_mem_take he)]

/-! ### The order of hits -/

end Store

theorem Text.NoNull.asciiLower {t : Text} (h : t.NoNull) : (Text.asciiLower t).NoNull := by
  intro c hc
  obtain ⟨d, hd, rfl⟩ := List.mem_map.mp hc
  have := h d hd
  unfold CodePoint.asciiLower
  split
  · simp
  · exact this

theorem Text.isEncodable_asciiLower {t : Text} (h : t.isEncodable = true) :
    (Text.asciiLower t).isEncodable = true := by
  rw [isEncodable, List.all_eq_true] at h ⊢
  intro c hc
  obtain ⟨d, hd, rfl⟩ := List.mem_map.mp hc
  unfold CodePoint.asciiLower
  split
  · next hcapital =>
    simp only [CodePoint.isSurrogate, Bool.not_and, Bool.or_eq_true, Bool.not_eq_true',
      decide_eq_false_iff_not]
    omega
  · exact h d hd

namespace Store

def Tables.NamesVisible (t : Tables) : Prop := ∀ f ∈ t.files, ∀ name ∈ f.filename, name.NoNull

instance (t : Tables) : Decidable t.NamesVisible :=
  inferInstanceAs (Decidable (∀ f ∈ t.files, ∀ name ∈ f.filename, name.NoNull))

/-- Visible names are ordered by their small letters. -/
theorem Tables.compareNames_eq {s t : Text} (hs : s.NoNull) (ht : t.NoNull) :
    compareNames s t = Cell.compareText (Text.asciiLower s) (Text.asciiLower t) :=
  compareNameBytes_eq (Text.Utf8.zero_notMem_rawBytes hs.asciiLower)
    (Text.Utf8.zero_notMem_rawBytes ht.asciiLower)

/-- A hit shows as an entry. -/
structure Tables.Hit.Shows (query : Text) (h : Tables.Hit) (e : Entry) : Prop where
  legible : h.file.isLegible = true
  visible : e.filename.NoNull
  filename : h.file.filename = some e.filename
  path : h.file.path = some e.path
  fileType : h.file.fileType = e.fileType
  size : h.file.size = e.size
  modifiedTime : h.file.modifiedTime = e.modifiedTime
  count : h.count = .int e.launches
  tier : h.tier = e.tier Like.folded query

namespace Tables.Hit.Shows

variable {query : Text} {a b h : Hit} {x y e : Entry}

/-- Hits stand in the order of the ranks of their entries. -/
theorem order_isLE (ha : a.Shows query x) (hb : b.Shows query y) :
    (a.order b).isLE = x.precedes query y := by
  have hlaunches : y.launches = x.launches ↔ x.launches = y.launches := eq_comm
  have hnames (h : Hit) (e : Entry) (hs : h.Shows query e) :
      (Text.asciiLower e.filename).isEncodable = true ∧ e.path.isEncodable = true :=
    ⟨Text.isEncodable_asciiLower
      (Cell.isEncodable_of_isStorable (FileRow.isStorable_filename hs.legible hs.filename)),
      Cell.isEncodable_of_isStorable (FileRow.isStorable_path hs.legible hs.path)⟩
  obtain ⟨hx, hx'⟩ := hnames a x ha
  obtain ⟨hy, hy'⟩ := hnames b y hb
  rw [Entry.precedes, Bool.eq_iff_iff, decide_eq_true_iff]
  simp only [order, ha.tier, hb.tier, ha.count, hb.count, ha.filename, hb.filename, ha.path,
    hb.path, Cell.order, missingFirst, compareNames_eq ha.visible hb.visible,
    Cell.compareText_eq_lt hx hy, Cell.compareText_eq_eq hx hy, Cell.compareText_isLE hx' hy',
    Entry.rank, Prod.Lex.toLex_le_toLex, Ordering.isLE_then_iff_or, compare_lt_iff_lt,
    compare_eq_iff_eq, Int.neg_lt_neg_iff, Int.neg_inj, hlaunches]

theorem ofRow_toRow (hs : h.Shows query e) :
    Record.ofRow h.toRow = .ok (e.record Like.folded query) := by
  obtain ⟨f, count, tier⟩ := h
  obtain ⟨id, filename, path, size, modifiedTime, fileType⟩ := f
  obtain ⟨-, -, rfl, rfl, rfl, rfl, rfl, rfl, rfl⟩ := hs
  have hcount : Record.readCount (Tables.Hit.toRow ⟨⟨id, some e.filename, some e.path, e.size,
      e.modifiedTime, e.fileType⟩, .int e.launches, e.tier Like.folded query⟩) =
      .ok e.launches := by
    change (if e.launches == 0 then _ else _) = _
    by_cases hzero : e.launches = 0
    · simp [hzero]
    · simp [hzero, Value.toInteger, Cell.toValue]
  rw [Record.ofRow, hcount]
  rfl

end Tables.Hit.Shows

/-! ### The list of hits -/

/-- What a hit shows, if its file has a name and a path and its count is an integer. -/
def Tables.Hit.entry (h : Tables.Hit) : Entry where
  filename := h.file.filename.getD []
  path := h.file.path.getD []
  fileType := h.file.fileType
  size := h.file.size
  modifiedTime := h.file.modifiedTime
  launches :=
    match h.count with
    | .int n => n
    | _ => 0

theorem FileRow.read_filename {f : FileRow} (h : f.isLegible = true) {name : Text}
    (hname : f.filename = some name) : Like.read name = name :=
  if_pos (Cell.isEncodable_of_isStorable (isStorable_filename h hname))

namespace Tables

variable {t : Tables} {query : Text} {limit : Int}

theorem mem_hits_iff (p : SearchParameters) (h : Hit) :
    h ∈ t.hits p ↔ ∃ f ∈ t.files,
      f.filename.any (fun name => Like.accepts p.holds (Like.read name)) = true ∧
        h = ⟨f, t.countOf f, tier p f⟩ := by
  simp only [hits, List.mem_map, List.mem_filter, and_assoc, eq_comm]

theorem tier_ofQuery {f : FileRow} {e : Entry} (hname : f.filename = some e.filename)
    (hlegible : f.isLegible = true) (hquery : query.NoNull) (hnull : e.filename.NoNull) :
    tier (.ofQuery query limit) f = e.tier Like.folded query := by
  simp only [tier, SearchParameters.ofQuery, hname, Option.some.injEq, Option.any_some,
    FileRow.read_filename hlegible hname, Like.accepts_startsWith hquery hnull, Entry.tier]

/-- All entries that match, in the order of their ranks. -/
def ranking (t : Tables) (query : Text) : List Entry :=
  ((t.hits (.ofQuery query 0)).map Hit.entry).mergeSort (Entry.precedes query)

namespace IsIndex

variable (ht : t.IsIndex) (hl : t.IsLegible) (hv : t.NamesVisible) (hquery : query.NoNull)
include ht hl hv hquery

theorem shows {h : Hit} (hh : h ∈ t.hits (.ofQuery query limit)) : h.Shows query h.entry := by
  obtain ⟨f, hf, -, rfl⟩ := (mem_hits_iff _ _).mp hh
  obtain ⟨name, hname⟩ := ht.named f hf
  obtain ⟨path, hpath⟩ := ht.placed f hf
  obtain ⟨n, hn⟩ := ht.exists_countOf f
  have hnull := hv f hf name hname
  have hentry : (⟨f, t.countOf f, tier (.ofQuery query limit) f⟩ : Hit).entry =
      ⟨name, path, f.fileType, f.size, f.modifiedTime, n⟩ := by
    simp [Hit.entry, hname, hpath, hn]
  rw [hentry]
  exact ⟨hl.files f hf, hnull, hname, hpath, rfl, rfl, rfl, hn,
    tier_ofQuery hname (hl.files f hf) hquery hnull⟩

theorem mem_entries_iff (e : Entry) : e ∈ (t.hits (.ofQuery query limit)).map Hit.entry ↔
    t.Lists e ∧ Like.folded query <:+: Like.folded e.filename := by
  rw [List.mem_map]
  constructor
  · rintro ⟨h, hh, rfl⟩
    have hs := ht.shows hl hv hquery hh
    obtain ⟨f, hf, haccepts, rfl⟩ := (mem_hits_iff _ _).mp hh
    refine ⟨⟨f, hf, hs.filename, hs.path, hs.fileType, hs.size, hs.modifiedTime,
      (ht.countOf_eq_iff f _).mp hs.count⟩, ?_⟩
    rw [hs.filename, Option.any_some, FileRow.read_filename (hl.files f hf) hs.filename]
      at haccepts
    exact (Like.accepts_holds hquery hs.visible).mp haccepts
  · rintro ⟨⟨f, hf, hname, hpath, htype, hsize, htime, hcount⟩, hinfix⟩
    have hn := (ht.countOf_eq_iff f _).mpr hcount
    refine ⟨⟨f, t.countOf f, tier (.ofQuery query limit) f⟩, (mem_hits_iff _ _).mpr
      ⟨f, hf, ?_, rfl⟩, ?_⟩
    · rw [hname, Option.any_some, FileRow.read_filename (hl.files f hf) hname]
      exact (Like.accepts_holds hquery (hv f hf _ hname)).mpr hinfix
    · simp [Hit.entry, hname, hpath, htype, hsize, htime, hn]

theorem entries_paths_nodup :
    (((t.hits (.ofQuery query limit)).map Hit.entry).map (·.path)).Nodup := by
  apply List.Nodup.of_map some
  have hpath : ∀ h ∈ t.hits (.ofQuery query limit), some h.entry.path = h.file.path :=
    fun h hh => (ht.shows hl hv hquery hh).path.symm
  have hpaths : (((t.hits (.ofQuery query limit)).map Hit.entry).map (·.path)).map some =
      (t.hits (.ofQuery query limit)).map fun h => h.file.path := by
    rw [List.map_map, List.map_map]
    exact List.map_congr_left hpath
  rw [hpaths, hits, List.map_map]
  exact ht.paths_distinct.sublist (List.filter_sublist.map _)

/-- The order of the hits is that of their entries. -/
theorem map_entry_mergeSort (limit : Int) :
    ((t.hits (.ofQuery query limit)).mergeSort fun a b => (a.order b).isLE).map Hit.entry =
      t.ranking query := by
  have horder : ∀ a ∈ t.hits (.ofQuery query limit), ∀ b ∈ t.hits (.ofQuery query limit),
      (a.order b).isLE = a.entry.precedes query b.entry := fun a ha b hb =>
    (ht.shows hl hv hquery ha).order_isLE (ht.shows hl hv hquery hb)
  exact List.map_mergeSort horder

theorem ranking_paths_nodup : ((t.ranking query).map (·.path)).Nodup :=
  ((List.mergeSort_perm _ _).map _).nodup_iff.mpr (ht.entries_paths_nodup hl hv hquery)

/-- The ranking goes up strictly, because entries of one rank have one path. -/
theorem pairwise_ranking :
    (t.ranking query).Pairwise fun a b => a.rank Like.folded query < b.rank Like.folded query := by
  have hle : (t.ranking query).Pairwise fun a b => a.precedes query b = true :=
    List.pairwise_mergeSort (Entry.precedes_trans query) (Entry.precedes_total query) _
  have hpaths : (t.ranking query).Pairwise fun a b => a.path ≠ b.path :=
    List.pairwise_map.mp (ht.ranking_paths_nodup hl hv hquery)
  refine hle.imp₂ (fun a b hab hne => ?_) hpaths
  refine lt_of_le_of_ne (decide_eq_true_iff.mp hab) fun heq => hne ?_
  simp only [Entry.rank, toLex_inj, Prod.mk.injEq] at heq
  exact heq.2.2.2

theorem mapM_ofRow_search (hlimit : 0 ≤ limit) :
    ((t.search (.ofQuery query limit)).map Hit.toRow).mapM Record.ofRow =
      .ok (((t.ranking query).take limit.toNat).map (Entry.record Like.folded query)) := by
  have hsearch : t.search (.ofQuery query limit) =
      ((t.hits (.ofQuery query limit)).mergeSort fun a b => (a.order b).isLE).take limit.toNat := by
    simp [search, limited, SearchParameters.ofQuery, Int.not_lt.mpr hlimit]
  have hread : ∀ h ∈ t.search (.ofQuery query limit),
      Record.ofRow h.toRow = .ok (h.entry.record Like.folded query) := by
    intro h hh
    rw [hsearch] at hh
    exact (ht.shows hl hv hquery (List.mem_mergeSort.mp (List.mem_of_mem_take hh))).ofRow_toRow
  rw [← ht.map_entry_mergeSort hl hv hquery limit, ← List.map_take, ← hsearch, List.mapM_map,
    List.map_map]
  exact Outcome.mapM_eq_ok hread

theorem mem_ranking_iff (e : Entry) : e ∈ t.ranking query ↔
    t.Lists e ∧ Like.folded query <:+: Like.folded e.filename := by
  rw [ranking, List.mem_mergeSort]
  exact ht.mem_entries_iff hl hv hquery e

theorem ranks (limit : Nat) :
    t.Ranks Like.folded query limit
      (((t.ranking query).take limit).map (Entry.record Like.folded query)) :=
  ⟨t.ranking query, ht.pairwise_ranking hl hv hquery, ht.mem_ranking_iff hl hv hquery,
    ht.ranking_paths_nodup hl hv hquery, rfl⟩

end IsIndex

end Tables

end Store

end LaunchIndex
