import Mathlib.Algebra.Order.BigOperators.Group.List
import Mathlib.Algebra.Order.Ring.Nat
import LaunchIndex.Proofs.Ranking

/-! The answer of a search. On a site that reads an index, a search for a text that has a stored
form and a pattern of a size that the engine takes returns the start of the ranking of the text,
up to the limit of the search. The answer depends on the entries of the index alone, neither on
the ids of the rows nor on their order. -/

namespace LaunchIndex

open Store

/-! ### Parameters -/

namespace Text.Utf8

theorem size_eq_sum (t : Text) : size t = (t.map fun c => (octets c.val).length).sum := by
  rw [size, List.sum_eq_foldl, List.foldl_map]

theorem size_le_of_sublist {s t : Text} (h : s.Sublist t) : size s ≤ size t := by
  rw [size_eq_sum, size_eq_sum]
  exact (h.map _).sum_le_sum fun _ _ => Nat.zero_le _

end Text.Utf8

namespace Like

variable {query : Text}

theorem sublist_escape (query : Text) : query.Sublist (escape query) := by
  rw [escape_eq_flatMap]
  induction query with
  | nil => exact List.Sublist.refl _
  | cons c rest ih =>
    have hc : [c].Sublist (escapeOne c) := by
      unfold escapeOne
      split <;> simp
    exact hc.append ih

theorem isEncodable_escape (h : query.isEncodable = true) : (escape query).isEncodable = true := by
  rw [escape_eq_flatMap, Text.isEncodable, List.all_eq_true]
  intro d hd
  obtain ⟨c, hc, hd⟩ := List.mem_flatMap.mp hd
  have hquery := List.all_eq_true.mp h c hc
  unfold escapeOne at hd
  split at hd
  · obtain rfl | rfl : d = mark ∨ d = c := by simpa using hd
    · decide
    · exact hquery
  · obtain rfl := List.mem_singleton.mp hd
    exact hquery

theorem isEncodable_startsWith (h : query.isEncodable = true) :
    (startsWith query).isEncodable = true := by
  have hlast : Text.isEncodable [anyRun] = true := by decide
  simp only [startsWith, Text.isEncodable, List.all_append, Bool.and_eq_true]
  exact ⟨isEncodable_escape h, hlast⟩

theorem isEncodable_holds (h : query.isEncodable = true) : (holds query).isEncodable = true :=
  Text.isEncodable_cons.mpr ⟨by decide, isEncodable_startsWith h⟩

end Like

namespace Store

theorem Cell.checkSize_eq_ok {kind : Text} {size : Nat} (h : size ≤ maxBytes) :
    checkSize kind size = .ok () := by
  have hsmall : ¬2147483647 < size := by
    simp only [maxBytes] at h
    omega
  rw [checkSize, if_neg hsmall, if_neg (Nat.not_lt.mpr h)]

theorem Cell.bind_text (position : Nat) {t : Text} (h : Cell.isStorable t = true) :
    Cell.bind position (.text t) = .ok (.text t) := by
  obtain ⟨hencodable, hsize⟩ := Bool.and_eq_true_iff.mp h
  simp only [Cell.bind, (Text.Utf8.findBadRun_eq_none_iff_isEncodable _ _).mpr hencodable,
    checkSize_eq_ok (of_decide_eq_true hsize)]
  rfl

theorem Cell.bind_int (position : Nat) {n : Int} (h₁ : 0 ≤ n) (h₂ : n ≤ Limit.greatest) :
    Cell.bind position (.int n) = .ok (.int n) := by
  have hfits : Numeral.fits n = true := by
    rw [Numeral.fits, Bool.and_eq_true, decide_eq_true_iff, decide_eq_true_iff]
    constructor
    · exact le_trans (by decide) h₁
    · exact h₂
  simp [Cell.bind, hfits]

end Store

namespace Limit

theorem exists_effective {v : Value} (h : v = .null ∨ ∃ n, v = .int n) :
    ∃ limit, effective v = .ok limit ∧ 1 ≤ limit ∧ limit ≤ greatest := by
  rcases h with rfl | ⟨n, rfl⟩
  · exact ⟨default, rfl, by decide, by decide⟩
  · refine ⟨if n ≤ 0 then default else min n greatest, rfl, ?_⟩
    split
    · decide
    · simp only [greatest]
      omega

end Limit

namespace Connection

variable {s s' : Site} {t t' : Tables} {query : Text} {limit : Int} {maxResults : Value}

/-- The texts of a search are storable if the engine takes its pattern. -/
theorem bind_searchStatement (hencodable : query.isEncodable = true)
    (hsize : Like.isTooComplex (Like.holds query) = false) (h₁ : 0 ≤ limit)
    (h₂ : limit ≤ Limit.greatest) :
    (searchStatement (.ofQuery query limit)).bind = .ok (.ofQuery query limit) := by
  have hpattern : Text.Utf8.size (Like.holds query) ≤ Like.maxBytes :=
    Nat.not_lt.mp (of_decide_eq_false hsize)
  have hstorable {t : Text} (ht : t.isEncodable = true) (hle : t.Sublist (Like.holds query)) :
      Cell.isStorable t = true := by
    have hmax : Like.maxBytes ≤ Cell.maxBytes := by decide
    rw [Cell.isStorable, ht, Bool.true_and, decide_eq_true_iff]
    exact (Text.Utf8.size_le_of_sublist hle).trans (hpattern.trans hmax)
  have hstarts : (Like.startsWith query).Sublist (Like.holds query) := List.sublist_cons_self _ _
  have hexact : query.Sublist (Like.holds query) :=
    ((Like.sublist_escape query).trans (List.sublist_append_left _ _)).trans hstarts
  simp only [searchStatement, SearchParameters.ofQuery,
    Cell.bind_text 1 (hstorable hencodable hexact),
    Cell.bind_text 2 (hstorable (Like.isEncodable_startsWith hencodable) hstarts),
    Cell.bind_text 3 (hstorable (Like.isEncodable_holds hencodable) (List.Sublist.refl _)),
    Cell.bind_int 4 h₁ h₂]
  rfl

theorem fetch_toRow {p : SearchParameters} (hl : t.IsLegible) {h : Tables.Hit}
    (hh : h ∈ t.search p) : Tables.fetch h.toRow = .ok h.toRow := by
  obtain ⟨f, hf, -, rfl⟩ := (Tables.mem_hits_iff p h).mp (Tables.mem_hits_of_search hh)
  refine Tables.fetch_eq_ok ?_
  rw [Tables.Hit.toRow, List.forall_mem_append]
  refine ⟨Tables.isFetchable_fileColumns (hl.files f hf), ?_⟩
  simp [Tables.isFetchable_int, Cell.isFetchable_toValue (hl.countOf f)]

theorem searchRows_eq {file : Nat} {w : World} {layout : Layout}
    (hdisk : w.disk.database file = .ok ⟨layout, t⟩) (hl : t.IsLegible)
    (hfiles : layout.files = some .all)
    (husage : layout.usage = true) (hread : w.mayRead file = .ok ())
    (hencodable : query.isEncodable = true) (hsize : Like.isTooComplex (Like.holds query) = false)
    (h₁ : 0 ≤ limit) (h₂ : limit ≤ Limit.greatest) :
    searchRows (.ofQuery query limit) file w =
      .ok ((t.search (.ofQuery query limit)).map Tables.Hit.toRow) := by
  have hrequire : layout.requireRecords = .ok () := by
    rw [Layout.requireRecords, Layout.requireBoth, hfiles, husage]
    rfl
  have hbind := bind_searchStatement hencodable hsize h₁ h₂
  have hsearch : Database.search ⟨layout, t⟩ (.ofQuery query limit) =
      .ok (t.search (.ofQuery query limit)) := by
    simp [Database.search, SearchParameters.ofQuery, hsize]
  have hrows : (t.search (.ofQuery query limit)).mapM (fun h => Tables.fetch h.toRow) =
      .ok ((t.search (.ofQuery query limit)).map Tables.Hit.toRow) :=
    Outcome.mapM_eq_ok fun h hh => fetch_toRow hl hh
  rw [searchRows, Statement.query_eq hdisk hrequire hbind hread, hsearch]
  exact congrArg Outcome.ofStore hrows

/-- A search on an index returns the first records of the ranking. -/
theorem exec_search (hs : s.Reads t) (ht : t.IsIndex) (hv : t.NamesVisible) (hquery : query ≠ [])
    (hencodable : query.isEncodable = true) (hnull : query.NoNull)
    (hsize : Like.isTooComplex (Like.holds query) = false)
    (hlimit : Limit.effective maxResults = .ok limit) (h₁ : 0 ≤ limit)
    (h₂ : limit ≤ Limit.greatest) :
    (Task.exec (search (.text query) maxResults) s).1 =
      .ok (((t.ranking query).take limit.toNat).map (Entry.record Like.folded query)) := by
  obtain ⟨number, file, layout, hhandle, hdisk, hfiles, husage, hread⟩ := hs.readable
  have hconnected := hs.isConnected
  have hempty : (Value.text query).isEmpty = false := by simp [Value.isEmpty, hquery]
  have hparameters : searchParameters (.text query) maxResults = .ok (.ofQuery query limit) := by
    rw [searchParameters, hlimit]
    rfl
  have hrows : (Task.exec (withHandle fun h =>
        onHandle h (.search (.ofQuery query limit)) (searchRows (.ofQuery query limit))
          StandIn.rows)
      s).1 = .ok ((t.search (.ofQuery query limit)).map Tables.Hit.toRow) := by
    rw [exec_withHandle hconnected hhandle, exec_onHandle_file]
    exact searchRows_eq hdisk hs.legible hfiles husage hread hencodable hsize h₁ h₂
  rw [exec_search_of_parameters hconnected hempty hparameters, hrows]
  exact ht.mapM_ofRow_search hs.legible hv hnull h₁

/-- A search for a text on any index returns the start of the one list of matching entries that
goes up in rank. If all code points are characters, a name matches up to the case of ASCII letters.
An index with the same entries gives the same answer. -/
theorem search_ranks (hs : s.Reads t) (ht : t.IsIndex) (hv : t.NamesVisible)
    (hquery : query ≠ []) (hencodable : query.isEncodable = true) (hnull : query.NoNull)
    (hsize : Like.isTooComplex (Like.holds query) = false)
    (hmax : maxResults = .null ∨ ∃ n, maxResults = .int n) :
    ∃ limit records, Limit.effective maxResults = .ok limit ∧ 1 ≤ limit ∧
      limit ≤ Limit.greatest ∧
      (Task.exec (search (.text query) maxResults) s).1 = .ok records ∧
      t.Ranks Like.folded query limit.toNat records ∧
      ((∀ name ∈ query :: t.files.filterMap (·.filename), ∀ c ∈ name,
          c.val ≠ 0xFFFE ∧ c.val ≠ 0xFFFF) →
        t.Ranks Text.asciiLower query limit.toNat records) ∧
      ∀ s' t', s'.Reads t' → t'.IsIndex → t'.NamesVisible → (∀ e, t.Lists e ↔ t'.Lists e) →
        (Task.exec (search (.text query) maxResults) s').1 = .ok records := by
  obtain ⟨limit, hlimit, h₁, h₂⟩ := Limit.exists_effective hmax
  have h₀ : 0 ≤ limit := by omega
  refine ⟨limit, _, hlimit, h₁, h₂,
    exec_search hs ht hv hquery hencodable hnull hsize hlimit h₀ h₂,
    ht.ranks hs.legible hv hnull _, ?_, ?_⟩
  · intro hlegible
    have hfolded := Like.folded_of_legible (hlegible _ List.mem_cons_self)
    refine (ht.ranks hs.legible hv hnull _).congr hfolded ?_
    intro f hf name hname
    exact Like.folded_of_legible
      (hlegible name (List.mem_cons_of_mem _ (List.mem_filterMap.mpr ⟨f, hf, hname⟩)))
  intro s' t' hs' ht' hv' hsame
  rw [exec_search hs' ht' hv' hquery hencodable hnull hsize hlimit h₀ h₂,
    (ht.ranks hs.legible hv hnull limit.toNat).unique
      (ht'.ranks hs'.legible hv' hnull limit.toNat) hsame]

def twoNotes : Tables where
  files :=
    [⟨7, some "notes.txt", some "/home/notes.txt", .null, .null, .null⟩,
      ⟨3, some "Notes", some "/home/Notes", .int 12, .int 1700000000, .text "txt"⟩]
  usage := [⟨3, .int 2, .null⟩]

theorem twoNotes_isIndex : twoNotes.IsIndex where
  named := by simp [twoNotes]
  placed := by simp [twoNotes]
  paths_distinct := by decide
  usage_distinct := by decide
  counted := by simp [twoNotes]

theorem search_ranks_twoNotes :
    ∃ limit records, Limit.effective (.int 1) = .ok limit ∧ 1 ≤ limit ∧
      limit ≤ Limit.greatest ∧
      (Task.exec (search (.text "notes") (.int 1)) (Site.opened twoNotes)).1 = .ok records ∧
      twoNotes.Ranks Like.folded "notes" limit.toNat records ∧
      ((∀ name ∈ (Text.ofString "notes") :: twoNotes.files.filterMap (·.filename), ∀ c ∈ name,
          c.val ≠ 0xFFFE ∧ c.val ≠ 0xFFFF) →
        twoNotes.Ranks Text.asciiLower "notes" limit.toNat records) ∧
      ∀ s' t', s'.Reads t' → t'.IsIndex → t'.NamesVisible →
        (∀ e, twoNotes.Lists e ↔ t'.Lists e) →
        (Task.exec (search (.text "notes") (.int 1)) s').1 = .ok records :=
  search_ranks (Site.opened_reads (by decide)) twoNotes_isIndex (by decide) (by decide)
    (by decide) (by decide) (by decide) (.inr ⟨1, rfl⟩)

def replaced : Tables where
  files := [⟨1, some [CodePoint.ofNat 0xFFFD], some "/home/a", .null, .null, .null⟩]

theorem replaced_isIndex : replaced.IsIndex where
  named := by simp [replaced]
  placed := by simp [replaced]
  paths_distinct := by decide
  usage_distinct := by decide
  counted := by simp [replaced]

/-- The case of letters is not all that a search passes over: the replacement character is found
by a query for a code point that is no character. -/
theorem not_search_ranks_asciiLower :
    ¬∀ (s : Site) (t : Tables) (query : Text) (maxResults : Value), s.Reads t → t.IsIndex →
      t.NamesVisible → query ≠ [] → query.isEncodable = true → query.NoNull →
      Like.isTooComplex (Like.holds query) = false →
      (maxResults = .null ∨ ∃ n, maxResults = .int n) →
      ∃ limit records, Limit.effective maxResults = .ok limit ∧
        (Task.exec (search (.text query) maxResults) s).1 = .ok records ∧
        t.Ranks Text.asciiLower query limit.toNat records := by
  intro hall
  have hlegible : replaced.IsLegible := by decide
  have hvisible : replaced.NamesVisible := by decide
  have hquery : Text.NoNull [CodePoint.ofNat 0xFFFF] := by decide
  obtain ⟨limit, records, hlimit, hexec, ranked, -, hranked, -, hrecords⟩ :=
    hall (Site.opened replaced) replaced [CodePoint.ofNat 0xFFFF] .null
      (Site.opened_reads hlegible) replaced_isIndex hvisible (by decide) (by decide) hquery
      (by decide) (.inl rfl)
  obtain rfl : Limit.default = limit := Except.ok.inj hlimit
  have hnone : ranked = [] := by
    refine List.eq_nil_iff_forall_not_mem.mpr fun e he => ?_
    obtain ⟨⟨f, hf, hname, -⟩, hinfix⟩ := (hranked e).mp he
    obtain rfl := List.mem_singleton.mp hf
    rw [← Option.some.inj hname] at hinfix
    exact absurd hinfix (by decide)
  have hfound : ⟨[CodePoint.ofNat 0xFFFD], "/home/a", .null, .null, .null, 0⟩ ∈
      replaced.ranking [CodePoint.ofNat 0xFFFF] := by
    refine (replaced_isIndex.mem_ranking_iff hlegible hvisible hquery _).mpr
      ⟨⟨_, List.mem_singleton_self _, rfl, rfl, rfl, rfl, rfl, .inr ⟨by simp [replaced], rfl⟩⟩,
        by decide⟩
  rw [exec_search (Site.opened_reads hlegible) replaced_isIndex hvisible (by decide) (by decide)
    hquery (by decide) hlimit (by decide) (by decide), hrecords, hnone] at hexec
  have hempty := List.map_eq_nil_iff.mp (Except.ok.inj hexec)
  rcases List.take_eq_nil_iff.mp hempty with h | h
  · exact absurd h (by decide)
  · exact List.not_mem_nil (h ▸ hfound)

end Connection

end LaunchIndex
