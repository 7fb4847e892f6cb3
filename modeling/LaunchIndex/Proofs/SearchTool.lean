import LaunchIndex.Proofs.Promotion
import LaunchIndex.Proofs.Shared
import LaunchIndex.Proofs.Tools

/-! The search tool of a panel. It opens the index if it is not open, and then answers as a search
of that index does. The limit is the number that the tool was asked for, or that of the preferences,
or fifty, whichever of them comes first and is positive; the engine never gets a limit that is not
positive or has too many bits. -/

namespace LaunchIndex

open Store

/-! ### The limit -/

namespace Preferences

/-- The number of results for a number that the search tool is asked for: this number if it is
positive, else that of the preferences if they have a positive one, else fifty. -/
inductive Asks (path : Text) (w : World) : Int → Int → Prop
  | argument {n : Int} (hn : 0 < n) : Asks path w n n
  | preference {n m : Int} (hn : n ≤ 0) (hstated : Says (some path) w "max_results" (.int m))
      (hm : 0 < m) : Asks path w n m
  | neither {n : Int} (hn : n ≤ 0)
      (hnone : ∀ m, Says (some path) w "max_results" (.int m) → m ≤ 0) : Asks path w n 50

theorem Says.of_disk_eq {path name : Text} {item : Toml.Item} {w w' : World}
    (h : Says (some path) w name item) (hdisk : w'.disk = w.disk) :
    Says (some path) w' name item := by
  obtain ⟨bytes, entries, origin, inner, hbytes, hrest⟩ := h
  exact ⟨bytes, entries, origin, inner, hdisk ▸ hbytes, hrest⟩

namespace Asks

variable {path : Text} {w w' : World} {n m : Int}

theorem pos (h : Asks path w n m) : 0 < m := by
  cases h with
  | argument hn => exact hn
  | preference _ _ hm => exact hm
  | neither => decide

theorem of_disk_eq (h : Asks path w n m) (hdisk : w'.disk = w.disk) : Asks path w' n m := by
  cases h with
  | argument hn => exact .argument hn
  | preference hn hstated hm => exact .preference hn (hstated.of_disk_eq hdisk) hm
  | neither hn hnone => exact .neither hn fun m hstated => hnone m (hstated.of_disk_eq hdisk.symm)

end Asks

/-- A positive number in the preferences is the number of results, and without one it is fifty. -/
theorem asks_maxResults {path : Text} {w : World} {n m : Int} (hn : n ≤ 0)
    (h : (maxResults (some path) w).1 = .ok m) : Asks path w n m := by
  cases htable : (table (some path) w).1 with
  | error fault => exact absurd h (by simp [maxResults, htable, Except.map])
  | ok preferences =>
    have hm : maxResultsIn preferences = m := by
      simpa [maxResults, htable, Except.map] using h
    have hstated := get?_table_iff htable "max_results"
    rw [← hm]
    unfold maxResultsIn
    split
    · next i hi =>
      split
      · next hpositive => exact .preference hn ((hstated _).mp hi) hpositive
      · next hpositive =>
        refine .neither hn fun m hsaid => ?_
        cases hi.symm.trans ((hstated _).mpr hsaid)
        omega
    · next hnone => exact .neither hn fun m hsaid => absurd ((hstated _).mpr hsaid) (hnone m)

end Preferences

theorem Settings.load_disk (path : Option Text) (w : World) : (load path w).2.disk = w.disk := by
  unfold load
  dsimp only
  split
  · rfl
  · rfl
  · split
    · rfl
    · split <;> rfl

namespace Panel

open Preferences (Asks)

variable {script : Option (List Attempt)} {w w' : World} {p : Panel} {c : Connection}

theorem of_start_eq_ok (h : start script w = (.ok (p, c), w')) :
    ∃ read : World, read.disk = w.disk ∧
      (Preferences.maxResults (some p.settings.preferencesPath) read).1 = .ok p.maxResults := by
  unfold start at h
  split at h
  · exact absurd (Prod.mk.inj h).1 nofun
  · next settings loaded hload =>
    have hdisk : loaded.disk = w.disk := by
      rw [← Settings.load_disk none w, hload]
    dsimp only at h
    split at h
    · exact absurd (Prod.mk.inj h).1 nofun
    · split at h
      · exact absurd (Prod.mk.inj h).1 nofun
      · next maxResults _ hmax =>
        split at h
        · exact absurd (Prod.mk.inj h).1 nofun
        · obtain ⟨rfl, -⟩ := Prod.mk.inj (Except.ok.inj (Prod.mk.inj h).1)
          exact ⟨loaded, hdisk, by rw [hmax]⟩

theorem exists_asks (h : start script w = (.ok (p, c), w')) (n : Int) :
    ∃ m, Asks p.settings.preferencesPath w n m ∧ p.limit (.int n) = .ok (.int m) := by
  obtain ⟨read, hdisk, hmax⟩ := of_start_eq_ok h
  by_cases hn : 0 < n
  · refine ⟨n, .argument hn, ?_⟩
    simp [limit, Value.isPositive, Except.map, hn]
  · have hasks := Preferences.asks_maxResults (Int.not_lt.mp hn) hmax
    refine ⟨p.maxResults, hasks.of_disk_eq hdisk.symm, ?_⟩
    simp [limit, Value.isPositive, Except.map, hn]

end Panel

theorem Limit.effective_of_pos {m : Int} (hm : 0 < m) :
    effective (.int m) = .ok (min m greatest) := by
  simp only [effective, Value.toInteger, bind, Except.bind, if_neg (Int.not_le.mpr hm)]
  rfl

/-- A limit that the engine takes stands for itself. -/
theorem Limit.effective_min {m : Int} (hm : 0 < m) :
    effective (.int (min m greatest)) = effective (.int m) := by
  have hcut : 0 < min m greatest := Int.lt_min.mpr ⟨hm, by decide⟩
  rw [effective_of_pos hm, effective_of_pos hcut, Int.min_assoc, Int.min_self]

/-- A search depends on its limit as the statement gets it. -/
theorem Connection.search_congr {query maxResults maxResults' : Value}
    (h : Limit.effective maxResults = Limit.effective maxResults') :
    search query maxResults = search query maxResults' := by
  unfold search searchParameters
  rw [h]

theorem Store.Tables.exists_countOf (t : Tables)
    (h : ∀ u ∈ t.usage, ∃ n, u.launchCount = .int n) (f : FileRow) : ∃ n, t.countOf f = .int n := by
  unfold countOf
  split
  · next u hu =>
    obtain ⟨n, hn⟩ := h u (List.mem_of_find?_eq_some hu)
    exact ⟨n, by rw [hn]; rfl⟩
  · exact ⟨0, rfl⟩

/-! ### The answer -/

/-- Two searches of one index list the same records, at most as many as the limit. -/
theorem Site.Reads.exec_search_same {s s' : Site} {t : Tables} {query maxResults : Value}
    {limit : Int} (hs : s.Reads t) (hs' : s'.Reads t)
    (hcounts : ∀ u ∈ t.usage, ∃ n, u.launchCount = .int n)
    (hlimit : Limit.effective maxResults = .ok limit) : ∃ records,
      (Task.exec (Connection.search query maxResults) s).1 = .ok records ∧
        (Task.exec (Connection.search query maxResults) s').1 = .ok records ∧
        records.length ≤ limit.toNat := by
  have hcounted : ∀ g ∈ t.files, ∃ n, t.countOf g = .int n := fun g _ => t.exists_countOf hcounts g
  rcases Connection.exec_search_alike hs hs' rfl hcounted hcounted hlimit with
    ⟨hnone, hnone'⟩ | ⟨hshown, hshown'⟩
  · exact ⟨[], hnone, hnone', Nat.zero_le _⟩
  · exact ⟨_, hshown, hshown', List.length_take_le _ _⟩

theorem Site.outlasting_isConnected : Site.Outlasting fun s => s.connection.isConnected = true where
  lock _ _ h := h
  used _ _ _ h _ := h
  log _ _ h := h

theorem Site.Reads.of_exec_establish {s opened : Site} {t : Tables} (h : opened.Reads t)
    (hopen : Task.exec Connection.establish s = (.ok (), opened))
    (hconnected : s.connection.isConnected = true) : s.Reads t := by
  have hconnected' : ∀ lock, (s.withLock lock).connection.isConnected = true := fun _ => hconnected
  rw [Connection.establish, Task.exec_locked] at hopen
  simp only [Connection.establishUnlocked, Task.exec_bind, Task.exec_lift, Routine.run_look,
    hconnected', ↓reduceIte] at hopen
  split at hopen
  · cases (Prod.mk.inj hopen).1
  · obtain rfl := (Prod.mk.inj hopen).2
    exact ⟨h.connected, h.readable, h.legible⟩

namespace Panel

variable {p : Panel} {s opened : Site} {t : Tables}

/-- After it has been made sure that the index is open, it is read like the index that opening it
leads to. -/
theorem exec_ensureOpen (hopen : Task.exec Connection.establish s = (.ok (), opened))
    (h : opened.Reads t) :
    ∃ ready, Task.exec ensureOpen s = (.ok none, ready) ∧ ready.Reads t := by
  cases hconnected : s.connection.isConnected with
  | true =>
    -- nothing is opened, and the site stays the one that it is, whatever opening would leave
    refine ⟨s, ?_, h.of_exec_establish hopen hconnected⟩
    simp only [ensureOpen, Task.exec_bind, Task.exec_lift, Routine.run_look, hconnected,
      ↓reduceIte, Task.exec_pure]
  | false =>
    refine ⟨opened, ?_, h⟩
    have hrun : Connection.establish.run.run s = (.ok (), opened) := hopen
    simp only [ensureOpen, Task.exec_bind, Task.exec_lift, Routine.run_look, hconnected,
      Bool.false_eq_true, ↓reduceIte, hrun, Task.exec_pure]

/-- A listing from an index that is open by then has the records of its query. -/
theorem exec_listing {query : Task (List Record)} {found : Routine Site Unit} {ready : Site}
    {records : List Record} (hopen : Task.exec ensureOpen s = (.ok none, ready))
    (hquery : (Task.exec query ready).1 = .ok records) :
    Task.exec (listing query found) s =
      (.ok ⟨records, none⟩, (found.run (Task.exec query ready).2).2) := by
  have hattempt : (query.run.run ready).1 = .ok records := hquery
  rw [listing, Task.exec_bind, hopen]
  simp only [listingOf, Task.exec_bind, Task.exec_lift, hattempt]
  rfl

/-- On an index that can be opened and read, the search tool finds what a search of it finds for the
number of results that was asked for, cut to 64 bits. The limit of the statement is positive, and
there are no more records than that. The answer has no message but the records and their number, and
the index is open after it, whether or not it was before. -/
theorem searchFiles_searches {script : Option (List Attempt)} {w w' : World} {c : Connection}
    (hstart : start script w = (.ok (p, c), w'))
    (hopen : Task.exec Connection.establish s = (.ok (), opened)) (hreads : opened.Reads t)
    (hcounts : ∀ u ∈ t.usage, ∃ n, u.launchCount = .int n) (query : Text) (n : Int) :
    ∃ m records after, Preferences.Asks p.settings.preferencesPath w n m ∧
      Task.exec (p.searchFiles (.text query) (.int n)) s = (.ok ⟨records, none⟩, after) ∧
      (Task.exec (Connection.search (.text query) (.int (min m Limit.greatest))) opened).1 =
        .ok records ∧
      (p.limit (.int n)).bind (Connection.searchParameters (.text query)) =
        .ok (.ofQuery query (min m Limit.greatest)) ∧
      1 ≤ min m Limit.greatest ∧ min m Limit.greatest ≤ Limit.greatest ∧
      Listing.toValue true ⟨records, none⟩ =
        .dict [("results", .list (records.map Record.toValue)), ("count", .int records.length)] ∧
      (records.length : Int) ≤ min m Limit.greatest ∧
      after.connection.isConnected = true := by
  obtain ⟨m, hasks, hlimit⟩ := exists_asks hstart n
  obtain ⟨ready, hensured, hready⟩ := exec_ensureOpen hopen hreads
  have heffective := Limit.effective_of_pos hasks.pos
  obtain ⟨hleast, hgreatest⟩ := Limit.of_effective_eq_ok heffective
  have hparameters : Connection.searchParameters (.text query) (.int m) =
      .ok (.ofQuery query (min m Limit.greatest)) := by
    rw [Connection.searchParameters, heffective]
    rfl
  -- the tool may search a site that has not been opened again, but reads the same tables there
  obtain ⟨records, hfound, hfound', hlength⟩ :=
    @Site.Reads.exec_search_same _ _ _ (.text query) _ _ hready hreads hcounts heffective
  have hquery : ∀ site, Task.exec (p.search (.text query) (.int n)) site =
      Task.exec (Connection.search (.text query) (.int m)) site :=
    Task.exec_bind_ofOutcome hlimit
  refine ⟨m, records, _, hasks, exec_listing hensured ((hquery ready).symm ▸ hfound), ?_, ?_,
    hleast, hgreatest, rfl, by omega, ?_⟩
  · rw [Connection.search_congr (Limit.effective_min hasks.pos)]
    exact hfound'
  · rw [hlimit]
    exact hparameters
  · rw [hquery]
    exact Site.outlasting_isConnected.search _ _ ready hready.isConnected

/-- A start with an index where the panel looks for it, and no other file. -/
def indexedStart : World where
  environment := bareStart.environment
  disk := Disk.putFile {} ["home", ".local", "share", "novasearch", "index.db"]
    (.database (.complete Connection.freshNotes))

/-- The panel has started and has not opened the index yet. -/
def indexedSite : Site := ⟨bareSite.connection, (start none indexedStart).2⟩

theorem start_indexedStart :
    start none indexedStart = (.ok (barePanel, indexedSite.connection), indexedSite.world) := rfl

def indexedOpened : Site := (Task.exec Connection.establish indexedSite).2

theorem establish_indexedSite :
    Task.exec Connection.establish indexedSite = (.ok (), indexedOpened) := rfl

theorem reads_indexedOpened : indexedOpened.Reads Connection.freshNotes :=
  ⟨rfl, ⟨0, 0, Layout.complete, rfl, rfl, rfl, rfl, rfl⟩, by decide⟩

/-- A search for more results than 64 bits can count is one for the greatest limit. -/
theorem searchFiles_searches_indexedSite :
    indexedSite.connection.isConnected = false ∧ ∃ records after,
      Task.exec (barePanel.searchFiles (.text "notes") (.int (2 ^ 63))) indexedSite =
        (.ok ⟨records, none⟩, after) ∧
      (Task.exec (Connection.search (.text "notes") (.int Limit.greatest)) indexedOpened).1 =
        .ok records ∧
      after.connection.isConnected = true := by
  obtain ⟨m, records, after, hasks, hanswer, hsearch, -, -, -, -, -, hconnected⟩ :=
    searchFiles_searches start_indexedStart establish_indexedSite reads_indexedOpened
      (by simp [Connection.freshNotes]) "notes" (2 ^ 63)
  cases hasks with
  | argument => exact ⟨rfl, records, after, hanswer, hsearch, hconnected⟩
  | preference hn => exact absurd hn (by decide)
  | neither hn => exact absurd hn (by decide)

end Panel

end LaunchIndex
