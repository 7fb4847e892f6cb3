import LaunchIndex.Proofs.Failures

/-! What a search answers on any connection that is open, whatever its file holds. The statement
finds hits or fails; if it fails, or a hit cannot be handed out, the answer is empty, and if not, it
is one record for each hit, in order. Only a hit whose count is no integer stands in the way, and
its failure is passed on. -/

namespace LaunchIndex

open Store

theorem Statement.query_bind {π α β : Type} (st : Statement π)
    (run : Database → π → Except StoreError α) (g : α → Except StoreError β) (file : Nat)
    (w : World) :
    st.query (fun db p => run db p >>= g) file w =
      st.query run file w >>= fun a => Outcome.ofStore (g a) := by
  rw [query, query]
  rcases st.prepare (w.disk.database file) with fault | ⟨db, p⟩
  · rfl
  · cases w.mayRead file with
    | error e => rfl
    | ok _ =>
      change Outcome.ofStore (run db p >>= g) = Outcome.ofStore (run db p) >>= _
      cases run db p <;> rfl

/-! ### Records of hits -/

namespace Store

/-- The launches that a count is read as: none, if it is empty. -/
def Cell.reading (c : Cell) : Outcome Int :=
  if c.toValue.isEmpty then .ok 0 else c.toValue.toInteger

theorem Cell.reading_int (n : Int) : (int n).reading = .ok n := by
  by_cases hn : n = 0 <;> simp [reading, toValue, Value.isEmpty, Value.toInteger, hn]

/-- Nothing, integers and finite numbers, which all read as counts. -/
def Cell.isCountable : Cell → Bool
  | null => true
  | int _ => true
  | real x => x.isFinite
  | text _ => false
  | blob _ => false

theorem Cell.exists_reading {c : Cell} (hc : c.isCountable = true) : ∃ n, c.reading = .ok n := by
  cases c with
  | null => exact ⟨0, rfl⟩
  | int n => exact ⟨n, reading_int n⟩
  | real x =>
    have hfinite : x.isFinite = true := hc
    simp only [reading, toValue, Value.toInteger, Binary64.truncate?, hfinite, ↓reduceIte]
    split
    · exact ⟨0, rfl⟩
    · exact ⟨_, rfl⟩
  | text t => cases hc
  | blob b => cases hc

/-- A count that cannot be read is a text, a blob or a number that is not finite. -/
theorem Cell.isCountable_of_reading {c : Cell} {fault : Fault} (hfault : c.reading = .error fault) :
    c.isCountable = false := by
  by_contra hc
  obtain ⟨n, hn⟩ := exists_reading (Bool.eq_false_iff.not_left.mp hc)
  exact absurd (hn.symm.trans hfault) nofun

def Tables.Hit.record (h : Tables.Hit) : Outcome Record :=
  h.count.reading.map fun n => Record.ofFile h.file n (some h.tier)

theorem Tables.Hit.ofRow_toRow (h : Tables.Hit) : Record.ofRow h.toRow = h.record := by
  have hcount : Record.readCount h.toRow = h.count.reading := rfl
  rw [Record.ofRow, record, hcount]
  cases h.count.reading <;> rfl

/-- A hit as it shows once its count has been read. -/
def Tables.Hit.shown (h : Tables.Hit) : Record :=
  Record.ofFile h.file (h.count.reading.toOption.getD 0) (some h.tier)

/-- Whether every column of a hit can be handed out. -/
def Tables.Hit.isFetchable (h : Tables.Hit) : Bool :=
  h.toRow.all fun column => Tables.isFetchable column.2

theorem Tables.Hit.fetch_toRow {h : Tables.Hit} (hfetch : h.isFetchable = true) :
    Tables.fetch h.toRow = .ok h.toRow :=
  Tables.fetch_eq_ok (List.all_eq_true.mp hfetch)

theorem Tables.Hit.fetch_toRow_error {h : Tables.Hit} (hfetch : h.isFetchable = false) :
    ∃ e, Tables.fetch h.toRow = .error e := by
  obtain ⟨column, hmem, hcolumn⟩ := List.all_eq_false.mp hfetch
  unfold Tables.fetch
  split
  · exact ⟨_, rfl⟩
  · next hnone => exact absurd hcolumn (by simpa using List.find?_eq_none.mp hnone column hmem)

/-- Legible tables have no other hits. -/
theorem Tables.IsLegible.all_isFetchable_search {t : Tables} (hl : t.IsLegible)
    (p : SearchParameters) : (t.search p).all Hit.isFetchable = true := by
  refine List.all_eq_true.mpr fun h hh => ?_
  by_contra hfetch
  obtain ⟨e, he⟩ := Hit.fetch_toRow_error (Bool.eq_false_iff.mpr hfetch)
  exact absurd (he.symm.trans (Connection.fetch_toRow hl hh)) nofun

theorem Tables.mapM_fetch (hits : List Tables.Hit) :
    if hits.all Hit.isFetchable then
      hits.mapM (fun h => fetch h.toRow) = .ok (hits.map Hit.toRow)
    else ∃ e, hits.mapM (fun h => fetch h.toRow) = .error e := by
  induction hits with
  | nil => rfl
  | cons h rest ih =>
    rw [List.mapM_cons, List.all_cons]
    cases hfetch : h.isFetchable with
    | false =>
      obtain ⟨e, he⟩ := Hit.fetch_toRow_error hfetch
      rw [he]
      exact ⟨e, rfl⟩
    | true =>
      rw [Hit.fetch_toRow hfetch, Bool.true_and]
      split at ih
      · next hrest =>
        rw [if_pos hrest, ih]
        rfl
      · next hrest =>
        obtain ⟨e, he⟩ := ih
        rw [if_neg hrest, he]
        exact ⟨e, rfl⟩

theorem Tables.Hit.record_eq_ok_iff {h : Tables.Hit} {r : Record} :
    h.record = .ok r ↔ (∃ n, h.count.reading = .ok n) ∧ r = h.shown := by
  rw [record, shown]
  cases h.count.reading with
  | ok n => simp [Except.map, Except.toOption, eq_comm]
  | error fault => simp [Except.map]

theorem Tables.Hit.record_eq_error_iff {h : Tables.Hit} {fault : Fault} :
    h.record = .error fault ↔ h.count.reading = .error fault := by
  rw [record]
  cases h.count.reading <;> simp [Except.map]

end Store

/-- Hits that have been read show as they are. -/
theorem Outcome.ensures_records (hits : List Tables.Hit) :
    (hits.mapM Tables.Hit.record).Ensures
      (fun records => (∀ hit ∈ hits, ∃ n, hit.count.reading = .ok n) ∧
        records = hits.map Tables.Hit.shown)
      fun fault => ∃ hit ∈ hits, hit.count.reading = .error fault := by
  induction hits with
  | nil => exact ⟨List.forall_mem_nil _, rfl⟩
  | cons hit rest ih =>
    rw [List.mapM_cons]
    cases hcount : hit.count.reading with
    | error fault =>
      rw [Tables.Hit.record_eq_error_iff.mpr hcount]
      exact ⟨hit, List.mem_cons_self, hcount⟩
    | ok n =>
      rw [Tables.Hit.record_eq_ok_iff.mpr ⟨⟨n, hcount⟩, rfl⟩]
      have hrest : (rest.mapM Tables.Hit.record).Ensures _
          fun fault => ∃ other ∈ hit :: rest, other.count.reading = .error fault :=
        ih.mono (fun _ h => h) fun _ ⟨other, hother, h⟩ => ⟨other, .tail hit hother, h⟩
      apply hrest.bind
      rintro records ⟨hcounts, rfl⟩
      exact ⟨List.forall_mem_cons.mpr ⟨⟨n, hcount⟩, hcounts⟩, rfl⟩

/-- The tables that a search reads through a handle, if they are all there and may be read. -/
def Handle.tables (h : Handle) (w : World) : Outcome Tables :=
  match h.target with
  | .file number => do
    let db ← Outcome.ofStore (w.disk.database number)
    Outcome.ofStore db.layout.requireRecords
    Outcome.ofStore (w.mayRead number)
    return db.tables
  | _ => .error (.store StoreError.unreadable)

theorem Handle.tables_eq_ok_iff {number file : Nat} {w : World} {t : Tables} :
    (⟨number, .file file⟩ : Handle).tables w = .ok t ↔ ∃ layout,
      w.disk.database file = .ok ⟨layout, t⟩ ∧ layout.requireRecords = .ok () ∧
        w.mayRead file = .ok () := by
  constructor
  · intro h
    obtain ⟨⟨layout, t'⟩, hdb, h⟩ := Outcome.of_bind_eq_ok h
    obtain ⟨_, hrequire, h⟩ := Outcome.of_bind_eq_ok h
    obtain ⟨_, hread, h⟩ := Outcome.of_bind_eq_ok h
    obtain rfl := Except.ok.inj h
    exact ⟨layout, Outcome.of_ofStore_eq_ok hdb, Outcome.of_ofStore_eq_ok hrequire,
      Outcome.of_ofStore_eq_ok hread⟩
  · rintro ⟨layout, hdb, hrequire, hread⟩
    simp only [tables, hdb, hread]
    change (Outcome.ofStore layout.requireRecords >>= fun _ => Except.ok t) = _
    rw [hrequire]
    rfl

theorem Limit.of_effective_eq_ok {v : Value} {limit : Int} (h : effective v = .ok limit) :
    1 ≤ limit ∧ limit ≤ greatest := by
  have hcut : ∀ n : Int, 1 ≤ (if n ≤ 0 then default else min n greatest) ∧
      (if n ≤ 0 then default else min n greatest) ≤ greatest := by
    intro n
    simp only [default, greatest]
    split <;> omega
  cases v with
  | null =>
    obtain rfl := Except.ok.inj h
    decide
  | _ =>
    obtain ⟨n, -, h⟩ := Outcome.of_bind_eq_ok h
    obtain rfl := Except.ok.inj h
    exact hcut n

namespace Connection

/-! ### What the statement finds -/

/-- The hits that the statement of a search finds through a handle, or its failure. -/
def found (p : SearchParameters) (h : Handle) (w : World) : Outcome (List Tables.Hit) :=
  match h.target with
  | .file number => (searchStatement p).query (fun db p => db.search p) number w
  | _ => .error (.store StoreError.unreadable)

theorem searchRows_eq_bind (p : SearchParameters) (number : Nat) (w : World) :
    searchRows p number w = (searchStatement p).query (fun db p => db.search p) number w >>=
      fun hits => Outcome.ofStore (hits.mapM fun hit => Tables.fetch hit.toRow) :=
  Statement.query_bind (searchStatement p) (fun db p => db.search p) _ number w

/-- The failures of the statement are those that a search does not pass on. -/
theorem isStatementFailure_of_found {p : SearchParameters} {h : Handle} {w : World} {fault : Fault}
    (hfound : found p h w = .error fault) : fault.isStatementFailure = true := by
  have hensures : (found p h w).Ensures (fun _ => True)
      fun fault => fault.isStatementFailure = true := by
    unfold found
    split
    · refine Service.ensures_query _ _ ?_ (fun _ => rfl) fun _ _ _ _ => trivial
      exact Service.ensures_bind_searchStatement p
    · exact rfl
  rw [hfound] at hensures
  exact hensures

section

variable {h : Handle} {w : World} {t : Tables} {p : SearchParameters}

/-- A statement that finds something has read the tables. -/
theorem exists_tables_of_found {hits : List Tables.Hit} (hfound : found p h w = .ok hits) :
    ∃ t, h.tables w = .ok t := by
  obtain ⟨number, target⟩ := h
  cases target with
  | file file =>
    obtain ⟨⟨db, p'⟩, hprepare, hquery⟩ := Outcome.of_bind_eq_ok hfound
    obtain ⟨_, hread, -⟩ := Outcome.of_bind_eq_ok hquery
    obtain ⟨hdb, hrequire, -⟩ := Statement.of_prepare_eq_ok hprepare
    exact ⟨db.tables, Handle.tables_eq_ok_iff.mpr
      ⟨db.layout, hdb, hrequire, Outcome.of_ofStore_eq_ok hread⟩⟩
  | directory => cases hfound
  | standIn _ => cases hfound

/-- On tables that can be read the statement depends on its parameters and the rows alone. -/
theorem found_eq (ht : h.tables w = .ok t) : found p h w = (searchStatement p).bind >>= fun p =>
    Outcome.ofStore (Database.search (.complete t) p) := by
  obtain ⟨number, target⟩ := h
  cases target with
  | file file =>
    obtain ⟨layout, hdb, hrequire, hread⟩ := Handle.tables_eq_ok_iff.mp ht
    have hprepare : (searchStatement p).prepare (w.disk.database file) =
        (searchStatement p).bind >>= fun p => .ok (⟨layout, t⟩, p) := by
      rw [Statement.prepare, hdb]
      change (Outcome.ofStore layout.requireRecords >>= fun _ => _) = _
      rw [hrequire]
      rfl
    simp only [found, Statement.query, hprepare, hread]
    cases (searchStatement p).bind <;> rfl
  | directory => cases ht
  | standIn _ => cases ht

theorem found_ofQuery {query : Text} {limit : Int} (ht : h.tables w = .ok t)
    (hencodable : query.isEncodable = true) (hsize : Like.isTooComplex (Like.holds query) = false)
    (hleast : 1 ≤ limit) (hgreatest : limit ≤ Limit.greatest) :
    found (.ofQuery query limit) h w = .ok (t.search (.ofQuery query limit)) := by
  have hbind := bind_searchStatement hencodable hsize (by omega) hgreatest
  have hsearch : Database.search (.complete t) (.ofQuery query limit) =
      .ok (t.search (.ofQuery query limit)) := by
    simp [Database.search, Database.complete, SearchParameters.ofQuery, hsize]
  rw [found_eq ht, hbind]
  change Outcome.ofStore (Database.search (.complete t) (.ofQuery query limit)) = _
  rw [hsearch]
  rfl

/-- Whether a statement fails on tables that can be read depends on their files alone. -/
theorem found_alike {h' : Handle} {w' : World} {t' : Tables} (ht : h.tables w = .ok t)
    (ht' : h'.tables w' = .ok t') (hfiles : t'.files = t.files) (p : SearchParameters) :
    (∃ fault, found p h w = .error fault ∧ found p h' w' = .error fault) ∨
      (found p h w = .ok (t.search p) ∧ found p h' w' = .ok (t'.search p)) := by
  rw [found_eq ht, found_eq ht']
  cases hbind : (searchStatement p).bind with
  | error fault => exact .inl ⟨fault, rfl, rfl⟩
  | ok p =>
    obtain rfl := of_bind_searchStatement_eq_ok hbind
    by_cases hcomplex : (Like.isTooComplex p.holds && !t.files.isEmpty) = true
    · have hsearch : Database.search (.complete t) p = .error StoreError.patternTooComplex :=
        if_pos hcomplex
      have hsearch' : Database.search (.complete t') p = .error StoreError.patternTooComplex :=
        if_pos (by rwa [Database.complete, hfiles])
      exact .inl ⟨.store StoreError.patternTooComplex, congrArg Outcome.ofStore hsearch,
        congrArg Outcome.ofStore hsearch'⟩
    · have hsearch : Database.search (.complete t) p = .ok (t.search p) := if_neg hcomplex
      have hsearch' : Database.search (.complete t') p = .ok (t'.search p) :=
        if_neg (by rwa [Database.complete, hfiles])
      exact .inr ⟨congrArg Outcome.ofStore hsearch, congrArg Outcome.ofStore hsearch'⟩

end

variable {s : Site} {h : Handle} {query maxResults : Value} {limit : Int}

theorem exec_rows (hconnected : s.connection.isConnected = true)
    (hhandle : s.connection.handle = some h) (hreal : h.IsReal) (p : SearchParameters) :
    (Task.exec (withHandle fun h => onHandle h (.search p) (searchRows p) StandIn.rows) s).1 =
      found p h s.world >>= fun hits =>
        Outcome.ofStore (hits.mapM fun hit => Tables.fetch hit.toRow) := by
  rw [exec_withHandle hconnected hhandle]
  obtain ⟨number, target⟩ := h
  cases target with
  | file file =>
    rw [exec_onHandle_file]
    exact searchRows_eq_bind p file _
  | directory => rfl
  | standIn t => exact absurd rfl (hreal t)

theorem exec_search_eq (hconnected : s.connection.isConnected = true)
    (hhandle : s.connection.handle = some h) (hreal : h.IsReal) (hempty : query.isEmpty = false)
    (hlimit : Limit.effective maxResults = .ok limit) :
    (Task.exec (search query maxResults) s).1 =
      match found (.ofQuery query.display limit) h s.world with
      | .error _ => .ok []
      | .ok hits =>
        if hits.all Tables.Hit.isFetchable then hits.mapM Tables.Hit.record else .ok [] := by
  have hparameters : searchParameters query maxResults = .ok (.ofQuery query.display limit) := by
    rw [searchParameters, hlimit]
    rfl
  rw [exec_search_of_parameters hconnected hempty hparameters,
    exec_rows hconnected hhandle hreal]
  cases hfound : found (.ofQuery query.display limit) h s.world with
  | error fault => exact if_pos (isStatementFailure_of_found hfound)
  | ok hits =>
    have hfetched := Tables.mapM_fetch hits
    split at hfetched
    · next hall =>
      have hrecords : (hits.map Tables.Hit.toRow).mapM Record.ofRow =
          hits.mapM Tables.Hit.record := by
        rw [List.mapM_map]
        exact congrArg hits.mapM (funext Tables.Hit.ofRow_toRow)
      simp only [hfetched, hall, ↓reduceIte, Outcome.ofStore, bind, Except.bind]
      exact hrecords
    · next hall =>
      obtain ⟨e, he⟩ := hfetched
      simp only [he, hall, Outcome.ofStore, bind, Except.bind]
      rfl

/-- A search for any text or none, with any limit or none, on a connection that is open on a file or
a directory. An empty text and a statement that fails give the empty list, and so do hits of which
one cannot be handed out because a text of it is not UTF-8. Other hits give the list of their
records, unless one of them has a count that cannot be read, a text, a blob or a number that is not
finite; then the search fails as such a count does. -/
theorem search_answers (hconnected : s.connection.isConnected = true)
    (hhandle : s.connection.handle = some h) (hreal : h.IsReal)
    (hquery : query = .null ∨ ∃ text, query = .text text)
    (hmax : maxResults = .null ∨ ∃ n, maxResults = .int n) :
    ∃ limit, Limit.effective maxResults = .ok limit ∧ 1 ≤ limit ∧ limit ≤ Limit.greatest ∧
      (query.isEmpty = true → (Task.exec (search query maxResults) s).1 = .ok []) ∧
      ∀ text, query = .text text → text ≠ [] →
        (∀ fault, found (.ofQuery text limit) h s.world = .error fault →
          (Task.exec (search query maxResults) s).1 = .ok []) ∧
        ∀ hits, found (.ofQuery text limit) h s.world = .ok hits →
          ((∃ hit ∈ hits, hit.isFetchable = false) →
            (Task.exec (search query maxResults) s).1 = .ok []) ∧
          ((∀ hit ∈ hits, hit.isFetchable = true) →
            (Task.exec (search query maxResults) s).1.Ensures
              (fun records => (∀ hit ∈ hits, ∃ n, hit.count.reading = .ok n) ∧
                records = hits.map Tables.Hit.shown)
              fun fault => ∃ hit ∈ hits, hit.count.reading = .error fault ∧
                hit.count.isCountable = false) := by
  obtain ⟨limit, hlimit, hleast, hgreatest⟩ := Limit.exists_effective hmax
  refine ⟨limit, hlimit, hleast, hgreatest,
    fun hempty => exec_search_of_isEmpty hconnected hempty maxResults, ?_⟩
  rintro text rfl htext
  have hempty : (Value.text text).isEmpty = false := by simp [Value.isEmpty, htext]
  have hexec := exec_search_eq hconnected hhandle hreal hempty hlimit
  constructor
  · intro fault hfault
    rw [hexec, Value.display, hfault]
  · intro hits hhits
    simp only [Value.display, hhits] at hexec
    constructor
    · intro hsome
      rw [hexec, if_neg fun hall => ?_]
      obtain ⟨hit, hhit, hfetch⟩ := hsome
      exact absurd (List.all_eq_true.mp hall hit hhit) (by simp [hfetch])
    · intro hall
      rw [hexec, if_pos (List.all_eq_true.mpr hall)]
      apply (Outcome.ensures_records hits).mono (fun _ h => h)
      rintro fault ⟨hit, hhit, hfault⟩
      exact ⟨hit, hhit, hfault, Cell.isCountable_of_reading hfault⟩

def worded : Tables where
  files := [⟨1, some "a", some "/a", .null, .null, .null⟩]
  usage := [⟨1, .text "abc", .null⟩]

theorem search_answers_worded :
    (Task.exec (search (.text "a") .null) (Site.opened worded)).1.Ensures
      (fun records => (∀ hit ∈ worded.search (.ofQuery "a" 50), ∃ n, hit.count.reading = .ok n) ∧
        records = (worded.search (.ofQuery "a" 50)).map Tables.Hit.shown)
      fun fault => ∃ hit ∈ worded.search (.ofQuery "a" 50), hit.count.reading = .error fault ∧
        hit.count.isCountable = false := by
  obtain ⟨limit, hlimit, -, -, -, hanswer⟩ := @search_answers (Site.opened worded) ⟨0, .file 0⟩
    (.text "a") .null rfl rfl (fun _ => nofun) (.inr ⟨"a", rfl⟩) (.inl rfl)
  obtain rfl : 50 = limit := Except.ok.inj hlimit
  refine ((hanswer "a" rfl (by decide)).2 _ rfl).2 fun hit hhit => ?_
  obtain ⟨f, hf, -, rfl⟩ := (Tables.mem_hits_iff _ _).mp (Tables.mem_hits_of_search hhit)
  obtain rfl := List.mem_singleton.mp hf
  rfl

theorem exec_search_worded :
    ∃ fault, (Task.exec (search (.text "a") .null) (Site.opened worded)).1 = .error fault := by
  have hexec := @exec_search_eq (Site.opened worded) ⟨0, .file 0⟩ (.text "a") .null 50 rfl rfl
    (fun _ => nofun) rfl rfl
  have hfound : found (.ofQuery (Value.text "a").display 50) ⟨0, .file 0⟩
      (Site.opened worded).world = .ok (worded.search (.ofQuery "a" 50)) := rfl
  have hhits : worded.hits (.ofQuery "a" 50) =
      [⟨⟨1, some "a", some "/a", .null, .null, .null⟩, .text "abc", 0⟩] := rfl
  obtain ⟨fault, hfault⟩ : ∃ fault, (Cell.text "abc").reading = .error fault := ⟨_, rfl⟩
  refine ⟨fault, ?_⟩
  rw [hexec, hfound, Tables.search, hhits, List.mergeSort_singleton]
  change List.mapM Tables.Hit.record [_] = _
  rw [List.mapM_cons, Tables.Hit.record_eq_error_iff.mpr hfault]
  rfl

/-- A count that is a word keeps a search from answering at all. -/
theorem not_search_answers :
    ¬∀ (s : Site) (h : Handle) (query maxResults : Value), s.connection.isConnected = true →
      s.connection.handle = some h → h.IsReal → (query = .null ∨ ∃ text, query = .text text) →
      (maxResults = .null ∨ ∃ n, maxResults = .int n) →
      ∃ records, (Task.exec (search query maxResults) s).1 = .ok records := by
  intro hall
  obtain ⟨records, hrecords⟩ := hall (Site.opened worded) ⟨0, .file 0⟩ (.text "a") .null rfl rfl
    (fun _ => nofun) (.inr ⟨"a", rfl⟩) (.inl rfl)
  obtain ⟨fault, hfault⟩ := exec_search_worded
  rw [hrecords] at hfault
  exact absurd hfault nofun

end Connection

end LaunchIndex
