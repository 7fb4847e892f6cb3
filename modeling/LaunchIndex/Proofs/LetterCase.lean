import LaunchIndex.Proofs.Answers
import LaunchIndex.Proofs.Order

/-! Two searches for texts that differ in the case of ASCII letters only. They find the same files,
and their answers agree element by element once the files are taken out that are named exactly as
one of the texts; such a file is at the top for its own name and a mere beginning for the other. -/

namespace LaunchIndex

open Store

/-! ### Matching -/

namespace Like

/-- No code point that is illegible is a letter, nor is the replacement character. -/
theorem asciiLower_legible (c : CodePoint) :
    (legible c).asciiLower = legible c.asciiLower := by
  by_cases hc : c.val = 0xFFFE ∨ c.val = 0xFFFF
  · have hlower : c.asciiLower = c := dif_neg (by omega)
    rw [hlower, legible, if_pos hc]
    decide
  · have hlower : ¬(c.asciiLower.val = 0xFFFE ∨ c.asciiLower.val = 0xFFFF) := by
      unfold CodePoint.asciiLower
      split
      · simp only
        omega
      · exact hc
    rw [legible, if_neg hc, legible, if_neg hlower]

/-- Folding goes by the small letters of a text. -/
theorem folded_eq_map_legible (t : Text) : folded t = (Text.asciiLower t).map legible := by
  simp only [folded, Text.asciiLower, List.map_map]
  exact List.map_congr_left fun c _ => asciiLower_legible c

/-- The part of a name that a pattern looks at. -/
def shownPart (name : Text) : Text := name.takeWhile (·.val != 0)

theorem noNull_shownPart (name : Text) : (shownPart name).NoNull := by
  intro c hc
  simpa using List.mem_takeWhile_imp hc

theorem accepts_shownPart (pattern name : Text) :
    accepts pattern (shownPart name) = accepts pattern name := by
  have hvisible : visible (shownPart name) = visible name := by
    rw [visible, visible, shownPart, List.takeWhile_idem]
  rw [accepts, accepts, hvisible]

variable {q q' : Text}

theorem accepts_holds_iff (hq : q.NoNull) (name : Text) :
    accepts (holds q) name = true ↔ folded q <:+: folded (shownPart name) := by
  rw [← accepts_shownPart, accepts_holds hq (noNull_shownPart name)]

theorem accepts_startsWith_iff (hq : q.NoNull) (name : Text) :
    accepts (startsWith q) name = true ↔ folded q <+: folded (shownPart name) := by
  rw [← accepts_shownPart, accepts_startsWith hq (noNull_shownPart name)]

variable (hq : q.NoNull) (hq' : q'.NoNull) (hsame : Text.asciiLower q = Text.asciiLower q')
include hq hq' hsame

theorem accepts_holds_congr : accepts (holds q) = accepts (holds q') := by
  funext name
  rw [Bool.eq_iff_iff, accepts_holds_iff hq, accepts_holds_iff hq', folded_eq_map_legible q, hsame,
    ← folded_eq_map_legible]

theorem accepts_startsWith_congr : accepts (startsWith q) = accepts (startsWith q') := by
  funext name
  rw [Bool.eq_iff_iff, accepts_startsWith_iff hq, accepts_startsWith_iff hq',
    folded_eq_map_legible q, hsame, ← folded_eq_map_legible]

end Like

/-! ### Hits -/

namespace Store.Tables

def Hit.isNamed (name : Text) (h : Hit) : Bool := h.file.filename == some name

variable {t : Tables} {q q' : Text} {limit : Int}

theorem tier_of_other {f : FileRow} (h : f.filename ≠ some q) : tier (.ofQuery q limit) f =
    if f.filename.any (fun name => Like.accepts (Like.startsWith q) (Like.read name)) then 1
    else 2 := if_neg h

theorem tier_of_named {h : Hit} (hh : h ∈ t.hits (.ofQuery q limit)) (hname : h.isNamed q = true) :
    h.tier = 0 := by
  obtain ⟨f, -, rfl⟩ := List.mem_map.mp hh
  exact if_pos (eq_of_beq hname)

variable (hq : q.NoNull) (hq' : q'.NoNull) (hsame : Text.asciiLower q = Text.asciiLower q')
include hq hq' hsame

theorem matching_congr (t : Tables) : t.matching q = t.matching q' := by
  rw [matching, matching, Like.accepts_holds_congr hq hq' hsame]

theorem tier_of_named_other (hencodable : q.isEncodable = true) (hne : q ≠ q') {h : Hit}
    (hh : h ∈ t.hits (.ofQuery q' limit)) (hname : h.isNamed q = true) : h.tier = 1 := by
  obtain ⟨f, -, rfl⟩ := List.mem_map.mp hh
  have hfilename : f.filename = some q := eq_of_beq hname
  have hstarts : Like.accepts (Like.startsWith q') (Like.read q) = true := by
    rw [Like.read, if_pos hencodable, ← Like.accepts_startsWith_congr hq hq' hsame,
      Like.accepts_startsWith hq hq]
  have hother : f.filename ≠ some q' := by simpa [hfilename] using hne
  simp [tier_of_other hother, hfilename, hstarts]

theorem hits_others (t : Tables) (limit : Int) :
    (t.hits (.ofQuery q limit)).filter (fun h => !h.isNamed q && !h.isNamed q') =
      (t.hits (.ofQuery q' limit)).filter fun h => !h.isNamed q && !h.isNamed q' := by
  rw [hits_eq_map, hits_eq_map, matching_congr hq hq' hsame, List.filter_map, List.filter_map]
  apply List.map_congr_left
  intro f hf
  obtain ⟨hne, hne'⟩ : f.filename ≠ some q ∧ f.filename ≠ some q' := by
    simpa [Hit.isNamed] using (List.mem_filter.mp hf).2
  rw [tier_of_other hne, tier_of_other hne', Like.accepts_startsWith_congr hq hq' hsame]

theorem ordered_others (t : Tables) (limit : Int) :
    (t.ordered (.ofQuery q limit)).filter (fun h => !h.isNamed q && !h.isNamed q') =
      (t.ordered (.ofQuery q' limit)).filter fun h => !h.isNamed q && !h.isNamed q' := by
  rw [filter_ordered, filter_ordered, hits_others hq hq' hsame]

end Store.Tables

/-! ### Answers -/

namespace Record

/-- Whether a record is of a file of exactly this name. -/
def isNamed (name : Text) (r : Record) : Bool :=
  match r.filename with
  | .text t => t == name
  | _ => false

theorem isNamed_shown (name : Text) (h : Tables.Hit) : h.shown.isNamed name = h.isNamed name := by
  cases hname : h.file.filename <;>
    simp [isNamed, Tables.Hit.isNamed, Tables.Hit.shown, ofFile, Tables.nameValue, hname]

/-- What two answers have in common: they list the same paths, and they are one list but for the
files that are named exactly as one of the texts. A file that is named as the first text is in the
best tier of the first answer and, if the texts differ, in the second tier of the second one. -/
structure AgreeButFor (q q' : Text) (records records' : List Record) : Prop where
  paths : (records.map (·.path)).Perm (records'.map (·.path))
  others : records.filter (fun r => !r.isNamed q && !r.isNamed q') =
    records'.filter fun r => !r.isNamed q && !r.isNamed q'
  exact_tier : ∀ r ∈ records, r.isNamed q = true → r.tier = some 0
  other_tier : q ≠ q' → ∀ r ∈ records', r.isNamed q = true → r.tier = some 1

theorem agreeButFor_nil (q q' : Text) : AgreeButFor q q' [] [] := by constructor <;> simp

end Record

namespace Store.Tables

variable {t : Tables} {q q' : Text} {limit : Int}

/-- Whether the hits can be handed out is a matter of the files that match. -/
theorem all_isFetchable_ordered (t : Tables) (q : Text) (limit : Int) :
    (t.ordered (.ofQuery q limit)).all Hit.isFetchable =
      (t.matching q).all fun f => Hit.isFetchable ⟨f, t.countOf f, 0⟩ := by
  rw [(t.ordered_perm (.ofQuery q limit)).all_eq, hits_eq_map, List.all_map]
  rfl

theorem mapM_record_ordered (t : Tables) (q : Text) (limit : Int) :
    ((t.ordered (.ofQuery q limit)).mapM Hit.record).Ensures
      (fun records => (∀ f ∈ t.matching q, ∃ n, (t.countOf f).reading = .ok n) ∧
        records = (t.ordered (.ofQuery q limit)).map Hit.shown)
      fun fault => ∃ f ∈ t.matching q, (t.countOf f).reading = .error fault := by
  apply (Outcome.ensures_records (t.ordered (.ofQuery q limit))).mono
  · rintro records ⟨hcounts, hrecords⟩
    exact ⟨fun f hf => hcounts _ (mem_ordered_iff.mpr (List.mem_map_of_mem hf)), hrecords⟩
  · rintro fault ⟨hit, hhit, hfault⟩
    obtain ⟨f, hf, rfl⟩ := List.mem_map.mp (mem_ordered_iff.mp hhit)
    exact ⟨f, hf, hfault⟩

variable (hq : q.NoNull) (hq' : q'.NoNull) (hsame : Text.asciiLower q = Text.asciiLower q')
include hq hq' hsame

theorem ordered_agree (hencodable : q.isEncodable = true) (t : Tables) (limit : Int) :
    Record.AgreeButFor q q' ((t.ordered (.ofQuery q limit)).map Hit.shown)
      ((t.ordered (.ofQuery q' limit)).map Hit.shown) where
  paths := by
    have hpaths : ∀ query, (((t.ordered (.ofQuery query limit)).map Hit.shown).map (·.path)).Perm
        ((t.matching query).map fun f => nameValue f.path) := by
      intro query
      rw [List.map_map]
      apply ((t.ordered_perm (.ofQuery query limit)).map _).trans
      rw [hits_eq_map, List.map_map]
      rfl
    have hfirst := hpaths q
    rw [matching_congr hq hq' hsame] at hfirst
    exact hfirst.trans (hpaths q').symm
  others := by
    have hshown : (fun r : Record => !r.isNamed q && !r.isNamed q') ∘ Hit.shown =
        fun h => !h.isNamed q && !h.isNamed q' := by
      funext h
      rw [Function.comp_apply, Record.isNamed_shown, Record.isNamed_shown]
    rw [List.filter_map, List.filter_map, hshown, ordered_others hq hq' hsame]
  exact_tier := by
    intro r hr hname
    obtain ⟨h, hh, rfl⟩ := List.mem_map.mp hr
    rw [Record.isNamed_shown] at hname
    exact congrArg some (tier_of_named (mem_ordered_iff.mp hh) hname)
  other_tier := by
    intro hne r hr hname
    obtain ⟨h, hh, rfl⟩ := List.mem_map.mp hr
    rw [Record.isNamed_shown] at hname
    exact congrArg some
      (tier_of_named_other hq hq' hsame hencodable hne (mem_ordered_iff.mp hh) hname)

/-- A count that cannot be read is met by both searches or by none. -/
theorem mapM_record_agree (hencodable : q.isEncodable = true) (t : Tables) (limit : Int) :
    ((t.ordered (.ofQuery q limit)).mapM Hit.record).Ensures
      (fun records => ∃ records', (t.ordered (.ofQuery q' limit)).mapM Hit.record = .ok records' ∧
        Record.AgreeButFor q q' records records')
      fun fault => ∃ fault', (t.ordered (.ofQuery q' limit)).mapM Hit.record = .error fault' ∧
        (∃ f ∈ t.matching q, (t.countOf f).reading = .error fault) ∧
        ∃ f ∈ t.matching q, (t.countOf f).reading = .error fault' := by
  have hother := mapM_record_ordered t q' limit
  rw [← matching_congr hq hq' hsame t] at hother
  apply (mapM_record_ordered t q limit).mono
  · rintro records ⟨hcounts, rfl⟩
    rcases hresult : (t.ordered (.ofQuery q' limit)).mapM Hit.record with fault' | records' <;>
      rw [hresult] at hother
    · obtain ⟨f, hf, hfault'⟩ := hother
      obtain ⟨n, hn⟩ := hcounts f hf
      exact absurd (hn.symm.trans hfault') nofun
    · obtain ⟨-, rfl⟩ := hother
      exact ⟨_, rfl, ordered_agree hq hq' hsame hencodable t limit⟩
  · rintro fault ⟨f, hf, hfault⟩
    rcases hresult : (t.ordered (.ofQuery q' limit)).mapM Hit.record with fault' | records' <;>
      rw [hresult] at hother
    · exact ⟨fault', rfl, ⟨f, hf, hfault⟩, hother⟩
    · obtain ⟨n, hn⟩ := hother.1 f hf
      exact absurd (hn.symm.trans hfault) nofun

end Store.Tables

/-- A text that a search can look for: it is not empty, it has a stored form, it holds no null
character, and its pattern is of a size that the engine takes. -/
structure Text.IsSearchable (q : Text) : Prop where
  ne_nil : q ≠ []
  encodable : q.isEncodable = true
  noNull : q.NoNull
  size : Like.isTooComplex (Like.holds q) = false

namespace Connection

variable {s : Site} {h : Handle} {q q' : Text} {maxResults : Value} {limit : Int} {t : Tables}

/-- Without a limit in the way a search reads all hits in order, if they can be handed out. -/
theorem exec_search_ordered (hconnected : s.connection.isConnected = true)
    (hhandle : s.connection.handle = some h) (hreal : h.IsReal) (ht : h.tables s.world = .ok t)
    (hq : q.IsSearchable) (hlimit : Limit.effective maxResults = .ok limit)
    (hall : (t.matching q).length ≤ limit) :
    (Task.exec (search (.text q) maxResults) s).1 =
      if (t.matching q).all fun f => Tables.Hit.isFetchable ⟨f, t.countOf f, 0⟩ then
        (t.ordered (.ofQuery q limit)).mapM Tables.Hit.record
      else .ok [] := by
  have hempty : (Value.text q).isEmpty = false := by simp [Value.isEmpty, hq.ne_nil]
  obtain ⟨hleast, hgreatest⟩ := Limit.of_effective_eq_ok hlimit
  rw [exec_search_eq hconnected hhandle hreal hempty hlimit, Value.display,
    found_ofQuery ht hq.encodable hq.size hleast hgreatest, Tables.search_eq_ordered hall,
    ← Tables.all_isFetchable_ordered t q limit]

theorem exec_search_of_tables {fault : Fault} (hconnected : s.connection.isConnected = true)
    (hhandle : s.connection.handle = some h) (hreal : h.IsReal)
    (ht : h.tables s.world = .error fault) (hq : q ≠ [])
    (hlimit : Limit.effective maxResults = .ok limit) :
    (Task.exec (search (.text q) maxResults) s).1 = .ok [] := by
  have hempty : (Value.text q).isEmpty = false := by simp [Value.isEmpty, hq]
  rw [exec_search_eq hconnected hhandle hreal hempty hlimit, Value.display]
  cases hfound : found (.ofQuery q limit) h s.world with
  | error _ => rfl
  | ok hits =>
    obtain ⟨t, ht'⟩ := exists_tables_of_found hfound
    rw [ht] at ht'
    cases ht'

/-- Two searches on a connection that is open on any file, for texts that agree in their small
letters, with a limit that leaves out no match. If the one returns records, then so does the other,
and the answers agree but for the files that are named exactly as one of the texts. If the one
fails, then so does the other, each as the count of a matching file does that cannot be read. -/
theorem searches_agree_butFor_named (hconnected : s.connection.isConnected = true)
    (hhandle : s.connection.handle = some h) (hreal : h.IsReal) (hq : q.IsSearchable)
    (hq' : q'.IsSearchable) (hsame : Text.asciiLower q = Text.asciiLower q')
    (hlimit : Limit.effective maxResults = .ok limit)
    (hall : ∀ t, h.tables s.world = .ok t → (t.matching q).length ≤ limit) :
    (Task.exec (search (.text q) maxResults) s).1.Ensures
      (fun records => ∃ records', (Task.exec (search (.text q') maxResults) s).1 = .ok records' ∧
        Record.AgreeButFor q q' records records')
      fun fault => ∃ t fault', h.tables s.world = .ok t ∧
        (Task.exec (search (.text q') maxResults) s).1 = .error fault' ∧
        (∃ f ∈ t.matching q, (t.countOf f).reading = .error fault) ∧
        ∃ f ∈ t.matching q, (t.countOf f).reading = .error fault' := by
  cases ht : h.tables s.world with
  | error fault =>
    rw [exec_search_of_tables hconnected hhandle hreal ht hq.ne_nil hlimit]
    exact ⟨[], exec_search_of_tables hconnected hhandle hreal ht hq'.ne_nil hlimit,
      Record.agreeButFor_nil q q'⟩
  | ok t =>
    have hmatching := Tables.matching_congr hq.noNull hq'.noNull hsame t
    have hexec := exec_search_ordered hconnected hhandle hreal ht hq hlimit (hall t ht)
    have hexec' :=
      exec_search_ordered hconnected hhandle hreal ht hq' hlimit (hmatching ▸ hall t ht)
    rw [← hmatching] at hexec'
    rw [hexec, hexec']
    split
    · apply (Tables.mapM_record_agree hq.noNull hq'.noNull hsame hq.encodable t limit).mono
      · exact fun _ hrecords => hrecords
      · rintro fault ⟨fault', hfailed, hcount, hcount'⟩
        exact ⟨t, fault', rfl, hfailed, hcount, hcount'⟩
    · -- A file that cannot be handed out empties both answers.
      exact ⟨[], rfl, Record.agreeButFor_nil q q'⟩

/-- One of two files is named exactly as the first text, and the other only holds both. -/
theorem searches_agree_butFor_named_twoNotes :
    ∃ records records',
      (Task.exec (search (.text "Notes") .null) (Site.opened twoNotes)).1 = .ok records ∧
      (Task.exec (search (.text "notes") .null) (Site.opened twoNotes)).1 = .ok records' ∧
      Record.AgreeButFor "Notes" "notes" records records' := by
  have htables : (⟨0, .file 0⟩ : Handle).tables (Site.opened twoNotes).world = .ok twoNotes := rfl
  have hall : ∀ t, (⟨0, .file 0⟩ : Handle).tables (Site.opened twoNotes).world = .ok t →
      ((t.matching "Notes").length : Int) ≤ 50 := by
    intro t ht
    obtain rfl := Except.ok.inj (htables.symm.trans ht)
    decide
  have hanswer := @searches_agree_butFor_named (Site.opened twoNotes) ⟨0, .file 0⟩ "Notes" "notes"
    .null 50 rfl rfl (fun _ => nofun) ⟨by decide, by decide, by decide, by decide⟩
    ⟨by decide, by decide, by decide, by decide⟩ (by decide) rfl hall
  cases hfirst : (Task.exec (search (.text "Notes") .null) (Site.opened twoNotes)).1 with
  | ok records =>
    rw [hfirst] at hanswer
    obtain ⟨records', hsecond, hagree⟩ := hanswer
    exact ⟨records, records', rfl, hsecond, hagree⟩
  | error fault =>
    rw [hfirst] at hanswer
    obtain ⟨t, -, ht, -, ⟨f, hf, hfault⟩, -⟩ := hanswer
    obtain rfl := Except.ok.inj (htables.symm.trans ht)
    obtain ⟨n, hn⟩ := twoNotes_isIndex.exists_countOf f
    rw [hn, Cell.reading_int] at hfault
    exact absurd hfault nofun

/-- Neither search has an answer if the count of a match is a word. -/
theorem not_searches_agree :
    ¬∀ (s : Site) (h : Handle) (q q' : Text) (maxResults : Value) (limit : Int),
      s.connection.isConnected = true → s.connection.handle = some h → h.IsReal →
      q.IsSearchable → q'.IsSearchable → Text.asciiLower q = Text.asciiLower q' →
      Limit.effective maxResults = .ok limit →
      (∀ t, h.tables s.world = .ok t → (t.matching q).length ≤ limit) →
      ∃ records records', (Task.exec (search (.text q) maxResults) s).1 = .ok records ∧
        (Task.exec (search (.text q') maxResults) s).1 = .ok records' ∧
        Record.AgreeButFor q q' records records' := by
  intro hanswers
  have hall : ∀ t, (⟨0, .file 0⟩ : Handle).tables (Site.opened worded).world = .ok t →
      ((t.matching "a").length : Int) ≤ 50 := by
    intro t ht
    obtain rfl : worded = t := Except.ok.inj ht
    decide
  obtain ⟨records, -, hrecords, -, -⟩ := hanswers (Site.opened worded) ⟨0, .file 0⟩ "a" "A" .null 50
    rfl rfl (fun _ => nofun) ⟨by decide, by decide, by decide, by decide⟩
    ⟨by decide, by decide, by decide, by decide⟩ (by decide) rfl hall
  obtain ⟨fault, hfault⟩ := exec_search_worded
  rw [hrecords] at hfault
  exact absurd hfault nofun

end Connection

end LaunchIndex
