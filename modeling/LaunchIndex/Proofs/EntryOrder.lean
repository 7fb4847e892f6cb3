import Mathlib.Data.List.Nodup
import LaunchIndex.Proofs.Accepted

/-! The order of the entries of a settings document. With distinct keys the entry under a key is the
one of that key wherever it stands, so the fields are checked alike, and the complaints about other
keys change their order only. Two files with the same entries in any two orders give the same
settings and the same warnings, or are refused for the same complaints. -/

namespace LaunchIndex

/-- A text is refused as a name: it has a null character, or no bytes stand for it. Like a refused
document it is a wrong value, but there is no complaint about it. -/
def Fault.IsUnnamed (fault : Fault) : Prop :=
  fault = .embeddedNull ∨ ∃ run, fault = .unencodable run

namespace Environment

/-- Only an account without a name for the system has no home directory, not even a missing one. -/
theorem of_expandHome_eq_error {e : Environment} {name : Text} {fault : Fault}
    (h : e.expandHome name = .error fault) : fault.IsUnnamed := by
  have haccount : ∀ {account}, e.accountHome? account = .error fault → fault.IsUnnamed := by
    intro account haccount
    unfold accountHome? at haccount
    split at haccount
    · next run _ => exact .inr ⟨run, (Except.error.inj haccount).symm⟩
    · split at haccount
      · exact .inl (Except.error.inj haccount).symm
      · cases haccount
  cases name with
  | nil => cases h
  | cons c rest =>
    simp only [expandHome] at h
    split at h
    · cases h
    · split at h
      · cases h
      · cases hhome : e.accountHome? (rest.takeWhile (· != Path.slash)) with
        | error other =>
          rw [hhome] at h
          exact haccount (hhome.trans (congrArg _ (Except.error.inj h)))
        | ok home =>
          rw [hhome] at h
          cases h

end Environment

namespace Settings

open Yaml (Datum)

variable {entries entries' : Entries} {e : Environment} {path path' : Option Text} {w w' : World}

/-! ### Entries in another order -/

theorem mem_of_valueUnder? {key : Text} {d : Datum} (h : valueUnder? entries key = some d) :
    (Datum.text key, d) ∈ entries := by
  obtain ⟨⟨k, v⟩, hentry, rfl⟩ := Option.map_eq_some_iff.mp h
  have hkey := List.find?_some hentry
  dsimp only at hkey
  split at hkey
  · obtain rfl := eq_of_beq hkey
    exact List.mem_of_find?_eq_some hentry
  · exact absurd hkey nofun

theorem valueUnder?_eq_some_iff (hkeys : (entries.map (·.1)).Nodup) {key : Text} {d : Datum} :
    valueUnder? entries key = some d ↔ (Datum.text key, d) ∈ entries := by
  refine ⟨mem_of_valueUnder?, fun hmem => ?_⟩
  cases hvalue : valueUnder? entries key with
  | none =>
    have hother := List.find?_eq_none.mp (Option.map_eq_none_iff.mp hvalue) _ hmem
    exact absurd (beq_self_eq_true key) hother
  | some d' =>
    have hsame := List.inj_on_of_nodup_map hkeys (mem_of_valueUnder? hvalue) hmem rfl
    rw [(Prod.mk.inj hsame).2]

theorem valueUnder?_of_perm (hkeys : (entries.map (·.1)).Nodup) (hperm : entries.Perm entries') :
    valueUnder? entries' = valueUnder? entries := by
  have hkeys' : (entries'.map (·.1)).Nodup := (hperm.map _).nodup_iff.mp hkeys
  funext key
  refine Option.ext fun d => ?_
  rw [valueUnder?_eq_some_iff hkeys, valueUnder?_eq_some_iff hkeys', hperm.mem_iff]

theorem fields_of_perm (hkeys : (entries.map (·.1)).Nodup) (hperm : entries.Perm entries') :
    Fields.of entries' = Fields.of entries := by
  unfold Fields.of field
  rw [valueUnder?_of_perm hkeys hperm]

theorem complaints_perm (hkeys : (entries.map (·.1)).Nodup) (hperm : entries.Perm entries') :
    (complaints entries).Perm (complaints entries') := by
  have hunencodable : entries.any (fun e => isUnencodable e.1) =
      entries'.any fun e => isUnencodable e.1 := hperm.any_eq
  have hkey : keyComplaint entries' = keyComplaint entries := by
    funext key
    unfold keyComplaint isUsed
    rw [valueUnder?_of_perm hkeys hperm]
  rw [complaints, complaints, hunencodable, fields_of_perm hkeys hperm, hkey]
  split
  · exact List.Perm.refl _
  · -- the complaints about fields come first in both, and only those about other keys move
    exact (hperm.filterMap _).append_left _

/-! ### Settings from them -/

theorem ofEntries_of_ne_nil (h : complaints entries ≠ []) :
    ofEntries e entries = .error (.rejected (complaints entries)) := by
  unfold ofEntries
  split
  · next hnil => exact absurd hnil h
  · rfl

/-- Settings are refused only for complaints, except where a path starts at the home directory of an
account that has no name for the system. -/
theorem Fields.of_settings_eq_error {f : Fields} {fault : Fault}
    (h : f.settings e = .error fault) : fault.IsUnnamed := by
  have hpath : ∀ {default : Text} {found : Except Defect (Option (Option Text))},
      pathOr e default found = .error fault → fault.IsUnnamed := by
    intro default found herror
    unfold pathOr at herror
    cases hexpanded : e.expandHome ((valueOr none found).getD default) with
    | error other =>
      rw [hexpanded] at herror
      exact Environment.of_expandHome_eq_error
        (hexpanded.trans (congrArg _ (Except.error.inj herror)))
    | ok name =>
      rw [hexpanded] at herror
      cases herror
  simp only [Fields.settings, bind, Except.bind] at h
  split at h
  · next hdatabase => exact hpath (hdatabase.trans (congrArg _ (Except.error.inj h)))
  · split at h
    · next hpreferences => exact hpath (hpreferences.trans (congrArg _ (Except.error.inj h)))
    · cases h

/-- The settings in two orders of the same entries: the same outcome, which is no complaint, or the
same complaints. -/
theorem ofEntries_perm (hkeys : (entries.map (·.1)).Nodup) (hperm : entries.Perm entries') :
    (∃ s, ofEntries e entries = .ok s ∧ ofEntries e entries' = .ok s) ∨
      (∃ cs cs', ofEntries e entries = .error (.rejected cs) ∧
        ofEntries e entries' = .error (.rejected cs') ∧ cs.Perm cs') ∨
      ∃ fault : Fault, fault.IsUnnamed ∧ ofEntries e entries = .error fault ∧
        ofEntries e entries' = .error fault := by
  have hcomplaints := complaints_perm hkeys hperm
  by_cases hnil : complaints entries = []
  · have hnil' : complaints entries' = [] := List.Perm.nil_eq (hnil ▸ hcomplaints) |>.symm
    have hsettings : ofEntries e entries = (Fields.of entries).settings e := by
      rw [ofEntries, hnil]
    have hsettings' : ofEntries e entries' = (Fields.of entries).settings e := by
      rw [ofEntries, hnil', fields_of_perm hkeys hperm]
    rw [hsettings, hsettings']
    cases hresult : (Fields.of entries).settings e with
    | ok s => exact .inl ⟨s, rfl, rfl⟩
    | error fault =>
      exact .inr (.inr ⟨fault, Fields.of_settings_eq_error hresult, rfl, rfl⟩)
  · have hnil' : complaints entries' ≠ [] := fun h => hnil (List.Perm.eq_nil (h ▸ hcomplaints))
    exact .inr (.inl ⟨_, _, ofEntries_of_ne_nil hnil, ofEntries_of_ne_nil hnil', hcomplaints⟩)

/-! ### Loading -/

/-- The file with settings is a document with these entries. -/
def Lists (path : Option Text) (w : World) (entries : Entries) : Prop :=
  ∃ bytes, w.disk.bytes? (path.getD (standardPath w.environment)) = .ok (some bytes) ∧
    entriesOf (path.getD (standardPath w.environment)) bytes = .ok entries

def warnings (s : Settings) : List Event :=
  if !s.busyTimeout.isNaN && Binary64.compareInt longTimeout s.busyTimeout == .lt then
    [Event.longTimeout s.busyTimeout]
  else []

theorem load_of_lists (h : Lists path w entries) :
    load path w =
      match ofEntries w.environment entries with
      | .error fault => (.error fault, w)
      | .ok s => (.ok s, (warnings s).foldl (fun w e => w.log e) w) := by
  obtain ⟨bytes, hbytes, hentries⟩ := h
  simp only [load, hbytes, hentries, Except.bind]
  cases ofEntries w.environment entries with
  | error fault => rfl
  | ok s =>
    simp only [warnings]
    split <;> rfl

/-- Two files with the same entries in any two orders, in the same environment, give the same
settings and warnings, or they are refused with the same complaints, or both are refused without
any because they name an account that has no name for the system. -/
theorem load_rearranged (henvironment : w'.environment = w.environment)
    (h : Lists path w entries) (h' : Lists path' w' entries')
    (hkeys : (entries.map (·.1)).Nodup) (hperm : entries.Perm entries') :
    (∃ (s : Settings) (events : List Event),
        load path w = (.ok s, events.foldl (fun w e => w.log e) w) ∧
        load path' w' = (.ok s, events.foldl (fun w e => w.log e) w')) ∨
      (∃ cs cs', load path w = (.error (.rejected cs), w) ∧
        load path' w' = (.error (.rejected cs'), w') ∧ cs.Perm cs') ∨
      ∃ fault : Fault, fault.IsUnnamed ∧
        load path w = (.error fault, w) ∧ load path' w' = (.error fault, w') := by
  rw [load_of_lists h, load_of_lists h', henvironment]
  rcases ofEntries_perm (e := w.environment) hkeys hperm with
    ⟨s, hs, hs'⟩ | ⟨cs, cs', hcs, hcs', hsame⟩ | ⟨fault, hunnamed, hfault, hfault'⟩
  · rw [hs, hs']
    exact .inl ⟨s, warnings s, rfl, rfl⟩
  · rw [hcs, hcs']
    exact .inr (.inl ⟨cs, cs', rfl, rfl, hsame⟩)
  · rw [hfault, hfault']
    exact .inr (.inr ⟨fault, hunnamed, rfl, rfl⟩)

/-- The first pause, and the longest one, which is too short for it. -/
def firstPause : Text × Int := ("retry_initial_delay_ms", 9)

def longestPause : Text × Int := ("retry_max_delay_ms", 5)

def pausesBytes (lines : Text) : Text.Bytes := lines.flatMap fun c => Text.Utf8.octets c.val

def firstPauseFirst : Text.Bytes :=
  pausesBytes "retry_initial_delay_ms: 9\nretry_max_delay_ms: 5\n"

def firstPauseLast : Text.Bytes :=
  pausesBytes "retry_max_delay_ms: 5\nretry_initial_delay_ms: 9\n"

/-- A start with two files that give both in opposite orders. -/
def opposite : World where
  environment := { assignments := [], workingDirectory := "/" }
  disk :=
    { entries := [(["a.yaml"], .file 0), (["b.yaml"], .file 1)]
      contents := [(0, .bytes firstPauseFirst), (1, .bytes firstPauseLast)] }

theorem eq_of_pair {result : Outcome Entries} {first second : Text × Int}
    (h : (match result with
      | .ok [(.text a, .int m), (.text b, .int n)] => (a, m) == first && (b, n) == second
      | _ => false) = true) :
    result = .ok [(.text first.1, .int first.2), (.text second.1, .int second.2)] := by
  split at h
  · rw [Bool.and_eq_true, beq_iff_eq, beq_iff_eq] at h
    obtain ⟨rfl, rfl⟩ := h
    rfl
  · exact absurd h nofun

theorem lists_firstPauseFirst : Lists (some "/a.yaml") opposite
    [(.text firstPause.1, .int firstPause.2), (.text longestPause.1, .int longestPause.2)] :=
  ⟨firstPauseFirst, rfl, eq_of_pair (by decide +kernel)⟩

theorem lists_firstPauseLast : Lists (some "/b.yaml") opposite
    [(.text longestPause.1, .int longestPause.2), (.text firstPause.1, .int firstPause.2)] :=
  ⟨firstPauseLast, rfl, eq_of_pair (by decide +kernel)⟩

def isRejected : Outcome Settings → Bool
  | .error (.rejected _) => true
  | _ => false

/-- Both files are refused, with the same complaints. -/
theorem load_rearranged_opposite : ∃ cs cs',
    load (some "/a.yaml") opposite = (.error (.rejected cs), opposite) ∧
      load (some "/b.yaml") opposite = (.error (.rejected cs'), opposite) ∧ cs.Perm cs' := by
  have hrejected : isRejected (load (some "/a.yaml") opposite).1 = true := by decide +kernel
  have hkeys : ([firstPause, longestPause].map fun pause => Datum.text pause.1).Nodup := by
    simp [firstPause, longestPause, Text.ofString, CodePoint.ofChar]
  rcases load_rearranged rfl lists_firstPauseFirst lists_firstPauseLast hkeys
    (List.Perm.swap _ _ _) with ⟨s, events, hload, -⟩ | hsame | ⟨fault, hunnamed, hload, -⟩
  · rw [hload] at hrejected
    exact absurd hrejected Bool.false_ne_true
  · exact hsame
  · rw [hload] at hrejected
    rcases hunnamed with rfl | ⟨run, rfl⟩ <;> exact absurd hrejected Bool.false_ne_true

end Settings

end LaunchIndex
