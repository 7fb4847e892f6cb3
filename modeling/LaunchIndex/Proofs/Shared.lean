import Mathlib.Data.List.DropRight
import LaunchIndex.Preferences
import LaunchIndex.Proofs.Refusals

/-! Reading the preferences that the panel shares. Whatever a file holds, either it is no text,
or has an integer of too many digits, and then each reading fails; or each gives a value in its
bounds, which is the default unless the file is a document with a table for the panel. -/

namespace LaunchIndex

namespace Text

theorem trim_eq (t : Text) :
    t.trim = (t.dropWhile CharSet.isBlank).rdropWhile CharSet.isBlank := rfl

/-- A trimmed text has no blank to drop at its start: its first code point is that of the text
without the blanks in front. -/
theorem dropWhile_trim (t : Text) : t.trim.dropWhile CharSet.isBlank = t.trim := by
  obtain ⟨rest, hrest⟩ := List.rdropWhile_prefix CharSet.isBlank (t.dropWhile CharSet.isBlank)
  rw [← trim_eq] at hrest
  cases htrim : t.trim with
  | nil => rfl
  | cons c more =>
    have hne : t.dropWhile CharSet.isBlank ≠ [] := by rw [← hrest, htrim]; simp
    have hc := List.head_dropWhile_not CharSet.isBlank hne
    simp only [← hrest, htrim, List.cons_append, List.head_cons] at hc
    simp [hc]

theorem trim_trim (t : Text) : t.trim.trim = t.trim := by
  rw [trim_eq t.trim, dropWhile_trim, trim_eq t, List.rdropWhile_idempotent]

theorem lower_ne_nil {t : Text} (h : t ≠ []) : t.lower ≠ [] := by
  cases t with
  | nil => exact absurd rfl h
  | cons c rest =>
    unfold lower LowerCase.lowerFrom
    dsimp only
    split
    · simp
    · split <;> simp

end Text

namespace Shortcut

theorem convertPart_ne_nil {part : Text} (h : part ≠ []) : convertPart part ≠ [] := by
  unfold convertPart
  split
  · simp
  · exact Text.lower_ne_nil h

theorem convert_ne_nil {shortcut converted : Text} (h : convert shortcut = some converted) :
    converted ≠ [] := by
  unfold convert at h
  split at h
  · simp at h
  · next hsome =>
    obtain ⟨part, hpart, hne⟩ : ∃ part ∈ parts shortcut, part ≠ [] := by
      simpa [List.all_eq_true] using hsome
    rw [← Option.some.inj h]
    intro hnil
    exact convertPart_ne_nil hne (List.flatMap_eq_nil_iff.mp hnil part hpart)

end Shortcut

namespace Preferences

open Toml (Entries)

/-! ### Values in bounds -/

theorem shortcutIn_trimmed {preferences : Entries} {t : Text}
    (h : shortcutIn preferences = some t) : t ≠ [] ∧ t.trim = t := by
  unfold shortcutIn at h
  split at h
  · next u _ =>
    split at h
    · simp at h
    · next hblank =>
      rw [← Option.some.inj h]
      exact ⟨fun hnil => hblank ((Text.trim_eq_nil_iff u).mp hnil), Text.trim_trim u⟩
  · simp at h

theorem one_le_maxResultsIn (preferences : Entries) : 1 ≤ maxResultsIn preferences := by
  unfold maxResultsIn
  split
  · split
    · assumption
    · decide
  · decide

/-- The shortcut for the key binder that stands for one as it is written. -/
def resolved (shortcut : Option Text) : Text :=
  (shortcut.bind Shortcut.convert).getD Shortcut.default

theorem resolved_ne_nil (shortcut : Option Text) : resolved shortcut ≠ [] := by
  unfold resolved
  cases hconvert : shortcut.bind Shortcut.convert with
  | none => decide
  | some converted =>
    obtain ⟨t, -, ht⟩ := Option.bind_eq_some_iff.mp hconvert
    exact Shortcut.convert_ne_nil ht

/-! ### Reading -/

def fileName (path : Option Text) (w : World) : Text :=
  path.getD w.environment.indexerConfigPath

/-- The file is a document with a table for the panel. -/
def HasTable (path : Option Text) (w : World) : Prop :=
  ∃ bytes entries origin inner, w.disk.bytes? (fileName path w) = .ok (some bytes) ∧
    Toml.ofBytes bytes = .ok entries ∧ entries.get? "ui" = some (.table origin inner)

/-- The file is a document whose table for the panel has an item under a name. -/
def Says (path : Option Text) (w : World) (name : Text) (item : Toml.Item) : Prop :=
  ∃ bytes entries origin inner, w.disk.bytes? (fileName path w) = .ok (some bytes) ∧
    Toml.ofBytes bytes = .ok entries ∧ entries.get? "ui" = some (.table origin inner) ∧
    Entries.get? inner name = some item

/-- The file holds bytes that no reading gets over: they are no text, or the text has an integer
of too many digits. -/
def Breaks (path : Option Text) (w : World) (fault : Fault) : Prop :=
  ∃ bytes, w.disk.bytes? (fileName path w) = .ok (some bytes) ∧
    Toml.ofBytes bytes = .error fault ∧
    ((fault = .undecodable ∧ Text.Utf8.decode? bytes = none) ∨
      ∃ cs n, Text.Utf8.decode? bytes = some cs ∧ fault = .tooManyDigits n ∧
        Text.maxDigits < n ∧ n ≤ cs.countP Char.isDigit)

/-- The table is not reached only in a file that breaks every reading. -/
theorem table_cases (path : Option Text) (w : World) :
    (∃ fault, Breaks path w fault ∧ (table path w).1 = .error fault) ∨
      ∃ preferences, (table path w).1 = .ok preferences ∧
        (¬HasTable path w → preferences = []) := by
  unfold table
  dsimp only
  split
  · exact .inr ⟨[], rfl, fun _ => rfl⟩
  · next bytes hbytes =>
    split
    · next entries hentries =>
      refine .inr ⟨_, rfl, fun htable => ?_⟩
      unfold tableAt
      split
      · next origin inner hinner => exact absurd ⟨_, _, _, _, hbytes, hentries, hinner⟩ htable
      · rfl
    · exact .inr ⟨[], rfl, fun _ => rfl⟩
    · next fault hne hfault =>
      exact .inl ⟨fault, ⟨bytes, hbytes, hfault, Toml.refusal_of_ofBytes hfault hne⟩, rfl⟩
  · exact .inr ⟨[], rfl, fun _ => rfl⟩

theorem get?_tableAt {entries : Entries} {name key : Text} {item : Toml.Item} :
    (tableAt entries name).get? key = some item ↔
      ∃ origin inner, entries.get? name = some (.table origin inner) ∧
        Entries.get? inner key = some item := by
  unfold tableAt
  split
  · next origin inner htable =>
    refine ⟨fun hitem => ⟨origin, inner, htable, hitem⟩, ?_⟩
    rintro ⟨origin', inner', htable', hitem⟩
    cases htable.symm.trans htable'
    exact hitem
  · next hnone =>
    refine ⟨fun hitem => absurd hitem nofun, fun ⟨origin, inner, htable, _⟩ => ?_⟩
    exact absurd htable (hnone origin inner)

theorem says_iff {path : Option Text} {w : World} {bytes : Text.Bytes} {entries : Entries}
    (hbytes : w.disk.bytes? (fileName path w) = .ok (some bytes))
    (hentries : Toml.ofBytes bytes = .ok entries) {name : Text} {item : Toml.Item} :
    Says path w name item ↔ (tableAt entries "ui").get? name = some item := by
  rw [get?_tableAt]
  constructor
  · rintro ⟨bytes', entries', origin, inner, hbytes', hentries', hrest⟩
    cases hbytes.symm.trans hbytes'
    cases hentries.symm.trans hentries'
    exact ⟨origin, inner, hrest⟩
  · rintro ⟨origin, inner, hrest⟩
    exact ⟨bytes, entries, origin, inner, hbytes, hentries, hrest⟩

/-- Preferences are what the file says. A file that is no document says nothing. -/
theorem get?_table_iff {path : Option Text} {w : World} {preferences : Entries}
    (h : (table path w).1 = .ok preferences) (name : Text) (item : Toml.Item) :
    preferences.get? name = some item ↔ Says path w name item := by
  have hnone : preferences = [] → (∀ bytes entries,
      w.disk.bytes? (fileName path w) = .ok (some bytes) → Toml.ofBytes bytes ≠ .ok entries) →
      (preferences.get? name = some item ↔ Says path w name item) := by
    rintro rfl hno
    refine ⟨fun hitem => absurd hitem nofun, ?_⟩
    rintro ⟨bytes, entries, -, -, hbytes, hentries, -⟩
    exact absurd hentries (hno bytes entries hbytes)
  unfold table at h
  dsimp only at h
  split at h
  · next hbytes =>
    exact hnone (Except.ok.inj h).symm fun _ _ hbytes' => absurd (hbytes.symm.trans hbytes') nofun
  · next bytes hbytes =>
    split at h
    · next entries hentries => exact Except.ok.inj h ▸ (says_iff hbytes hentries).symm
    · next hfault =>
      refine hnone (Except.ok.inj h).symm fun bytes' entries hbytes' hentries => ?_
      cases hbytes.symm.trans hbytes'
      exact absurd (hfault.symm.trans hentries) nofun
    · exact absurd h nofun
  · next hbytes =>
    exact hnone (Except.ok.inj h).symm fun _ _ hbytes' => absurd (hbytes.symm.trans hbytes') nofun

theorem resolvedShortcut_fst (path : Option Text) (w : World) :
    (resolvedShortcut path w).1 = (keyboardShortcut path w).1.map resolved := by
  unfold resolvedShortcut resolved
  split
  · next h => rw [h]; rfl
  · next shortcut _ h =>
    rw [h]
    cases hconvert : shortcut.bind Shortcut.convert with
    | none => simp [Except.map, hconvert]
    | some converted => simp [Except.map, hconvert]

/-- Whatever the file is, either it breaks all three readings alike, or the shortcut is absent or
trimmed text, the number of results is positive and there is a shortcut for the key binder. These
are the defaults unless the file is a document with a table for the panel. -/
theorem readings (path : Option Text) (w : World) :
    (∃ fault, Breaks path w fault ∧ (keyboardShortcut path w).1 = .error fault ∧
      (maxResults path w).1 = .error fault ∧ (resolvedShortcut path w).1 = .error fault) ∨
      ∃ shortcut count binding, (keyboardShortcut path w).1 = .ok shortcut ∧
        (maxResults path w).1 = .ok count ∧ (resolvedShortcut path w).1 = .ok binding ∧
        (∀ t, shortcut = some t → t ≠ [] ∧ t.trim = t) ∧ 1 ≤ count ∧ binding ≠ [] ∧
        (¬HasTable path w →
          shortcut = none ∧ count = 50 ∧ binding = Text.ofString "<Super>space") := by
  rcases table_cases path w with ⟨fault, hbreaks, htable⟩ | ⟨preferences, htable, hnone⟩
  · have hshortcut : (keyboardShortcut path w).1 = .error fault := by
      simp [keyboardShortcut, htable, Except.map]
    refine .inl ⟨fault, hbreaks, hshortcut, ?_, ?_⟩
    · simp [maxResults, htable, Except.map]
    · rw [resolvedShortcut_fst, hshortcut]
      rfl
  · have hshortcut : (keyboardShortcut path w).1 = .ok (shortcutIn preferences) := by
      simp [keyboardShortcut, htable, Except.map]
    refine .inr ⟨shortcutIn preferences, maxResultsIn preferences,
      resolved (shortcutIn preferences), hshortcut, ?_, ?_, fun t => shortcutIn_trimmed,
      one_le_maxResultsIn preferences, resolved_ne_nil _, fun habsent => ?_⟩
    · simp [maxResults, htable, Except.map]
    · rw [resolvedShortcut_fst, hshortcut]
      rfl
    · rw [hnone habsent]
      exact ⟨rfl, rfl, rfl⟩

def undecodableStart : World where
  environment := { assignments := [], workingDirectory := "/" }
  disk := { entries := [(["config.toml"], .file 0)], contents := [(0, .bytes [0xFF])] }

/-- Not every file leaves the readings whole. -/
theorem not_readings :
    ¬∀ (path : Option Text) (w : World), ∃ shortcut count binding,
      (keyboardShortcut path w).1 = .ok shortcut ∧ (maxResults path w).1 = .ok count ∧
        (resolvedShortcut path w).1 = .ok binding ∧
        (∀ t, shortcut = some t → t ≠ [] ∧ t.trim = t) ∧ 1 ≤ count ∧ binding ≠ [] ∧
        (¬HasTable path w →
          shortcut = none ∧ count = 50 ∧ binding = Text.ofString "<Super>space") := by
  intro hall
  obtain ⟨shortcut, -, -, hshortcut, -⟩ := hall (some "/config.toml") undecodableStart
  have hfails : (keyboardShortcut (some "/config.toml") undecodableStart).1.isOk = false := by
    decide +kernel
  rw [hshortcut] at hfails
  exact absurd hfails (by simp [Except.isOk, Except.toBool])

end Preferences

end LaunchIndex
