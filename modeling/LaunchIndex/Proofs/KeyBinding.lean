import LaunchIndex.Proofs.Shared
import LaunchIndex.Proofs.SmallLetters

/-! Shortcuts for the key binder. A shortcut is converted part by part, and white space and blank
parts are of no account. From the conversion of modifier keys and a key the names of the modifier
keys and the key in small letters are read back. A document that gives a shortcut with a part that
is not blank gives its conversion to the key binder, and any other document the default. -/

namespace LaunchIndex

namespace Text

theorem trim_append_left {before : Text} (hbefore : before.isBlank = true) (t : Text) :
    trim (before ++ t) = trim t := by
  rw [trim_eq, List.dropWhile_append_of_pos (List.all_eq_true.mp hbefore), ← trim_eq]

theorem trim_append_right {after : Text} (hafter : after.isBlank = true) (t : Text) :
    trim (t ++ after) = trim t := by
  have hblank : ∀ c ∈ after, CharSet.isBlank c = true := List.all_eq_true.mp hafter
  rw [trim_eq, trim_eq, List.dropWhile_append]
  split
  · next hnil =>
    rw [List.isEmpty_iff.mp hnil, List.dropWhile_eq_nil_iff.mpr hblank]
  · rw [List.rdropWhile, List.rdropWhile, List.reverse_append, List.dropWhile_append_of_pos]
    exact fun c hc => hblank c (List.mem_reverse.mp hc)

/-- A text is its trimmed text with white space around it. -/
theorem exists_eq_pad (t : Text) : ∃ before after : Text,
    before.isBlank = true ∧ after.isBlank = true ∧ t = before ++ t.trim ++ after := by
  refine ⟨t.takeWhile CharSet.isBlank, (t.dropWhile CharSet.isBlank).rtakeWhile CharSet.isBlank,
    List.all_eq_true.mpr fun _ => List.mem_takeWhile_imp,
    List.all_eq_true.mpr fun _ => List.mem_rtakeWhile_imp, ?_⟩
  rw [trim_eq, List.append_assoc, List.rdropWhile_append_rtakeWhile,
    List.takeWhile_append_dropWhile]

theorem trim_eq_self {t : Text} (h : ∀ c ∈ t, CharSet.isBlank c = false) : t.trim = t := by
  have hfirst : t.dropWhile CharSet.isBlank = t := List.dropWhile_eq_self_iff.mpr fun hl =>
    Bool.eq_false_iff.mp (h _ (List.get_mem t ⟨0, hl⟩))
  have hlast : t.rdropWhile CharSet.isBlank = t := List.rdropWhile_eq_self_iff.mpr fun hl =>
    Bool.eq_false_iff.mp (h _ (List.getLast_mem hl))
  rw [trim_eq, hfirst, hlast]

end Text

namespace Shortcut

/-! ### Parts -/

theorem parts_append (a b : Text) : parts (a ++ plus :: b) = parts a ++ parts b := by
  rw [parts, Text.splitOn_append, List.map_append, parts, parts]

theorem parts_of_notMem {t : Text} (h : plus ∉ t) : parts t = [t.trim] := by
  rw [parts, Text.splitOn_of_notMem h, List.map_singleton]

theorem plus_notMem {t : Text} (h : t.isBlank = true) : plus ∉ t := fun hmem =>
  absurd (List.all_eq_true.mp h plus hmem) (by decide)

theorem parts_append_left {before : Text} (hbefore : before.isBlank = true) (t : Text) :
    parts (before ++ t) = parts t := by
  have hfirst : ∀ u, plus ∉ u → parts (before ++ u) = parts u := by
    intro u hu
    rw [parts_of_notMem hu, parts_of_notMem (List.not_mem_append (plus_notMem hbefore) hu),
      Text.trim_append_left hbefore]
  by_cases hplus : plus ∈ t
  · obtain ⟨a, b, rfl, ha⟩ := List.eq_append_cons_of_mem hplus
    rw [← List.append_assoc, parts_append, parts_append, hfirst a ha]
  · exact hfirst t hplus

/-- The last part is found by induction on the length of what follows the first separator. -/
theorem parts_append_right {after : Text} (hafter : after.isBlank = true) (t : Text) :
    parts (t ++ after) = parts t := by
  induction hlength : t.length using Nat.strong_induction_on generalizing t with
  | _ n ih =>
    by_cases hplus : plus ∈ t
    · obtain ⟨a, b, rfl, -⟩ := List.eq_append_cons_of_mem hplus
      have hshorter : b.length < n := by
        rw [List.length_append, List.length_cons] at hlength
        omega
      rw [List.append_assoc, List.cons_append, parts_append, parts_append, ih _ hshorter b rfl]
    · rw [parts_of_notMem hplus, parts_of_notMem (List.not_mem_append hplus (plus_notMem hafter)),
        Text.trim_append_right hafter]

/-- The text of a conversion; without one it is empty. -/
def converted (shortcut : Text) : Text := (convert shortcut).getD []

theorem convertPart_nil : convertPart [] = [] := by decide

theorem convert_eq_none_iff {shortcut : Text} :
    convert shortcut = none ↔ ∀ part ∈ shortcut.splitOn plus, part.isBlank = true := by
  simp [convert, parts, Text.trim_eq_nil_iff]

theorem exists_convert_iff {shortcut : Text} :
    (∃ converted, convert shortcut = some converted) ↔
      ∃ part ∈ shortcut.splitOn plus, part.isBlank = false := by
  rw [← Option.ne_none_iff_exists', ne_eq, convert_eq_none_iff]
  simp

theorem converted_eq (shortcut : Text) :
    converted shortcut = (parts shortcut).flatMap convertPart := by
  unfold converted convert
  split
  · next hblank =>
    symm
    refine List.flatMap_eq_nil_iff.mpr fun part hpart => ?_
    rw [List.isEmpty_iff.mp (List.all_eq_true.mp hblank part hpart), convertPart_nil]
  · rfl

theorem converted_append (a b : Text) :
    converted (a ++ plus :: b) = converted a ++ converted b := by
  simp only [converted_eq, parts_append, List.flatMap_append]

theorem convert_trim (shortcut : Text) : convert shortcut.trim = convert shortcut := by
  obtain ⟨before, after, hbefore, hafter, heq⟩ := Text.exists_eq_pad shortcut
  have hparts : parts (before ++ shortcut.trim ++ after) = parts shortcut.trim := by
    rw [parts_append_right hafter, parts_append_left hbefore]
  rw [← heq] at hparts
  rw [convert, ← hparts, ← convert]

theorem convertValue_text (shortcut : Text) :
    convertValue (.text shortcut) = .ok (convert shortcut) := by
  cases shortcut with
  | nil => rfl
  | cons c rest => rfl

/-! ### Reading back -/

def modifierNames : List Text := ["super", "ctrl", "control", "alt", "shift"]

/-- Parts with white space around them and blank parts between them. -/
inductive Spaced : List Text → List Text → Prop
  | nil : Spaced [] []
  | blank {parts spaced : List Text} {part : Text} (hblank : part.isBlank = true)
      (h : Spaced parts spaced) : Spaced parts (part :: spaced)
  | part {parts spaced : List Text} {before after : Text} (part : Text)
      (hbefore : before.isBlank = true) (hafter : after.isBlank = true)
      (h : Spaced parts spaced) : Spaced (part :: parts) ((before ++ part ++ after) :: spaced)

/-- Parts that spell modifier keys, in letters of any case, and at last a key. -/
structure Spelling (names : List Text) (key : Text) (parts : List Text) : Prop where
  modifiers : ∀ name ∈ names, name.lower ∈ modifierNames
  nonempty : key ≠ []
  trimmed : key.trim = key
  plain : plus ∉ key ∧ CodePoint.ofChar '<' ∉ key ∧ CodePoint.ofChar '>' ∉ key
  unmodified : key.lower ∉ modifierNames
  spaced : Spaced (names ++ [key]) parts

/-- Modifier keys and a key as the key binder writes them. -/
def bound (names : List Text) (key : Text) : Text :=
  names.flatMap (fun name => CodePoint.ofChar '<' :: name ++ [CodePoint.ofChar '>']) ++ key

/-- The groups in angle brackets at the start of a text, without their brackets, and what follows
them. -/
def readBack : Text → List Text × Text
  | [] => ([], [])
  | c :: rest =>
    if c = CodePoint.ofChar '<' ∧ CodePoint.ofChar '>' ∈ rest then
      let (groups, key) := readBack (rest.dropWhile (· ≠ CodePoint.ofChar '>')).tail
      (rest.takeWhile (· ≠ CodePoint.ofChar '>') :: groups, key)
    else ([], c :: rest)
termination_by t => t.length
decreasing_by
  have hshorter := (List.dropWhile_suffix (· ≠ CodePoint.ofChar '>') (l := rest)).length_le
  simp only [List.length_tail, List.length_cons]
  omega

theorem isModifier_iff (part : Text) : isModifier part = true ↔ part.lower ∈ modifierNames := by
  have hperm : modifiers.Perm modifierNames := by decide
  rw [isModifier, List.contains_iff_mem, hperm.mem_iff]

theorem plain_of_modifier {name : Text} (hname : name.lower ∈ modifierNames) :
    ∀ c ∈ name, 0x41 ≤ c.val ∧ Text.CharSet.isBlank c = false := by
  have hsmall : ∀ d ∈ name.lower, 0x41 ≤ d.val ∧ Text.CharSet.isBlank d = false := by
    have hall : ∀ small ∈ modifierNames,
        small.all (fun d => 0x41 ≤ d.val && !Text.CharSet.isBlank d) = true := by decide
    simpa using hall name.lower hname
  -- a sign or a blank in the name would be in its small letters, too
  intro c hc
  constructor
  · by_contra hsign
    exact hsign (hsmall c ((Text.mem_lower_iff (by omega)).mpr hc)).1
  · by_contra hblank
    have hblank : Text.CharSet.isBlank c = true := by simpa using hblank
    rw [(hsmall c (Text.mem_lower_of_isBlank hblank hc)).2] at hblank
    exact absurd hblank nofun

theorem sign_notMem {name : Text} (hname : name.lower ∈ modifierNames) {c : CodePoint}
    (hc : c.val < 0x41) : c ∉ name := fun hmem =>
  absurd (plain_of_modifier hname c hmem).1 (by omega)

namespace Spaced

variable {bare spaced : List Text}

theorem ne_nil (h : Spaced bare spaced) (hne : bare ≠ []) : spaced ≠ [] := by
  cases h with
  | nil => exact absurd rfl hne
  | blank => nofun
  | part => nofun

theorem plus_notMem (h : Spaced bare spaced) (hbare : ∀ part ∈ bare, plus ∉ part) :
    ∀ part ∈ spaced, plus ∉ part := by
  induction h with
  | nil => exact hbare
  | blank hblank _ ih =>
    exact List.forall_mem_cons.mpr ⟨Shortcut.plus_notMem hblank, ih hbare⟩
  | part part hbefore hafter _ ih =>
    rw [List.forall_mem_cons] at hbare
    refine List.forall_mem_cons.mpr ⟨?_, ih hbare.2⟩
    exact List.not_mem_append (List.not_mem_append (Shortcut.plus_notMem hbefore) hbare.1)
      (Shortcut.plus_notMem hafter)

theorem flatMap_convertPart (h : Spaced bare spaced) :
    (spaced.map Text.trim).flatMap convertPart = (bare.map Text.trim).flatMap convertPart := by
  induction h with
  | nil => rfl
  | blank hblank _ ih =>
    rw [List.map_cons, List.flatMap_cons, (Text.trim_eq_nil_iff _).mpr hblank, convertPart_nil, ih,
      List.nil_append]
  | part part hbefore hafter _ ih =>
    rw [List.map_cons, List.flatMap_cons, Text.trim_append_right hafter,
      Text.trim_append_left hbefore, ih, List.map_cons, List.flatMap_cons]

end Spaced

theorem readBack_bound {names : List Text} {key : Text}
    (hnames : ∀ name ∈ names, CodePoint.ofChar '>' ∉ name) (hkey : CodePoint.ofChar '<' ∉ key) :
    readBack (bound names key) = (names, key) := by
  induction names with
  | nil =>
    cases key with
    | nil => rw [bound, List.flatMap_nil, List.nil_append, readBack]
    | cons c rest =>
      rw [List.mem_cons, not_or] at hkey
      rw [bound, List.flatMap_nil, List.nil_append, readBack, if_neg fun h => hkey.1 h.1.symm]
  | cons name names ih =>
    rw [List.forall_mem_cons] at hnames
    have hbound : bound (name :: names) key =
        CodePoint.ofChar '<' :: (name ++ CodePoint.ofChar '>' :: bound names key) := by
      simp [bound]
    have hwithin : ∀ c ∈ name, (decide (c ≠ CodePoint.ofChar '>')) = true := fun c hc =>
      decide_eq_true fun heq => hnames.1 (heq ▸ hc)
    rw [hbound, readBack, if_pos ⟨rfl, by simp⟩, List.takeWhile_append_of_pos hwithin,
      List.dropWhile_append_of_pos hwithin]
    simp [ih hnames.2]

namespace Spelling

variable {names : List Text} {key : Text} {parts : List Text}

theorem convert_join (h : Spelling names key parts) :
    convert (Text.join [plus] parts) = some (bound names key.lower) := by
  have hplus : ∀ part ∈ names ++ [key], plus ∉ part := by
    intro part hpart
    rcases List.mem_append.mp hpart with hname | hkey
    · exact sign_notMem (h.modifiers part hname) (by decide)
    · rw [List.mem_singleton.mp hkey]
      exact h.plain.1
  have hparts : Shortcut.parts (Text.join [plus] parts) = parts.map Text.trim := by
    rw [Shortcut.parts, Text.splitOn_join (h.spaced.ne_nil (by simp)) (h.spaced.plus_notMem hplus)]
  have hnames : (names.map Text.trim).flatMap convertPart =
      names.flatMap (fun name => CodePoint.ofChar '<' :: name ++ [CodePoint.ofChar '>']) := by
    rw [List.flatMap_map]
    refine List.flatMap_congr fun name hname => ?_
    have hmodifier := h.modifiers name hname
    rw [Text.trim_eq_self fun c hc => (plain_of_modifier hmodifier c hc).2, convertPart,
      if_pos ((isModifier_iff name).mpr hmodifier)]
  have hkey : convertPart key = key.lower := by
    rw [convertPart, if_neg fun hmodifier => h.unmodified ((isModifier_iff key).mp hmodifier)]
  have hconverted : converted (Text.join [plus] parts) = bound names key.lower := by
    rw [converted_eq, hparts, h.spaced.flatMap_convertPart, List.map_append, List.flatMap_append,
      hnames, List.map_singleton, h.trimmed, List.flatMap_singleton, hkey, bound]
  rw [← hconverted, converted]
  cases hconvert : convert (Text.join [plus] parts) with
  | none =>
    rw [converted, hconvert, bound] at hconverted
    exact absurd (List.append_eq_nil_iff.mp hconverted.symm).2 (Text.lower_ne_nil h.nonempty)
  | some text => rfl

theorem readBack_eq (h : Spelling names key parts) :
    readBack (bound names key.lower) = (names, key.lower) := by
  refine readBack_bound (fun name hname => sign_notMem (h.modifiers name hname) (by decide)) ?_
  rw [Text.mem_lower_iff (by decide)]
  exact h.plain.2.1

end Spelling

/-- A shortcut of modifier keys and a key converts to the groups of their names and the key in small
letters, whatever white space and blank parts it is written with, and these can be read back. So two
shortcuts have one conversion exactly if they spell the same modifier keys in the same order and
have the same key in small letters. -/
theorem convert_readable {names names' : List Text} {key key' : Text} {parts parts' : List Text}
    (h : Spelling names key parts) (h' : Spelling names' key' parts') :
    convertValue (.text (Text.join [plus] parts)) = .ok (some (bound names key.lower)) ∧
      readBack (bound names key.lower) = (names, key.lower) ∧
      (convertValue (.text (Text.join [plus] parts)) =
        convertValue (.text (Text.join [plus] parts')) ↔
          names = names' ∧ key.lower = key'.lower) := by
  rw [convertValue_text, convertValue_text, h.convert_join, h'.convert_join]
  refine ⟨rfl, h.readBack_eq, fun hsame => ?_, ?_⟩
  · have hbound := Option.some.inj (Except.ok.inj hsame)
    have hread := congrArg readBack hbound
    rw [h.readBack_eq, h'.readBack_eq] at hread
    exact Prod.mk.inj hread
  · rintro ⟨rfl, hkey⟩
    rw [hkey]

def spacedParts : List Text := [" Ctrl ", "", "ALT", "\tF"]

theorem spelling_spacedParts : Spelling ["Ctrl", "ALT"] "F" spacedParts where
  modifiers := by decide +kernel
  nonempty := by decide
  trimmed := by decide +kernel
  plain := by decide +kernel
  unmodified := by decide +kernel
  spaced :=
    have key : Spaced ["F"] ["\tF"] := @Spaced.part _ _ "\t" [] "F" rfl rfl .nil
    have modifier : Spaced ["ALT", "F"] ["ALT", "\tF"] := @Spaced.part _ _ [] [] "ALT" rfl rfl key
    @Spaced.part _ _ " " " " "Ctrl" rfl rfl (.blank rfl modifier)

theorem spelling_bareParts : Spelling ["Alt"] "f" ["Alt", "f"] where
  modifiers := by decide +kernel
  nonempty := by decide
  trimmed := by decide +kernel
  plain := by decide +kernel
  unmodified := by decide +kernel
  spaced := @Spaced.part _ _ [] [] "Alt" rfl rfl (@Spaced.part _ _ [] [] "f" rfl rfl .nil)

/-- The keys agree, the modifier keys do not. -/
theorem convert_readable_spacedParts :
    convertValue (.text (Text.join [plus] spacedParts)) =
        .ok (some (bound ["Ctrl", "ALT"] (Text.lower "F"))) ∧
      readBack (bound ["Ctrl", "ALT"] (Text.lower "F")) =
        ([Text.ofString "Ctrl", Text.ofString "ALT"], Text.lower "F") ∧
      convertValue (.text (Text.join [plus] spacedParts)) ≠
        convertValue (.text (Text.join [plus] ["Alt", "f"])) := by
  obtain ⟨hconvert, hread, hsame⟩ := convert_readable spelling_spacedParts spelling_bareParts
  exact ⟨hconvert, hread, fun heq => absurd (hsame.mp heq).1 (by decide)⟩

end Shortcut

namespace Preferences

/-! ### The shortcut of a document -/

open Toml (Entries)
open Shortcut (plus converted)

theorem bind_shortcutIn_eq_some {preferences : Entries} {converted : Text} :
    (shortcutIn preferences).bind Shortcut.convert = some converted ↔
      ∃ written, preferences.get? "keyboard_shortcut" = some (.text written) ∧
        Shortcut.convert written = some converted := by
  unfold shortcutIn
  split
  · next written hwritten =>
    have hbind : (if written.isBlank then none else some written.trim).bind Shortcut.convert =
        Shortcut.convert written := by
      rw [← Shortcut.convert_trim written]
      split
      · next hblank => rw [(Text.trim_eq_nil_iff written).mpr hblank]; rfl
      · rfl
    rw [hbind]
    refine ⟨fun h => ⟨written, hwritten, h⟩, ?_⟩
    rintro ⟨written', hwritten', h⟩
    cases hwritten.symm.trans hwritten'
    exact h
  · next hnone =>
    constructor
    · intro h
      cases h
    · rintro ⟨written, hwritten, -⟩
      exact absurd hwritten (hnone written)

theorem resolvedShortcut_eq {path : Option Text} {w : World} {preferences : Entries}
    (h : table path w = (.ok preferences, w)) :
    resolvedShortcut path w =
      match (shortcutIn preferences).bind Shortcut.convert with
      | some converted => (.ok converted, w.log (Event.configuredShortcut converted))
      | none => (.ok Shortcut.default, w.log (Event.defaultShortcut Shortcut.default)) := by
  unfold resolvedShortcut keyboardShortcut
  rw [h]
  rfl

/-- The file gives a shortcut, and some part of it is not blank. -/
def Configures (path : Option Text) (w : World) (written : Text) : Prop :=
  Says path w "keyboard_shortcut" (.text written) ∧
    ∃ part ∈ written.splitOn plus, part.isBlank = false

/-- The conversion of a shortcut is made of those of its parts, and it is missing only where all of
them are blank. A document that configures a shortcut gives its conversion to the key binder, and
any other the default. -/
theorem shortcut_of_parts :
    (∀ s, Shortcut.convertValue (.text s) = .ok (Shortcut.convert s)) ∧
    (∀ a b, converted (a ++ plus :: b) = converted a ++ converted b) ∧
    (∀ s, Shortcut.convert s = none ↔ ∀ part ∈ s.splitOn plus, part.isBlank = true) ∧
    (∀ s, Shortcut.convert s ≠ some []) ∧
    ∀ path w bytes entries, w.disk.bytes? (fileName path w) = .ok (some bytes) →
      Toml.ofBytes bytes = .ok entries →
      (∀ written, Configures path w written → ∃ converted,
        Shortcut.convert written = some converted ∧
          resolvedShortcut path w = (.ok converted, w.log (Event.configuredShortcut converted))) ∧
      ((∀ written, ¬Configures path w written) →
        resolvedShortcut path w =
          (.ok Shortcut.default, w.log (Event.defaultShortcut Shortcut.default))) := by
  refine ⟨Shortcut.convertValue_text, Shortcut.converted_append,
    fun s => Shortcut.convert_eq_none_iff, fun s hs => Shortcut.convert_ne_nil hs rfl,
    fun path w bytes entries hbytes hentries => ?_⟩
  have htable : table path w = (.ok (tableAt entries "ui"), w) := by
    rw [fileName] at hbytes
    unfold table
    simp only [hbytes, hentries]
  rw [resolvedShortcut_eq htable]
  constructor
  · rintro written ⟨hwritten, hpart⟩
    obtain ⟨converted, hconverted⟩ := Shortcut.exists_convert_iff.mpr hpart
    have hitem := (says_iff hbytes hentries).mp hwritten
    rw [bind_shortcutIn_eq_some.mpr ⟨written, hitem, hconverted⟩]
    exact ⟨converted, hconverted, rfl⟩
  · intro hnone
    have hbind : (shortcutIn (tableAt entries "ui")).bind Shortcut.convert = none := by
      refine Option.eq_none_iff_forall_ne_some.mpr fun converted hconverted => ?_
      obtain ⟨written, hwritten, hconvert⟩ := bind_shortcutIn_eq_some.mp hconverted
      exact hnone written ⟨(says_iff hbytes hentries).mpr hwritten,
        Shortcut.exists_convert_iff.mp ⟨converted, hconvert⟩⟩
    rw [hbind]

/-- A start with one file, in which the shortcut has white space around its parts. -/
def spacedBytes : Text.Bytes := "ui.keyboard_shortcut = ' Ctrl + K '".toUTF8.toList

def spacedStart : World where
  environment := { assignments := [], workingDirectory := "/" }
  disk := { entries := [(["config.toml"], .file 0)], contents := [(0, .bytes spacedBytes)] }

theorem ofBytes_spacedBytes : ∃ entries, Toml.ofBytes spacedBytes = .ok entries ∧
    (shortcutIn (tableAt entries "ui")).bind Shortcut.convert = some (Text.ofString "<Ctrl>k") := by
  have hconverted : ((Toml.ofBytes spacedBytes).toOption.map fun entries =>
      (shortcutIn (tableAt entries "ui")).bind Shortcut.convert) =
        some (some (Text.ofString "<Ctrl>k")) := by
    decide +kernel
  cases hentries : Toml.ofBytes spacedBytes with
  | error fault => simp [hentries, Except.toOption] at hconverted
  | ok entries => exact ⟨entries, rfl, by simpa [hentries, Except.toOption] using hconverted⟩

theorem shortcut_of_parts_spacedStart : ∃ written,
    Configures (some "/config.toml") spacedStart written ∧
      resolvedShortcut (some "/config.toml") spacedStart =
        (.ok "<Ctrl>k", spacedStart.log (Event.configuredShortcut "<Ctrl>k")) := by
  obtain ⟨entries, hentries, hbind⟩ := ofBytes_spacedBytes
  obtain ⟨written, hwritten, hvalue⟩ := bind_shortcutIn_eq_some.mp hbind
  have hconfigures : Configures (some "/config.toml") spacedStart written :=
    ⟨(says_iff rfl hentries).mpr hwritten, Shortcut.exists_convert_iff.mp ⟨_, hvalue⟩⟩
  obtain ⟨converted, hconvert, hresolved⟩ := (shortcut_of_parts.2.2.2.2 (some "/config.toml")
    spacedStart spacedBytes entries rfl hentries).1 written hconfigures
  obtain rfl := Option.some.inj (hconvert.symm.trans hvalue)
  exact ⟨written, hconfigures, hresolved⟩

end Preferences

end LaunchIndex
