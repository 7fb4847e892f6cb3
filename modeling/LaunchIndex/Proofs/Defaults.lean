import Mathlib.Data.List.DropRight
import LaunchIndex.Proofs.Accepted
import LaunchIndex.Proofs.NameBytes
import LaunchIndex.Proofs.Pages

/-! The settings where a file says nothing, because it is missing or has only blank lines and
comments. Both times they are the defaults, but only a file that is there has its paths put in
full, even those that it does not give. So the two differ where the standard directories are not
given in full themselves, and only a file that is there is certain to have absolute paths. -/

namespace LaunchIndex

namespace Yaml

/-! ### Texts without a document -/

/-- Whether characters are blank lines and comments. The lines end in line feeds; outside of
comments a tab is not blank. `inComment` tells whether a number sign stands in front on the same
line. -/
def isFiller (inComment : Bool) : List Char → Bool
  | [] => true
  | c :: rest =>
    if isBreak c then isFiller false rest
    else if inComment then isAllowed c && isFiller true rest
    else if c = ' ' then isFiller false rest
    else c == '#' && isFiller true rest

/-- A text behind its byte order mark, if it has one. -/
def withoutMark : List Char → List Char
  | c :: rest => if c.toNat = 0xFEFF then rest else c :: rest
  | [] => []

/-- Whether a text has no document: nothing but blank lines and comments. -/
def hasNoDocument (cs : List Char) : Bool := isFiller false (withoutMark (Source.lineFeeds cs))

variable {c : Char} {cs : List Char}

theorem of_isFiller_inComment (h : isFiller true (c :: cs) = true) :
    isBreak c = true ∧ isFiller false cs = true ∨
      isBreak c = false ∧ isAllowed c = true ∧ isFiller true cs = true := by
  cases hbreak : isBreak c with
  | true => simpa [isFiller, hbreak] using h
  | false => simpa [isFiller, hbreak] using h

theorem of_isFiller (h : isFiller false (c :: cs) = true) :
    isBreak c = true ∧ isFiller false cs = true ∨ c = ' ' ∧ isFiller false cs = true ∨
      c = '#' ∧ isFiller true cs = true := by
  rw [isFiller] at h
  by_cases hbreak : isBreak c = true
  · exact .inl ⟨hbreak, by simpa [hbreak] using h⟩
  · by_cases hspace : c = ' '
    · exact .inr (.inl ⟨hspace, by simpa [hbreak, hspace] using h⟩)
    · exact .inr (.inr (by simpa [hbreak, hspace] using h))

/-- The end of the text, or a line end with blank lines and comments behind it. -/
def IsLineEnd (cs : List Char) : Prop :=
  cs = [] ∨ ∃ c rest, cs = c :: rest ∧ isBreak c = true ∧ isFiller false rest = true

theorem isLineEnd_skipLine (h : isFiller true cs = true) : IsLineEnd (skipLine cs) := by
  induction cs with
  | nil => exact .inl rfl
  | cons c rest ih =>
    rw [skipLine, List.dropWhile_cons]
    rcases of_isFiller_inComment h with ⟨hbreak, hrest⟩ | ⟨hinside, -, hrest⟩
    · rw [hbreak]
      exact .inr ⟨c, rest, rfl, hbreak, hrest⟩
    · rw [hinside]
      exact ih hrest

theorem skipComment_of_isBreak (h : isBreak c = true) : skipComment (c :: cs) = c :: cs := by
  have hspace : skipSpaces (c :: cs) = c :: cs :=
    List.dropWhile_cons_of_neg fun hc => by
      obtain rfl : c = ' ' := by simpa using hc
      exact absurd h (by decide)
  rw [skipComment, hspace]
  split
  · next heq =>
    obtain ⟨rfl, -⟩ := List.cons.inj heq
    exact absurd h (by decide)
  · rfl

theorem isLineEnd_skipComment (h : isFiller false cs = true) : IsLineEnd (skipComment cs) := by
  induction cs with
  | nil => exact .inl rfl
  | cons c rest ih =>
    rcases of_isFiller h with ⟨hbreak, hrest⟩ | ⟨rfl, hrest⟩ | ⟨rfl, hrest⟩
    · exact .inr ⟨c, rest, skipComment_of_isBreak hbreak, hbreak, hrest⟩
    · exact ih hrest
    · exact isLineEnd_skipLine hrest

theorem length_skipComment_le (cs : List Char) : (skipComment cs).length ≤ cs.length := by
  have hspaces : (skipSpaces cs).length ≤ cs.length := (List.dropWhile_sublist _).length_le
  unfold skipComment
  split
  · next rest heq =>
    have : (skipLine rest).length ≤ rest.length := (List.dropWhile_sublist _).length_le
    rw [heq, List.length_cons] at hspaces
    omega
  · exact hspaces

theorem Scan.skipFiller_of_isFiller (inFlow : Bool) (h : isFiller false cs = true) {fuel : Nat}
    (hfuel : cs.length < fuel) (keyAllowed : Bool) :
    (skipFiller inFlow keyAllowed cs fuel).2 = [] := by
  induction fuel generalizing cs keyAllowed with
  | zero => exact absurd hfuel (Nat.not_lt_zero _)
  | succ fuel ih =>
    have hlength := length_skipComment_le cs
    rw [skipFiller]
    rcases isLineEnd_skipComment h with hnil | ⟨c, rest, heq, hbreak, hrest⟩
    · rw [hnil]
    · simp only [heq, hbreak, if_true]
      rw [heq, List.length_cons] at hlength
      exact ih hrest (by omega) _

theorem isAllowed_of_isBreak (h : isBreak c = true) : isAllowed c = true := by
  simp only [isBreak, Bool.or_eq_true, beq_iff_eq] at h
  rcases h with ((rfl | h) | h) | h
  · decide
  all_goals simp [isAllowed, h]

theorem isAllowed_of_isFiller {inComment : Bool} (h : isFiller inComment cs = true) :
    ∀ c ∈ cs, isAllowed c = true := by
  induction cs generalizing inComment with
  | nil => exact fun c hc => absurd hc List.not_mem_nil
  | cons c rest ih =>
    refine List.forall_mem_cons.mpr ?_
    cases inComment with
    | true =>
      rcases of_isFiller_inComment h with ⟨hbreak, hrest⟩ | ⟨-, hallowed, hrest⟩
      · exact ⟨isAllowed_of_isBreak hbreak, ih hrest⟩
      · exact ⟨hallowed, ih hrest⟩
    | false =>
      rcases of_isFiller h with ⟨hbreak, hrest⟩ | ⟨rfl, hrest⟩ | ⟨rfl, hrest⟩
      · exact ⟨isAllowed_of_isBreak hbreak, ih hrest⟩
      · exact ⟨by decide, ih hrest⟩
      · exact ⟨by decide, ih hrest⟩

theorem isAllowed_of_hasNoDocument (h : hasNoDocument cs = true) :
    ∀ c ∈ Source.lineFeeds cs, isAllowed c = true := by
  have hrest := isAllowed_of_isFiller h
  cases heq : Source.lineFeeds cs with
  | nil => exact fun c hc => absurd hc List.not_mem_nil
  | cons c rest =>
    simp only [heq, withoutMark] at hrest
    split_ifs at hrest with hmark
    · exact List.forall_mem_cons.mpr ⟨by simp [isAllowed, hmark], hrest⟩
    · exact hrest

theorem Scan.toToken_start (h : isFiller false (withoutMark cs) = true) :
    ∃ position keyAllowed,
      ({ rest := cs } : Scan).toToken = { rest := [], position, keyAllowed } := by
  have hstart : ({ rest := cs } : Scan).toToken =
      let filler := skipFiller false true (withoutMark cs) ((withoutMark cs).length + 1)
      (({ rest := cs } : Scan).moveTo filler.2).allowKey filler.1 := by
    cases cs with
    | nil => rfl
    | cons c rest =>
      simp only [toToken, withoutMark, true_and]
      rfl
  have hskip := skipFiller_of_isFiller false h (Nat.lt_add_one _) true
  simp only [hstart, hskip]
  exact ⟨_, _, rfl⟩

/-- A text without a document has no tokens. -/
theorem Token.ofSource_of_isFiller (h : isFiller false (withoutMark cs) = true) :
    Token.ofSource { chars := cs } = ([], .malformedYaml) := by
  obtain ⟨position, keyAllowed, htoken⟩ := Scan.toToken_start h
  have hnext :
      ({ rest := cs } : Scan).next = .ok (false, { rest := [], position, keyAllowed }) := by
    rw [Scan.next, htoken]
    rfl
  have hrun :
      ({ rest := cs } : Scan).run (cs.length + 1) = { rest := [], position, keyAllowed } := by
    rw [Scan.run, show ({ rest := cs } : Scan).dropStale = .ok { rest := cs } from rfl]
    simp only [hnext]
  simp only [Token.ofSource, hrun]
  rfl

theorem ofBytes_of_hasNoDocument {bytes : Text.Bytes} (hdecode : Text.Utf8.decode? bytes = some cs)
    (h : hasNoDocument cs = true) : ofBytes bytes = .ok {} := by
  rw [ofBytes, Source.ofBytes_of_decode? hdecode (isAllowed_of_hasNoDocument h)]
  simp only [bind, Except.bind, Token.ofSource_of_isFiller h]
  rfl

end Yaml

/-! ### Names in full -/

namespace Path

variable {directory name : Text}

/-- An absolute name in its shortest spelling. -/
def IsFull (name : Text) : Prop := isAbsolute name = true ∧ normalize name = name

instance (name : Text) : Decidable (IsFull name) := inferInstanceAs (Decidable (_ ∧ _))

theorem isAbsolute_eq (name : Text) : isAbsolute name = (name.head? == some slash) := by
  cases name <;> rfl

theorem isAbsolute_of_isPrefix (h : directory <+: name) (hne : directory ≠ []) :
    isAbsolute directory = isAbsolute name := by
  obtain ⟨rest, rfl⟩ := h
  rw [isAbsolute_eq, isAbsolute_eq, List.head?_append_of_ne_nil _ hne]

theorem isAbsolute_join_eq (hname : isAbsolute name = false) :
    isAbsolute (join directory name) = isAbsolute directory := by
  by_cases hdirectory : directory = []
  · subst hdirectory
    rw [join, hname]
    exact hname
  · rw [join, hname, if_neg nofun]
    split
    · exact (isAbsolute_of_isPrefix (List.prefix_append ..) hdirectory).symm
    · exact (isAbsolute_of_isPrefix (List.prefix_append ..) hdirectory).symm

theorem isAbsolute_foldl_join {names : List Text} (h : ∀ name ∈ names, isAbsolute name = false) :
    isAbsolute (names.foldl join directory) = isAbsolute directory := by
  induction names generalizing directory with
  | nil => rfl
  | cons name names ih =>
    rw [List.forall_mem_cons] at h
    rw [List.foldl_cons, ih h.2, isAbsolute_join_eq h.1]

end Path

namespace Environment

variable {e : Environment} {name : Text}

/-- Whether a variable or the home directory gives an absolute directory. An empty home directory
counts as the root. -/
def IsRooted (e : Environment) (variableName : Text) : Prop :=
  (∃ base, e.lookup variableName = some base ∧ Path.isAbsolute base = true) ∨
    e.home = [] ∨ Path.isAbsolute e.home = true

theorem isAbsolute_underHome (home : Text) :
    Path.isAbsolute (underHome home []) = true ↔ home = [] ∨ Path.isAbsolute home = true := by
  have hhome : underHome home [] =
      if home.rdropWhile (· == Path.slash) = [] then [Path.slash]
      else home.rdropWhile (· == Path.slash) := by
    rw [underHome, List.append_nil]
    rfl
  rw [hhome]
  split
  · next hnil =>
    rw [List.rdropWhile_eq_nil_iff] at hnil
    refine iff_of_true rfl ?_
    cases home with
    | nil => exact .inl rfl
    | cons c rest => exact .inr (hnil c List.mem_cons_self)
  · next hne =>
    rw [Path.isAbsolute_of_isPrefix (List.rdropWhile_prefix _ _) hne]
    refine (or_iff_right ?_).symm
    rintro rfl
    exact hne rfl

theorem isAbsolute_baseDirectory {variableName : Text} {fallback : List Text}
    (h : ∀ name ∈ fallback, Path.isAbsolute name = false) :
    Path.isAbsolute (e.baseDirectory variableName fallback) = true ↔ e.IsRooted variableName := by
  have hhome : Path.isAbsolute (fallback.foldl Path.join (underHome e.home [])) = true ↔
      e.home = [] ∨ Path.isAbsolute e.home = true := by
    rw [Path.isAbsolute_foldl_join h, isAbsolute_underHome]
  unfold baseDirectory IsRooted
  cases e.lookup variableName with
  | none => simpa using hhome
  | some base =>
    by_cases hbase : Path.isAbsolute base = true
    · simp [hbase]
    · simpa [hbase] using hhome

theorem isAbsolute_databasePath :
    Path.isAbsolute e.databasePath = true ↔ e.IsRooted "XDG_DATA_HOME" := by
  rw [databasePath, dataDirectory, Path.isAbsolute_join_eq rfl, Path.isAbsolute_join_eq rfl]
  exact isAbsolute_baseDirectory (by decide)

theorem isAbsolute_indexerConfigPath :
    Path.isAbsolute e.indexerConfigPath = true ↔ e.IsRooted "XDG_CONFIG_HOME" := by
  rw [indexerConfigPath, configDirectory, Path.isAbsolute_join_eq rfl, Path.isAbsolute_join_eq rfl]
  exact isAbsolute_baseDirectory (by decide)

theorem isAbsolute_absolute (h : Path.isAbsolute e.workingDirectory = true) (name : Text) :
    Path.isAbsolute (e.absolute name) = true := by
  obtain ⟨rest, hrest⟩ : ∃ rest, e.absolute name = Path.slash :: rest := exists_absolute_eq h
  rw [hrest]
  rfl

theorem isAbsolute_of_expandHome (h : Path.isAbsolute e.workingDirectory = true) {full : Text}
    (heq : (e.expandHome name).map e.absolute = .ok full) : Path.isAbsolute full = true := by
  cases hexpanded : e.expandHome name with
  | error fault => simp [hexpanded, Except.map] at heq
  | ok expanded =>
    rw [hexpanded] at heq
    exact Except.ok.inj heq ▸ isAbsolute_absolute h expanded

theorem expandHome_absolute_iff (h : Path.isAbsolute e.workingDirectory = true) :
    (e.expandHome name).map e.absolute = .ok name ↔ Path.IsFull name := by
  have hfull (habsolute : Path.isAbsolute name = true) :
      (e.expandHome name).map e.absolute = .ok (Path.normalize name) := by
    cases name with
    | nil => exact absurd habsolute nofun
    | cons c rest =>
      obtain rfl : c = Path.slash := by simpa [Path.isAbsolute] using habsolute
      rw [expandHome, if_pos (by decide), Except.map, absolute, Path.join, if_pos habsolute]
  constructor
  · intro heq
    have habsolute := isAbsolute_of_expandHome h heq
    rw [hfull habsolute] at heq
    exact ⟨habsolute, Except.ok.inj heq⟩
  · intro hname
    rw [hfull hname.1, hname.2]

end Environment

/-! ### Settings where nothing is said -/

namespace Settings

variable {path : Option Text} {w : World} {s : Settings}

def IsMissing (path : Option Text) (w : World) : Prop :=
  w.disk.bytes? (path.getD (standardPath w.environment)) = .ok none

def IsBlank (path : Option Text) (w : World) : Prop :=
  ∃ bytes cs, w.disk.bytes? (path.getD (standardPath w.environment)) = .ok (some bytes) ∧
    Text.Utf8.decode? bytes = some cs ∧ Yaml.hasNoDocument cs = true

theorem load_of_isMissing (h : IsMissing path w) :
    load path w = (.ok (default w.environment), w) := by
  rw [IsMissing] at h
  simp only [load, h]

def inFull (e : Environment) (s : Settings) : Outcome Settings := do
  let databasePath ← (e.expandHome s.databasePath).map e.absolute
  let preferencesPath ← (e.expandHome s.preferencesPath).map e.absolute
  return { s with databasePath, preferencesPath }

theorem ofEntries_nil (e : Environment) : ofEntries e [] = (default e).inFull e := rfl

theorem load_of_isBlank (h : IsBlank path w) :
    load path w = ((default w.environment).inFull w.environment, w) := by
  obtain ⟨bytes, cs, hbytes, hdecode, hblank⟩ := h
  have hentries (name : Text) : entriesOf name bytes = .ok [] := by
    rw [entriesOf, Yaml.ofBytes_of_hasNoDocument hdecode hblank]
    rfl
  have hshort : Binary64.compareInt longTimeout (Binary64.zero false) ≠ .lt := by decide +kernel
  simp only [load, hbytes, hentries, Except.bind, ← ofEntries_nil]
  cases hof : ofEntries w.environment [] with
  | error fault => rfl
  | ok s =>
    obtain ⟨-, -, -, -, -, hbusy⟩ := Fields.of_settings_eq_ok (f := Fields.of []) hof
    have hzero : s.busyTimeout = Binary64.zero false := hbusy
    simp only [hzero, beq_false_of_ne hshort, Bool.and_false, Bool.false_eq_true, if_false]

theorem inFull_eq_iff {e : Environment} (hroot : Path.isAbsolute e.workingDirectory = true)
    (s : Settings) :
    s.inFull e = .ok s ↔ Path.IsFull s.databasePath ∧ Path.IsFull s.preferencesPath := by
  rw [← e.expandHome_absolute_iff hroot, ← e.expandHome_absolute_iff hroot]
  rw [inFull]
  cases (e.expandHome s.databasePath).map e.absolute with
  | error fault => exact iff_of_false nofun nofun
  | ok full =>
    cases (e.expandHome s.preferencesPath).map e.absolute with
    | error fault => exact iff_of_false nofun nofun
    | ok full' =>
      constructor
      · intro h
        have hs := Except.ok.inj h
        exact ⟨congrArg Except.ok (congrArg databasePath hs),
          congrArg Except.ok (congrArg preferencesPath hs)⟩
      · rintro ⟨hdatabase, hpreferences⟩
        rw [Except.ok.inj hdatabase, Except.ok.inj hpreferences]
        rfl

/-- The paths that are loaded are absolute, but for defaults that are not. -/
theorem isAbsolute_of_load (hroot : Path.isAbsolute w.environment.workingDirectory = true)
    (h : (load path w).1 = .ok s) :
    (Path.isAbsolute s.databasePath = true ↔
        ¬IsMissing path w ∨ w.environment.IsRooted "XDG_DATA_HOME") ∧
      (Path.isAbsolute s.preferencesPath = true ↔
        ¬IsMissing path w ∨ w.environment.IsRooted "XDG_CONFIG_HOME") := by
  rcases of_load_eq_ok h with ⟨hmissing, rfl⟩ | ⟨bytes, entries, hbytes, -, -, hs⟩
  · have hmissing : IsMissing path w := hmissing
    rw [or_iff_right (not_not.mpr hmissing), or_iff_right (not_not.mpr hmissing)]
    exact ⟨Environment.isAbsolute_databasePath, Environment.isAbsolute_indexerConfigPath⟩
  · have hpresent : ¬IsMissing path w := fun hmissing => nomatch hbytes.symm.trans hmissing
    obtain ⟨hdatabase, hpreferences, -⟩ := Fields.of_settings_eq_ok hs
    exact ⟨iff_of_true (Environment.isAbsolute_of_expandHome hroot hdatabase) (.inl hpresent),
      iff_of_true (Environment.isAbsolute_of_expandHome hroot hpreferences) (.inl hpresent)⟩

/-- A missing file gives the defaults, and a blank one the defaults with their paths in full, which
is the same just if they are in full. Every path that is loaded is absolute where there is a file,
and where the variable of its default or the home directory gives an absolute directory. -/
theorem load_paths {e : Environment} (hroot : Path.isAbsolute e.workingDirectory = true) :
    (∀ path path' w w', w.environment = e → w'.environment = e →
      IsMissing path w → IsBlank path' w' →
        load path w = (.ok (default e), w) ∧ load path' w' = ((default e).inFull e, w') ∧
          ((load path w).1 = (load path' w').1 ↔
            Path.IsFull e.databasePath ∧ Path.IsFull e.indexerConfigPath)) ∧
      ∀ path w s, w.environment = e → (load path w).1 = .ok s →
        (Path.isAbsolute s.databasePath = true ↔
            ¬IsMissing path w ∨ e.IsRooted "XDG_DATA_HOME") ∧
          (Path.isAbsolute s.preferencesPath = true ↔
            ¬IsMissing path w ∨ e.IsRooted "XDG_CONFIG_HOME") := by
  constructor
  · rintro path path' w w' rfl henvironment hmissing hblank
    have hloadMissing := load_of_isMissing hmissing
    have hloadBlank := load_of_isBlank hblank
    rw [henvironment] at hloadBlank
    refine ⟨hloadMissing, hloadBlank, ?_⟩
    rw [hloadMissing, hloadBlank, eq_comm]
    exact inFull_eq_iff hroot (default w.environment)
  · rintro path w s rfl h
    exact isAbsolute_of_load hroot h

/-- A start with a file that holds one comment. -/
def commented (home : Text) : World where
  environment := { assignments := [("HOME", home)], workingDirectory := "/work" }
  disk :=
    { entries := [(["later.yaml"], .file 0)]
      contents := [(0, .bytes ((Text.ofString "# later\n").flatMap fun c =>
        Text.Utf8.octets c.val))] }

theorem isMissing_commented (home : Text) : IsMissing (some "/none.yaml") (commented home) := by
  unfold IsMissing
  rfl

theorem isBlank_commented (home : Text) : IsBlank (some "/later.yaml") (commented home) := by
  refine ⟨_, "# later\n".toList, rfl, ?_, ?_⟩
  · decide +kernel
  · decide +kernel

/-- With an absolute home directory a missing file and one that holds a comment give the same, and
their paths are absolute. -/
theorem load_paths_commented :
    (load (some "/none.yaml") (commented "/home/a")).1 =
        (load (some "/later.yaml") (commented "/home/a")).1 ∧
      ∃ s, (load (some "/later.yaml") (commented "/home/a")).1 = .ok s ∧
        Path.isAbsolute s.databasePath = true ∧ Path.isAbsolute s.preferencesPath = true := by
  obtain ⟨hsame, habsolute⟩ := load_paths (e := (commented "/home/a").environment) (by decide)
  obtain ⟨hmissing, hblank, hiff⟩ := hsame _ _ _ _ rfl rfl (isMissing_commented _)
    (isBlank_commented _)
  have heq := hiff.mpr (by decide +kernel)
  refine ⟨heq, default (commented "/home/a").environment, by rw [← heq, hmissing], ?_⟩
  obtain ⟨hdatabase, hpreferences⟩ := habsolute _ _ _ rfl (by rw [hmissing])
  have hrooted : Path.isAbsolute (commented "/home/a").environment.home = true := by decide
  exact ⟨hdatabase.mpr (.inr (.inr (.inr hrooted))), hpreferences.mpr (.inr (.inr (.inr hrooted)))⟩

/-- With a relative home directory they differ, and the paths without a file are relative. -/
theorem not_load_paths :
    (load (some "/none.yaml") (commented "home")).1 ≠
        (load (some "/later.yaml") (commented "home")).1 ∧
      ∃ s, (load (some "/none.yaml") (commented "home")).1 = .ok s ∧
        Path.isAbsolute s.databasePath = false ∧ Path.isAbsolute s.preferencesPath = false := by
  rw [load_of_isMissing (isMissing_commented "home"), load_of_isBlank (isBlank_commented "home")]
  have hroot : Path.isAbsolute (commented "home").environment.workingDirectory = true := by decide
  have hdetour : ¬Path.IsFull (commented "home").environment.databasePath := by decide +kernel
  refine ⟨fun heq => hdetour ((inFull_eq_iff hroot _).mp heq.symm).1, _, rfl, ?_, ?_⟩
  · decide +kernel
  · decide +kernel

end Settings

end LaunchIndex
