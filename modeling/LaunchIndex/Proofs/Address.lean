import Mathlib.Data.List.TakeWhile
import LaunchIndex.Uri
import LaunchIndex.Writer
import LaunchIndex.Proofs.NameBytes

/-! What an address says. The engine reads an address from its scheme on: a host, the name of a file
up to a question mark, and parameters up to a number sign; in each of them a percent sign with two
digits is one byte. An address that is written for a file is read as the bytes of its absolute name
and the access mode, whatever the name is made of. -/

namespace LaunchIndex.Uri

open Text (Bytes)

/-! ### Reading an address -/

def percent : CodePoint := CodePoint.ofChar '%'

def questionMark : CodePoint := CodePoint.ofChar '?'

def numberSign : CodePoint := CodePoint.ofChar '#'

def hexValue? (c : CodePoint) : Option Nat := c.toChar?.bind hexDigit?

def byte? (high low : CodePoint) : Option UInt8 :=
  match hexValue? high, hexValue? low with
  | some h, some l => some (UInt8.ofNat (16 * h + l))
  | _, _ => none

/-- The bytes of an escaped text. A percent sign without two digits behind it is itself. -/
def unescape : Text → Bytes
  | c :: high :: low :: rest =>
    if c = percent then
      match byte? high low with
      | some b => b :: unescape rest
      | none => Text.Utf8.octets c.val ++ unescape (high :: low :: rest)
    else Text.Utf8.octets c.val ++ unescape (high :: low :: rest)
  | c :: rest => Text.Utf8.octets c.val ++ unescape rest
  | [] => []

/-- The bytes that are looked at, as nothing behind a null byte is. -/
def visible (escaped : Text) : Bytes := (unescape escaped).takeWhile (· != 0)

/-- A name and a value with an equals sign between them; a parameter without a name is none. -/
def parameter? (t : Text) : Option (Bytes × Bytes) :=
  let name := visible (t.takeWhile (· != CodePoint.ofChar '='))
  let value := visible ((t.dropWhile (· != CodePoint.ofChar '=')).drop 1)
  if name = [] then none else some (name, value)

/-- What the engine reads in an address. -/
structure Reading where
  file : Bytes
  parameters : List (Bytes × Bytes)
deriving DecidableEq

def scheme : Text := "file://"

/-- An address of a file on a host, which must be this one. -/
def read? (address : Text) : Option Reading :=
  if scheme.isPrefixOf address then
    let rest := address.drop scheme.length
    let host := rest.takeWhile (· != Path.slash)
    if host = [] ∨ host = Text.ofString "localhost" then
      let body := (rest.drop host.length).takeWhile (· != numberSign)
      let query := (body.dropWhile (· != questionMark)).drop 1
      some
        { file := visible (body.takeWhile (· != questionMark))
          parameters := (Text.splitOn (CodePoint.ofChar '&') query).filterMap parameter? }
    else none
  else none

/-! ### Escaped bytes -/

/-- What holds of the first 256 numbers as bytes holds of every byte. -/
theorem forall_byte {p : UInt8 → Prop} (h : ∀ n < 256, p (UInt8.ofNat n)) (b : UInt8) : p b := by
  have hb := h b.toNat b.toNat_lt
  rwa [UInt8.ofNat_toNat] at hb

theorem plain_ofNat (b : UInt8) (h : isPlain b = true) :
    CodePoint.ofNat b.toNat ≠ percent ∧ Text.Utf8.octets (CodePoint.ofNat b.toNat).val = [b] := by
  revert b
  exact forall_byte (by decide +kernel)

theorem byte?_hexDigit (b : UInt8) :
    byte? (hexDigit (b.toNat / 16)) (hexDigit (b.toNat % 16)) = some b := by
  revert b
  exact forall_byte (by decide +kernel)

theorem unescape_cons {c : CodePoint} (hc : c ≠ percent) (rest : Text) :
    unescape (c :: rest) = Text.Utf8.octets c.val ++ unescape rest := by
  match rest with
  | [] => rfl
  | [_] => rfl
  | _ :: _ :: _ => rw [unescape, if_neg hc]

theorem unescape_escapeByte (b : UInt8) (rest : Text) :
    unescape (escapeByte b ++ rest) = b :: unescape rest := by
  unfold escapeByte
  by_cases hplain : isPlain b = true
  · obtain ⟨hpercent, hoctets⟩ := plain_ofNat b hplain
    rw [if_pos hplain, List.singleton_append, unescape_cons hpercent, hoctets,
      List.singleton_append]
  · rw [if_neg hplain]
    simp only [List.cons_append, List.nil_append]
    rw [unescape, if_pos (show CodePoint.ofChar '%' = percent from rfl), byte?_hexDigit]

theorem unescape_escape_append (bytes : Bytes) (rest : Text) :
    unescape (escape bytes ++ rest) = bytes ++ unescape rest := by
  induction bytes with
  | nil => rfl
  | cons b bytes ih =>
    have hcons : escape (b :: bytes) = escapeByte b ++ escape bytes := List.flatMap_cons
    rw [hcons, List.append_assoc, unescape_escapeByte, ih, List.cons_append]

theorem unescape_escape (bytes : Bytes) : unescape (escape bytes) = bytes := by
  simpa [unescape] using unescape_escape_append bytes []

/-! ### Marks -/

/-- A code point of ASCII that ends neither the name of a file nor all that is read. -/
def isInner (c : CodePoint) : Bool := c.isAscii && c != questionMark && c != numberSign

theorem isAscii_of_inner {t : Text} (h : t.all isInner = true) : ∀ c ∈ t, c.isAscii = true := by
  intro c hc
  have hinner := List.all_eq_true.mp h c hc
  simp only [isInner, Bool.and_eq_true] at hinner
  exact hinner.1.1

theorem questionMark_notMem {t : Text} (h : t.all isInner = true) : questionMark ∉ t :=
  fun hmem => absurd (List.all_eq_true.mp h _ hmem) (by decide)

theorem numberSign_notMem {t : Text} (h : t.all isInner = true) : numberSign ∉ t :=
  fun hmem => absurd (List.all_eq_true.mp h _ hmem) (by decide)

/-- Escaped bytes are written in ASCII without the marks that end a name. -/
theorem all_isInner_escape (bytes : Bytes) : (escape bytes).all isInner = true := by
  have hbyte : ∀ b, (escapeByte b).all isInner = true := forall_byte (by decide +kernel)
  rw [escape, List.all_flatMap]
  simp [hbyte]

/-! ### Reading what is written -/

section

variable {mode : Text} {bytes : Bytes}

def IsLetter (c : CodePoint) : Prop := 65 ≤ c.val ∧ c.val ≤ 90 ∨ 97 ≤ c.val ∧ c.val ≤ 122

def asciiBytes (t : Text) : Bytes := t.map fun c => UInt8.ofNat c.val

/-- The address with an access mode for the bytes of a name. -/
def address (mode : Text) (bytes : Bytes) : Text :=
  scheme ++ escape bytes ++ Text.ofString "?mode=" ++ mode

theorem address_eq (mode : Text) (bytes : Bytes) :
    address mode bytes =
      scheme ++ (escape bytes ++ questionMark :: (Text.ofString "mode=" ++ mode)) := by
  rw [address, List.append_assoc, List.append_assoc]
  rfl

theorem takeWhile_until {stop : CodePoint} {before : Text} (h : stop ∉ before) (after : Text) :
    (before ++ stop :: after).takeWhile (· != stop) = before := by
  have hbefore : ∀ c ∈ before, (c != stop) = true := by
    intro c hc
    simpa using fun heq : c = stop => h (heq ▸ hc)
  rw [List.takeWhile_append_of_pos hbefore]
  simp

theorem dropWhile_until {stop : CodePoint} {before : Text} (h : stop ∉ before) (after : Text) :
    (before ++ stop :: after).dropWhile (· != stop) = stop :: after := by
  have hbefore : ∀ c ∈ before, (c != stop) = true := by
    intro c hc
    simpa using fun heq : c = stop => h (heq ▸ hc)
  rw [List.dropWhile_append_of_pos hbefore]
  simp

theorem IsLetter.ne {c d : CodePoint} (h : IsLetter c) (hd : d.val < 65) : c ≠ d := by
  rintro rfl
  unfold IsLetter at h
  omega

theorem IsLetter.lt {c : CodePoint} (h : IsLetter c) : c.val < 0x80 := by
  unfold IsLetter at h
  omega

theorem all_isInner_of_letters {t : Text} (h : ∀ c ∈ t, IsLetter c) : t.all isInner = true := by
  rw [List.all_eq_true]
  intro c hc
  have hquestion : c ≠ questionMark := (h c hc).ne (by decide)
  have hnumber : c ≠ numberSign := (h c hc).ne (by decide)
  simp [isInner, CodePoint.isAscii, (h c hc).lt, hquestion, hnumber]

theorem visible_of_letters {t : Text} (h : ∀ c ∈ t, IsLetter c) : visible t = asciiBytes t := by
  have hunescape : unescape t = asciiBytes t := by
    induction t with
    | nil => rfl
    | cons c rest ih =>
      have hletter := h c List.mem_cons_self
      have hpercent : c ≠ percent := hletter.ne (by decide)
      rw [unescape_cons hpercent, ih fun d hd => h d (List.mem_cons_of_mem _ hd)]
      simp [Text.Utf8.octets, hletter.lt, asciiBytes]
  rw [visible, hunescape, List.takeWhile_eq_self_iff]
  intro b hb
  obtain ⟨c, hc, rfl⟩ := List.mem_map.mp hb
  have hletter := h c hc
  unfold IsLetter at hletter
  simp only [bne_iff_ne, ne_eq]
  intro hzero
  have htoNat := congrArg UInt8.toNat hzero
  simp at htoNat
  omega

/-- The mode is the only parameter that is read. -/
theorem parameters_mode (hmode : ∀ c ∈ mode, IsLetter c) :
    ((Text.ofString "mode=" ++ mode).splitOn (CodePoint.ofChar '&')).filterMap parameter? =
      [(asciiBytes "mode", asciiBytes mode)] := by
  have hshape : Text.ofString "mode=" ++ mode =
      Text.ofString "mode" ++ CodePoint.ofChar '=' :: mode := rfl
  have hseparator : CodePoint.ofChar '&' ∉ Text.ofString "mode=" ++ mode := by
    rw [List.mem_append, not_or]
    exact ⟨by decide, fun h => (hmode _ h).ne (by decide) rfl⟩
  have hequals : CodePoint.ofChar '=' ∉ Text.ofString "mode" := by decide
  have hname : visible (Text.ofString "mode") = asciiBytes "mode" := by decide
  rw [Text.splitOn_of_notMem hseparator, hshape, List.filterMap_cons, parameter?,
    takeWhile_until hequals, dropWhile_until hequals, List.drop_one, List.tail_cons, hname,
    visible_of_letters hmode]
  rfl

theorem drop_address (mode : Text) (bytes : Bytes) :
    (address mode bytes).drop scheme.length =
      escape bytes ++ questionMark :: (Text.ofString "mode=" ++ mode) := by
  rw [address_eq, List.drop_left]

theorem all_isInner_query (hmode : ∀ c ∈ mode, IsLetter c) :
    (Text.ofString "mode=" ++ mode).all isInner = true := by
  rw [List.all_append, all_isInner_of_letters hmode]
  decide

theorem numberSign_notMem_drop (hmode : ∀ c ∈ mode, IsLetter c) :
    numberSign ∉ escape bytes ++ questionMark :: (Text.ofString "mode=" ++ mode) := by
  rw [List.mem_append, List.mem_cons, not_or, not_or]
  exact ⟨numberSign_notMem (all_isInner_escape bytes), by decide,
    numberSign_notMem (all_isInner_query hmode)⟩

theorem read?_address {rest : Bytes} (hroot : bytes = 0x2F :: rest) (hnull : 0 ∉ bytes)
    (hmode : ∀ c ∈ mode, IsLetter c) :
    read? (address mode bytes) = some ⟨bytes, [(asciiBytes "mode", asciiBytes mode)]⟩ := by
  have hprefix : scheme.isPrefixOf (address mode bytes) = true := by
    rw [address_eq, List.isPrefixOf_iff_prefix]
    exact List.prefix_append _ _
  have hhost : (escape bytes ++ questionMark :: (Text.ofString "mode=" ++ mode)).takeWhile
      (· != Path.slash) = [] := by
    rw [hroot]
    rfl
  have hbody : (escape bytes ++ questionMark :: (Text.ofString "mode=" ++ mode)).takeWhile
      (· != numberSign) = escape bytes ++ questionMark :: (Text.ofString "mode=" ++ mode) := by
    rw [List.takeWhile_eq_self_iff]
    intro c hc
    simpa using fun heq : c = numberSign => numberSign_notMem_drop hmode (heq ▸ hc)
  have hvisible : visible (escape bytes) = bytes := by
    rw [visible, unescape_escape, List.takeWhile_eq_self_iff]
    intro b hb
    simpa using fun heq : b = 0 => hnull (heq ▸ hb)
  have hquestion := questionMark_notMem (all_isInner_escape bytes)
  rw [read?, if_pos hprefix]
  simp only [drop_address, hhost, List.length_nil, List.drop_zero, hbody, true_or, ↓reduceIte,
    takeWhile_until hquestion, dropWhile_until hquestion, List.drop_one, List.tail_cons, hvisible]
  rw [parameters_mode hmode]

/-- What can be told of an address from its text, and what the engine takes it for. -/
structure Spells (mode : Text) (bytes : Bytes) (address : Text) : Prop where
  shape : address = scheme ++ escape bytes ++ Text.ofString "?mode=" ++ mode
  question : address.count questionMark = 1
  number : numberSign ∉ address
  ascii : ∀ c ∈ address, c.isAscii = true
  name : unescape ((address.drop scheme.length).takeWhile (· != questionMark)) = bytes
  read : read? address = some ⟨bytes, [(asciiBytes "mode", asciiBytes mode)]⟩

theorem spells_address {rest : Bytes} (hroot : bytes = 0x2F :: rest) (hnull : 0 ∉ bytes)
    (hmode : ∀ c ∈ mode, IsLetter c) : Spells mode bytes (address mode bytes) := by
  have hscheme : scheme.all isInner = true := by decide
  have hname := all_isInner_escape bytes
  have hquery := all_isInner_query hmode
  have hquestion := questionMark_notMem hname
  refine ⟨rfl, ?_, ?_, ?_, ?_, read?_address hroot hnull hmode⟩
  · rw [address_eq, List.count_append, List.count_append, List.count_cons_self,
      List.count_eq_zero.mpr (questionMark_notMem hscheme), List.count_eq_zero.mpr hquestion,
      List.count_eq_zero.mpr (questionMark_notMem hquery)]
  · rw [address_eq, List.mem_append, not_or]
    exact ⟨numberSign_notMem hscheme, numberSign_notMem_drop hmode⟩
  · intro c hc
    rw [address_eq, List.mem_append, List.mem_append, List.mem_cons] at hc
    rcases hc with hc | hc | rfl | hc
    · exact isAscii_of_inner hscheme c hc
    · exact isAscii_of_inner hname c hc
    · decide
    · exact isAscii_of_inner hquery c hc
  · rw [drop_address, takeWhile_until hquestion, unescape_escape]

theorem address_inj {bytes' : Bytes} :
    address mode bytes = address mode bytes' ↔ bytes = bytes' := by
  refine ⟨fun h => ?_, fun h => by rw [h]⟩
  have hdrop := congrArg (fun t => (t.drop scheme.length).takeWhile (· != questionMark)) h
  simp only [drop_address, takeWhile_until (questionMark_notMem (all_isInner_escape _))] at hdrop
  rw [← unescape_escape bytes, hdrop, unescape_escape]

end

/-! ### Files and their addresses -/

section

variable {e : Environment} {path mode : Text} {bytes : Bytes}

theorem ofPath_eq (h : Text.Utf8.encodeName? (e.absolute path) = .ok bytes) (mode : Text) :
    ofPath e mode path = .ok (address mode bytes) := by
  rw [ofPath, h]
  rfl

theorem exists_bytes_absolute (hroot : Path.isAbsolute e.workingDirectory = true)
    (hdirectory : e.workingDirectory.NoNull)
    (hencoded : ∃ bytes, Text.Utf8.encodeName? e.workingDirectory = .ok bytes)
    (hpath : path.NoNull) (hbytes : ∃ bytes, Text.Utf8.encodeName? path = .ok bytes) :
    ∃ rest, Text.Utf8.encodeName? (e.absolute path) = .ok (0x2F :: rest) ∧
      (0 : UInt8) ∉ 0x2F :: rest := by
  obtain ⟨bytes, hname⟩ := Environment.exists_encodeName?_absolute hencoded hbytes
  obtain ⟨rest, hrest⟩ := @Environment.exists_absolute_eq _ path hroot
  obtain ⟨-, hoctets⟩ := Text.Utf8.encodeName?_eq_ok_iff.mp hname
  have hslash : Text.Utf8.nameOctets Path.slash = [0x2F] := by decide
  have hnull : (0 : UInt8) ∉ bytes := by
    rw [hoctets]
    exact Text.Utf8.zero_notMem_rawBytes (Environment.noNull_absolute hdirectory hpath)
  rw [hrest, Text.Utf8.rawBytes, List.flatMap_cons, hslash, List.singleton_append] at hoctets
  rw [hoctets] at hname hnull
  exact ⟨_, hname, hnull⟩

/-- A reader has its handle on the file that a writer for the same path works on. -/
theorem target_of_connectFile {w : World} {handle : Handle} (hpath : path ≠ [])
    (h : (Site.connectFile path w).1 = .ok handle) :
    ∃ number, handle.target = .file number ∧ Writer.target (.text path) w = .ok number := by
  have hempty : (Value.text path).isEmpty = false := by simp [Value.isEmpty, hpath]
  unfold Site.connectFile at h
  split at h
  · exact absurd h nofun
  next address haddress =>
    obtain ⟨bytes, hbytes⟩ : ∃ bytes,
        Text.Utf8.encodeName? (w.environment.absolute path) = .ok bytes := by
      unfold ofPath at haddress
      split at haddress
      · exact absurd haddress nofun
      next bytes hbytes => exact ⟨bytes, hbytes⟩
    have hwriter : ofValue w.environment "rw" (.text path) = .ok (Uri.address "rw" bytes) :=
      ofPath_eq hbytes "rw"
    split at h
    · exact absurd h nofun
    · exact absurd h nofun
    next number hnode =>
      have hnode' : w.databaseNode? (Value.text path).display = some (.file number) := hnode
      refine ⟨number, ?_, by simp [Writer.target, hempty, hwriter, hnode']⟩
      dsimp only at h
      split at h
      · exact congrArg Handle.target (Except.ok.inj h).symm
      · exact absurd h nofun

/-- Under a rooted working directory every name that has bytes has an address for every mode. It is
read as the bytes of the absolute name and as the mode, so that a reader and a writer name one file
and no code point of a name can end it. Two names have one address if their absolute names have the
same bytes, which without surrogates means that these are the same. -/
theorem addresses_unambiguous (hroot : Path.isAbsolute e.workingDirectory = true)
    (hdirectory : e.workingDirectory.NoNull)
    (hencoded : ∃ bytes, Text.Utf8.encodeName? e.workingDirectory = .ok bytes) :
    (∀ path : Text, path.NoNull → (∃ bytes, Text.Utf8.encodeName? path = .ok bytes) →
      (∃ bytes, Text.Utf8.encodeName? (e.absolute path) = .ok bytes ∧
        ∀ mode : Text, (∀ c ∈ mode, IsLetter c) →
          ∃ address, ofPath e mode path = .ok address ∧ Spells mode bytes address) ∧
      ∀ (w : World) (handle : Handle), w.environment = e → path ≠ [] →
        (Site.connectFile path w).1 = .ok handle →
          ∃ number, handle.target = .file number ∧
            Writer.target (.text path) w = .ok number) ∧
    ∀ path path' mode : Text, path.NoNull → path'.NoNull →
      (∃ bytes, Text.Utf8.encodeName? path = .ok bytes) →
      (∃ bytes, Text.Utf8.encodeName? path' = .ok bytes) →
      (ofPath e mode path = ofPath e mode path' ↔
        Text.Utf8.encodeName? (e.absolute path) = Text.Utf8.encodeName? (e.absolute path')) ∧
      ((e.absolute path).isEncodable = true → (e.absolute path').isEncodable = true →
        (ofPath e mode path = ofPath e mode path' ↔ e.absolute path = e.absolute path')) := by
  constructor
  · intro path hpath hbytes
    obtain ⟨rest, hname, hnull⟩ :=
      exists_bytes_absolute hroot hdirectory hencoded hpath hbytes
    refine ⟨⟨_, hname, fun mode hmode => ?_⟩, fun w handle _ hne h => ?_⟩
    · exact ⟨address mode _, ofPath_eq hname mode, spells_address rfl hnull hmode⟩
    · exact target_of_connectFile hne h
  · intro path path' mode hpath hpath' hbytes hbytes'
    obtain ⟨rest, hname, -⟩ := exists_bytes_absolute hroot hdirectory hencoded hpath hbytes
    obtain ⟨rest', hname', -⟩ := exists_bytes_absolute hroot hdirectory hencoded hpath' hbytes'
    have hsame : ofPath e mode path = ofPath e mode path' ↔
        Text.Utf8.encodeName? (e.absolute path) = Text.Utf8.encodeName? (e.absolute path') := by
      rw [ofPath_eq hname, ofPath_eq hname', hname, hname', Except.ok.injEq, Except.ok.injEq,
        address_inj]
    exact ⟨hsame, fun h h' => hsame.trans (Text.Utf8.encodeName?_inj h h')⟩

/-- A name that looks like the end of an address, in a directory with a blank. -/
theorem addresses_unambiguous_question :
    ∃ bytes, Text.Utf8.encodeName?
        (Environment.absolute ⟨[], "/my files", [], "/"⟩ "a?mode=rwc&b#%41") = .ok bytes ∧
      ∀ mode : Text, (∀ c ∈ mode, IsLetter c) →
        ∃ address, ofPath ⟨[], "/my files", [], "/"⟩ mode "a?mode=rwc&b#%41" = .ok address ∧
          Spells mode bytes address := by
  obtain ⟨hnames, -⟩ := addresses_unambiguous (e := ⟨[], "/my files", [], "/"⟩) (by decide)
    (by decide) ⟨_, rfl⟩
  exact (hnames "a?mode=rwc&b#%41" (by decide) ⟨_, rfl⟩).1

/-- Two absolute names can have one address: the surrogates for the two bytes of a letter stand for
the same bytes as the letter. -/
theorem not_addresses_unambiguous_text :
    ¬∀ (e : Environment) (path path' mode : Text), Path.isAbsolute e.workingDirectory = true →
      e.workingDirectory.NoNull → (∃ bytes, Text.Utf8.encodeName? e.workingDirectory = .ok bytes) →
      path.NoNull → path'.NoNull → (∃ bytes, Text.Utf8.encodeName? path = .ok bytes) →
      (∃ bytes, Text.Utf8.encodeName? path' = .ok bytes) →
      (ofPath e mode path = ofPath e mode path' ↔ e.absolute path = e.absolute path') := by
  intro hall
  have hiff := hall ⟨[], "/", [], "/"⟩ [Path.slash, CodePoint.ofNat 0xE9]
    [Path.slash, CodePoint.ofNat 0xDCC3, CodePoint.ofNat 0xDCA9] "ro" (by decide) (by decide)
    ⟨_, rfl⟩ (by decide) (by decide) ⟨_, rfl⟩ ⟨_, rfl⟩
  exact absurd (hiff.mp rfl) (by decide)

end

end LaunchIndex.Uri
