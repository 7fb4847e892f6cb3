import Mathlib.Data.List.Basic
import LaunchIndex.Environment
import LaunchIndex.Proofs.Pattern

/-! The bytes of names. A name has bytes if each of its surrogates stands for a byte. The absolute
name of a file is made of code points of the name and of the working directory, with slashes
between them, so it has bytes if these have. Names without surrogates are told apart by their bytes;
other names may share them. -/

namespace LaunchIndex

/-! ### Bytes of code points -/

theorem Text.isEncodable_cons {c : CodePoint} {t : Text} :
    Text.isEncodable (c :: t) = true ↔ c.isSurrogate = false ∧ t.isEncodable = true := by
  simp [Text.isEncodable]

namespace Text.Utf8

theorem findBadRun_eq_none_iff (allowed : CodePoint → Bool) (position : Nat) (t : Text) :
    findBadRun allowed position t = none ↔ ∀ c ∈ t, c.isSurrogate = true → allowed c = true := by
  induction t generalizing position with
  | nil => simp [findBadRun]
  | cons c rest ih =>
    rw [findBadRun, List.forall_mem_cons]
    by_cases hc : (c.isSurrogate && !allowed c) = true
    · rw [if_pos hc]
      simp only [Bool.and_eq_true, Bool.not_eq_true'] at hc
      simp [hc]
    · rw [if_neg hc, ih]
      simp only [Bool.and_eq_true, Bool.not_eq_true', not_and, Bool.not_eq_false] at hc
      exact (and_iff_right hc).symm

theorem findBadRun_eq_none_iff_isEncodable (position : Nat) (t : Text) :
    findBadRun (fun _ => false) position t = none ↔ t.isEncodable = true := by
  simp [findBadRun_eq_none_iff, Text.isEncodable]

/-- The bytes of a name are those of its code points, if each of them has some. -/
theorem encodeName?_eq_ok_iff {t : Text} {bytes : Bytes} :
    encodeName? t = .ok bytes ↔
      (∀ c ∈ t, c.isSurrogate = true → standsForByte c = true) ∧ bytes = rawBytes t := by
  rw [← findBadRun_eq_none_iff standsForByte 0, encodeName?]
  cases hrun : findBadRun standsForByte 0 t with
  | none =>
    simp only [Except.ok.injEq, true_and]
    exact eq_comm
  | some run => simp

theorem map_toNat_octets {n : Nat} (hn : n < 0x110000) :
    (octets n).map UInt8.toNat =
      if n < 0x80 then [n]
      else if n < 0x800 then [0xC0 + n / 0x40, 0x80 + n % 0x40]
      else if n < 0x10000 then [0xE0 + n / 0x1000, 0x80 + n / 0x40 % 0x40, 0x80 + n % 0x40]
      else [0xF0 + n / 0x40000, 0x80 + n / 0x1000 % 0x40, 0x80 + n / 0x40 % 0x40,
        0x80 + n % 0x40] := by
  unfold octets
  split_ifs <;> simp only [List.map_cons, List.map_nil, UInt8.toNat_ofNat', List.cons.injEq,
    and_true] <;> omega

theorem octets_ne_nil (n : Nat) : octets n ≠ [] := by
  unfold octets
  split_ifs <;> simp

/-- The bytes of a code point are no beginning of those of another, whatever follows. -/
theorem octets_append_inj {a b : Nat} (ha : a < 0x110000) (hb : b < 0x110000) {s t : Bytes}
    (h : octets a ++ s = octets b ++ t) : a = b ∧ s = t := by
  have hnumbers := congrArg (List.map UInt8.toNat) h
  rw [List.map_append, List.map_append, map_toNat_octets ha, map_toNat_octets hb] at hnumbers
  have hab : a = b := by
    split_ifs at hnumbers <;>
      simp only [List.cons_append, List.nil_append, List.cons.injEq] at hnumbers <;> omega
  subst hab
  exact ⟨rfl, List.append_cancel_left h⟩

theorem zero_notMem_nameOctets {c : CodePoint} (hc : c.val ≠ 0) : (0 : UInt8) ∉ nameOctets c := by
  intro hzero
  have hmem := List.mem_map_of_mem (f := UInt8.toNat) hzero
  have hlt := c.isLt
  unfold nameOctets at hmem
  split_ifs at hmem with hstands
  · simp only [standsForByte, Bool.and_eq_true, decide_eq_true_eq] at hstands
    simp at hmem
    omega
  · rw [map_toNat_octets hlt] at hmem
    split_ifs at hmem <;> simp at hmem <;> omega

theorem zero_notMem_rawBytes {t : Text} (h : t.NoNull) : (0 : UInt8) ∉ rawBytes t := by
  intro hzero
  obtain ⟨c, hc, hmem⟩ := List.mem_flatMap.mp hzero
  exact zero_notMem_nameOctets (h c hc) hmem

theorem nameOctets_eq {c : CodePoint} (hc : c.isSurrogate = false) :
    nameOctets c = octets c.val := by
  have hstands : standsForByte c = false := by
    simp only [CodePoint.isSurrogate, standsForByte, Bool.and_eq_false_iff,
      decide_eq_false_iff_not] at hc ⊢
    omega
  simp [nameOctets, hstands]

theorem nameOctets_ne_nil (c : CodePoint) : nameOctets c ≠ [] := by
  unfold nameOctets
  split_ifs
  · simp
  · exact octets_ne_nil c.val

theorem rawBytes_eq {t : Text} (ht : t.isEncodable = true) :
    rawBytes t = t.flatMap fun c => octets c.val :=
  List.flatMap_congr fun c hc => nameOctets_eq (by simpa using List.all_eq_true.mp ht c hc)

theorem encodeName?_inj {t u : Text} (ht : t.isEncodable = true) (hu : u.isEncodable = true) :
    encodeName? t = encodeName? u ↔ t = u := by
  have hname : ∀ t : Text, t.isEncodable = true →
      encodeName? t = .ok (t.flatMap fun c => octets c.val) := by
    intro t ht
    rw [encodeName?_eq_ok_iff]
    refine ⟨fun c hc hs => ?_, (rawBytes_eq ht).symm⟩
    exact absurd hs (by simpa using List.all_eq_true.mp ht c hc)
  rw [hname t ht, hname u hu, Except.ok.injEq]
  refine ⟨fun h => ?_, fun h => by rw [h]⟩
  clear ht hu
  induction t generalizing u with
  | nil =>
    cases u with
    | nil => rfl
    | cons d u => simp [octets_ne_nil] at h
  | cons c t ih =>
    cases u with
    | nil => simp [octets_ne_nil] at h
    | cons d u =>
      rw [List.flatMap_cons, List.flatMap_cons] at h
      obtain ⟨hcd, htu⟩ := octets_append_inj c.isLt d.isLt h
      rw [Fin.ext hcd, ih htu]

end Text.Utf8

/-! ### Absolute names -/

namespace Text

theorem mem_join {sep : Text} {parts : List Text} {c : CodePoint} (h : c ∈ join sep parts) :
    c ∈ sep ∨ ∃ part ∈ parts, c ∈ part := by
  induction parts with
  | nil => exact absurd h List.not_mem_nil
  | cons part rest ih =>
    cases rest with
    | nil => exact .inr ⟨part, List.mem_cons_self, h⟩
    | cons next more =>
      simp only [join, List.mem_append] at h
      rcases h with (h | h) | h
      · exact .inr ⟨part, List.mem_cons_self, h⟩
      · exact .inl h
      · rcases ih h with h | ⟨p, hp, h⟩
        · exact .inl h
        · exact .inr ⟨p, List.mem_cons_of_mem _ hp, h⟩

theorem subset_join (sep : Text) {parts : List Text} {part : Text} (h : part ∈ parts) :
    part ⊆ join sep parts := by
  induction parts with
  | nil => exact absurd h List.not_mem_nil
  | cons first rest ih =>
    intro c hc
    cases rest with
    | nil =>
      obtain rfl := List.mem_singleton.mp h
      exact hc
    | cons next more =>
      simp only [join, List.mem_append]
      rcases List.mem_cons.mp h with rfl | h
      · exact .inl (.inl hc)
      · exact .inr (ih h hc)

/-- A part between separators has no code points of its own. -/
theorem subset_of_mem_splitOn {sep : CodePoint} {t part : Text} (h : part ∈ splitOn sep t) :
    part ⊆ t := by
  have hsubset := subset_join [sep] h
  rwa [join_splitOn] at hsubset

end Text

namespace Path

theorem dot_eq : dot = [CodePoint.ofChar '.'] := by decide

/-- Resolving leaves parts out and makes none up. -/
theorem mem_resolve {rooted : Bool} {kept parts : List Text} {part : Text}
    (h : part ∈ resolve rooted kept parts) : part ∈ kept ∨ part ∈ parts := by
  fun_induction resolve rooted kept parts
  case case1 => exact .inl (List.mem_reverse.mp h)
  case case2 ih => exact (ih h).imp_right (List.mem_cons_of_mem _)
  case case3 ih => exact (ih h).imp_right (List.mem_cons_of_mem _)
  case case4 ih =>
    rcases ih h with h | h
    · exact .inr (List.mem_singleton.mp h ▸ List.mem_cons_self)
    · exact .inr (List.mem_cons_of_mem _ h)
  case case6 ih => exact (ih h).imp (List.mem_cons_of_mem _) (List.mem_cons_of_mem _)
  case case5 ih | case7 ih =>
    rcases ih h with h | h
    · rcases List.mem_cons.mp h with rfl | h
      · exact .inr List.mem_cons_self
      · exact .inl h
    · exact .inr (List.mem_cons_of_mem _ h)

/-- A normal name has no code points of its own except slashes and a dot. -/
theorem mem_normalize {name : Text} {c : CodePoint} (h : c ∈ normalize name) :
    c = slash ∨ c = CodePoint.ofChar '.' ∨ c ∈ name := by
  simp only [normalize] at h
  split_ifs at h
  · rw [dot_eq, List.mem_singleton] at h
    exact .inr (.inl h)
  · rcases List.mem_append.mp h with h | h
    · exact .inl (List.eq_of_mem_replicate h)
    · rcases Text.mem_join h with h | ⟨part, hpart, h⟩
      · exact .inl (List.mem_singleton.mp h)
      · rcases mem_resolve hpart with hpart | hpart
        · exact absurd hpart List.not_mem_nil
        · exact .inr (.inr (Text.subset_of_mem_splitOn hpart h))

theorem mem_join {directory name : Text} {c : CodePoint} (h : c ∈ join directory name) :
    c = slash ∨ c ∈ directory ∨ c ∈ name := by
  unfold join at h
  split_ifs at h
  · exact .inr (.inr h)
  · exact .inr (List.mem_append.mp h)
  · rcases List.mem_append.mp h with h | h
    · exact .inr (.inl h)
    · rcases List.mem_cons.mp h with h | h
      · exact .inl h
      · exact .inr (.inr h)

theorem isAbsolute_join {directory name : Text} (h : isAbsolute directory = true) :
    isAbsolute (join directory name) = true := by
  cases directory with
  | nil => exact absurd h (by decide)
  | cons c rest =>
    unfold join
    split_ifs with hname
    · exact hname
    · exact h
    · exact h

/-- A name that starts with a slash still does so when it is normal. -/
theorem exists_normalize_eq {name : Text} (h : isAbsolute name = true) :
    ∃ rest, normalize name = slash :: rest := by
  obtain ⟨k, hk⟩ : ∃ k, leadingSlashes name = k + 1 := by
    cases name with
    | nil => exact absurd h (by decide)
    | cons c rest =>
      have hc : (c == slash) = true := h
      unfold leadingSlashes
      rw [List.takeWhile_cons, if_pos hc, List.length_cons]
      split
      · omega
      · exact ⟨1, rfl⟩
      · exact ⟨0, rfl⟩
  simp only [normalize, hk, List.replicate_succ, List.cons_append]
  exact ⟨_, if_neg (List.cons_ne_nil _ _)⟩

end Path

namespace Environment

variable {e : Environment} {name : Text}

theorem mem_absolute {c : CodePoint} (h : c ∈ e.absolute name) :
    c = Path.slash ∨ c = CodePoint.ofChar '.' ∨ c ∈ e.workingDirectory ∨ c ∈ name := by
  rcases Path.mem_normalize h with h | h | h
  · exact .inl h
  · exact .inr (.inl h)
  · rcases Path.mem_join h with h | h
    · exact .inl h
    · exact .inr (.inr h)

theorem forall_mem_absolute {p : CodePoint → Prop} (hslash : p Path.slash)
    (hdot : p (CodePoint.ofChar '.')) (hdirectory : ∀ c ∈ e.workingDirectory, p c)
    (hname : ∀ c ∈ name, p c) : ∀ c ∈ e.absolute name, p c := by
  intro c hc
  rcases mem_absolute hc with rfl | rfl | hc | hc
  · exact hslash
  · exact hdot
  · exact hdirectory c hc
  · exact hname c hc

theorem noNull_absolute (hdirectory : e.workingDirectory.NoNull) (hname : name.NoNull) :
    (e.absolute name).NoNull :=
  forall_mem_absolute (by decide) (by decide) hdirectory hname

theorem exists_encodeName?_absolute
    (hdirectory : ∃ bytes, Text.Utf8.encodeName? e.workingDirectory = .ok bytes)
    (hname : ∃ bytes, Text.Utf8.encodeName? name = .ok bytes) :
    ∃ bytes, Text.Utf8.encodeName? (e.absolute name) = .ok bytes := by
  obtain ⟨_, hdirectory⟩ := hdirectory
  obtain ⟨_, hname⟩ := hname
  have hboth := forall_mem_absolute (p := fun c => c.isSurrogate = true →
    Text.Utf8.standsForByte c = true) (by decide) (by decide)
    (Text.Utf8.encodeName?_eq_ok_iff.mp hdirectory).1 (Text.Utf8.encodeName?_eq_ok_iff.mp hname).1
  exact ⟨_, Text.Utf8.encodeName?_eq_ok_iff.mpr ⟨hboth, rfl⟩⟩

theorem exists_absolute_eq (h : Path.isAbsolute e.workingDirectory = true) :
    ∃ rest, e.absolute name = Path.slash :: rest :=
  Path.exists_normalize_eq (Path.isAbsolute_join h)

end Environment

end LaunchIndex
