import Mathlib.Data.List.Infix
import LaunchIndex.Toml.Document
import LaunchIndex.Proofs.Outcomes

/-! Why a TOML document is refused. A reader gives back an end of what it was given, or refuses
it. There are two causes: the text is malformed, or a decimal integer has more digits than an
integer may have, and then the document has as many. Each reader has one lemma here, made from
those of the readers that it calls. -/

namespace LaunchIndex

namespace Toml

/-- The causes for which a text is refused. An integer that is too long is in the text. -/
def Refusal (cs : List Char) (fault : Fault) : Prop :=
  fault = .malformedToml ∨
    ∃ n, fault = .tooManyDigits n ∧ Text.maxDigits < n ∧ n ≤ cs.countP Char.isDigit

theorem Refusal.malformed (cs : List Char) : Refusal cs .malformedToml := .inl rfl

theorem Refusal.of_sublist {cs part : List Char} {fault : Fault} (h : Refusal part fault)
    (hpart : part.Sublist cs) : Refusal cs fault := by
  rcases h with rfl | ⟨n, rfl, hlong, hcount⟩
  · exact .malformed cs
  · exact .inr ⟨n, rfl, hlong, hcount.trans (hpart.countP_le)⟩

/-- A reader leaves an end of the text, or refuses it. -/
def Reads {α : Type} (cs : List Char) (o : Outcome (α × List Char)) : Prop :=
  o.Ensures (fun r => r.2 <:+ cs) (Refusal cs)

section

variable {α β : Type} {cs rest : List Char} {o : Outcome (α × List Char)}

theorem reads_ok {a : α} (h : rest <:+ cs) : Reads cs (.ok (a, rest)) := h

theorem reads_malformed (cs : List Char) :
    Reads cs (.error .malformedToml : Outcome (α × List Char)) :=
  .malformed cs

/-- What reads an end of a text reads the text. -/
theorem Reads.of_suffix (h : Reads rest o) (hrest : rest <:+ cs) : Reads cs o :=
  Outcome.Ensures.mono h (fun _ hr => hr.trans hrest) fun _ hf => hf.of_sublist hrest.sublist

theorem Reads.map_fst {f : α → β} (h : Reads cs o) :
    Reads cs (o.map fun r => (f r.1, r.2)) :=
  Outcome.Ensures.map h

theorem Reads.bind {next : α × List Char → Outcome (β × List Char)} (h : Reads cs o)
    (hnext : ∀ a rest, rest <:+ cs → Reads rest (next (a, rest))) : Reads cs (o >>= next) :=
  Outcome.Ensures.bind h fun r hr => (hnext r.1 r.2 hr).of_suffix hr

end

theorem skipBlanks_suffix (cs : List Char) : skipBlanks cs <:+ cs := List.dropWhile_suffix _

/-! ### Quoted text -/

namespace Quoted

theorem suffix_of_escaped? {cs rest : List Char} {c : Char} (h : escaped? cs = some (c, rest)) :
    rest <:+ cs := by
  unfold escaped? at h
  split at h
  · split at h
    · obtain ⟨d, -, hd⟩ := Option.map_eq_some_iff.mp h
      rw [← (Prod.mk.inj hd).2]
      exact (List.drop_suffix _ _).trans (List.suffix_cons _ _)
    · simp at h
  · split at h
    · obtain ⟨d, -, hd⟩ := Option.map_eq_some_iff.mp h
      rw [← (Prod.mk.inj hd).2]
      exact (List.drop_suffix _ _).trans (List.suffix_cons _ _)
    · simp at h
  · obtain ⟨d, -, hd⟩ := Option.map_eq_some_iff.mp h
    rw [← (Prod.mk.inj hd).2]
    exact List.suffix_cons _ _
  · simp at h

theorem suffix_of_afterLineEnd? {cs rest : List Char} (h : afterLineEnd? cs = some rest) :
    rest <:+ cs := by
  unfold afterLineEnd? at h
  split at h
  · next more hmore =>
    rw [← Option.some.inj h]
    refine (List.dropWhile_suffix _).trans ((List.suffix_cons '\n' more).trans ?_)
    rw [← hmore]
    exact skipBlanks_suffix cs
  · simp at h

theorem closing_suffix (quote : Char) (read rest : List Char) :
    (closing quote read rest).2 <:+ rest :=
  List.drop_suffix _ _

/-- Each step reads at least one character and goes on with what is behind it. -/
theorem double_reads (multiline : Bool) (read cs : List Char) (fuel : Nat) :
    Reads cs (double multiline read cs fuel) := by
  induction fuel generalizing read cs with
  | zero => exact reads_malformed cs
  | succ fuel ih =>
    unfold double
    split
    · exact reads_malformed _
    · next rest =>
      have hrest : rest <:+ '"' :: '"' :: '"' :: rest := ⟨['"', '"', '"'], rfl⟩
      split
      · exact (closing_suffix _ _ _).trans hrest
      · exact reads_ok (List.suffix_cons _ _)
    · next rest _ =>
      split
      · exact (ih _ rest).of_suffix (List.suffix_cons _ _)
      · exact reads_ok (List.suffix_cons _ _)
    · next rest =>
      split
      · next c more hescaped =>
        exact (ih _ more).of_suffix
          ((suffix_of_escaped? hescaped).trans (List.suffix_cons _ _))
      · next more _ hafter =>
        split
        · exact (ih _ more).of_suffix
            ((suffix_of_afterLineEnd? hafter).trans (List.suffix_cons _ _))
        · exact reads_malformed _
      · exact reads_malformed _
    · next c rest _ _ _ =>
      split
      · exact reads_malformed _
      · exact (ih _ rest).of_suffix (List.suffix_cons _ _)

theorem single_reads (multiline : Bool) (read cs : List Char) :
    Reads cs (single multiline read cs) := by
  fun_induction single multiline read cs with
  | case1 => exact reads_malformed _
  | case2 read rest hmultiline =>
    exact (closing_suffix _ _ _).trans ⟨['\'', '\'', '\''], rfl⟩
  | case3 read rest hmultiline => exact reads_ok (List.suffix_cons _ _)
  | case4 read rest hmultiline _ ih => exact ih.of_suffix (List.suffix_cons _ _)
  | case5 read rest hmultiline => exact reads_ok (List.suffix_cons _ _)
  | case6 => exact reads_malformed _
  | case7 read c rest _ _ _ ih => exact ih.of_suffix (List.suffix_cons _ _)

theorem text_reads (multiline : Bool) (quote : Char) (cs : List Char) :
    Reads cs
      ((if quote = '"' then double multiline [] cs (cs.length + 1)
        else single multiline [] cs).map fun r => (Text.ofChars r.1, r.2)) := by
  split
  · exact (double_reads _ _ _ _).map_fst
  · exact (single_reads _ _ _).map_fst

theorem line_reads (quote : Char) (cs : List Char) : Reads cs (line quote cs) :=
  text_reads false quote cs

theorem block_reads (quote : Char) (cs : List Char) : Reads cs (block quote cs) := by
  refine (text_reads true quote _).of_suffix ?_
  split
  · exact List.suffix_cons _ _
  · exact List.suffix_rfl

end Quoted

/-! ### Numbers, dates and times -/

namespace Scalar

theorem digits_spec (isDigit : Char → Bool) (cs : List Char) :
    (digits isDigit cs).1.Sublist cs ∧ (∀ c ∈ (digits isDigit cs).1, isDigit c = true) ∧
      (digits isDigit cs).2 <:+ cs := by
  fun_induction digits isDigit cs with
  | case1 c rest hc ds left hds ih =>
    rw [hds] at ih
    obtain ⟨hsublist, hdigits, hrest⟩ := ih
    refine ⟨(hsublist.cons_cons c).cons '_', ?_,
      hrest.trans ((List.suffix_cons _ _).trans (List.suffix_cons _ _))⟩
    rintro d (_ | ⟨_, hd⟩)
    · exact hc
    · exact hdigits d hd
  | case2 c rest hc => exact ⟨List.nil_sublist _, by simp, List.suffix_rfl⟩
  | case3 c rest _ hc ds left hds ih =>
    rw [hds] at ih
    obtain ⟨hsublist, hdigits, hrest⟩ := ih
    refine ⟨hsublist.cons_cons c, ?_, hrest.trans (List.suffix_cons _ _)⟩
    rintro d (_ | ⟨_, hd⟩)
    · exact hc
    · exact hdigits d hd
  | case4 c rest hc => exact ⟨List.nil_sublist _, by simp, List.suffix_rfl⟩
  | case5 => exact ⟨List.nil_sublist _, by simp, List.suffix_rfl⟩

theorem eq_digits_of_digitsFrom? {isDigit : Char → Bool} {cs : List Char}
    {r : List Char × List Char} (h : digitsFrom? isDigit cs = some r) : r = digits isDigit cs := by
  unfold digitsFrom? at h
  split at h
  · split at h
    · exact (Option.some.inj h).symm
    · simp at h
  · simp at h

theorem suffix_of_digitsFrom? {isDigit : Char → Bool} {cs ds rest : List Char}
    (h : digitsFrom? isDigit cs = some (ds, rest)) : rest <:+ cs := by
  have hr := (digits_spec isDigit cs).2.2
  rwa [← eq_digits_of_digitsFrom? h] at hr

theorem suffix_of_based? {cs rest : List Char} {item : Item}
    (h : based? cs = some (item, rest)) : rest <:+ cs := by
  unfold based? at h
  split at h
  all_goals
    first
    | obtain ⟨⟨ds, left⟩, hds, hr⟩ := Option.map_eq_some_iff.mp h
      rw [← (Prod.mk.inj hr).2]
      exact (suffix_of_digitsFrom? hds).trans
        ((List.suffix_cons _ _).trans (List.suffix_cons _ _))
    | simp at h

theorem whole?_spec {cs ds rest : List Char} (h : whole? cs = some (ds, rest)) :
    ds.length ≤ cs.countP Char.isDigit ∧ rest <:+ cs := by
  unfold whole? at h
  split at h
  · next more =>
    obtain ⟨rfl, rfl⟩ := Prod.mk.inj (Option.some.inj h)
    exact ⟨by simp, List.suffix_cons _ _⟩
  · obtain ⟨hsublist, hdigits, hrest⟩ := digits_spec Char.isDigit cs
    rw [← eq_digits_of_digitsFrom? h] at hsublist hdigits hrest
    rw [← List.countP_eq_length.mpr hdigits]
    exact ⟨hsublist.countP_le, hrest⟩

theorem fraction_suffix (cs : List Char) : (fraction cs).2 <:+ cs := by
  unfold fraction
  split
  · split
    · next h => exact (suffix_of_digitsFrom? h).trans (List.suffix_cons _ _)
    · exact List.suffix_rfl
  · exact List.suffix_rfl

theorem exponent_suffix (cs : List Char) : (exponent cs).2 <:+ cs := by
  unfold exponent
  split
  · next c rest =>
    split
    · split
      next sign left hleft =>
        have hsign : left <:+ rest := by
          split at hleft
          · exact (Prod.mk.inj hleft).2 ▸ List.suffix_cons _ _
          · exact (Prod.mk.inj hleft).2 ▸ List.suffix_cons _ _
          · exact (Prod.mk.inj hleft).2 ▸ List.suffix_rfl
        split
        · next h =>
          exact (suffix_of_digitsFrom? h).trans (hsign.trans (List.suffix_cons _ _))
        · exact List.suffix_rfl
    · exact List.suffix_rfl
  · exact List.suffix_rfl

theorem takeSign_suffix (cs : List Char) : (takeSign cs).2 <:+ cs := by
  unfold takeSign
  split
  · exact List.suffix_cons _ _
  · exact List.suffix_cons _ _
  · exact List.suffix_rfl

theorem reads_of_decimal? {cs : List Char} {o : Outcome (Item × List Char)}
    (h : decimal? cs = some o) : Reads cs o := by
  obtain ⟨⟨ds, rest⟩, hwhole, ho⟩ := Option.map_eq_some_iff.mp h
  obtain ⟨hcount, hrest⟩ := whole?_spec hwhole
  have hsign := takeSign_suffix cs
  have hleft : (exponent (fraction rest).2).2 <:+ cs :=
    (exponent_suffix _).trans ((fraction_suffix _).trans (hrest.trans hsign))
  rw [← ho]
  dsimp only
  split
  · split
    · next hlong =>
      exact .inr ⟨ds.length, rfl, hlong, hcount.trans hsign.sublist.countP_le⟩
    · exact reads_ok hleft
  · split
    · exact reads_ok hleft
    · exact reads_malformed cs

theorem suffix_of_word? {cs rest : List Char} {item : Item}
    (h : word? cs = some (item, rest)) : rest <:+ cs := by
  simp only [word?] at h
  split at h
  · next more hsign =>
    obtain ⟨-, rfl⟩ := Prod.mk.inj (Option.some.inj h)
    exact (hsign ▸ ⟨['i', 'n', 'f'], rfl⟩ : more <:+ (takeSign cs).2).trans (takeSign_suffix cs)
  · next more hsign =>
    obtain ⟨-, rfl⟩ := Prod.mk.inj (Option.some.inj h)
    exact (hsign ▸ ⟨['n', 'a', 'n'], rfl⟩ : more <:+ (takeSign cs).2).trans (takeSign_suffix cs)
  · simp at h

theorem suffix_of_fixed? {width n : Nat} {cs rest : List Char}
    (h : fixed? width cs = some (n, rest)) : rest <:+ cs := by
  simp only [fixed?] at h
  split at h
  · rw [← (Prod.mk.inj (Option.some.inj h)).2]
    exact List.drop_suffix _ _
  · simp at h

theorem suffix_of_expect? {c : Char} {cs rest : List Char} (h : expect? c cs = some rest) :
    rest <:+ cs := by
  unfold expect? at h
  split at h
  · split at h
    · rw [← Option.some.inj h]
      exact List.suffix_cons _ _
    · simp at h
  · simp at h

theorem suffix_of_date? {cs rest : List Char} {date : Calendar.Date}
    (h : date? cs = some (date, rest)) : rest <:+ cs := by
  simp only [date?, Option.bind_eq_bind, Option.bind_eq_some_iff] at h
  obtain ⟨⟨year, r₁⟩, h₁, r₂, h₂, ⟨month, r₃⟩, h₃, r₄, h₄, ⟨day, r₅⟩, h₅, h⟩ := h
  split at h
  · rw [← (Prod.mk.inj (Option.some.inj h)).2]
    exact (suffix_of_fixed? h₅).trans <| (suffix_of_expect? h₄).trans <|
      (suffix_of_fixed? h₃).trans <| (suffix_of_expect? h₂).trans (suffix_of_fixed? h₁)
  · simp at h

theorem suffix_of_clock? {cs rest : List Char} (h : clock? cs = some rest) : rest <:+ cs := by
  simp only [clock?, Option.bind_eq_bind, Option.bind_eq_some_iff] at h
  obtain ⟨⟨hour, r₁⟩, h₁, r₂, h₂, ⟨minute, r₃⟩, h₃, h⟩ := h
  split at h
  · rw [← Option.some.inj h]
    exact (suffix_of_fixed? h₃).trans <| (suffix_of_expect? h₂).trans (suffix_of_fixed? h₁)
  · simp at h

theorem suffix_of_time? {cs rest : List Char} (h : time? cs = some rest) : rest <:+ cs := by
  simp only [time?, Option.bind_eq_bind, Option.bind_eq_some_iff] at h
  obtain ⟨r₁, h₁, r₂, h₂, ⟨second, r₃⟩, h₃, h⟩ := h
  have hrest : r₃ <:+ cs :=
    (suffix_of_fixed? h₃).trans <| (suffix_of_expect? h₂).trans (suffix_of_clock? h₁)
  split at h
  · split at h
    · next c more hdot =>
      split at h
      · rw [← Option.some.inj h]
        refine (List.dropWhile_suffix _).trans (List.IsSuffix.trans ?_ hrest)
        exact ⟨['.', c], hdot.symm⟩
      · exact Option.some.inj h ▸ hrest
    · exact Option.some.inj h ▸ hrest
  · simp at h

theorem skipOffset_suffix (cs : List Char) : skipOffset cs <:+ cs := by
  unfold skipOffset
  split
  · next c rest =>
    split
    · exact List.suffix_cons _ _
    · split
      · cases hclock : clock? rest with
        | none => exact List.suffix_rfl
        | some left => exact (suffix_of_clock? hclock).trans (List.suffix_cons _ _)
      · exact List.suffix_rfl
  · exact List.suffix_rfl

theorem skipTime_suffix (cs : List Char) : skipTime cs <:+ cs := by
  unfold skipTime
  split
  · split
    · split
      · next htime =>
        exact (skipOffset_suffix _).trans ((suffix_of_time? htime).trans (List.suffix_cons _ _))
      · exact List.suffix_rfl
    · exact List.suffix_rfl
  · exact List.suffix_rfl

theorem reads_of_moment? {cs : List Char} {o : Outcome (Item × List Char)}
    (h : moment? cs = some o) : Reads cs o := by
  unfold moment? at h
  split at h
  · next date rest hdate =>
    rw [← Option.some.inj h]
    split
    · exact reads_ok ((skipTime_suffix _).trans (suffix_of_date? hdate))
    · exact reads_malformed cs
  · obtain ⟨rest, htime, ho⟩ := Option.map_eq_some_iff.mp h
    rw [← ho]
    exact reads_ok (suffix_of_time? htime)

theorem read_reads (cs : List Char) : Reads cs (read cs) := by
  unfold read
  split
  · next h => exact reads_of_moment? h
  · split
    · next h => exact reads_ok (suffix_of_based? h)
    · split
      · next h => exact reads_of_decimal? h
      · split
        · next h => exact reads_ok (suffix_of_word? h)
        · exact reads_malformed cs

end Scalar

/-! ### Entries -/

/-- A change fits the entries, or what asks for it is malformed. -/
def Fits {α : Type} (o : Outcome α) : Prop := o.Ensures (fun _ => True) (· = .malformedToml)

theorem fits_ok {α : Type} (a : α) : Fits (.ok a : Outcome α) := trivial

theorem fits_malformed {α : Type} : Fits (.error .malformedToml : Outcome α) := rfl

theorem Fits.map {α β : Type} {o : Outcome α} (h : Fits o) (f : α → β) : Fits (o.map f) :=
  Outcome.Ensures.map h

theorem Fits.bind_reads {α β : Type} {cs : List Char} {o : Outcome α}
    {next : α → Outcome (β × List Char)} (h : Fits o) (hnext : ∀ a, Reads cs (next a)) :
    Reads cs (o >>= next) :=
  Outcome.Ensures.bind
    (Outcome.Ensures.mono h (fun _ ha => ha) fun _ hf => hf ▸ Refusal.malformed cs)
    fun a _ => hnext a

namespace Entries

theorem update_fits (name : Text) {change : Option Item → Outcome Item}
    (h : ∀ item, Fits (change item)) (entries : Entries) : Fits (update name change entries) := by
  induction entries with
  | nil => exact (h none).map _
  | cons entry rest ih =>
    unfold update
    split
    · exact (h (some entry.2)).map _
    · exact ih.map _

theorem within_fits {change : Entries → Outcome Entries} (h : ∀ entries, Fits (change entries))
    (path : List Text) (entries : Entries) : Fits (within change path entries) := by
  induction path generalizing entries with
  | nil => exact h entries
  | cons name path ih =>
    refine update_fits name (fun item => ?_) entries
    split
    · exact (ih []).map _
    · split
      · exact fits_malformed
      · exact (ih _).map _
    · exact (ih _).map _
    · exact fits_malformed

theorem declare_fits (name : Text) (entries : Entries) : Fits (declare name entries) := by
  refine update_fits name (fun item => ?_) entries
  split
  · exact fits_ok _
  · exact fits_ok _
  · exact fits_malformed

theorem append_fits (name : Text) (entries : Entries) : Fits (append name entries) := by
  refine update_fits name (fun item => ?_) entries
  split
  · exact fits_ok _
  · exact fits_ok _
  · exact fits_malformed

theorem insert_fits (header : Nat) (item : Item) (path : List Text) (entries : Entries) :
    Fits (insert header item path entries) := by
  fun_induction insert header item path entries with
  | case1 => exact fits_malformed
  | case2 name entries =>
    refine update_fits name (fun found => ?_) entries
    split
    · exact fits_ok _
    · exact fits_malformed
  | case3 name path entries hpath ihnew ih =>
    refine update_fits name (fun found => ?_) entries
    split
    · exact ihnew.map _
    · split
      · exact (ih _).map _
      · exact fits_malformed
    · exact fits_malformed

end Entries

/-! ### Keys -/

theorem keyPart_reads (cs : List Char) : Reads cs (keyPart cs) := by
  unfold keyPart
  split
  · exact (Quoted.line_reads _ _).of_suffix (List.suffix_cons _ _)
  · exact (Quoted.line_reads _ _).of_suffix (List.suffix_cons _ _)
  · dsimp only
    split
    · exact reads_malformed cs
    · exact reads_ok (List.dropWhile_suffix _)

theorem keyParts_reads (cs : List Char) (fuel : Nat) : Reads cs (keyParts cs fuel) := by
  induction fuel generalizing cs with
  | zero => exact reads_malformed cs
  | succ fuel ih =>
    unfold keyParts
    refine (keyPart_reads cs).bind fun part rest _ => ?_
    have hskip := skipBlanks_suffix rest
    dsimp only
    split
    · next more hdot =>
      have hmore : more <:+ rest := (List.suffix_cons '.' more).trans (hdot ▸ hskip)
      refine Reads.of_suffix ?_ ((skipBlanks_suffix more).trans hmore)
      exact (ih _).bind fun parts left _ => reads_ok List.suffix_rfl
    · exact reads_ok hskip

theorem key_reads (cs : List Char) : Reads cs (key cs) := keyParts_reads cs _

/-! ### Values -/

theorem skipFiller_ensures (inComment : Bool) (cs : List Char) :
    (skipFiller inComment cs).Ensures (· <:+ cs) (Refusal cs) := by
  induction cs generalizing inComment with
  | nil => exact List.suffix_rfl
  | cons c rest ih =>
    have hrest (inComment : Bool) :
        (skipFiller inComment rest).Ensures (· <:+ c :: rest) (Refusal (c :: rest)) :=
      (ih inComment).mono (fun _ h => h.trans (List.suffix_cons c rest)) fun _ h =>
        h.of_sublist (List.sublist_cons_self c rest)
    unfold skipFiller
    split
    · split
      · exact hrest false
      · split
        · exact .malformed _
        · exact hrest true
    · split
      · exact hrest false
      · split
        · exact hrest true
        · exact List.suffix_rfl

/-- The end of a text that is left when filler is skipped goes to a reader. -/
theorem skipFiller_bind {α : Type} (cs : List Char)
    {next : List Char → Outcome (α × List Char)} (hnext : ∀ rest, Reads rest (next rest)) :
    Reads cs (skipFiller false cs >>= next) :=
  (skipFiller_ensures false cs).bind fun rest hrest => (hnext rest).of_suffix hrest

/-- The readers of nested values, each with the same fuel. -/
structure NestedReads (fuel : Nat) : Prop where
  value (cs : List Char) : Reads cs (value cs fuel)
  arrayItems (items : List Item) (cs : List Char) : Reads cs (arrayItems items cs fuel)
  inlineEntries (entries : Entries) (cs : List Char) : Reads cs (inlineEntries entries cs fuel)
  keyValue (cs : List Char) :
    (keyValue cs fuel).Ensures (fun r => r.2.2 <:+ cs) (Refusal cs)

variable {fuel : Nat}

theorem NestedReads.value_succ (h : NestedReads fuel) (cs : List Char) :
    Reads cs (Toml.value cs (fuel + 1)) := by
  unfold Toml.value
  split
  · exact (Quoted.block_reads _ _).map_fst.of_suffix ⟨['"', '"', '"'], rfl⟩
  · exact (Quoted.line_reads _ _).map_fst.of_suffix (List.suffix_cons _ _)
  · exact (Quoted.block_reads _ _).map_fst.of_suffix ⟨['\'', '\'', '\''], rfl⟩
  · exact (Quoted.line_reads _ _).map_fst.of_suffix (List.suffix_cons _ _)
  · exact reads_ok ⟨['t', 'r', 'u', 'e'], rfl⟩
  · exact reads_ok ⟨['f', 'a', 'l', 's', 'e'], rfl⟩
  · refine (skipFiller_bind _ fun rest => ?_).of_suffix (List.suffix_cons _ _)
    exact h.arrayItems [] rest
  · next rest =>
    have hskip := (skipBlanks_suffix rest).trans (List.suffix_cons '\x7b' rest)
    split
    · next more hclose => exact reads_ok ((List.suffix_cons '\x7d' more).trans (hclose ▸ hskip))
    · exact (h.inlineEntries [] _).of_suffix hskip
  · exact Scalar.read_reads cs

theorem NestedReads.arrayItems_succ (h : NestedReads fuel) (items : List Item) (cs : List Char) :
    Reads cs (Toml.arrayItems items cs (fuel + 1)) := by
  unfold Toml.arrayItems
  split
  · exact reads_ok (List.suffix_cons _ _)
  · refine (h.value cs).bind fun item rest _ => skipFiller_bind rest fun left => ?_
    split
    · exact reads_ok (List.suffix_cons _ _)
    · refine (skipFiller_bind _ fun more => ?_).of_suffix (List.suffix_cons _ _)
      exact h.arrayItems _ more
    · exact reads_malformed left

theorem NestedReads.inlineEntries_succ (h : NestedReads fuel) (entries : Entries)
    (cs : List Char) : Reads cs (Toml.inlineEntries entries cs (fuel + 1)) := by
  unfold Toml.inlineEntries
  refine Outcome.Ensures.bind (h.keyValue cs) fun r hr => Reads.of_suffix ?_ hr
  refine (Entries.insert_fits 0 r.2.1 r.1 entries).bind_reads fun added => ?_
  have hskip := skipBlanks_suffix r.2.2
  split
  · next more hclose => exact reads_ok ((List.suffix_cons '\x7d' more).trans (hclose ▸ hskip))
  · next more hcomma =>
    exact (h.inlineEntries added _).of_suffix
      ((skipBlanks_suffix more).trans ((List.suffix_cons ',' more).trans (hcomma ▸ hskip)))
  · exact reads_malformed _

theorem NestedReads.keyValue_succ (h : NestedReads fuel) (cs : List Char) :
    (Toml.keyValue cs (fuel + 1)).Ensures (fun r => r.2.2 <:+ cs) (Refusal cs) := by
  unfold Toml.keyValue
  refine Outcome.Ensures.bind (key_reads cs) fun r hr => ?_
  split
  · next path rest =>
    have hrest : skipBlanks rest <:+ cs :=
      (skipBlanks_suffix rest).trans ((List.suffix_cons '=' rest).trans hr)
    exact Outcome.Ensures.bind ((h.value _).of_suffix hrest) fun r hr => hr
  · exact .malformed cs

theorem nestedReads (fuel : Nat) : NestedReads fuel := by
  induction fuel with
  | zero => exact ⟨reads_malformed, fun _ => reads_malformed, fun _ => reads_malformed, .malformed⟩
  | succ fuel ih =>
    exact ⟨ih.value_succ, ih.arrayItems_succ, ih.inlineEntries_succ, ih.keyValue_succ⟩

/-! ### Documents -/

theorem header_reads (s : State) (cs : List Char) : Reads cs (header s cs) := by
  unfold header
  have hstart : skipBlanks (if (cs.head? == some '[') = true then cs.drop 1 else cs) <:+ cs := by
    refine (skipBlanks_suffix _).trans ?_
    split
    · exact List.drop_suffix _ _
    · exact List.suffix_rfl
  refine ((key_reads _).of_suffix hstart).bind fun path rest _ => ?_
  dsimp only
  split
  · exact reads_malformed rest
  · next name _ =>
    have hchange (entries : Entries) :
        Fits ((if (cs.head? == some '[') = true then Entries.append name
          else Entries.declare name) entries) := by
      split
      · exact Entries.append_fits name entries
      · exact Entries.declare_fits name entries
    refine (Entries.within_fits hchange path.dropLast s.entries).bind_reads fun entries => ?_
    split
    · exact reads_ok (List.suffix_cons _ _)
    · exact reads_ok ⟨[']', ']'], rfl⟩
    · exact reads_malformed _

theorem statement_reads (s : State) (cs : List Char) (fuel : Nat) :
    Reads cs (statement s cs fuel) := by
  unfold statement
  split
  · exact (header_reads s _).of_suffix (List.suffix_cons _ _)
  · exact reads_ok List.suffix_rfl
  · refine Outcome.Ensures.bind ((nestedReads fuel).keyValue cs) fun r hr => Reads.of_suffix ?_ hr
    exact (Entries.within_fits (Entries.insert_fits s.count r.2.1 r.1) s.header
      s.entries).bind_reads fun entries => reads_ok List.suffix_rfl

theorem lineEnd_ensures (cs : List Char) :
    (lineEnd cs).Ensures (fun left => ∀ rest, left = some rest → rest <:+ cs) (Refusal cs) := by
  have hskip := skipBlanks_suffix cs
  unfold lineEnd
  dsimp only
  split
  · rintro rest ⟨⟩
  · next rest hbreak =>
    rintro _ ⟨⟩
    refine (List.suffix_cons '\n' rest).trans ?_
    rw [← hbreak]
    split
    · next more hcomment =>
      exact (List.dropWhile_suffix _).trans
        ((List.suffix_cons '#' more).trans (hcomment ▸ hskip))
    · exact hskip
  · exact .malformed cs

theorem lines_ensures (s : State) (cs : List Char) (fuel : Nat) :
    (lines s cs fuel).Ensures (fun _ => True) (Refusal cs) := by
  induction fuel generalizing s cs with
  | zero => exact .malformed cs
  | succ fuel ih =>
    have hskip := skipBlanks_suffix cs
    have hlines (s : State) {rest : List Char} (hrest : rest <:+ cs) :
        (lines s rest fuel).Ensures (fun _ => True) (Refusal cs) :=
      (ih s rest).mono (fun _ h => h) fun _ h => h.of_sublist hrest.sublist
    unfold lines
    split
    · exact trivial
    · next rest hbreak => exact hlines s ((List.suffix_cons '\n' rest).trans (hbreak ▸ hskip))
    · refine Outcome.Ensures.bind ((statement_reads s _ fuel).of_suffix hskip) fun r hr => ?_
      refine Outcome.Ensures.bind ((lineEnd_ensures r.2).mono (fun _ h => h) fun _ h =>
        h.of_sublist hr.sublist) fun left hleft => ?_
      cases left with
      | none => exact trivial
      | some rest => exact hlines r.1 ((hleft rest rfl).trans hr)

theorem joinLineBreaks_sublist (cs : List Char) : (joinLineBreaks cs).Sublist cs := by
  fun_induction joinLineBreaks cs with
  | case1 rest ih => exact (ih.cons_cons '\n').cons '\r'
  | case2 c rest _ ih => exact ih.cons_cons c
  | case3 => exact List.Sublist.slnil

/-- A text that is no document is malformed, or has an integer of too many digits. -/
theorem refusal_of_ofChars {cs : List Char} {fault : Fault} (h : ofChars cs = .error fault) :
    Refusal cs fault := by
  have hlines := lines_ensures {} (joinLineBreaks cs) (4 * cs.length + 4)
  rw [ofChars] at h
  rw [h] at hlines
  exact hlines.of_sublist (joinLineBreaks_sublist cs)

/-- Why bytes are no document, apart from malformed text: they are no text, or the text has an
integer of too many digits. -/
theorem refusal_of_ofBytes {bytes : Text.Bytes} {fault : Fault} (h : ofBytes bytes = .error fault)
    (hfault : fault ≠ .malformedToml) :
    (fault = .undecodable ∧ Text.Utf8.decode? bytes = none) ∨
      ∃ cs n, Text.Utf8.decode? bytes = some cs ∧ fault = .tooManyDigits n ∧
        Text.maxDigits < n ∧ n ≤ cs.countP Char.isDigit := by
  unfold ofBytes at h
  split at h
  · next cs hcs =>
    rcases refusal_of_ofChars h with hmalformed | ⟨n, hn, hlong, hcount⟩
    · exact absurd hmalformed hfault
    · exact .inr ⟨cs, n, hcs, hn, hlong, hcount⟩
  · next hnone => exact .inl ⟨(Except.error.inj h).symm, hnone⟩

end Toml

end LaunchIndex
