import Mathlib.Algebra.Ring.Nat
import Mathlib.Data.List.TakeWhile
import LaunchIndex.Yaml.Source

/-! Reading a text in pages. Bytes come in blocks that may end inside of a character or of a line
end, and characters leave in pages of one length. Put together the pages are the text, as if it had
been decoded at once, so nothing about a document depends on where its blocks and pages end. -/

namespace LaunchIndex

namespace Text.Utf8

/-! ### Characters in blocks -/

/-- A byte that starts a character of several bytes: how many more there are, what it carries of the
number, and the least number that is written so. -/
inductive Leads (b : UInt8) : Nat → Nat → Nat → Prop
  | two (h : 0xC2 ≤ b.toNat) (h' : b.toNat < 0xE0) : Leads b 1 (b.toNat - 0xC0) 0x80
  | three (h : 0xE0 ≤ b.toNat) (h' : b.toNat < 0xF0) : Leads b 2 (b.toNat - 0xE0) 0x800
  | four (h : 0xF0 ≤ b.toNat) (h' : b.toNat < 0xF5) : Leads b 3 (b.toNat - 0xF0) 0x10000

/-- A number that is a character, and not one that has a shorter form. -/
def IsScalar (least value : Nat) : Prop :=
  least ≤ value ∧ value < 0x110000 ∧ ¬(0xD800 ≤ value ∧ value < 0xE000)

instance (least value : Nat) : Decidable (IsScalar least value) :=
  inferInstanceAs (Decidable (_ ∧ _))

/-- The bytes that complete a character. -/
def Completes (count high least : Nat) (tail : Bytes) : Prop :=
  tail.length = count ∧ tail.all isContinuation ∧ IsScalar least (continued high tail)

instance (count high least : Nat) (tail : Bytes) : Decidable (Completes count high least tail) :=
  inferInstanceAs (Decidable (_ ∧ _))

variable {b : UInt8} {rest more left : Bytes} {c : Char} {count high least : Nat}

theorem decodeOne_of_leads (h : Leads b count high least) (rest : Bytes) :
    decodeOne b rest =
      if Completes count high least (rest.take count) then
        some (Char.ofNat (continued high (rest.take count)), rest.drop count)
      else none := by
  cases h with
  | two h h' =>
    simp only [decodeOne, show ¬b.toNat < 0x80 by omega, h, h', and_self, ↓reduceIte]
    rfl
  | three h h' =>
    simp only [decodeOne, show ¬b.toNat < 0x80 by omega, show ¬b.toNat < 0xE0 by omega, h, h',
      and_self, and_false, ↓reduceIte]
    rfl
  | four h h' =>
    simp only [decodeOne, show ¬b.toNat < 0x80 by omega, show ¬b.toNat < 0xE0 by omega,
      show ¬b.toNat < 0xF0 by omega, h, h', and_self, and_false, ↓reduceIte]
    rfl

/-- A character is one byte, or a lead byte with what completes it. -/
theorem of_decodeOne_eq_some (h : decodeOne b rest = some (c, left)) :
    (b.toNat < 0x80 ∧ c = Char.ofNat b.toNat ∧ left = rest) ∨
      ∃ count high least, Leads b count high least ∧
        Completes count high least (rest.take count) ∧ left = rest.drop count := by
  have hleads (count high least : Nat) (hl : Leads b count high least) :
      Completes count high least (rest.take count) ∧ left = rest.drop count := by
    rw [decodeOne_of_leads hl] at h
    split at h
    · next hcompletes => exact ⟨hcompletes, (Prod.mk.inj (Option.some.inj h)).2.symm⟩
    · cases h
  by_cases hascii : b.toNat < 0x80
  · simp only [decodeOne, hascii, ↓reduceIte] at h
    obtain ⟨rfl, rfl⟩ := Prod.mk.inj (Option.some.inj h)
    exact .inl ⟨hascii, rfl, rfl⟩
  right
  by_cases h₁ : 0xC2 ≤ b.toNat ∧ b.toNat < 0xE0
  · exact ⟨_, _, _, .two h₁.1 h₁.2, hleads _ _ _ (.two h₁.1 h₁.2)⟩
  by_cases h₂ : 0xE0 ≤ b.toNat ∧ b.toNat < 0xF0
  · exact ⟨_, _, _, .three h₂.1 h₂.2, hleads _ _ _ (.three h₂.1 h₂.2)⟩
  by_cases h₃ : 0xF0 ≤ b.toNat ∧ b.toNat < 0xF5
  · exact ⟨_, _, _, .four h₃.1 h₃.2, hleads _ _ _ (.four h₃.1 h₃.2)⟩
  · simp only [decodeOne, hascii, h₁, h₂, h₃, ↓reduceIte] at h
    cases h

theorem decodeOne_append (h : decodeOne b rest = some (c, left)) (more : Bytes) :
    decodeOne b (rest ++ more) = some (c, left ++ more) := by
  rcases of_decodeOne_eq_some h with ⟨hascii, rfl, rfl⟩ | ⟨count, high, least, hl, hcompletes, rfl⟩
  · simp only [decodeOne, hascii, ↓reduceIte]
  · have hlength : count ≤ rest.length := by
      have := hcompletes.1
      rw [List.length_take] at this
      omega
    rw [decodeOne_of_leads hl, if_pos hcompletes] at h
    rw [decodeOne_of_leads hl, List.take_append_of_le_length hlength, if_pos hcompletes,
      List.drop_append_of_le_length hlength]
    obtain ⟨rfl, -⟩ := Prod.mk.inj (Option.some.inj h)
    rfl

theorem toNat_of_isContinuation {x : UInt8} (h : isContinuation x = true) :
    0x80 ≤ x.toNat ∧ x.toNat < 0xC0 := by
  simpa [isContinuation] using h

theorem continued_cons (n : Nat) (x : UInt8) (tail : Bytes) :
    continued n (x :: tail) = continued (n * 64 + (x.toNat - 0x80)) tail := by
  simp only [continued, List.foldl_cons]

/-- Bytes that carry on a number lead into the range that belongs to it. -/
theorem continued_bounds (n : Nat) {tail : Bytes} (h : tail.all isContinuation = true) :
    n * 64 ^ tail.length ≤ continued n tail ∧ continued n tail < (n + 1) * 64 ^ tail.length := by
  induction tail generalizing n with
  | nil => simp [continued]
  | cons x tail ih =>
    rw [List.all_cons, Bool.and_eq_true] at h
    obtain ⟨hx, hx'⟩ := toNat_of_isContinuation h.1
    obtain ⟨hlow, hhigh⟩ := ih (n * 64 + (x.toNat - 0x80)) h.2
    have hleast : n * 64 ≤ n * 64 + (x.toNat - 0x80) := by omega
    have hgreatest : n * 64 + (x.toNat - 0x80) + 1 ≤ (n + 1) * 64 := by omega
    rw [List.length_cons, Nat.pow_succ', continued_cons, ← Nat.mul_assoc, ← Nat.mul_assoc]
    exact ⟨Nat.le_trans (Nat.mul_le_mul_right _ hleast) hlow,
      Nat.lt_of_lt_of_le hhigh (Nat.mul_le_mul_right _ hgreatest)⟩

theorem continued_replicate_least (n k : Nat) :
    continued n (List.replicate k 0x80) = n * 64 ^ k := by
  induction k generalizing n with
  | zero => simp [continued]
  | succ k ih =>
    rw [Nat.pow_succ', ← Nat.mul_assoc, List.replicate_succ, continued_cons]
    exact ih (n * 64)

theorem continued_replicate_greatest (n k : Nat) :
    continued n (List.replicate k 0xBF) + 1 = (n + 1) * 64 ^ k := by
  induction k generalizing n with
  | zero => simp [continued]
  | succ k ih =>
    have hlast : (0xBF : UInt8).toNat - 0x80 = 63 := rfl
    have hnext : n * 64 + 63 + 1 = (n + 1) * 64 := by omega
    rw [Nat.pow_succ', ← Nat.mul_assoc, List.replicate_succ, continued_cons, hlast, ih, hnext]

/-- The numbers that begin as a character does do not all lie outside of the characters: the first
or the last of them is one. -/
theorem Leads.isScalar_ends (hl : Leads b count high least) {start value k : Nat}
    (hstart : k = count → start = high) (hk : 0 < k) (hcount : k ≤ count)
    (hvalue : IsScalar least value) (hlow : start * 64 ^ k ≤ value)
    (hhigh : value < (start + 1) * 64 ^ k) :
    IsScalar least (start * 64 ^ k) ∨ IsScalar least ((start + 1) * 64 ^ k - 1) := by
  unfold IsScalar at hvalue ⊢
  -- The bounds are multiples of `64 ^ k`, but for those that concern all bytes behind the first.
  cases hl with
  | two h h' =>
    obtain rfl : k = 1 := by omega
    have := hstart rfl
    omega
  | three h h' =>
    obtain rfl | rfl : k = 1 ∨ k = 2 := by omega
    · omega
    · have := hstart rfl
      omega
  | four h h' =>
    obtain rfl | rfl | rfl : k = 1 ∨ k = 2 ∨ k = 3 := by omega
    · omega
    · omega
    · have := hstart rfl
      omega

/-- The beginning of a character goes on to a character with the least or the greatest bytes. -/
theorem completes_replicate (hl : Leads b count high least)
    (h : Completes count high least (rest ++ more)) (hshort : rest.length < count) :
    Completes count high least (rest ++ List.replicate (count - rest.length) 0x80) ∨
      Completes count high least (rest ++ List.replicate (count - rest.length) 0xBF) := by
  obtain ⟨hlength, hall, hscalar⟩ := h
  rw [List.length_append] at hlength
  rw [List.all_append, Bool.and_eq_true] at hall
  have hmore : more.length = count - rest.length := by omega
  generalize hk : count - rest.length = k at hmore
  have hsplit (tail : Bytes) :
      continued high (rest ++ tail) = continued (continued high rest) tail :=
    List.foldl_append
  have hstart : k = count → continued high rest = high := by
    intro heq
    rw [List.eq_nil_of_length_eq_zero (show rest.length = 0 by omega)]
    rfl
  have hends (x : UInt8) (hx : isContinuation x = true)
      (hvalue : IsScalar least (continued high (rest ++ List.replicate k x))) :
      Completes count high least (rest ++ List.replicate k x) := by
    refine ⟨by simp only [List.length_append, List.length_replicate]; omega, ?_, hvalue⟩
    rw [List.all_append, hall.1, List.all_replicate, hx]
    simp
  obtain ⟨hlow, hhigh⟩ := continued_bounds (continued high rest) hall.2
  rw [hmore] at hlow hhigh
  rw [hsplit] at hscalar
  refine (hl.isScalar_ends hstart (by omega) (by omega) hscalar hlow hhigh).imp
    (fun h => hends 0x80 rfl ?_) fun h => hends 0xBF rfl ?_
  · rwa [hsplit, continued_replicate_least]
  · rwa [hsplit, Nat.eq_sub_of_add_eq (continued_replicate_greatest _ k)]

/-- Bytes that become a character by some that follow are unfinished. -/
theorem isUnfinished_of_append (hnone : decodeOne b rest = none)
    (h : decodeOne b (rest ++ more) = some (c, left)) : isUnfinished b rest = true := by
  rcases of_decodeOne_eq_some h with ⟨hascii, -⟩ | ⟨count, high, least, hl, hcompletes, -⟩
  · simp [decodeOne, hascii] at hnone
  have hshort : rest.length < count := by
    by_contra hlong
    rw [List.take_append_of_le_length (not_lt.mp hlong)] at hcompletes
    rw [decodeOne_of_leads hl, if_pos hcompletes] at hnone
    cases hnone
  have hlast : ∃ last ∈ [0x80, 0xBF], Completes count high least
      (rest ++ List.replicate (count - rest.length) (UInt8.ofNat last)) := by
    rw [List.take_append, List.take_of_length_le hshort.le] at hcompletes
    rcases completes_replicate hl hcompletes hshort with h | h
    · exact ⟨0x80, by simp, h⟩
    · exact ⟨0xBF, by simp, h⟩
  obtain ⟨last, hmem, hcompletes⟩ := hlast
  have hcount : count - rest.length ∈ [1, 2, 3] := by
    have : count ≤ 3 := by cases hl <;> decide
    simp only [List.mem_cons, List.not_mem_nil, or_false]
    omega
  refine List.any_eq_true.mpr ⟨_, hcount, List.any_eq_true.mpr ⟨last, hmem, ?_⟩⟩
  have hlength := hcompletes.1
  rw [decodeOne_of_leads hl, List.take_of_length_le hlength.le, if_pos hcompletes]
  simp [List.drop_of_length_le hlength.le]

theorem decodeFrom_cons (h : decodeOne b rest = some (c, left)) (read : List Char) :
    decodeFrom read (b :: rest) = decodeFrom (c :: read) left := by
  rw [decodeFrom]
  split
  · next heq =>
    obtain ⟨rfl, rfl⟩ := Prod.mk.inj (Option.some.inj (heq.symm.trans h))
    rfl
  · next heq => cases heq.symm.trans h

theorem decodeFrom_cons_of_none (h : decodeOne b rest = none) (read : List Char) :
    decodeFrom read (b :: rest) = none := by
  rw [decodeFrom]
  split
  · next heq => cases heq.symm.trans h
  · rfl

/-- What has been read already stays in front. -/
theorem decodeFrom_append (read kept : List Char) (bytes : Bytes) :
    decodeFrom (read ++ kept) bytes = (decodeFrom read bytes).map (kept.reverse ++ ·) := by
  induction read, bytes using decodeFrom.induct with
  | case1 read => simp [decodeFrom]
  | case2 read b rest c left h ih =>
    rw [decodeFrom_cons h, decodeFrom_cons h, ← ih, List.cons_append]
  | case3 read b rest h =>
    rw [decodeFrom_cons_of_none h, decodeFrom_cons_of_none h, Option.map_none]

theorem length_le_of_decodeFrom {bytes : Bytes} {read cs : List Char}
    (h : decodeFrom read bytes = some cs) : cs.length ≤ read.length + bytes.length := by
  induction read, bytes using decodeFrom.induct with
  | case1 read =>
    rw [decodeFrom] at h
    simp [← Option.some.inj h]
  | case2 read b rest c left hone ih =>
    have hlength := decodeOne_length hone
    have hcs := ih (by rwa [decodeFrom_cons hone] at h)
    simp only [List.length_cons] at hcs ⊢
    omega
  | case3 read b rest hnone =>
    rw [decodeFrom_cons_of_none hnone] at h
    cases h

theorem decodeStart_cons (h : decodeOne b rest = some (c, left)) (read : List Char) :
    decodeStart read (b :: rest) = decodeStart (c :: read) left := by
  rw [decodeStart]
  split
  · next heq =>
    obtain ⟨rfl, rfl⟩ := Prod.mk.inj (Option.some.inj (heq.symm.trans h))
    rfl
  · next heq => cases heq.symm.trans h

theorem decodeStart_cons_of_none (h : decodeOne b rest = none)
    (hunfinished : isUnfinished b rest = true) (read : List Char) :
    decodeStart read (b :: rest) = some (read.reverse, b :: rest) := by
  rw [decodeStart]
  split
  · next heq => cases heq.symm.trans h
  · rw [if_pos hunfinished]

theorem decodeStart_of_decodeFrom {bytes : Bytes} {read cs : List Char}
    (h : decodeFrom read bytes = some cs) : decodeStart read bytes = some (cs, []) := by
  induction read, bytes using decodeFrom.induct with
  | case1 read =>
    rw [decodeFrom] at h
    rw [decodeStart, Option.some.inj h]
  | case2 read b rest c left hone ih =>
    rw [decodeFrom_cons hone] at h
    rw [decodeStart_cons hone, ih h]
  | case3 read b rest hnone =>
    rw [decodeFrom_cons_of_none hnone] at h
    cases h

/-- A part of a text decodes to a part of its characters, and leaves what goes on in the rest. -/
theorem exists_decodeStart {part later : Bytes} {read cs : List Char}
    (h : decodeFrom read (part ++ later) = some cs) :
    ∃ read' unfinished, decodeStart read part = some (read'.reverse, unfinished) ∧
      decodeFrom read' (unfinished ++ later) = some cs := by
  induction read, part using decodeFrom.induct with
  | case1 read => exact ⟨read, [], by rw [decodeStart], h⟩
  | case2 read b rest c left hone ih =>
    rw [decodeStart_cons hone]
    rw [List.cons_append, decodeFrom_cons (decodeOne_append hone later)] at h
    exact ih h
  | case3 read b rest hnone =>
    rw [List.cons_append] at h
    rcases hone : decodeOne b (rest ++ later) with _ | ⟨c, left⟩
    · rw [decodeFrom_cons_of_none hone] at h
      cases h
    · have hunfinished := isUnfinished_of_append hnone hone
      exact ⟨read, b :: rest, decodeStart_cons_of_none hnone hunfinished read, h⟩

/-- A text is decoded in two parts as it is at once. -/
theorem exists_decodeStart_append {part later : Bytes} {cs : List Char}
    (h : decode? (part ++ later) = some cs) :
    ∃ first unfinished last, decodeStart [] part = some (first, unfinished) ∧
      decode? (unfinished ++ later) = some last ∧ cs = first ++ last := by
  obtain ⟨read, unfinished, hstart, hrest⟩ := exists_decodeStart h
  rw [← List.nil_append read, decodeFrom_append] at hrest
  obtain ⟨last, hlast, rfl⟩ := Option.map_eq_some_iff.mp hrest
  exact ⟨_, _, last, hstart, hlast, rfl⟩

end Text.Utf8


namespace Yaml.Source

open Text.Utf8 (decode? decodeStart)

/-! ### Line ends in blocks -/

theorem lineFeeds_return {rest : List Char} (h : rest.head? ≠ some '\n') :
    lineFeeds ('\r' :: rest) = '\n' :: lineFeeds rest := by
  rw [lineFeeds]
  rintro rest' rfl
  exact h rfl

theorem lineFeeds_cons {c : Char} (h : c ≠ '\r') (rest : List Char) :
    lineFeeds (c :: rest) = c :: lineFeeds rest := by
  rw [lineFeeds]
  · rintro rest' rfl
    exact absurd rfl h
  · exact h

/-- A text may be cut everywhere but inside of a line end. -/
theorem lineFeeds_append {first later : List Char}
    (h : first.getLast? = some '\r' → later.head? ≠ some '\n') :
    lineFeeds (first ++ later) = lineFeeds first ++ lineFeeds later := by
  induction first using lineFeeds.induct with
  | case1 rest ih =>
    have hrest : rest.getLast? = some '\r' → later.head? ≠ some '\n' := fun hlast =>
      h (by simp [List.getLast?_cons, hlast])
    simp only [List.cons_append, lineFeeds, ih hrest]
  | case2 rest hsingle ih =>
    cases rest with
    | nil =>
      rw [List.singleton_append, lineFeeds_return (h rfl)]
      rfl
    | cons c rest =>
      have hc : (c :: rest).head? ≠ some '\n' := by
        rintro heq
        exact hsingle rest (by rw [Option.some.inj heq])
      rw [List.getLast?_cons_cons] at h
      rw [List.cons_append, lineFeeds_return (by simpa using hc), lineFeeds_return hc, ih h]
      rfl
  | case3 c rest hpair hreturn ih =>
    have hrest : rest.getLast? = some '\r' → later.head? ≠ some '\n' := fun hlast =>
      h (by simp [List.getLast?_cons, hlast])
    rw [List.cons_append, lineFeeds_cons hreturn, lineFeeds_cons hreturn, ih hrest]
    rfl
  | case4 => rw [List.nil_append, lineFeeds, List.nil_append]

/-- A carriage return at the end may wait for what follows it, and must where something does. -/
theorem lineFeeds_append_of_held {first later held : List Char}
    (h : held = ['\r'] ∧ first.getLast? = some '\r' ∨
      held = [] ∧ (first.getLast? = some '\r' → later = [])) :
    lineFeeds (first ++ later) =
      lineFeeds (first.take (first.length - held.length)) ++ lineFeeds (held ++ later) := by
  rcases h with ⟨rfl, hlast⟩ | ⟨rfl, hlast⟩
  · obtain ⟨init, rfl⟩ := List.getLast?_eq_some_iff.mp hlast
    have htake : (init ++ ['\r']).take ((init ++ ['\r']).length - ['\r'].length) = init := by simp
    rw [htake, List.append_assoc]
    exact lineFeeds_append fun _ => by simp
  · rw [List.length_nil, Nat.sub_zero, List.take_length, List.nil_append]
    exact lineFeeds_append fun h => by simp [hlast h]

theorem length_lineFeeds_le (cs : List Char) : (lineFeeds cs).length ≤ cs.length := by
  induction cs using lineFeeds.induct with
  | case1 rest ih =>
    simp only [lineFeeds, List.length_cons]
    omega
  | case2 rest hsingle ih =>
    rw [lineFeeds.eq_2 rest hsingle, List.length_cons, List.length_cons]
    omega
  | case3 c rest hpair hreturn ih =>
    rw [lineFeeds_cons hreturn, List.length_cons, List.length_cons]
    omega
  | case4 => rfl

/-! ### Blocks and pages -/

namespace Intake

variable {i : Intake} {text : List Char}

/-- The characters that an intake has still to give: those that are ready, and those held back or
not yet decoded, with their line ends. -/
structure Gives (i : Intake) (text : List Char) : Prop where
  ended : i.ended = true → i.held = [] ∧ i.unfinished = [] ∧ i.bytes = []
  chars : ∃ cs, decode? (i.unfinished ++ i.bytes) = some cs ∧
    text = i.ready ++ lineFeeds (i.held ++ cs)

theorem Gives.start {bytes : Text.Bytes} {cs : List Char} (h : decode? bytes = some cs) :
    Gives { bytes } (lineFeeds cs) where
  ended h := absurd h nofun
  chars := ⟨cs, h, rfl⟩

/-- Without more bytes to come everything is ready. -/
theorem Gives.text_eq (h : i.Gives text) (hended : i.ended = true) : text = i.ready := by
  obtain ⟨hheld, hunfinished, hbytes⟩ := h.ended hended
  obtain ⟨cs, hcs, rfl⟩ := h.chars
  rw [hunfinished, hbytes, List.nil_append, decode?, Text.Utf8.decodeFrom] at hcs
  rw [hheld, ← Option.some.inj hcs]
  simp [lineFeeds]

/-- What is given out of those that are ready is gone, and everything else stays. -/
theorem Gives.drop (h : i.Gives text) {n : Nat} (hn : n ≤ i.ready.length ∨ i.ended = true) :
    i.ready.take n = text.take n ∧ Gives { i with ready := i.ready.drop n } (text.drop n) := by
  rcases hn with hn | hended
  · obtain ⟨cs, hcs, rfl⟩ := h.chars
    rw [List.take_append_of_le_length hn, List.drop_append_of_le_length hn]
    exact ⟨rfl, h.ended, cs, hcs, rfl⟩
  · obtain rfl := h.text_eq hended
    obtain ⟨cs, hcs, htext⟩ := h.chars
    have hnil : lineFeeds (i.held ++ cs) = [] := List.self_eq_append_right.mp htext
    exact ⟨rfl, h.ended, cs, hcs, by rw [hnil, List.append_nil]⟩

/-- A bound of the blocks that are still to be decoded; the last one has no bytes. -/
def blocksLeft (i : Intake) : Nat := if i.ended then 0 else i.bytes.length + 1

theorem blocksLeft_lt {next : Intake} (hmore : i.ended = false)
    (h : next.ended = true ∨ next.bytes.length < i.bytes.length) :
    next.blocksLeft < i.blocksLeft := by
  have hblocks : i.blocksLeft = i.bytes.length + 1 := by rw [blocksLeft, hmore, if_neg nofun]
  rw [hblocks, blocksLeft]
  rcases h with hended | hless
  · rw [if_pos hended]
    omega
  · split <;> omega

theorem nextSize_pos (need : Nat) (i : Intake) : 0 < i.nextSize need :=
  Nat.lt_of_lt_of_le (by decide) (Nat.le_max_left ..)

theorem eq_nil_of_decodeStart {part unfinished : Text.Bytes} {first last : List Char}
    (h : decode? (part ++ []) = some (first ++ last))
    (hstart : decodeStart [] part = some (first, unfinished)) : unfinished = [] ∧ last = [] := by
  rw [List.append_nil] at h
  rw [Text.Utf8.decodeStart_of_decodeFrom h] at hstart
  obtain ⟨hlast, rfl⟩ := Prod.mk.inj (Option.some.inj hstart)
  exact ⟨rfl, List.append_right_eq_self.mp hlast⟩

/-- A block of a text that can be decoded can be decoded, and no character of it is lost. -/
theorem Gives.decodeBlock (h : i.Gives text) (hmore : i.ended = false) (need : Nat) :
    ∃ next, i.decodeBlock need = .ok next ∧ next.Gives text ∧ next.blocksLeft < i.blocksLeft := by
  obtain ⟨cs, hcs, rfl⟩ := h.chars
  have hsize := i.nextSize_pos need
  generalize hsizeEq : i.nextSize need = size at hsize
  rw [← List.take_append_drop size i.bytes, ← List.append_assoc] at hcs
  obtain ⟨first, unfinished, last, hstart, hlast, rfl⟩ := Text.Utf8.exists_decodeStart_append hcs
  have hblock : i.bytes.take size = [] → i.bytes = [] := by
    simp [List.take_eq_nil_iff, Nat.pos_iff_ne_zero.mp hsize]
  have hend (hnil : i.bytes.take size = []) : unfinished = [] ∧ last = [] := by
    rw [hblock hnil, List.drop_nil] at hcs
    rw [hblock hnil] at hstart
    exact eq_nil_of_decodeStart hcs hstart
  have hfinished : ¬(i.bytes.take size = [] ∧ unfinished ≠ []) := fun h => h.2 (hend h.1).1
  simp only [Intake.decodeBlock, hsizeEq, hstart, hfinished, if_false]
  refine ⟨_, rfl, ⟨fun hended => ?_, last, hlast, ?_⟩, ?_⟩
  · have hnil := of_decide_eq_true hended
    refine ⟨if_neg fun h => h.2 hnil, (hend hnil).1, ?_⟩
    rw [hblock hnil, List.drop_nil]
  · rw [List.append_assoc, ← List.append_assoc i.held]
    congr 1
    apply lineFeeds_append_of_held
    split
    · next h => exact .inl ⟨rfl, h.1⟩
    · next h =>
      exact .inr ⟨rfl, fun hreturn => (hend (not_not.mp fun hmore => h ⟨hreturn, hmore⟩)).2⟩
  · apply blocksLeft_lt hmore
    by_cases hnil : i.bytes.take size = []
    · exact .inl (decide_eq_true hnil)
    · have : 0 < i.bytes.length := List.length_pos_iff.mpr fun h => hnil (by rw [h, List.take_nil])
      exact .inr (by rw [List.length_drop]; omega)

/-- A page is the beginning of what the intake has to give. -/
theorem Gives.page (h : i.Gives text) {fuel : Nat} (hfuel : i.blocksLeft < fuel) :
    ∃ rest, i.page fuel = .ok (text.take pageSize, rest) ∧ rest.Gives (text.drop pageSize) := by
  induction fuel generalizing i with
  | zero => exact absurd hfuel (Nat.not_lt_zero _)
  | succ fuel ih =>
    rw [Intake.page]
    split
    · next hready =>
      obtain ⟨htake, hdrop⟩ := h.drop hready
      exact ⟨_, by rw [htake], hdrop⟩
    · next hready =>
      have hmore : i.ended = false := by simpa using fun hended => hready (.inr hended)
      obtain ⟨next, hnext, hgives, hless⟩ := h.decodeBlock hmore (pageSize - i.ready.length)
      rw [hnext]
      exact ih hgives (by omega)

/-- The pages together are what the intake has to give. -/
theorem Gives.pages (h : i.Gives text) {fuel : Nat} (hfuel : text.length < fuel) :
    ∃ pages, i.pages fuel = (pages, none) ∧ pages.flatten = text := by
  induction fuel generalizing i text with
  | zero => exact absurd hfuel (Nat.not_lt_zero _)
  | succ fuel ih =>
    have hblocks : i.blocksLeft < i.bytes.length + 2 := by
      rw [blocksLeft]
      split <;> omega
    obtain ⟨rest, hpage, hrest⟩ := h.page hblocks
    rw [Intake.pages, hpage]
    cases htake : text.take pageSize with
    | nil =>
      obtain rfl : text = [] := by simpa [pageSize] using htake
      exact ⟨[], rfl, rfl⟩
    | cons c cs =>
      have hlength := congrArg List.length htake
      rw [List.length_take, List.length_cons] at hlength
      obtain ⟨pages, hpages, hflatten⟩ := ih hrest (by rw [List.length_drop]; omega)
      refine ⟨(c :: cs) :: pages, by simp only [hpages], ?_⟩
      rw [List.flatten_cons, hflatten, ← htake, List.take_append_drop]

end Intake

/-- A text that can be decoded and has no forbidden character is read in full, wherever its blocks
and pages end. -/
theorem ofBytes_of_decode? {bytes : Text.Bytes} {cs : List Char} (h : decode? bytes = some cs)
    (hallowed : ∀ c ∈ lineFeeds cs, isAllowed c = true) :
    ofBytes bytes = .ok { chars := lineFeeds cs } := by
  have hlength : (lineFeeds cs).length < bytes.length + 2 := by
    have := length_lineFeeds_le cs
    have := Text.Utf8.length_le_of_decodeFrom h
    simp only [List.length_nil] at this
    omega
  obtain ⟨pages, hpages, hflatten⟩ := (Intake.Gives.start h).pages hlength
  have hlegible : ∀ page ∈ pages, page.all isAllowed = true := by
    intro page hpage
    refine List.all_eq_true.mpr fun c hc => hallowed c ?_
    rw [← hflatten]
    exact List.mem_flatten_of_mem hpage hc
  have hfirst : (pages.take 2).all (·.all isAllowed) = true :=
    List.all_eq_true.mpr fun page hpage => hlegible page (List.mem_of_mem_take hpage)
  have hwhile : pages.takeWhile (·.all isAllowed) = pages :=
    List.takeWhile_eq_self_iff.mpr hlegible
  simp only [ofBytes, hpages, ite_self, hfirst, hwhile, hflatten, lt_irrefl, Bool.not_true,
    Bool.false_eq_true, if_false]

end Yaml.Source

end LaunchIndex
