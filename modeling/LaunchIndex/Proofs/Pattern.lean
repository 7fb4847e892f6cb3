import Mathlib.Data.List.Infix
import Mathlib.Data.List.TakeWhile
import LaunchIndex.Like

/-! What the patterns of a query match. The pattern made from a text takes every code point of
it literally, so a text starts with the query, or holds it, exactly if the folded texts do.
Folding a text is what patterns do to it: capitals of ASCII become small letters, and the two
code points that are no characters become the replacement character. -/

namespace LaunchIndex

namespace Text

def NoNull (t : Text) : Prop := ∀ c ∈ t, c.val ≠ 0

instance (t : Text) : Decidable t.NoNull :=
  decidable_of_iff (t.all (·.val != 0) = true) (by simp [NoNull])

end Text

namespace Like

/-! ### Escaping -/

/-- The code points that mean something in a pattern. -/
def IsSpecial (c : CodePoint) : Prop := c = mark ∨ c = anyRun ∨ c = anyOne

instance (c : CodePoint) : Decidable (IsSpecial c) :=
  inferInstanceAs (Decidable (c = mark ∨ c = anyRun ∨ c = anyOne))

/-- The pattern for one code point. -/
def escapeOne (c : CodePoint) : Text := if IsSpecial c then [mark, c] else [c]

/-- The three passes are one: none of them sees the marks of another, since the pass for the
mark comes first. -/
theorem escape_eq_flatMap (t : Text) : escape t = t.flatMap escapeOne := by
  induction t with
  | nil => rfl
  | cons c rest ih =>
    have hcons : escape (c :: rest) = escape [c] ++ escape rest := by
      simp [escape, guardEach]
    rw [hcons, ih, List.flatMap_cons]
    congr 1
    by_cases hm : c = mark
    · subst hm; decide
    · by_cases hr : c = anyRun
      · subst hr; decide
      · by_cases ho : c = anyOne
        · subst ho; decide
        · simp [escape, guardEach, escapeOne, IsSpecial, hm, hr, ho]

/-- The token of a code point without a mark in front of it. -/
def Token.of (c : CodePoint) : Token :=
  if c = anyRun then .any else if c = anyOne then .one else .exactly c

theorem tokens?_cons {c : CodePoint} (hc : c ≠ mark) (pattern : Text) :
    tokens? (c :: pattern) = (tokens? pattern).map (Token.of c :: ·) := by
  unfold Token.of
  cases pattern with
  | nil => by_cases hr : c = anyRun <;> by_cases ho : c = anyOne <;> simp_all [tokens?]
  | cons d more => by_cases hr : c = anyRun <;> by_cases ho : c = anyOne <;> simp_all [tokens?]

/-- A pattern for a text is read as that text, code point by code point. -/
theorem tokens?_escape_append (t pattern : Text) :
    tokens? (escape t ++ pattern) = (tokens? pattern).map (t.map .exactly ++ ·) := by
  rw [escape_eq_flatMap]
  induction t with
  | nil => simp
  | cons c rest ih =>
    rw [List.flatMap_cons, List.append_assoc]
    by_cases hc : IsSpecial c
    · rw [escapeOne, if_pos hc]
      simp only [List.cons_append, List.nil_append, tokens?, ↓reduceIte, ih, Option.map_map]
      rfl
    · have hliteral : Token.of c = .exactly c := by
        simp only [IsSpecial, not_or] at hc
        simp [Token.of, hc]
      rw [escapeOne, if_neg hc, List.singleton_append, tokens?_cons (fun h => hc (.inl h)), ih,
        hliteral, Option.map_map]
      rfl

theorem tokens?_startsWith (q : Text) :
    tokens? (startsWith q) = some (q.map .exactly ++ [.any]) := by
  rw [startsWith, tokens?_escape_append]; rfl

theorem tokens?_holds (q : Text) :
    tokens? (holds q) = some (.any :: (q.map .exactly ++ [.any])) := by
  have h := tokens?_startsWith q
  rw [startsWith] at h
  rw [holds, List.cons_append, tokens?_cons (by decide), h]
  rfl

/-! ### What is visible -/

/-- Only the two code points that are no characters change, and no special one arises. -/
theorem escapeOne_legible (c : CodePoint) :
    (escapeOne c).map legible = escapeOne (legible c) := by
  by_cases h : c.val = 0xFFFE ∨ c.val = 0xFFFF
  · have hl : legible c = CodePoint.ofNat 0xFFFD := by simp only [legible, if_pos h]
    have hc : ¬IsSpecial c := by
      rintro (rfl | rfl | rfl) <;> revert h <;> decide
    have hd : ¬IsSpecial (CodePoint.ofNat 0xFFFD) := by decide
    simp [escapeOne, hc, hl, hd]
  · have hl : legible c = c := by simp only [legible, if_neg h]
    have hm : legible mark = mark := by decide
    rw [hl]
    unfold escapeOne
    split <;> simp [hl, hm]

theorem map_legible_escape (t : Text) : (escape t).map legible = escape (t.map legible) := by
  simp only [escape_eq_flatMap, List.map_flatMap, List.flatMap_map, escapeOne_legible]

theorem visible_of_noNull {t : Text} (h : t.NoNull) : visible t = t.map legible := by
  have ht : t.takeWhile (·.val != 0) = t := by
    rw [List.takeWhile_eq_self_iff]
    intro c hc
    simpa using h c hc
  rw [visible, ht]

theorem noNull_escape {t : Text} (h : t.NoNull) : (escape t).NoNull := by
  intro c hc
  rw [escape_eq_flatMap, List.mem_flatMap] at hc
  obtain ⟨d, hd, hc⟩ := hc
  unfold escapeOne at hc
  split at hc
  · rcases List.mem_pair.mp hc with rfl | rfl
    · decide
    · exact h _ hd
  · rw [List.mem_singleton] at hc
    exact hc ▸ h d hd

theorem visible_startsWith {q : Text} (h : q.NoNull) :
    visible (startsWith q) = startsWith (q.map legible) := by
  have hp : (startsWith q).NoNull := by
    intro c hc
    rcases List.mem_append.mp hc with hc | hc
    · exact noNull_escape h c hc
    · rw [List.mem_singleton.mp hc]; decide
  rw [visible_of_noNull hp, startsWith, List.map_append, map_legible_escape]
  rfl

theorem visible_holds {q : Text} (h : q.NoNull) :
    visible (holds q) = holds (q.map legible) := by
  have hp : (holds q).NoNull := by
    intro c hc
    rcases List.mem_cons.mp hc with rfl | hc
    · decide
    · rcases List.mem_append.mp hc with hc | hc
      · exact noNull_escape h c hc
      · rw [List.mem_singleton.mp hc]; decide
  rw [visible_of_noNull hp]
  simp only [holds, List.cons_append, List.map_cons, List.map_append, map_legible_escape]
  rfl

/-! ### Matching -/

theorem anySuffix_iff (p : Text → Bool) (t : Text) : anySuffix p t = true ↔ ∃ u, u <:+ t ∧ p u := by
  induction t with
  | nil =>
    simp only [anySuffix, List.suffix_nil]
    exact ⟨fun h => ⟨[], rfl, h⟩, by rintro ⟨u, rfl, h⟩; exact h⟩
  | cons c rest ih =>
    rw [anySuffix, Bool.or_eq_true, ih]
    constructor
    · rintro (h | ⟨u, hu, h⟩)
      · exact ⟨c :: rest, List.suffix_rfl, h⟩
      · exact ⟨u, hu.trans (List.suffix_cons c rest), h⟩
    · rintro ⟨u, hu, h⟩
      rcases List.suffix_cons_iff.mp hu with rfl | hu
      · exact .inl h
      · exact .inr ⟨u, hu, h⟩

/-- Literal tokens and a final wildcard match the texts that start like them. -/
theorem run_exactly_any (q t : Text) :
    run (q.map .exactly ++ [.any]) t = true ↔ q.asciiLower <+: t.asciiLower := by
  induction q generalizing t with
  | nil =>
    have h : anySuffix (run []) t = true :=
      (anySuffix_iff _ _).mpr ⟨[], List.nil_suffix, rfl⟩
    simpa [run, Text.asciiLower] using h
  | cons c q ih =>
    cases t with
    | nil => simp [run, Text.asciiLower]
    | cons d rest =>
      have ih := ih rest
      simp only [Text.asciiLower] at ih ⊢
      simp [run, sameLetter, ih, List.cons_prefix_cons]

/-- The text as patterns see it. -/
def folded (t : Text) : Text := Text.asciiLower (t.map legible)

theorem folded_of_legible {t : Text} (h : ∀ c ∈ t, c.val ≠ 0xFFFE ∧ c.val ≠ 0xFFFF) :
    folded t = Text.asciiLower t := by
  have hsame : ∀ c ∈ t, legible c = c := fun c hc => if_neg (not_or.mpr (h c hc))
  rw [folded, List.map_congr_left hsame, List.map_id']

/-- A name matches the pattern for a beginning if it starts with the query, both folded. -/
theorem accepts_startsWith {q name : Text} (hq : q.NoNull) (hn : name.NoNull) :
    accepts (startsWith q) name = true ↔ folded q <+: folded name := by
  rw [accepts, visible_startsWith hq, tokens?_startsWith, visible_of_noNull hn, folded, folded,
    ← run_exactly_any]

/-- A name matches the pattern for a part if it holds the query, both folded. -/
theorem accepts_holds {q name : Text} (hq : q.NoNull) (hn : name.NoNull) :
    accepts (holds q) name = true ↔ folded q <:+: folded name := by
  rw [accepts, visible_holds hq, tokens?_holds, visible_of_noNull hn]
  simp only [run, anySuffix_iff, run_exactly_any, folded]
  rw [List.infix_iff_prefix_suffix]
  constructor
  · rintro ⟨u, hu, h⟩
    exact ⟨Text.asciiLower u, h, hu.map _⟩
  · rintro ⟨v, h, hv⟩
    obtain ⟨u, hu, rfl⟩ := List.suffix_map_iff.mp hv
    exact ⟨u, hu, h⟩

end Like

end LaunchIndex
