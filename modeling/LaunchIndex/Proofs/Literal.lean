import LaunchIndex.Proofs.Pattern
import LaunchIndex.Query

/-! The parameters of a search for a text. Its two patterns say the text and nothing else: each
is read as the code points of the text, one by one, with a wildcard at the end that no mark of
the text reaches. So they match what holds the text and what starts with it. -/

namespace LaunchIndex.Store.SearchParameters

open Like

theorem ofValues_text (q : Text) (n : Int) : ofValues (.text q) (.int n) = .ok (ofQuery q n) := rfl

/-- The parameters for any text have a pattern for a part and one for a beginning. They match as
folded texts hold and start with one another, which is up to the case of ASCII letters where all
code points are characters. Both take the text literally, with the wildcards around it. -/
theorem literal {q s : Text} (n : Int) (hq : q.NoNull) (hs : s.NoNull) :
    ∃ p, ofValues (.text q) (.int n) = .ok p ∧
      (accepts p.holds s = true ↔ folded q <:+: folded s) ∧
      (accepts p.starts s = true ↔ folded q <+: folded s) ∧
      ((∀ c ∈ q ++ s, c.val ≠ 0xFFFE ∧ c.val ≠ 0xFFFF) →
        (accepts p.holds s = true ↔ q.asciiLower <:+: s.asciiLower) ∧
        (accepts p.starts s = true ↔ q.asciiLower <+: s.asciiLower)) ∧
      tokens? p.holds = some (.any :: (q.map .exactly ++ [.any])) ∧
      tokens? p.starts = some (q.map .exactly ++ [.any]) := by
  have hholds := accepts_holds hq hs
  have hstarts := accepts_startsWith hq hs
  refine ⟨ofQuery q n, ofValues_text q n, hholds, hstarts, fun hlegible => ?_, tokens?_holds q,
    tokens?_startsWith q⟩
  have hq' := folded_of_legible fun c hc => hlegible c (List.mem_append_left s hc)
  have hs' := folded_of_legible fun c hc => hlegible c (List.mem_append_right q hc)
  rw [hq', hs'] at hholds hstarts
  exact ⟨hholds, hstarts⟩

/-- A query of wildcards with a mark at its end, and a name that holds it in capitals. -/
theorem literal_wildcards :
    ∃ p, ofValues (.text "%a_\\") (.int 7) = .ok p ∧
      (accepts p.holds "x%A_\\y" = true ↔ folded "%a_\\" <:+: folded "x%A_\\y") ∧
      (accepts p.starts "x%A_\\y" = true ↔ folded "%a_\\" <+: folded "x%A_\\y") ∧
      ((∀ c ∈ Text.ofString "%a_\\" ++ Text.ofString "x%A_\\y",
          c.val ≠ 0xFFFE ∧ c.val ≠ 0xFFFF) →
        (accepts p.holds "x%A_\\y" = true ↔
          Text.asciiLower "%a_\\" <:+: Text.asciiLower "x%A_\\y") ∧
        (accepts p.starts "x%A_\\y" = true ↔
          Text.asciiLower "%a_\\" <+: Text.asciiLower "x%A_\\y")) ∧
      tokens? p.holds = some (.any :: ((Text.ofString "%a_\\").map .exactly ++ [.any])) ∧
      tokens? p.starts = some ((Text.ofString "%a_\\").map .exactly ++ [.any]) :=
  literal 7 (by decide) (by decide)

/-- The case of letters is not all that the patterns pass over: the pattern for a code point that
is no character matches the replacement character. -/
theorem not_literal_asciiLower :
    ¬∀ (q s : Text) (n : Int), q ≠ [] → q.NoNull → s.NoNull →
      ∃ p, ofValues (.text q) (.int n) = .ok p ∧
        (accepts p.holds s = true ↔ q.asciiLower <:+: s.asciiLower) ∧
        (accepts p.starts s = true ↔ q.asciiLower <+: s.asciiLower) ∧
        tokens? p.holds = some (.any :: (q.map .exactly ++ [.any])) ∧
        tokens? p.starts = some (q.map .exactly ++ [.any]) := by
  intro hall
  obtain ⟨p, hp, hholds, -⟩ :=
    hall [CodePoint.ofNat 0xFFFF] [CodePoint.ofNat 0xFFFD] 7 (by decide) (by decide) (by decide)
  obtain rfl : ofQuery [CodePoint.ofNat 0xFFFF] 7 = p := Except.ok.inj hp
  exact absurd (hholds.mp (by decide)) (by decide)

end LaunchIndex.Store.SearchParameters
