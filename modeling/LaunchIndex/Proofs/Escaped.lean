import Mathlib.Algebra.Ring.Parity
import Mathlib.Data.List.DropRight
import LaunchIndex.Proofs.Pattern
import LaunchIndex.Query

/-! A text escaped. The three passes amount to one that replaces each code point on its own, so
escaping a text escapes its parts. What comes out is guarded: read from the left, it consists of
code points that mean nothing in a pattern and of pairs of a mark and what it guards. Without
the marks of the pairs it is the text again. -/

namespace LaunchIndex.Like

/-! ### One pass -/

theorem escape_append (a b : Text) : escape (a ++ b) = escape a ++ escape b := by
  simp only [escape_eq_flatMap, List.flatMap_append]

theorem escape_singleton (c : CodePoint) : escape [c] = escapeOne c := by
  rw [escape_eq_flatMap, List.flatMap_singleton]

theorem escape_cons (c : CodePoint) (t : Text) : escape (c :: t) = escapeOne c ++ escape t := by
  rw [escape_eq_flatMap, escape_eq_flatMap, List.flatMap_cons]

/-! ### Back to the text -/

theorem unescape_cons {c : CodePoint} (hc : c ≠ mark) (t : Text) :
    unescape (c :: t) = c :: unescape t := by
  cases t with
  | nil => rfl
  | cons d rest => rw [unescape, if_neg hc]

theorem unescape_pair (c : CodePoint) (t : Text) : unescape (mark :: c :: t) = c :: unescape t := by
  rw [unescape, if_pos rfl]

theorem unescape_escape (t : Text) : unescape (escape t) = t := by
  induction t with
  | nil => rfl
  | cons c rest ih =>
    rw [escape_cons, escapeOne]
    split
    case isTrue => rw [List.cons_append, List.singleton_append, unescape_pair, ih]
    case isFalse hc =>
      rw [List.singleton_append, unescape_cons (fun hmark => hc (.inl hmark)), ih]

/-! ### Guarded texts -/

/-- Texts in which a special code point, read from the left, occurs only in a pair with a mark
in front. -/
inductive Guarded : Text → Prop
  | nil : Guarded []
  | plain {c : CodePoint} {t : Text} (hc : ¬IsSpecial c) (ht : Guarded t) : Guarded (c :: t)
  | pair (c : CodePoint) {t : Text} (ht : Guarded t) : Guarded (mark :: c :: t)

theorem guarded_escape (t : Text) : Guarded (escape t) := by
  induction t with
  | nil => exact .nil
  | cons c rest ih =>
    rw [escape_cons, escapeOne]
    split
    case isTrue => exact .pair c ih
    case isFalse hc => exact .plain hc ih

def closingMarks (t : Text) : Nat := (t.rtakeWhile (· = mark)).length

theorem closingMarks_concat (t : Text) (c : CodePoint) :
    closingMarks (t ++ [c]) = if c = mark then closingMarks t + 1 else 0 := by
  by_cases hc : c = mark <;> simp [closingMarks, hc]

theorem closingMarks_cons {c : CodePoint} (hc : c ≠ mark) (t : Text) :
    closingMarks (c :: t) = closingMarks t := by
  induction t using List.reverseRecOn with
  | nil => exact (closingMarks_concat [] c).trans (if_neg hc)
  | append_singleton t d ih =>
    rw [← List.cons_append, closingMarks_concat, closingMarks_concat, ih]

theorem even_closingMarks_pair (c : CodePoint) (t : Text) :
    Even (closingMarks (mark :: c :: t)) ↔ Even (closingMarks t) := by
  induction t using List.reverseRecOn with
  | nil =>
    rw [show [mark, c] = [mark] ++ [c] from rfl, closingMarks_concat]
    split <;> decide
  | append_singleton t d ih =>
    rw [← List.cons_append, ← List.cons_append, closingMarks_concat, closingMarks_concat]
    split
    case isTrue => rw [Nat.even_add_one, Nat.even_add_one, ih]
    case isFalse => rfl

namespace Guarded

/-- No mark at the end of a guarded text is without what it guards. -/
theorem even_closingMarks {t : Text} (h : Guarded t) : Even (closingMarks t) := by
  induction h with
  | nil => exact ⟨0, rfl⟩
  | plain hc _ ih => rwa [closingMarks_cons fun hmark => hc (.inl hmark)]
  | pair c _ ih => rwa [even_closingMarks_pair]

/-- Every wildcard in a guarded text is guarded. -/
theorem odd_closingMarks {u v : Text} {c : CodePoint} (h : Guarded (u ++ c :: v))
    (hc : c = anyRun ∨ c = anyOne) : Odd (closingMarks u) := by
  generalize ht : u ++ c :: v = t at h
  induction h generalizing u with
  | nil => exact absurd ht (by simp)
  | @plain d t hd _ ih =>
    cases u with
    | nil =>
      obtain ⟨rfl, -⟩ := List.cons.inj ht
      exact absurd (.inr hc) hd
    | cons e u =>
      rw [List.cons_append, List.cons.injEq] at ht
      obtain ⟨rfl, ht⟩ := ht
      rw [closingMarks_cons fun hmark => hd (.inl hmark)]
      exact ih ht
  | @pair d t _ ih =>
    match u with
    | [] =>
      obtain ⟨rfl, -⟩ := List.cons.inj ht
      exact absurd hc (by decide)
    | [e] =>
      obtain ⟨rfl, -⟩ := List.cons.inj ht
      decide
    | e :: f :: u =>
      rw [List.cons_append, List.cons_append, List.cons.injEq, List.cons.injEq] at ht
      obtain ⟨rfl, rfl, ht⟩ := ht
      rw [← Nat.not_even_iff_odd, even_closingMarks_pair, Nat.not_even_iff_odd]
      exact ih ht

end Guarded

/-- Escaping is one pass over the code points. It works part by part and puts a mark in front of
the three special ones, and taking the marks away undoes it, so no two texts have one pattern.
Before each wildcard in the pattern the number of marks is odd, and at the end it is even: no
wildcard is left unguarded, and no mark is left over. So the pattern is read as the text. -/
theorem escape_pointwise :
    (∀ a b : Text, escape (a ++ b) = escape a ++ escape b) ∧
    (∀ c : CodePoint,
      escape [c] = if c = mark ∨ c = anyRun ∨ c = anyOne then [mark, c] else [c]) ∧
    (∀ t : Text,
      escapeValue (.text t) = .ok (escape t) ∧
      escape t = t.flatMap (fun c => escape [c]) ∧
      unescape (escape t) = t ∧
      (∀ u v c, escape t = u ++ c :: v → c = anyRun ∨ c = anyOne → Odd (closingMarks u)) ∧
      Even (closingMarks (escape t)) ∧
      tokens? (escape t) = some (t.map .exactly)) ∧
    Function.Injective escape := by
  refine ⟨escape_append, escape_singleton, fun t => ⟨rfl, ?_, unescape_escape t, ?_,
    (guarded_escape t).even_closingMarks, ?_⟩, Function.LeftInverse.injective unescape_escape⟩
  · simp only [escape_singleton]
    exact escape_eq_flatMap t
  · intro u v c ht hc
    exact (ht ▸ guarded_escape t).odd_closingMarks hc
  · simpa [tokens?] using tokens?_escape_append t []

end LaunchIndex.Like
