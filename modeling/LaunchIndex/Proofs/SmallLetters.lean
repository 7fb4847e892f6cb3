import LaunchIndex.Text.LowerCase

/-! What the small letters of a text say of the text. A sign or digit of ASCII is among them exactly
if it is in the text, and white space of any kind stays as it is. -/

namespace LaunchIndex.Text

namespace LowerCase

open CharSet

/-- Every run lies from `A` on and leads to code points from `a` on. -/
theorem bounds_of_mem_runs :
    ∀ r ∈ runs, 0x41 ≤ r.first ∧ 0x61 ≤ r.first + r.shift ∧ r.last + r.shift < 0x110000 := by
  decide +kernel

theorem bounds_of_contains {r : Run} {n : Nat} (h : r.contains n = true) :
    r.first ≤ n ∧ n ≤ r.last := by
  simp only [Run.contains, Bool.and_eq_true, decide_eq_true_eq] at h
  exact h.1

theorem simple_cases (c : CodePoint) : simple c = c ∨ 0x61 ≤ (simple c).val := by
  unfold simple
  split
  · next r hr =>
    obtain ⟨-, hleast, hgreatest⟩ := bounds_of_mem_runs r (List.mem_of_find?_eq_some hr)
    have hcontains := List.find?_some hr
    have hin := bounds_of_contains hcontains
    have hsmall : (c.val + r.shift).toNat < 0x110000 := by omega
    refine .inr ?_
    simp only [CodePoint.ofNat, Nat.mod_eq_of_lt hsmall]
    omega
  · exact .inl rfl

theorem simple_eq_self {c : CodePoint} (h : ∀ r ∈ runs, r.contains c.val = false) :
    simple c = c := by
  unfold simple
  rw [List.find?_eq_none.mpr fun r hr => Bool.eq_false_iff.mp (h r hr)]

theorem simple_of_lt {c : CodePoint} (hc : c.val < 0x41) : simple c = c := by
  refine simple_eq_self fun r hr => Bool.eq_false_iff.mpr fun hcontains => ?_
  have hfirst := (bounds_of_mem_runs r hr).1
  have hin := bounds_of_contains hcontains
  omega

theorem disjoint_of_mem_runs :
    ∀ r ∈ runs, ∀ b ∈ blankRanges, r.last < b.1 ∨ b.2 < r.first := by
  decide +kernel

theorem simple_of_isBlank {c : CodePoint} (hc : isBlank c = true) : simple c = c := by
  obtain ⟨b, hb, hwithin⟩ := List.any_eq_true.mp hc
  simp only [Bool.and_eq_true, decide_eq_true_eq] at hwithin
  refine simple_eq_self fun r hr => Bool.eq_false_iff.mpr fun hcontains => ?_
  have hdisjoint := disjoint_of_mem_runs r hr b hb
  have hin := bounds_of_contains hcontains
  omega

/-- The two letters that go by other rules than the runs do not stay as they are. -/
theorem mem_lowerFrom {before t : Text} {c : CodePoint} (hsame : simple c = c)
    (hdotted : c.val ≠ 0x130) (hsigma : c.val ≠ 0x3A3) (h : c ∈ t) : c ∈ lowerFrom before t := by
  induction t generalizing before with
  | nil => exact h
  | cons d rest ih =>
    rw [lowerFrom, List.mem_append]
    rcases List.mem_cons.mp h with rfl | hrest
    · left
      rw [if_neg hdotted, if_neg hsigma, hsame]
      exact List.mem_singleton_self c
    · exact .inr (ih hrest)

/-- The two letters that go by other rules than the runs lead to code points from `a` on, too. -/
theorem mem_of_mem_lowerFrom {before t : Text} {c : CodePoint} (hc : c.val < 0x61)
    (h : c ∈ lowerFrom before t) : c ∈ t := by
  induction t generalizing before with
  | nil => exact h
  | cons d rest ih =>
    rw [lowerFrom, List.mem_append] at h
    refine h.elim (fun hsmall => ?_) fun hrest => List.mem_cons_of_mem d (ih hrest)
    split at hsmall
    · simp only [List.mem_cons, List.not_mem_nil, or_false] at hsmall
      rcases hsmall with rfl | rfl <;> exact absurd hc (by decide)
    · split at hsmall
      · rw [List.mem_singleton.mp hsmall, sigma] at hc
        split at hc <;> exact absurd hc (by decide)
      · rw [List.mem_singleton] at hsmall
        rcases simple_cases d with hsame | hletter
        · rw [hsmall, hsame]
          exact List.mem_cons_self
        · rw [hsmall] at hc
          omega

end LowerCase

/-- A sign or digit of ASCII is no letter. -/
theorem mem_lower_iff {t : Text} {c : CodePoint} (hc : c.val < 0x41) : c ∈ t.lower ↔ c ∈ t :=
  ⟨LowerCase.mem_of_mem_lowerFrom (by omega),
    LowerCase.mem_lowerFrom (LowerCase.simple_of_lt hc) (by omega) (by omega)⟩

theorem mem_lower_of_isBlank {t : Text} {c : CodePoint} (hc : CharSet.isBlank c = true)
    (h : c ∈ t) : c ∈ t.lower := by
  have hother : c.val ≠ 0x130 ∧ c.val ≠ 0x3A3 := by
    obtain ⟨b, hb, hwithin⟩ := List.any_eq_true.mp hc
    have hall : ∀ b ∈ CharSet.blankRanges,
        (0x130 < b.1 ∨ b.2 < 0x130) ∧ (0x3A3 < b.1 ∨ b.2 < 0x3A3) := by decide
    simp only [Bool.and_eq_true, decide_eq_true_eq] at hwithin
    have hranges := hall b hb
    omega
  exact LowerCase.mem_lowerFrom (LowerCase.simple_of_isBlank hc) hother.1 hother.2 h

end LaunchIndex.Text
