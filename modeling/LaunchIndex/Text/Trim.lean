import LaunchIndex.Text.CharSet

/-! Trimming: a text without the members of a set at its two ends. -/

namespace LaunchIndex.Text

/-- The text without the code points of a set at either end. -/
def trimBy (p : CodePoint → Bool) (t : Text) : Text :=
  ((t.dropWhile p).reverse.dropWhile p).reverse

def trim (t : Text) : Text := trimBy CharSet.isBlank t

/-- A text of white space only, the empty text included. -/
def isBlank (t : Text) : Bool := t.all CharSet.isBlank

theorem trimBy_eq_nil_iff (p : CodePoint → Bool) (t : Text) :
    trimBy p t = [] ↔ t.all p = true := by
  have key : ∀ s : Text, s.dropWhile p = [] ↔ s.all p = true := by
    intro s
    induction s with
    | nil => simp
    | cons c rest ih => by_cases h : p c <;> simp [h, ih]
  constructor
  · intro h
    have h1 : ((t.dropWhile p).reverse.dropWhile p) = [] := by simpa [trimBy] using h
    rw [key] at h1
    cases hd : t.dropWhile p with
    | nil => exact (key t).1 hd
    | cons c rest =>
      have hc : p c = false := by
        have hne : t.dropWhile p ≠ [] := by simp [hd]
        have := List.head_dropWhile_not p hne
        simpa [hd] using this
      rw [hd] at h1
      simp [hc] at h1
  · intro h
    simp [trimBy, (key t).2 h]

theorem trim_eq_nil_iff (t : Text) : trim t = [] ↔ isBlank t = true :=
  trimBy_eq_nil_iff _ t

end LaunchIndex.Text
