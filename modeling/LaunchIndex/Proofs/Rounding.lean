import Mathlib.Algebra.Order.Field.Basic
import Mathlib.Algebra.Order.Field.Power
import Mathlib.Algebra.Order.Field.Rat
import Mathlib.Algebra.Order.Ring.Abs
import Mathlib.Algebra.Ring.Parity
import Mathlib.Tactic.Linarith
import Mathlib.Tactic.Positivity
import Mathlib.Tactic.Ring
import LaunchIndex.Binary64

/-! Rounding and the order of numbers. A fraction that is not negative is rounded to a multiple
of a power of two, which leaves it 53 places unless it is very small; so the rounded numbers
are in the order of the fractions. Integers and their quotients are rounded in this way. -/

namespace LaunchIndex.Binary64

/-! ### Fractions -/

def toRat (x : Binary64) : ℚ := if x.isInfinite then 0 else x.ratio.1 / x.ratio.2

theorem ratio_pos (x : Binary64) : (0 : ℚ) < x.ratio.2 := by
  have hshift : 0 < x.ratio.2 := by
    simp only [ratio, Nat.one_shiftLeft]
    positivity
  exact_mod_cast hshift

variable {x y : Binary64} {num den : Nat}

theorem toRat_of_isFinite (h : x.isFinite = true) : x.toRat = x.ratio.1 / x.ratio.2 := by
  refine if_neg ?_
  simp only [isFinite, decide_eq_true_eq] at h
  simp [isInfinite, h.ne]

theorem two_pow_toNat (s : ℤ) : (2 : ℚ) ^ s.toNat = 2 ^ s * 2 ^ (-s).toNat := by
  rw [← zpow_natCast, ← zpow_natCast, ← zpow_add₀ two_ne_zero]
  congr 1
  omega

/-- Shifting one part of a fraction or the other divides it by a power of two. -/
theorem shiftLeft_div_shiftLeft (num den : Nat) (s : ℤ) :
    ((num <<< (-s).toNat : Nat) : ℚ) / (den <<< s.toNat : Nat) = num / den / 2 ^ s := by
  have hpos : (2 : ℚ) ^ (-s).toNat ≠ 0 := pow_ne_zero _ two_ne_zero
  rw [Nat.shiftLeft_eq, Nat.shiftLeft_eq]
  push_cast
  rw [two_pow_toNat s, ← mul_assoc, mul_div_mul_right _ _ hpos, div_div]

theorem shiftLeft_pos (hd : 0 < den) (n : Nat) : 0 < den <<< n := by
  rw [Nat.shiftLeft_eq]
  positivity

theorem shiftLeft_lt_shiftLeft_iff (hd : 0 < den) (s : ℤ) :
    num <<< (-s).toNat < den <<< s.toNat ↔ (num : ℚ) / den < 2 ^ s := by
  have hs : (0 : ℚ) < 2 ^ s := by positivity
  have hden : (0 : ℚ) < (den <<< s.toNat : Nat) := Nat.cast_pos.mpr (shiftLeft_pos hd _)
  rw [← Nat.cast_lt (α := ℚ), ← div_lt_one hden, shiftLeft_div_shiftLeft, div_lt_one hs]

theorem toRat_eq (h : x.negative = false) (hfinite : x.isFinite = true) :
    x.toRat = x.significand * 2 ^ x.scale := by
  have hpos : (2 : ℚ) ^ (-x.scale).toNat ≠ 0 := pow_ne_zero _ two_ne_zero
  rw [toRat_of_isFinite hfinite]
  simp only [ratio, h, Bool.false_eq_true, ↓reduceIte, Nat.shiftLeft_eq]
  push_cast
  rw [one_mul, div_eq_iff hpos, two_pow_toNat, mul_assoc]

theorem toRat_nonneg (h : x.negative = false) (hfinite : x.isFinite = true) : 0 ≤ x.toRat := by
  rw [toRat_eq h hfinite]
  positivity

theorem toRat_lt (h : x.negative = false) (hfinite : x.isFinite = true) :
    x.toRat < 2 ^ (1024 : ℤ) := by
  have hfield : x.exponentField < 2047 := by simpa [isFinite] using hfinite
  have hsignificand : x.significand < 2 ^ 53 := by
    have hfraction : x.fraction < exponentUnit := Nat.mod_lt _ (by decide)
    simp only [significand, exponentUnit] at *
    split <;> omega
  have hscale : x.scale ≤ 971 := by
    rw [scale]
    omega
  calc x.toRat = x.significand * 2 ^ x.scale := toRat_eq h hfinite
    _ < 2 ^ (53 : ℤ) * 2 ^ x.scale := by
      gcongr
      exact_mod_cast hsignificand
    _ ≤ 2 ^ (53 : ℤ) * 2 ^ (971 : ℤ) := by
      gcongr
      · exact one_le_two
    _ = 2 ^ (1024 : ℤ) := by rw [← zpow_add₀ two_ne_zero]; rfl

/-! ### Words -/

variable {e f k r w : Nat}

theorem word_ofWord (h : w < signUnit) : (ofWord false w).word = w := by
  simp only [ofWord, word, signUnit] at *
  simp
  omega

theorem fields_ofWord (he : e < 2047) (hf : f < exponentUnit) :
    (ofWord false (e * exponentUnit + f)).negative = false ∧
      (ofWord false (e * exponentUnit + f)).isFinite = true ∧
      (ofWord false (e * exponentUnit + f)).exponentField = e ∧
      (ofWord false (e * exponentUnit + f)).fraction = f := by
  have hsmall : e * exponentUnit + f < signUnit := by
    simp only [exponentUnit, signUnit] at *
    omega
  have hfield : (ofWord false (e * exponentUnit + f)).exponentField = e := by
    rw [exponentField, word_ofWord hsmall]
    simp only [exponentUnit] at *
    omega
  refine ⟨?_, ?_, hfield, ?_⟩
  · rw [negative, word_ofWord hsmall, decide_eq_false_iff_not, not_le]
    exact hsmall
  · rw [isFinite, hfield]
    exact decide_eq_true he
  · rw [fraction, word_ofWord hsmall]
    simp only [exponentUnit] at *
    omega

theorem isFinite_ofWord (h : w < 2047 * exponentUnit) :
    (ofWord false w).isFinite = true ∧ (ofWord false w).negative = false := by
  have hfield : w / exponentUnit < 2047 := Nat.div_lt_of_lt_mul (by rwa [Nat.mul_comm])
  obtain ⟨hnegative, hfinite, -⟩ :=
    fields_ofWord hfield (Nat.mod_lt w (by decide : 0 < exponentUnit))
  rw [Nat.div_add_mod'] at hnegative hfinite
  exact ⟨hfinite, hnegative⟩

theorem toRat_ofWord_subnormal (hf : f < exponentUnit) :
    (ofWord false f).toRat = f * 2 ^ (-1074 : ℤ) := by
  obtain ⟨hnegative, hfinite, hfield, hfraction⟩ := fields_ofWord (e := 0) (by decide) hf
  rw [Nat.zero_mul, Nat.zero_add] at hnegative hfinite hfield hfraction
  rw [toRat_eq hnegative hfinite, significand, scale, if_pos hfield, hfield, hfraction]
  rfl

theorem toRat_ofWord_normal (he : e + 1 < 2047) (hf : f < exponentUnit) :
    (ofWord false ((e + 1) * exponentUnit + f)).toRat =
      (exponentUnit + f : Nat) * 2 ^ ((e : ℤ) - 1074) := by
  obtain ⟨hnegative, hfinite, hfield, hfraction⟩ := fields_ofWord he hf
  have hscale : (max (e + 1) 1 : Nat) - (1075 : ℤ) = e - 1074 := by omega
  rw [toRat_eq hnegative hfinite, significand, scale, hfield, hfraction,
    if_neg (Nat.succ_ne_zero e), hscale]

/-- A significand and a multiple of the exponent unit make a number, also when the significand is
as great as two units and carries. -/
theorem toRat_ofWord (hk : k = 0 ∨ exponentUnit ≤ r) (hr : r ≤ 2 * exponentUnit)
    (hw : k * exponentUnit + r < 2047 * exponentUnit) :
    (ofWord false (k * exponentUnit + r)).toRat = r * 2 ^ ((k : ℤ) - 1074) := by
  rcases Nat.lt_or_ge r exponentUnit with hlow | hlow
  · obtain rfl : k = 0 := hk.resolve_right (Nat.not_le.mpr hlow)
    simpa using toRat_ofWord_subnormal hlow
  · rcases hr.lt_or_eq with hhigh | rfl
    · have hword : k * exponentUnit + r = (k + 1) * exponentUnit + (r - exponentUnit) := by
        rw [Nat.add_mul]
        omega
      have hk : k + 1 < 2047 := by
        simp only [exponentUnit] at *
        omega
      rw [hword, toRat_ofWord_normal hk (by omega), Nat.add_sub_cancel' hlow]
    · have hword : k * exponentUnit + 2 * exponentUnit = (k + 1 + 1) * exponentUnit + 0 := by ring
      have hk : k + 1 + 1 < 2047 := by
        simp only [exponentUnit] at *
        omega
      have hscale : ((k + 1 : Nat) : ℤ) - 1074 = (k : ℤ) - 1074 + 1 := by omega
      rw [hword, toRat_ofWord_normal hk (by decide), hscale, zpow_add_one₀ two_ne_zero]
      push_cast
      ring

/-! ### The nearest integer -/

/-- An integer nearest to a number, and even if another one is as near. -/
structure Nearest (q : ℚ) (r : Nat) : Prop where
  near : |(r : ℚ) - q| ≤ 1 / 2
  tie : |(r : ℚ) - q| = 1 / 2 → Even r

variable {p q : ℚ} {r' : Nat}

theorem nearest_natCast (n : Nat) : Nearest n n := ⟨by norm_num, by norm_num⟩

theorem Nearest.mono (h : Nearest p r) (h' : Nearest q r') (hpq : p ≤ q) : r ≤ r' := by
  by_contra! hlt
  have hstep : (r' : ℚ) + 1 ≤ r := by exact_mod_cast hlt
  have hnear := abs_le.mp h.near
  have hnear' := abs_le.mp h'.near
  -- Both numbers are the half between the two integers, so both integers are even.
  have hr : (r : ℚ) - p = 1 / 2 := by linarith
  have hr' : (r' : ℚ) - q = -(1 / 2) := by linarith
  have heven : Even r := h.tie (by rw [hr]; norm_num)
  have heven' : Even r' := h'.tie (by rw [hr', abs_neg]; norm_num)
  have hnext : (r : ℚ) = r' + 1 := by linarith
  obtain rfl : r = r' + 1 := by exact_mod_cast hnext
  exact Nat.even_add_one.mp heven heven'

theorem div_eq_add_mod (num : Nat) (hd : 0 < den) :
    (num : ℚ) / den = (num / den : Nat) + ((num % den : Nat) / den : ℚ) := by
  have hd' : (den : ℚ) ≠ 0 := Nat.cast_ne_zero.mpr hd.ne'
  rw [div_eq_iff hd', add_mul, div_mul_cancel₀ _ hd']
  exact_mod_cast (Nat.div_add_mod' num den).symm

theorem div_lt_half_iff (hd : 0 < den) : (num : ℚ) / den < 1 / 2 ↔ 2 * num < den := by
  rw [div_lt_div_iff₀ (Nat.cast_pos.mpr hd) two_pos]
  exact_mod_cast (by omega)

theorem half_lt_div_iff (hd : 0 < den) : 1 / 2 < (num : ℚ) / den ↔ den < 2 * num := by
  rw [div_lt_div_iff₀ two_pos (Nat.cast_pos.mpr hd)]
  exact_mod_cast (by omega)

theorem nearest_roundQuotient (num : Nat) (hd : 0 < den) :
    Nearest (num / den) (roundQuotient num den) := by
  have hrest : (0 : ℚ) ≤ (num % den : Nat) / den := by positivity
  have hrest' : ((num % den : Nat) / den : ℚ) < 1 := by
    rw [div_lt_one (Nat.cast_pos.mpr hd)]
    exact_mod_cast Nat.mod_lt num hd
  have hup : ((num / den + 1 : Nat) : ℚ) - ((num / den : Nat) + (num % den : Nat) / den) =
      1 - (num % den : Nat) / den := by
    push_cast
    ring
  rw [div_eq_add_mod num hd, roundQuotient]
  split
  case isTrue h =>
    have hlt := (div_lt_half_iff hd).mpr h
    refine ⟨?_, ?_⟩ <;> rw [sub_add_cancel_left, abs_neg, abs_of_nonneg hrest]
    · exact hlt.le
    · exact fun heq => absurd heq hlt.ne
  case isFalse hhigh =>
    split
    case isTrue h =>
      have hgt := (half_lt_div_iff hd).mpr h
      refine ⟨?_, ?_⟩ <;> rw [hup, abs_of_pos (by linarith)]
      · linarith
      · intro heq
        linarith
    case isFalse hlow =>
      have hhalf : ((num % den : Nat) / den : ℚ) = 1 / 2 :=
        le_antisymm (not_lt.mp fun h => hlow ((half_lt_div_iff hd).mp h))
          (not_lt.mp fun h => hhigh ((div_lt_half_iff hd).mp h))
      rw [hhalf] at hup ⊢
      split
      case isTrue heven =>
        exact ⟨by rw [sub_add_cancel_left, abs_neg]; norm_num, fun _ => Nat.even_iff.mpr heven⟩
      case isFalse hodd =>
        exact ⟨by rw [hup]; norm_num, fun _ => Nat.even_add_one.mpr (by rwa [Nat.even_iff])⟩

/-! ### Rounding to a power of two -/

/-- A number that is not negative is rounded to the multiple `r * 2 ^ s`. The scale leaves 53
places, but is never less than the least one. -/
structure Rounds (q : ℚ) (s : ℤ) (r : Nat) : Prop where
  least : -1074 ≤ s
  below : q < 2 ^ (s + 53)
  above : -1074 < s → 2 ^ (s + 52) ≤ q
  nearest : Nearest (q / 2 ^ s) r

namespace Rounds

variable {s s' : ℤ}

theorem le_two_units (h : Rounds q s r) : r ≤ 2 * exponentUnit := by
  have hs : (0 : ℚ) < 2 ^ s := by positivity
  have hunits : ((2 * exponentUnit : Nat) : ℚ) = 2 ^ (53 : ℤ) := by norm_num [exponentUnit]
  refine h.nearest.mono (nearest_natCast _) ?_
  rw [hunits, div_le_iff₀ hs, ← zpow_add₀ two_ne_zero, add_comm]
  exact h.below.le

theorem unit_le (h : Rounds q s r) (hleast : -1074 < s) : exponentUnit ≤ r := by
  have hs : (0 : ℚ) < 2 ^ s := by positivity
  have hunit : (exponentUnit : ℚ) = 2 ^ (52 : ℤ) := by norm_num [exponentUnit]
  refine (nearest_natCast _).mono h.nearest ?_
  rw [hunit, le_div_iff₀ hs, ← zpow_add₀ two_ne_zero, add_comm]
  exact h.above hleast

theorem mono (h : Rounds p s r) (h' : Rounds q s' r') (hpq : p ≤ q) :
    (r : ℚ) * 2 ^ s ≤ r' * 2 ^ s' := by
  rcases lt_trichotomy s s' with hlt | rfl | hgt
  · have hr : (r : ℚ) ≤ 2 * exponentUnit := by exact_mod_cast h.le_two_units
    have hr' : (exponentUnit : ℚ) ≤ r' := by exact_mod_cast h'.unit_le (h.least.trans_lt hlt)
    calc (r : ℚ) * 2 ^ s ≤ 2 * exponentUnit * 2 ^ s := by gcongr
      _ = exponentUnit * 2 ^ (s + 1) := by
        rw [zpow_add_one₀ two_ne_zero]
        ring
      _ ≤ exponentUnit * 2 ^ s' := by
        gcongr
        · exact one_le_two
        · omega
      _ ≤ r' * 2 ^ s' := by gcongr
  · have hr : r ≤ r' := h.nearest.mono h'.nearest (by gcongr)
    gcongr
  · -- The greater scale belongs to the greater number.
    have hlt : q < p := calc
      q < 2 ^ (s' + 53) := h'.below
      _ ≤ 2 ^ (s + 52) := zpow_le_zpow_right₀ one_le_two (by omega)
      _ ≤ p := h.above (h'.least.trans_lt hgt)
    exact absurd hpq hlt.not_ge

end Rounds

theorem binaryExponent_bounds (hn : 0 < num) (hd : 0 < den) :
    2 ^ binaryExponent num den ≤ (num : ℚ) / den ∧
      (num : ℚ) / den < 2 ^ (binaryExponent num den + 1) := by
  have hd' : (0 : ℚ) < den := Nat.cast_pos.mpr hd
  have hlow (n : Nat) (hn : 0 < n) : (2 : ℚ) ^ (n.log2 : ℤ) ≤ n := by
    rw [zpow_natCast]
    exact_mod_cast Nat.log2_self_le hn.ne'
  have hhigh (n : Nat) : (n : ℚ) < 2 ^ ((n.log2 : ℤ) + 1) := by
    rw [← Nat.cast_succ, zpow_natCast]
    exact_mod_cast Nat.lt_log2_self
  have hupper : (num : ℚ) / den < 2 ^ ((num.log2 : ℤ) - den.log2 + 1) := by
    rw [div_lt_iff₀ hd']
    calc (num : ℚ) < 2 ^ ((num.log2 : ℤ) + 1) := hhigh num
      _ = 2 ^ ((num.log2 : ℤ) - den.log2 + 1) * 2 ^ (den.log2 : ℤ) := by
        rw [← zpow_add₀ two_ne_zero]
        congr 1
        ring
      _ ≤ _ := by
        gcongr
        exact hlow den hd
  have hlower : 2 ^ ((num.log2 : ℤ) - den.log2 - 1) ≤ (num : ℚ) / den := by
    rw [le_div_iff₀ hd']
    calc (2 : ℚ) ^ ((num.log2 : ℤ) - den.log2 - 1) * den
        ≤ 2 ^ ((num.log2 : ℤ) - den.log2 - 1) * 2 ^ ((den.log2 : ℤ) + 1) := by
          gcongr
          exact (hhigh den).le
      _ = 2 ^ (num.log2 : ℤ) := by
        rw [← zpow_add₀ two_ne_zero]
        congr 1
        ring
      _ ≤ num := hlow num hn
  unfold binaryExponent
  dsimp only
  split
  case isTrue h =>
    rw [sub_add_cancel]
    exact ⟨hlower, (shiftLeft_lt_shiftLeft_iff hd _).mp h⟩
  case isFalse h =>
    exact ⟨not_lt.mp fun hlt => h ((shiftLeft_lt_shiftLeft_iff hd _).mpr hlt), hupper⟩

/-- The word of a rounded fraction is that of the multiple that it is rounded to. -/
theorem exists_rounds (num : Nat) (hd : 0 < den) :
    ∃ k r : Nat, Rounds (num / den) ((k : ℤ) - 1074) r ∧
      ofRatio false num den = if k * exponentUnit + r < 2047 * exponentUnit then
        ofWord false (k * exponentUnit + r) else infinity false := by
  rcases Nat.eq_zero_or_pos num with rfl | hn
  · have hzero : Rounds 0 (((0 : Nat) : ℤ) - 1074) 0 :=
      ⟨by omega, by positivity, fun h => absurd h (by omega), by simp, by simp⟩
    exact ⟨0, 0, by simpa using hzero, by simp [ofRatio, zero, exponentUnit]⟩
  · obtain ⟨hlower, hupper⟩ := binaryExponent_bounds hn hd
    obtain ⟨k, hk⟩ : ∃ k : Nat, max (binaryExponent num den - 52) (-1074) = (k : ℤ) - 1074 :=
      ⟨(max (binaryExponent num den - 52) (-1074) + 1074).toNat, by omega⟩
    refine ⟨k, roundQuotient (num <<< (-((k : ℤ) - 1074)).toNat) (den <<< ((k : ℤ) - 1074).toNat),
      ⟨by omega, hupper.trans_le ?_, fun h => ?_, ?_⟩, ?_⟩
    · exact zpow_le_zpow_right₀ one_le_two (by omega)
    · have hscale : (k : ℤ) - 1074 + 52 = binaryExponent num den := by omega
      rwa [hscale]
    · rw [← shiftLeft_div_shiftLeft]
      exact nearest_roundQuotient _ (shiftLeft_pos hd _)
    · have hword : ((k : ℤ) - 1074 + 1074).toNat = k := by omega
      rw [ofRatio, if_neg hn.ne', hk]
      simp only [hword]

/-! ### Numbers that stand for others -/

/-- A finite number is what another one, which is not negative, is rounded to. -/
structure Represents (x : Binary64) (q : ℚ) : Prop where
  finite : x.isFinite = true
  positive : x.negative = false
  rounded : ∃ s r, Rounds q s r ∧ x.toRat = r * 2 ^ s

theorem Represents.toRat_le (h : x.Represents p) (h' : y.Represents q) (hpq : p ≤ q) :
    x.toRat ≤ y.toRat := by
  obtain ⟨s, r, hrounds, hx⟩ := h.rounded
  obtain ⟨s', r', hrounds', hy⟩ := h'.rounded
  rw [hx, hy]
  exact hrounds.mono hrounds' hpq

theorem represents_ofRatio (num : Nat) (hd : 0 < den)
    (hfinite : (ofRatio false num den).isFinite = true) :
    (ofRatio false num den).Represents (num / den) := by
  obtain ⟨k, r, hrounds, hword⟩ := exists_rounds num hd
  by_cases hw : k * exponentUnit + r < 2047 * exponentUnit
  · rw [if_pos hw] at hword
    have hk : k = 0 ∨ exponentUnit ≤ r := by
      rcases Nat.eq_zero_or_pos k with rfl | hk
      · exact .inl rfl
      · exact .inr (hrounds.unit_le (by omega))
    rw [hword]
    exact ⟨(isFinite_ofWord hw).1, (isFinite_ofWord hw).2, _, r, hrounds,
      toRat_ofWord hk hrounds.le_two_units hw⟩
  · rw [hword, if_neg hw] at hfinite
    exact absurd hfinite (by decide)

/-- Numbers that are far enough from the greatest are not rounded to the infinite one. -/
theorem isFinite_ofRatio (hd : 0 < den) (h : (num : ℚ) / den < 2 ^ (1023 : ℤ)) :
    (ofRatio false num den).isFinite = true := by
  obtain ⟨k, r, hrounds, hword⟩ := exists_rounds num hd
  have hr : r ≤ 2 * exponentUnit := hrounds.le_two_units
  have hk : k < 2045 := by
    by_contra! hk
    have habove := hrounds.above (by omega)
    have hlt : (2 : ℚ) ^ ((k : ℤ) - 1074 + 52) < 2 ^ (1023 : ℤ) := habove.trans_lt h
    rw [zpow_lt_zpow_iff_right₀ one_lt_two] at hlt
    omega
  have hw : k * exponentUnit + r < 2047 * exponentUnit := by
    simp only [exponentUnit] at *
    omega
  rw [hword, if_pos hw]
  exact (isFinite_ofWord hw).1

theorem represents_of_ofInt? {i : ℤ} (hi : 0 ≤ i) (h : ofInt? i = some x) : x.Represents i := by
  obtain ⟨n, rfl⟩ := Int.eq_ofNat_of_zero_le hi
  have hsign : decide ((n : ℤ) < 0) = false := decide_eq_false (by omega)
  simp only [ofInt?, hsign, Int.natAbs_natCast] at h
  split at h
  · next hfinite =>
    obtain rfl := Option.some.inj h
    simpa using represents_ofRatio n Nat.one_pos hfinite
  · exact absurd h (by simp)

/-- The quotient of a number by an integer is rounded once. -/
theorem Represents.divNat (h : x.Represents q) {n : Nat} (hn : 2 ≤ n) :
    (x.divNat n).Represents (x.toRat / n) := by
  have hn' : (2 : ℚ) ≤ n := by exact_mod_cast hn
  have hden : 0 < x.ratio.2 * n := Nat.mul_pos (Nat.cast_pos.mp x.ratio_pos) (by omega)
  have hnum : 0 ≤ x.ratio.1 := by
    simp only [ratio, h.positive, Bool.false_eq_true, ↓reduceIte]
    exact Int.natCast_nonneg _
  have hquotient : (x.ratio.1.natAbs : ℚ) / (x.ratio.2 * n : Nat) = x.toRat / n := by
    rw [Nat.cast_natAbs, abs_of_nonneg hnum, toRat_of_isFinite h.finite, div_div, Nat.cast_mul]
  have hsmall : (x.ratio.1.natAbs : ℚ) / (x.ratio.2 * n : Nat) < 2 ^ (1023 : ℤ) := by
    rw [hquotient, div_lt_iff₀ (by linarith)]
    calc x.toRat < 2 ^ (1024 : ℤ) := toRat_lt h.positive h.finite
      _ = 2 ^ (1023 : ℤ) * 2 := zpow_add_one₀ two_ne_zero 1023
      _ ≤ 2 ^ (1023 : ℤ) * n := by gcongr
  rw [Binary64.divNat, if_pos h.finite, h.positive, ← hquotient]
  exact represents_ofRatio _ hden (isFinite_ofRatio hden hsmall)

end LaunchIndex.Binary64
