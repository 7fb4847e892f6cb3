import Mathlib.Algebra.Order.Field.Basic
import Mathlib.Algebra.Order.Ring.Rat
import Mathlib.Tactic.Positivity
import LaunchIndex.Proofs.Ranking
import LaunchIndex.Proofs.Rounding

/-! The orders of stored values and of names, which are those of keys, and the order of hits, which
is one after another of them. Each is transitive and total on all values, on reals and texts among
integers and on names with null characters too, so that hits can be sorted whatever the tables hold.
Sorting then keeps the order among the hits that satisfy a condition. -/

namespace LaunchIndex

open Std (TransCmp OrientedCmp)

theorem compare_congr {α β : Type} [LinearOrder α] [LinearOrder β] {a b : α} {c d : β}
    (hlt : a < b ↔ c < d) (hgt : b < a ↔ d < c) : compare a b = compare c d := by
  rcases lt_trichotomy a b with h | rfl | h
  · rw [compare_lt_iff_lt.mpr h, compare_lt_iff_lt.mpr (hlt.mp h)]
  · have heq : c = d := le_antisymm (not_lt.mp fun h => lt_irrefl _ (hgt.mpr h))
      (not_lt.mp fun h => lt_irrefl _ (hlt.mpr h))
    rw [compare_eq_iff_eq.mpr rfl, compare_eq_iff_eq.mpr heq]
  · rw [compare_gt_iff_gt.mpr h, compare_gt_iff_gt.mpr (hgt.mp h)]

/-! ### Numbers -/

namespace Binary64

/-- Where a number lies from all finite ones: below, among or above them. -/
def side (x : Binary64) : Int := if x.isInfinite then (if x.negative then -1 else 1) else 0

theorem side_ne_zero_iff {x : Binary64} : x.side ≠ 0 ↔ x.isInfinite = true := by
  unfold side
  by_cases hx : x.isInfinite = true
  · by_cases hn : x.negative = true <;> simp [hx, hn]
  · simp [hx]

theorem toRat_of_isInfinite {x : Binary64} (h : x.isInfinite = true) : x.toRat = 0 := if_pos h

theorem compareNumbers_eq (x y : Binary64) :
    compareNumbers x y = (compare x.side y.side).then (compare x.toRat y.toRat) := by
  by_cases h : (x.isInfinite || y.isInfinite) = true
  · have hsides : compareNumbers x y = compare x.side y.side := if_pos h
    rw [hsides]
    by_cases heq : x.side = y.side
    · -- two numbers on one side are both infinite if one is
      have hboth : x.isInfinite = true ∧ y.isInfinite = true := by
        simp only [← side_ne_zero_iff, heq, Bool.or_eq_true, or_self, and_self] at h ⊢
        exact h
      rw [toRat_of_isInfinite hboth.1, toRat_of_isInfinite hboth.2, compare_eq_iff_eq.mpr rfl,
        Ordering.then_eq]
    · have hne : compare x.side y.side ≠ .eq := fun h => heq (compare_eq_iff_eq.mp h)
      cases hxy : compare x.side y.side with
      | lt => rfl
      | eq => exact absurd hxy hne
      | gt => rfl
  · obtain ⟨hx, hy⟩ : x.isInfinite = false ∧ y.isInfinite = false := by simpa using h
    have hx' := x.ratio_pos
    have hy' := y.ratio_pos
    simp only [compareNumbers, side, toRat, hx, hy, Bool.or_self, Bool.false_eq_true, ↓reduceIte]
    apply compare_congr
    · rw [div_lt_div_iff₀ hx' hy']
      exact_mod_cast Iff.rfl
    · rw [div_lt_div_iff₀ hy' hx']
      exact_mod_cast Iff.rfl

theorem compareInt_eq (i : Int) (y : Binary64) :
    compareInt i y = (compare 0 y.side).then (compare (i : ℚ) y.toRat) := by
  unfold compareInt
  by_cases hy : y.isInfinite = true
  · by_cases hn : y.negative = true <;> simp [side, hy, hn] <;> rfl
  · have hy' := y.ratio_pos
    simp only [hy, side, toRat, Bool.false_eq_true, ↓reduceIte]
    apply compare_congr
    · rw [lt_div_iff₀ hy']
      exact_mod_cast Iff.rfl
    · rw [div_lt_iff₀ hy']
      exact_mod_cast Iff.rfl

end Binary64

namespace Store

/-! ### Stored values -/

namespace Cell

/-- Where a value lies from all finite numbers, if it is a number. -/
def side : Cell → Int
  | real x => x.side
  | _ => 0

def fraction : Cell → ℚ
  | int i => i
  | real x => x.toRat
  | _ => 0

/-- What a text or a blob is stored as. -/
def stored : Cell → Text.Bytes
  | text t => Text.Utf8.rawBytes t
  | blob b => b
  | _ => []

/-- The order goes by kind, by side, by fraction and by bytes. -/
theorem order_eq (a b : Cell) : a.order b = (compare a.rank b.rank).then
    ((compare a.side b.side).then
      ((compare a.fraction b.fraction).then (compareBytes a.stored b.stored))) := by
  have hnone : compareBytes [] [] = .eq := rfl
  cases a with
  | null => cases b <;> rfl
  | int i =>
    cases b with
    | int j =>
      have hij : compare i j = compare (i : ℚ) (j : ℚ) :=
        compare_congr Int.cast_lt.symm Int.cast_lt.symm
      simp [order, rank, side, fraction, stored, hij, hnone]
    | real y => simp [order, rank, side, fraction, stored, Binary64.compareInt_eq, hnone]
    | null | text _ | blob _ => rfl
  | real x =>
    cases b with
    | int j =>
      have hside : compare x.side 0 = (compare 0 x.side).swap := OrientedCmp.eq_swap
      have hfraction : compare x.toRat j = (compare (j : ℚ) x.toRat).swap := OrientedCmp.eq_swap
      simp [order, rank, side, fraction, stored, hside, hfraction, Binary64.compareInt_eq, hnone,
        Ordering.swap_then]
    | real y => simp [order, rank, side, fraction, stored, Binary64.compareNumbers_eq, hnone]
    | null | text _ | blob _ => rfl
  | text s =>
    cases b with
    | text t => simp [order, rank, side, fraction, stored, compareText]
    | null | int _ | real _ | blob _ => rfl
  | blob s =>
    cases b with
    | blob t => simp [order, rank, side, fraction, stored]
    | null | int _ | real _ | text _ => rfl

instance : TransCmp order := by
  have hkeys : order = compareLex (compareOn rank) (compareLex (compareOn side)
      (compareLex (compareOn fraction) (Ordering.byKey stored compareBytes))) :=
    funext fun a => funext fun b => order_eq a b
  rw [hkeys]
  infer_instance

end Cell

/-! ### Names and hits -/

namespace Tables

instance : TransCmp compareNameBytes :=
  inferInstanceAs (TransCmp (compareLex
    (Ordering.byKey (List.takeWhile (· != 0)) Cell.compareBytes) (compareOn List.length)))

instance : TransCmp compareNames :=
  inferInstanceAs (TransCmp
    (Ordering.byKey (fun s => Text.Utf8.rawBytes (Text.asciiLower s)) compareNameBytes))

instance {cmp : Text → Text → Ordering} [TransCmp cmp] : TransCmp (missingFirst cmp) := by
  have hrefl : cmp [] [] = .eq := Std.ReflCmp.compare_self
  have hkeys : missingFirst cmp =
      compareLex (compareOn Option.isSome) (Ordering.byKey (fun s => s.getD []) cmp) := by
    funext s t
    cases s with
    | none =>
      cases t with
      | none => exact hrefl.symm
      | some t => rfl
    | some s => cases t <;> rfl
  rw [hkeys]
  infer_instance

instance : TransCmp Hit.order := by
  have hcount : TransCmp fun a b : Hit => Cell.order b.count a.count :=
    @TransCmp.opposite Hit (Ordering.byKey Hit.count Cell.order) inferInstance
  have hkeys : Hit.order = compareLex (compareOn Hit.tier)
      (compareLex (fun a b => Cell.order b.count a.count)
        (compareLex
          (Ordering.byKey (fun h : Hit => h.file.filename)
            (missingFirst compareNames))
          (Ordering.byKey (fun h : Hit => h.file.path) (missingFirst Cell.compareText)))) := rfl
  rw [hkeys]
  infer_instance

end Tables

end Store

/-! ### Sorting and selecting -/

/-- A list is cut in one way only into a part where a test holds and a part where it fails. -/
theorem append_inj_of_test {α : Type} {Q : α → Bool} {l₁ l₂ m₁ m₂ : List α}
    (h : l₁ ++ l₂ = m₁ ++ m₂) (hl₁ : ∀ b ∈ l₁, Q b = true) (hl₂ : ∀ b ∈ l₂, ¬Q b = true)
    (hm₁ : ∀ b ∈ m₁, Q b = true) (hm₂ : ∀ b ∈ m₂, ¬Q b = true) : l₁ = m₁ ∧ l₂ = m₂ := by
  have hfilter := congrArg (List.filter Q) h
  rw [List.filter_append, List.filter_append, List.filter_eq_self.mpr hl₁,
    List.filter_eq_nil_iff.mpr hl₂, List.filter_eq_self.mpr hm₁, List.filter_eq_nil_iff.mpr hm₂,
    List.append_nil, List.append_nil] at hfilter
  subst hfilter
  exact ⟨rfl, List.append_cancel_left h⟩

section

variable {α : Type} {le : α → α → Bool}
  (htrans : ∀ a b c, le a b = true → le b c = true → le a c = true)
  (htotal : ∀ a b, (le a b || le b a) = true)
include htrans htotal

/-- Where the first element of a list goes when the list is sorted. -/
theorem exists_mergeSort_cons (a : α) (l : List α) : ∃ above below,
    (a :: l).mergeSort le = above ++ a :: below ∧ l.mergeSort le = above ++ below ∧
      (∀ b ∈ above, ¬le a b = true) ∧ ∀ b ∈ below, le a b = true := by
  obtain ⟨above, below, hcons, hl, habove⟩ := List.mergeSort_cons htrans htotal a l
  have hsorted : (above ++ a :: below).Pairwise fun x y => le x y = true :=
    hcons ▸ List.pairwise_mergeSort htrans htotal (a :: l)
  have hbelow := (List.pairwise_cons.mp (List.pairwise_append.mp hsorted).2.1).1
  exact ⟨above, below, hcons, hl, fun b hb => by simpa using habove b hb, hbelow⟩

/-- Selecting keeps the order of sorting, so it does not matter which of the two comes first. -/
theorem filter_mergeSort (P : α → Bool) (l : List α) :
    (l.mergeSort le).filter P = (l.filter P).mergeSort le := by
  induction l with
  | nil => simp
  | cons a l ih =>
    obtain ⟨above, below, hcons, hl, habove, hbelow⟩ := exists_mergeSort_cons htrans htotal a l
    by_cases ha : P a = true
    · obtain ⟨above', below', hcons', hl', habove', hbelow'⟩ :=
        exists_mergeSort_cons htrans htotal a (l.filter P)
      have hsame : above' ++ below' = above.filter P ++ below.filter P := by
        rw [← hl', ← ih, hl, List.filter_append]
      obtain ⟨rfl, rfl⟩ := append_inj_of_test (Q := fun b => !le a b) hsame
        (fun b hb => by simpa using habove' b hb) (fun b hb => by simpa using hbelow' b hb)
        (fun b hb => by simpa using habove b (List.mem_of_mem_filter hb))
        (fun b hb => by simpa using hbelow b (List.mem_of_mem_filter hb))
      rw [List.filter_cons_of_pos ha, hcons, hcons', List.filter_append,
        List.filter_cons_of_pos ha]
    · rw [List.filter_cons_of_neg ha, hcons, List.filter_append, List.filter_cons_of_neg ha,
        ← List.filter_append, ← hl, ih]

end

/-! ### Hits in order -/

namespace Store.Tables

/-- Whether a hit may come before another. -/
def Hit.precedes (a b : Hit) : Bool := (a.order b).isLE

theorem Hit.precedes_trans (a b c : Hit) (hab : a.precedes b = true) (hbc : b.precedes c = true) :
    a.precedes c = true :=
  TransCmp.isLE_trans hab hbc

theorem Hit.precedes_total (a b : Hit) : (a.precedes b || b.precedes a) = true := by
  have hswap : a.order b = (b.order a).swap := OrientedCmp.eq_swap
  rw [precedes, precedes, hswap]
  cases b.order a <;> rfl

def matching (t : Tables) (query : Text) : List FileRow :=
  t.files.filter fun f =>
    f.filename.any fun name => Like.accepts (Like.holds query) (Like.read name)

theorem hits_eq_map (t : Tables) (query : Text) (limit : Int) : t.hits (.ofQuery query limit) =
    (t.matching query).map fun f => ⟨f, t.countOf f, tier (.ofQuery query limit) f⟩ := rfl

/-- All hits of a search in order. -/
def ordered (t : Tables) (p : SearchParameters) : List Hit := (t.hits p).mergeSort Hit.precedes

variable (t : Tables) (p : SearchParameters)

theorem ordered_perm : (t.ordered p).Perm (t.hits p) := List.mergeSort_perm _ _

theorem pairwise_ordered : (t.ordered p).Pairwise fun a b => a.precedes b = true :=
  List.pairwise_mergeSort Hit.precedes_trans Hit.precedes_total _

theorem filter_ordered (P : Hit → Bool) :
    (t.ordered p).filter P = ((t.hits p).filter P).mergeSort Hit.precedes :=
  filter_mergeSort Hit.precedes_trans Hit.precedes_total P _

variable {t p}

theorem mem_ordered_iff {h : Hit} : h ∈ t.ordered p ↔ h ∈ t.hits p := (t.ordered_perm p).mem_iff

theorem search_eq_take (hlimit : 0 ≤ p.limit) :
    t.search p = (t.ordered p).take p.limit.toNat := by
  rw [search, limited, if_neg (Int.not_lt.mpr hlimit)]
  rfl

/-- A limit that is not below the number of files that match leaves out no hit. -/
theorem search_eq_ordered {query : Text} {limit : Int}
    (hlimit : (t.matching query).length ≤ limit) :
    t.search (.ofQuery query limit) = t.ordered (.ofQuery query limit) := by
  have hlength : (t.ordered (.ofQuery query limit)).length ≤ limit.toNat := by
    rw [(t.ordered_perm _).length_eq, hits_eq_map, List.length_map]
    omega
  have hleast : 0 ≤ (SearchParameters.ofQuery query limit).limit := show 0 ≤ limit by omega
  rw [search_eq_take hleast]
  exact List.take_of_length_le hlength

end Store.Tables

end LaunchIndex
