import Mathlib.Data.List.Lex
import Mathlib.Order.Fin.Basic
import LaunchIndex.Proofs.NameBytes
import LaunchIndex.Store.Tables

/-! The order of stored texts, which goes by their bytes. The UTF-8 form keeps the order of the code
points, so texts without surrogates are in lexicographic order. -/

namespace LaunchIndex.Store

open Std (LawfulEqCmp OrientedCmp ReflCmp TransCmp)
open Text.Utf8 (octets rawBytes map_toNat_octets)

namespace Cell

instance : TransCmp compareBytes := inferInstanceAs (TransCmp (List.compareLex compare))

instance : LawfulEqCmp compareBytes := inferInstanceAs (LawfulEqCmp (List.compareLex compare))

instance : TransCmp compareText :=
  inferInstanceAs (TransCmp (Ordering.byKey Text.Utf8.rawBytes compareBytes))

theorem compareBytes_append (s t u : Text.Bytes) :
    compareBytes (s ++ t) (s ++ u) = compareBytes t u := by
  induction s with
  | nil => rfl
  | cons b s ih =>
    have hb : compare b b = .eq := ReflCmp.compare_self
    rw [List.cons_append, List.cons_append, compareBytes, List.compareLex_cons_cons, hb,
      Ordering.eq_then]
    exact ih

theorem compareBytes_eq (s t : Text.Bytes) :
    compareBytes s t = List.compareLex compare (s.map UInt8.toNat) (t.map UInt8.toNat) := by
  induction s generalizing t with
  | nil => cases t <;> rfl
  | cons a s ih =>
    cases t with
    | nil => rfl
    | cons b t =>
      rw [List.map_cons, List.map_cons, List.compareLex_cons_cons, ← ih, compareBytes,
        List.compareLex_cons_cons, UInt8.compare_eq_toNat_compare_toNat]
      rfl

/-- The bytes of a smaller code point come first, whatever follows. -/
theorem compareBytes_octets {a b : Nat} (hb : b < 0x110000) (hab : a < b) (s t : Text.Bytes) :
    compareBytes (octets a ++ s) (octets b ++ t) = .lt := by
  rw [compareBytes_eq, List.map_append, List.map_append, map_toNat_octets (hab.trans hb),
    map_toNat_octets hb]
  split_ifs <;>
    simp only [List.cons_append, List.nil_append, List.compareLex_cons_cons, Ordering.then_eq_lt,
      Nat.compare_eq_lt, Nat.compare_eq_eq] <;> omega

theorem compareText_cons {a b : CodePoint} (ha : a.isSurrogate = false) (hb : b.isSurrogate = false)
    (s t : Text) :
    compareText (a :: s) (b :: t) = (compare a.val b.val).then (compareText s t) := by
  rw [compareText, rawBytes, List.flatMap_cons, rawBytes, List.flatMap_cons,
    Text.Utf8.nameOctets_eq ha, Text.Utf8.nameOctets_eq hb]
  rcases lt_trichotomy a.val b.val with h | h | h
  · rw [compareBytes_octets b.isLt h, Nat.compare_eq_lt.mpr h, Ordering.lt_then]
  · rw [h, compareBytes_append, Nat.compare_eq_eq.mpr rfl, Ordering.eq_then]
    rfl
  · rw [Nat.compare_eq_gt.mpr h, Ordering.gt_then]
    exact OrientedCmp.gt_of_lt (compareBytes_octets a.isLt h (t.flatMap Text.Utf8.nameOctets)
      (s.flatMap Text.Utf8.nameOctets))

theorem compareText_nil_cons (b : CodePoint) (t : Text) : compareText [] (b :: t) = .lt := by
  rw [compareText, rawBytes, rawBytes, List.flatMap_cons]
  cases hb : Text.Utf8.nameOctets b with
  | nil => exact absurd hb (Text.Utf8.nameOctets_ne_nil b)
  | cons _ _ => rfl

theorem compareText_cons_nil (a : CodePoint) (s : Text) : compareText (a :: s) [] = .gt :=
  OrientedCmp.gt_of_lt (compareText_nil_cons a s)

theorem compareText_eq_eq {s t : Text} (hs : s.isEncodable = true) (ht : t.isEncodable = true) :
    compareText s t = .eq ↔ s = t := by
  induction s generalizing t with
  | nil =>
    cases t with
    | nil => simp [compareText, compareBytes, rawBytes, List.compareLex_nil_nil]
    | cons b t => simp [compareText_nil_cons]
  | cons a s ih =>
    cases t with
    | nil => simp [compareText_cons_nil]
    | cons b t =>
      obtain ⟨ha, hs⟩ := Text.isEncodable_cons.mp hs
      obtain ⟨hb, ht⟩ := Text.isEncodable_cons.mp ht
      rw [compareText_cons ha hb, Ordering.then_eq_eq,
        Nat.compare_eq_eq, ih hs ht, List.cons.injEq, Fin.ext_iff]

/-- Texts without surrogates are ordered by their code points. -/
theorem compareText_eq_lt {s t : Text} (hs : s.isEncodable = true) (ht : t.isEncodable = true) :
    compareText s t = .lt ↔ s < t := by
  induction s generalizing t with
  | nil =>
    cases t with
    | nil => simp [compareText, compareBytes, rawBytes, List.compareLex_nil_nil]
    | cons b t => simp [compareText_nil_cons]
  | cons a s ih =>
    cases t with
    | nil => simp [compareText_cons_nil]
    | cons b t =>
      obtain ⟨ha, hs⟩ := Text.isEncodable_cons.mp hs
      obtain ⟨hb, ht⟩ := Text.isEncodable_cons.mp ht
      rw [compareText_cons ha hb, Ordering.then_eq_lt,
        Nat.compare_eq_lt, Nat.compare_eq_eq, ih hs ht, List.cons_lt_cons_iff, Fin.ext_iff,
        Fin.lt_def]

theorem compareText_isLE {s t : Text} (hs : s.isEncodable = true) (ht : t.isEncodable = true) :
    (compareText s t).isLE ↔ s ≤ t := by
  rw [Ordering.isLE_iff_eq_lt_or_eq_eq, compareText_eq_lt hs ht, compareText_eq_eq hs ht]
  exact (le_iff_lt_or_eq (a := s)).symm

end Cell

namespace Tables

/-- Bytes that are not null are in lexicographic order. -/
theorem compareNameBytes_eq {s t : Text.Bytes} (hs : (0 : UInt8) ∉ s) (ht : (0 : UInt8) ∉ t) :
    compareNameBytes s t = Cell.compareBytes s t := by
  have hwhole : ∀ l : Text.Bytes, (0 : UInt8) ∉ l → l.takeWhile (· != 0) = l := fun l hl =>
    List.takeWhile_eq_self_iff.mpr fun b hb => bne_iff_ne.mpr (ne_of_mem_of_not_mem hb hl)
  rw [compareNameBytes, hwhole s hs, hwhole t ht]
  cases h : Cell.compareBytes s t with
  | eq =>
    obtain rfl := LawfulEqCmp.eq_of_compare h
    exact Nat.compare_eq_eq.mpr rfl
  | _ => rfl

end Tables

end LaunchIndex.Store
