import Mathlib.Data.Int.ConditionallyCompleteOrder
import Mathlib.Data.Prod.Lex
import LaunchIndex.Proofs.Order
import LaunchIndex.Proofs.Readers

/-! The list of the most launched files on an index. Usage rows stand in the order of their counts,
and among equal counts in that of their last times, where a missing time comes below every other.
The list is a sorted selection of the launched files that leaves none out for a lesser one. -/

namespace LaunchIndex

open Std (TransCmp OrientedCmp)

/-! ### The first of a sorted list -/

section

variable {α : Type} {l : List α} {r : α → α → Prop} {a b : α} {n : Nat}

/-- What is left out of the beginning of a sorted list comes after it. -/
theorem rel_of_mem_take (h : l.Pairwise r) (ha : a ∈ l.take n) (hb : b ∈ l)
    (hout : b ∉ l.take n) : r a b := by
  rw [← List.take_append_drop n l] at h hb
  have hdrop : b ∈ l.drop n := (List.mem_append.mp hb).resolve_left hout
  exact (List.pairwise_append.mp h).2.2 a ha b hdrop

end

namespace Store

/-! ### How usage rows stand -/

/-- The time of a last launch, if there is one. -/
def Cell.moment : Cell → WithBot Int
  | int n => n
  | _ => ⊥

def UsageRow.count (u : UsageRow) : Int :=
  match u.launchCount with
  | .int n => n
  | _ => 0

/-- By the count first, then by the last launch. -/
def UsageRow.standing (u : UsageRow) : Int ×ₗ WithBot Int := toLex (u.count, u.lastLaunched.moment)

def Cell.IsMoment (c : Cell) : Prop := c = .null ∨ ∃ n, c = .int n

theorem Cell.order_eq_compare {c d : Cell} (hc : c.IsMoment) (hd : d.IsMoment) :
    c.order d = compare c.moment d.moment := by
  rcases hc with rfl | ⟨m, rfl⟩ <;> rcases hd with rfl | ⟨n, rfl⟩
  · exact (compare_eq_iff_eq.mpr rfl).symm
  · exact (compare_lt_iff_lt.mpr (WithBot.bot_lt_coe n)).symm
  · exact (compare_gt_iff_gt.mpr (WithBot.bot_lt_coe m)).symm
  · exact compare_congr WithBot.coe_lt_coe.symm WithBot.coe_lt_coe.symm

namespace Tables

variable {t : Tables} {a b : Launched}

/-- Whether a launched file may come before another. -/
def Launched.precedes (a b : Launched) : Bool := (a.order b).isLE

instance : TransCmp Launched.order := by
  have hcount : TransCmp fun a b : Launched => Cell.order b.usage.launchCount a.usage.launchCount :=
    @TransCmp.opposite Launched (Ordering.byKey (fun l => l.usage.launchCount) Cell.order)
      inferInstance
  have hlast : TransCmp fun a b : Launched =>
      Cell.order b.usage.lastLaunched a.usage.lastLaunched :=
    @TransCmp.opposite Launched (Ordering.byKey (fun l => l.usage.lastLaunched) Cell.order)
      inferInstance
  have hkeys : Launched.order = compareLex
      (fun a b => Cell.order b.usage.launchCount a.usage.launchCount)
      (fun a b => Cell.order b.usage.lastLaunched a.usage.lastLaunched) := rfl
  rw [hkeys]
  infer_instance

theorem Launched.precedes_trans (a b c : Launched) (hab : a.precedes b = true)
    (hbc : b.precedes c = true) : a.precedes c = true := TransCmp.isLE_trans hab hbc

theorem Launched.precedes_total (a b : Launched) : (a.precedes b || b.precedes a) = true := by
  have hswap : a.order b = (b.order a).swap := OrientedCmp.eq_swap
  rw [precedes, precedes, hswap]
  cases b.order a <;> rfl

theorem Launched.precedes_iff (ha : ∃ n, a.usage.launchCount = .int n)
    (hb : ∃ n, b.usage.launchCount = .int n) (ha' : a.usage.lastLaunched.IsMoment)
    (hb' : b.usage.lastLaunched.IsMoment) :
    a.precedes b = true ↔ b.usage.standing ≤ a.usage.standing := by
  obtain ⟨m, hm⟩ := ha
  obtain ⟨n, hn⟩ := hb
  have hcount : Cell.order b.usage.launchCount a.usage.launchCount =
      compare b.usage.count a.usage.count := by
    rw [UsageRow.count, UsageRow.count, hm, hn]
    rfl
  rw [precedes, order, hcount, Cell.order_eq_compare hb' ha', UsageRow.standing, UsageRow.standing,
    Prod.Lex.toLex_le_toLex]
  rcases lt_trichotomy b.usage.count a.usage.count with h | h | h
  · rw [compare_lt_iff_lt.mpr h]
    simp [h]
  · rw [compare_eq_iff_eq.mpr h]
    simp [h, ← Ordering.ne_gt_iff_isLE, compare_le_iff_le]
  · rw [compare_gt_iff_gt.mpr h]
    simp [h.ne', lt_asymm h]

/-- The launched files as the engine sorts them. -/
def standings (t : Tables) : List Launched := t.launched.mergeSort Launched.precedes

theorem standings_perm (t : Tables) : t.standings.Perm t.launched := List.mergeSort_perm _ _

theorem mostLaunched_eq_take (t : Tables) (n : Int) :
    t.mostLaunched (max 1 n) = t.standings.take (max 1 n).toNat := by
  rw [mostLaunched, limited, if_neg (by omega)]
  rfl

/-- The usage rows whose file is there. -/
def placedUsage (t : Tables) : List UsageRow :=
  t.usage.filter fun u => t.files.any fun f => f.id == u.fileId

theorem mem_placedUsage {u : UsageRow} :
    u ∈ t.placedUsage ↔ u ∈ t.usage ∧ ∃ f ∈ t.files, f.id = u.fileId := by
  simp [placedUsage]

def IsTimed (t : Tables) : Prop := ∀ u ∈ t.usage, u.lastLaunched.IsMoment

namespace IsIndex

theorem length_launched (ht : t.IsIndex) (hids : (t.files.map (·.id)).Nodup) :
    t.launched.length = t.placedUsage.length := by
  have hplaced : t.placedUsage.Nodup := (List.Nodup.of_map _ ht.usage_distinct).filter _
  have hmem : ∀ u, u ∈ t.launched.map (·.usage) ↔ u ∈ t.placedUsage := by
    intro u
    rw [List.mem_map, mem_placedUsage]
    constructor
    · rintro ⟨l, hl, rfl⟩
      obtain ⟨hf, hu⟩ := mem_launched.mp hl
      obtain ⟨husage, hid⟩ := of_usageOf?_eq_some hu
      exact ⟨husage, l.file, hf, hid.symm⟩
    · rintro ⟨hu, f, hf, hid⟩
      exact ⟨⟨f, u⟩, mem_launched.mpr ⟨hf, hid ▸ ht.usageOf?_eq hu⟩, rfl⟩
  have hlaunched := (ht.isReadable hids).nodup_usage_launched
  have hperm := (List.perm_ext_iff_of_nodup hlaunched hplaced).mpr hmem
  rw [← hperm.length_eq, List.length_map]

/-- A launched file comes before the ones that stand below it only. -/
theorem precedes_iff (ht : t.IsIndex) (htimed : t.IsTimed) (ha : a ∈ t.launched)
    (hb : b ∈ t.launched) : a.precedes b = true ↔ b.usage.standing ≤ a.usage.standing := by
  have husage : ∀ l ∈ t.launched, l.usage ∈ t.usage := fun l hl =>
    (of_usageOf?_eq_some (mem_launched.mp hl).2).1
  have ha := husage a ha
  have hb := husage b hb
  exact Launched.precedes_iff (ht.counted _ ha) (ht.counted _ hb) (htimed _ ha) (htimed _ hb)

end IsIndex

end Tables

end Store

namespace Connection

open Store

variable {s : Site} {t : Tables}

/-- The list of the most launched files is a true selection of the best. On an index whose counts
are integers and whose last times are integers or missing, its length is the limit, which is at
least one, or the number of usage rows whose file is there, whichever is less; it shows distinct
files, each with its own columns, the count of its usage row and no tier; no usage row stands above
one that is shown before it; and no file that is left out stands above one that is shown. -/
theorem mostUsed_selects (hs : s.Reads t) (ht : t.IsIndex) (hids : (t.files.map (·.id)).Nodup)
    (htimed : t.IsTimed) {limit : Value} {n : Int} (hlimit : limit.toInteger = .ok n)
    (hn : n < 2 ^ 63) :
    ∃ shown : List Tables.Launched,
      (Task.exec (mostUsed limit) s).1 =
        .ok (shown.map fun l => Record.ofFile l.file l.usage.count none) ∧
      shown.length = min (max 1 n).toNat t.placedUsage.length ∧
      (shown.map (·.file)).Nodup ∧
      (∀ l ∈ shown, l.file ∈ t.files ∧ l.usage ∈ t.usage ∧ l.usage.fileId = l.file.id) ∧
      (shown.Pairwise fun l m => m.usage.standing ≤ l.usage.standing) ∧
      ∀ f ∈ t.files, ∀ u ∈ t.usage, u.fileId = f.id → f ∉ shown.map (·.file) →
        ∀ l ∈ shown, u.standing ≤ l.usage.standing := by
  have hsorted : t.standings.Pairwise fun l m => l.precedes m = true :=
    List.pairwise_mergeSort Tables.Launched.precedes_trans Tables.Launched.precedes_total _
  have hlaunched : ∀ l ∈ t.standings.take (max 1 n).toNat, l ∈ t.launched := fun l hl =>
    t.standings_perm.mem_iff.mp (List.mem_of_mem_take hl)
  refine ⟨t.standings.take (max 1 n).toNat, ?_, ?_, ?_, ?_, ?_, ?_⟩
  · rw [exec_mostUsed hs hlimit (by simp only [Limit.greatest]; omega), Tables.mostLaunched_eq_take,
      List.mapM_map]
    refine Outcome.mapM_eq_ok fun l hl => Record.ofRow_launched ?_
    have hl := (Tables.of_usageOf?_eq_some (Tables.mem_launched.mp (hlaunched l hl)).2).1
    obtain ⟨c, hc⟩ := ht.counted _ hl
    rw [UsageRow.count, hc]
    rfl
  · rw [List.length_take, t.standings_perm.length_eq, ht.length_launched hids]
  · have hfiles : (t.standings.map (·.file)).Nodup := by
      rw [(t.standings_perm.map _).nodup_iff, Tables.map_file_launched]
      exact (List.Nodup.of_map _ hids).filter _
    exact hfiles.sublist ((List.take_sublist _ _).map _)
  · intro l hl
    obtain ⟨hf, hu⟩ := Tables.mem_launched.mp (hlaunched l hl)
    obtain ⟨husage, hid⟩ := Tables.of_usageOf?_eq_some hu
    exact ⟨hf, husage, hid⟩
  · refine (hsorted.sublist (List.take_sublist _ _)).imp_of_mem fun hl hm h => ?_
    exact (ht.precedes_iff htimed (hlaunched _ hl) (hlaunched _ hm)).mp h
  · intro f hf u hu hid hout l hl
    have hmem : ⟨f, u⟩ ∈ t.launched := Tables.mem_launched.mpr ⟨hf, hid ▸ ht.usageOf?_eq hu⟩
    have hrest := rel_of_mem_take hsorted hl (t.standings_perm.mem_iff.mpr hmem)
      fun h => hout (List.mem_map_of_mem h)
    exact (ht.precedes_iff htimed (hlaunched l hl) hmem).mp hrest

/-- Two files that have been launched equally often, one at an unknown time, a third one that has
never been launched, and the usage of a file that has gone. -/
def threeNotes : Tables where
  files :=
    [⟨1, some "a", some "/a", .null, .null, .null⟩, ⟨2, some "b", some "/b", .int 4, .null, .null⟩,
      ⟨3, some "c", some "/c", .null, .null, .text "txt"⟩]
  usage := [⟨1, .int 2, .null⟩, ⟨9, .int 7, .int 1⟩, ⟨2, .int 2, .int 5⟩]

/-- A limit below one lets one file be shown, and it is the one that was launched last. -/
theorem mostUsed_selects_threeNotes : ∃ shown : List Tables.Launched,
    (Task.exec (mostUsed (.int (-3))) (Site.opened threeNotes)).1 =
      .ok (shown.map fun l => Record.ofFile l.file l.usage.count none) ∧
    shown.length = 1 ∧ ∀ l ∈ shown, l.usage.lastLaunched = .int 5 := by
  have hindex : threeNotes.IsIndex :=
    ⟨by simp [threeNotes], by simp [threeNotes], by decide, by decide, by simp [threeNotes]⟩
  have htimed : threeNotes.IsTimed := by simp [Tables.IsTimed, Cell.IsMoment, threeNotes]
  obtain ⟨shown, hexec, hlength, -, hshown, -, hout⟩ := mostUsed_selects
    (Site.opened_reads (by decide)) hindex (by decide) htimed
    (show (Value.int (-3)).toInteger = .ok (-3) from rfl) (by decide)
  have hone : shown.length = 1 := hlength
  refine ⟨shown, hexec, hone, fun l hl => ?_⟩
  obtain ⟨hfile, husage, hid⟩ := hshown l hl
  by_cases hsecond : l.usage.fileId = 2
  · simp only [threeNotes, List.mem_cons, List.not_mem_nil, or_false] at husage
    rcases husage with h | h | h <;> rw [h] at hsecond ⊢ <;> cases hsecond
  -- The second file would be left out and stand above the one that is shown.
  · have hleft : ⟨2, some "b", some "/b", .int 4, .null, .null⟩ ∉ shown.map (·.file) := by
      obtain ⟨l', rfl⟩ := List.length_eq_one_iff.mp hone
      obtain rfl := List.mem_singleton.mp hl
      intro hmem
      have hsame : _ = l.file := List.mem_singleton.mp hmem
      rw [hid, ← hsame] at hsecond
      exact hsecond rfl
    have hbelow := hout _ (by simp [threeNotes]) ⟨2, .int 2, .int 5⟩ (by simp [threeNotes]) rfl
      hleft l hl
    simp only [threeNotes, List.mem_cons, List.not_mem_nil, or_false] at husage hfile
    rcases husage with h | h | h <;> rw [h] at hbelow hid hsecond
    · exact absurd hbelow (by decide)
    · rcases hfile with h | h | h <;> rw [h] at hid <;> cases hid
    · exact absurd rfl hsecond

end Connection

end LaunchIndex
