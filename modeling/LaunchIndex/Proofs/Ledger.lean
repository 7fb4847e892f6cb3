import Mathlib.Data.List.Induction
import LaunchIndex.World

/-! The handles in a trace. A ledger goes through a trace and keeps the handle that is open and
the number of the next one; it refuses an attempt to connect while a handle is open, a handle out
of turn, and a use or a close of a handle that is not the open one. A trace that a ledger accepts
opens no handle twice, and leaves at most one of them open at any time. -/

namespace LaunchIndex

namespace Happening

def opens (n : Nat) : Happening → Bool
  | opened m => m == n
  | _ => false

def closes (n : Nat) : Happening → Bool
  | closed m => m == n
  | _ => false

end Happening

def openings (n : Nat) (trace : List Happening) : Nat := trace.countP (Happening.opens n)

def closings (n : Nat) (trace : List Happening) : Nat := trace.countP (Happening.closes n)

/-- A handle has been opened and not closed since. -/
def Unclosed (n : Nat) (trace : List Happening) : Prop :=
  0 < openings n trace ∧ closings n trace = 0

/-- The number of the handle that is open, and the number of the next. -/
structure Ledger where
  handle : Option Nat := none
  next : Nat
deriving DecidableEq

namespace Ledger

/-- The ledger after one more entry, if that is in order. -/
def enter (l : Ledger) : Happening → Option Ledger
  | .attempted _ _ => if l.handle = none then some l else none
  | .opened n => if l.handle = none ∧ n = l.next then some ⟨some n, n + 1⟩ else none
  | .used n => if l.handle = some n then some l else none
  | .closed n => if l.handle = some n then some { l with handle := none } else none
  | .slept _ | .logged _ => some l

/-- The ledger after a trace, if every entry is in order. -/
def run (l : Ledger) (trace : List Happening) : Option Ledger := trace.foldlM enter l

theorem run_append (l : Ledger) (trace more : List Happening) :
    l.run (trace ++ more) = (l.run trace).bind (·.run more) :=
  List.foldlM_append

theorem run_concat (l : Ledger) (trace : List Happening) (h : Happening) :
    l.run (trace ++ [h]) = (l.run trace).bind (·.enter h) := by
  rw [run_append]
  congr 1
  funext l
  simp [run]

theorem exists_run_of_prefix {l l' : Ledger} {past trace : List Happening}
    (h : l.run trace = some l') (hp : past <+: trace) : ∃ m, l.run past = some m := by
  obtain ⟨more, rfl⟩ := hp
  rw [run_append] at h
  obtain ⟨m, hm, -⟩ := Option.bind_eq_some_iff.mp h
  exact ⟨m, hm⟩

/-- What a ledger knows of a handle: that it is not open yet, that it is open, or that it has been
closed once. -/
structure Knows (l : Ledger) (trace : List Happening) (n : Nat) : Prop where
  fresh : l.next ≤ n → openings n trace = 0
  counted : openings n trace = 0 ∧ closings n trace = 0 ∧ l.handle ≠ some n ∨
    openings n trace = 1 ∧ closings n trace = 0 ∧ l.handle = some n ∨
    openings n trace = 1 ∧ closings n trace = 1 ∧ l.handle ≠ some n

/-- One more entry keeps the knowledge right. -/
theorem Knows.enter {l m : Ledger} {trace : List Happening} {n : Nat} {h : Happening}
    (hk : l.Knows trace n) (he : l.enter h = some m) : m.Knows (trace ++ [h]) n := by
  obtain ⟨hfresh, hcounted⟩ := hk
  have hopen : openings n (trace ++ [h]) = openings n trace + if h.opens n then 1 else 0 := by
    simp [openings, List.countP_append]
  have hclose : closings n (trace ++ [h]) = closings n trace + if h.closes n then 1 else 0 := by
    simp [closings, List.countP_append]
  have hquiet : m = l → h.opens n = false → h.closes n = false → m.Knows (trace ++ [h]) n := by
    rintro rfl ho hc
    rw [ho, if_neg Bool.false_ne_true, Nat.add_zero] at hopen
    rw [hc, if_neg Bool.false_ne_true, Nat.add_zero] at hclose
    exact ⟨fun hn => hopen.trans (hfresh hn), by rwa [hopen, hclose]⟩
  cases h with
  | attempted scripted path =>
    obtain ⟨-, hm⟩ := Option.ite_none_right_eq_some.mp he
    exact hquiet (Option.some.inj hm).symm rfl rfl
  | used k =>
    obtain ⟨-, hm⟩ := Option.ite_none_right_eq_some.mp he
    exact hquiet (Option.some.inj hm).symm rfl rfl
  | slept seconds => exact hquiet (Option.some.inj he).symm rfl rfl
  | logged event => exact hquiet (Option.some.inj he).symm rfl rfl
  | opened k =>
    obtain ⟨⟨hnone, hnext⟩, hm⟩ := Option.ite_none_right_eq_some.mp he
    obtain rfl := Option.some.inj hm
    simp only [Happening.opens, Happening.closes, beq_iff_eq, Bool.false_eq_true, ↓reduceIte,
      Nat.add_zero] at hopen hclose
    by_cases hn : k = n
    · have hzero := hfresh (by omega)
      rw [if_pos hn] at hopen
      refine ⟨fun hle => absurd hle (by simp only; omega), .inr (.inl ⟨?_, ?_, by simp [hn]⟩)⟩
      · omega
      · omega
    · rw [if_neg hn] at hopen
      refine ⟨fun hle => hopen.trans (hfresh (by simp only at hle; omega)), ?_⟩
      simpa [hopen, hclose, hnone, hn] using hcounted
  | closed k =>
    obtain ⟨hsome, hm⟩ := Option.ite_none_right_eq_some.mp he
    obtain rfl := Option.some.inj hm
    simp only [Happening.opens, Happening.closes, beq_iff_eq, Bool.false_eq_true, ↓reduceIte,
      Nat.add_zero] at hopen hclose
    refine ⟨fun hle => hopen.trans (hfresh hle), ?_⟩
    rw [hsome] at hcounted
    by_cases hn : k = n
    · rw [if_pos hn] at hclose
      simp [hn] at hcounted
      exact .inr (.inr ⟨by omega, by omega, nofun⟩)
    · rw [if_neg hn] at hclose
      simpa [hopen, hclose, hn] using hcounted

/-- A ledger that starts without a handle knows every handle of a trace that it accepts. -/
theorem knows_of_run {first : Nat} {trace : List Happening} {l : Ledger}
    (h : run { next := first } trace = some l) (n : Nat) : l.Knows trace n := by
  induction trace using List.reverseRecOn generalizing l with
  | nil =>
    obtain rfl := Option.some.inj h
    exact ⟨fun _ => rfl, .inl ⟨rfl, rfl, nofun⟩⟩
  | append_singleton past entry ih =>
    rw [run_concat] at h
    obtain ⟨m, hm, he⟩ := Option.bind_eq_some_iff.mp h
    exact (ih hm).enter he

variable {first : Nat} {trace past : List Happening} {l : Ledger} {m n : Nat}

/-- The handles that are not closed are those that the ledger has open. -/
theorem unclosed_iff (h : run { next := first } trace = some l) :
    Unclosed n trace ↔ l.handle = some n := by
  obtain ⟨-, ⟨ho, hc, hh⟩ | ⟨ho, hc, hh⟩ | ⟨ho, hc, hh⟩⟩ := knows_of_run h n <;>
    simp [Unclosed, ho, hc, hh]

/-- At any time at most one handle is open. -/
theorem unclosed_unique (h : run { next := first } trace = some l) (hp : past <+: trace)
    (hm : Unclosed m past) (hn : Unclosed n past) : m = n := by
  obtain ⟨k, hk⟩ := exists_run_of_prefix h hp
  exact Option.some.inj (((unclosed_iff hk).mp hm).symm.trans ((unclosed_iff hk).mp hn))

/-- An entry is made only where it is in order. -/
theorem exists_enter_of_prefix {entry : Happening} (h : run { next := first } trace = some l)
    (hp : past ++ [entry] <+: trace) :
    ∃ k k', run { next := first } past = some k ∧ k.enter entry = some k' := by
  obtain ⟨k', hk'⟩ := exists_run_of_prefix h hp
  rw [run_concat] at hk'
  obtain ⟨k, hk, he⟩ := Option.bind_eq_some_iff.mp hk'
  exact ⟨k, k', hk, he⟩

theorem not_unclosed_of_attempted {scripted : Bool} {path : Text}
    (h : run { next := first } trace = some l) (hp : past ++ [.attempted scripted path] <+: trace) :
    ¬Unclosed n past := by
  obtain ⟨k, k', hk, he⟩ := exists_enter_of_prefix h hp
  obtain ⟨hnone, -⟩ := Option.ite_none_right_eq_some.mp he
  rw [unclosed_iff hk, hnone]
  exact nofun

theorem unclosed_of_used (h : run { next := first } trace = some l)
    (hp : past ++ [.used n] <+: trace) : Unclosed n past := by
  obtain ⟨k, k', hk, he⟩ := exists_enter_of_prefix h hp
  obtain ⟨hsome, -⟩ := Option.ite_none_right_eq_some.mp he
  exact (unclosed_iff hk).mpr hsome

end Ledger

end LaunchIndex
