import Mathlib.Logic.Relation
import LaunchIndex.Routine

/-! Calls that are at work at the same time. In one step of a crowd a call starts, a call that is at
work takes its next step, or the state changes from outside. The steps come in any order, so what
holds in every run of a crowd holds wherever a call may be suspended, and of calls that are made one
after another too. -/

namespace LaunchIndex

variable {σ κ α : Type}

namespace Routine

/-- The next step of a routine, unless it is finished or held up. -/
def next? : Routine σ α → σ → Option (Routine σ α × σ)
  | finish _, _ => none
  | act step next, s => some (next (step s).1, (step s).2)
  | await _ next, s => some (next, s)
  | hold ready next, s => if ready s then some (next, s) else none

/-- Whether a routine is never held up when it runs alone. -/
def isFree : Routine σ α → σ → Bool
  | finish _, _ => true
  | act step next, s => (next (step s).1).isFree (step s).2
  | await _ next, s => next.isFree s
  | hold ready next, s => ready s && next.isFree s

end Routine

/-- A call at work, and what is left of it. -/
structure Job (σ κ α : Type) : Type 1 where
  number : Nat
  call : κ
  rest : Routine σ α

structure Ended (κ α : Type) where
  number : Nat
  call : κ
  result : α

/-- What calls do, which of them may start on a state, and how the state may change from outside. -/
structure Setting (σ κ α : Type) : Type 1 where
  task : κ → Routine σ α
  allowed : κ → σ → Prop := fun _ _ => True
  outside : σ → σ → Prop

/-- A state, the jobs at work on it, and the ended calls in the order in which they ended. The calls
are numbered in the order in which they started. -/
structure Crowd (σ κ α : Type) : Type 1 where
  state : σ
  started : Nat := 0
  running : List (Job σ κ α) := []
  ended : List (Ended κ α) := []

namespace Crowd

variable {setting : Setting σ κ α} {c c' : Crowd σ κ α}

/-- A call goes on as a routine, in its place among the jobs; or it ends, if that is finished. -/
def put (c : Crowd σ κ α) (before after : List (Job σ κ α)) (number : Nat) (call : κ) :
    Routine σ α → Crowd σ κ α
  | .finish result =>
    { c with running := before ++ after, ended := c.ended ++ [⟨number, call, result⟩] }
  | rest => { c with running := before ++ ⟨number, call, rest⟩ :: after }

inductive Step (setting : Setting σ κ α) : Crowd σ κ α → Crowd σ κ α → Prop
  | start (c : Crowd σ κ α) (call : κ) (allowed : setting.allowed call c.state) :
    Step setting c
      ({ c with started := c.started + 1 }.put c.running [] c.started call (setting.task call))
  | work (c : Crowd σ κ α) (before : List (Job σ κ α)) (job : Job σ κ α)
    (after : List (Job σ κ α)) (rest : Routine σ α) (s : σ)
    (running : c.running = before ++ job :: after)
    (next : job.rest.next? c.state = some (rest, s)) :
    Step setting c ({ c with state := s }.put before after job.number job.call rest)
  | outside (c : Crowd σ κ α) (s : σ) (outside : setting.outside c.state s) :
    Step setting c { c with state := s }

def Run (setting : Setting σ κ α) : Crowd σ κ α → Crowd σ κ α → Prop :=
  Relation.ReflTransGen (Step setting)

/-- What a routine comes to in a crowd: the end of the call, or a job. -/
theorem put_eq (c : Crowd σ κ α) (before after : List (Job σ κ α)) (number : Nat) (call : κ)
    (r : Routine σ α) :
    (∃ result, r = .finish result ∧ c.put before after number call r =
      { c with running := before ++ after, ended := c.ended ++ [⟨number, call, result⟩] }) ∨
      (∀ result, r ≠ .finish result) ∧ c.put before after number call r =
        { c with running := before ++ ⟨number, call, r⟩ :: after } := by
  cases r with
  | finish result => exact .inl ⟨result, rfl, rfl⟩
  | _ => exact .inr ⟨nofun, rfl⟩

@[simp] theorem put_state (c : Crowd σ κ α) (before after : List (Job σ κ α)) (number : Nat)
    (call : κ) (r : Routine σ α) : (c.put before after number call r).state = c.state := by
  cases r <;> rfl

@[simp] theorem put_started (c : Crowd σ κ α) (before after : List (Job σ κ α)) (number : Nat)
    (call : κ) (r : Routine σ α) : (c.put before after number call r).started = c.started := by
  cases r <;> rfl

/-! ### What holds of every call -/

/-- A property of every job, and one of every ended call. -/
structure All (working : Job σ κ α → σ → Prop) (told : Ended κ α → σ → Prop)
    (c : Crowd σ κ α) : Prop where
  running : ∀ job ∈ c.running, working job c.state
  ended : ∀ e ∈ c.ended, told e c.state

section All

variable {working : Job σ κ α → σ → Prop} {told : Ended κ α → σ → Prop}

theorem all_of_start (s : σ) : ({ state := s } : Crowd σ κ α).All working told :=
  ⟨by simp, by simp⟩

theorem All.put {before after : List (Job σ κ α)} {number : Nat} {call : κ} {r : Routine σ α}
    (hfinish : ∀ number call result s,
      working ⟨number, call, .finish result⟩ s → told ⟨number, call, result⟩ s)
    (hrunning : ∀ job ∈ before ++ after, working job c.state)
    (hended : ∀ e ∈ c.ended, told e c.state) (hjob : working ⟨number, call, r⟩ c.state) :
    (c.put before after number call r).All working told := by
  rcases put_eq c before after number call r with ⟨result, rfl, heq⟩ | ⟨-, heq⟩ <;> rw [heq]
  · refine ⟨hrunning, fun e hmem => ?_⟩
    rcases List.mem_append.mp hmem with hmem | hmem
    · exact hended e hmem
    · obtain rfl := List.mem_singleton.mp hmem
      exact hfinish _ _ _ _ hjob
  · refine ⟨fun job hmem => ?_, hended⟩
    rcases List.mem_cons.mp (List.perm_middle.mem_iff.mp hmem) with rfl | hmem
    · exact hjob
    · exact hrunning job hmem

/-- What holds of every call holds after a step, if the step leaves it to the others, and if it
holds of the call that takes the step or starts. -/
theorem All.step (h : c.All working told) (hstep : Step setting c c')
    (hfinish : ∀ number call result s,
      working ⟨number, call, .finish result⟩ s → told ⟨number, call, result⟩ s)
    (hothers : ∀ job, working job c.state → working job c'.state)
    (htold : ∀ e, told e c.state → told e c'.state)
    (hstart : ∀ call, setting.allowed call c.state →
      working ⟨c.started, call, setting.task call⟩ c.state)
    (hwork : ∀ job rest s, working job c.state → job.rest.next? c.state = some (rest, s) →
      working ⟨job.number, job.call, rest⟩ s) : c'.All working told := by
  cases hstep with
  | start call allowed =>
    have hrunning : ∀ job ∈ c.running ++ [], working job c.state := by
      rw [List.append_nil]
      exact h.running
    exact All.put hfinish hrunning h.ended (hstart call allowed)
  | work before job after rest s running next =>
    simp only [put_state] at hothers htold
    have hrunning : ∀ j ∈ before ++ job :: after, working j c.state := by
      rw [← running]
      exact h.running
    refine All.put hfinish (fun j hj => hothers j (hrunning j ?_))
      (fun e he => htold e (h.ended e he)) (hwork job rest s (hrunning job (by simp)) next)
    exact List.perm_middle.mem_iff.mpr (List.mem_cons_of_mem _ hj)
  | outside s outside =>
    exact ⟨fun job hmem => hothers job (h.running job hmem),
      fun e hmem => htold e (h.ended e hmem)⟩

end All

/-- The numbers of all calls have been given. -/
def Numbered (c : Crowd σ κ α) : Prop :=
  c.All (fun job _ => job.number < c.started) fun e _ => e.number < c.started

theorem Numbered.step (h : c.Numbered) (hstep : Step setting c c') : c'.Numbered := by
  cases hstep with
  | start call allowed =>
    have hrunning : ∀ job ∈ c.running ++ [], job.number < c.started + 1 := fun job hmem =>
      Nat.lt_succ_of_lt (h.running job (by rwa [List.append_nil] at hmem))
    have hended : ∀ e ∈ c.ended, e.number < c.started + 1 := fun e hmem =>
      Nat.lt_succ_of_lt (h.ended e hmem)
    rw [Numbered, put_started]
    exact All.put (fun _ _ _ _ => id) hrunning hended (Nat.lt_succ_self _)
  | work before job after rest s running next =>
    have hrunning : ∀ j ∈ before ++ job :: after, j.number < c.started := by
      rw [← running]
      exact h.running
    rw [Numbered, put_started]
    refine All.put (fun _ _ _ _ => id) (fun j hj => hrunning j ?_) h.ended
      (hrunning job (by simp))
    exact List.perm_middle.mem_iff.mpr (List.mem_cons_of_mem _ hj)
  | outside s outside => exact ⟨h.running, h.ended⟩

theorem Numbered.run (h : c.Numbered) (hrun : Run setting c c') : c'.Numbered := by
  induction hrun with
  | refl => exact h
  | tail _ hstep ih => exact ih.step hstep

/-! ### Calls one after another -/

theorem Step.put_next {r r' : Routine σ α} {s : σ} (number : Nat) (call : κ)
    (hr : ∀ result, r ≠ .finish result) (hnext : r.next? c.state = some (r', s)) :
    Step setting (c.put [] [] number call r)
      ({ c with state := s }.put [] [] number call r') := by
  rcases put_eq c [] [] number call r with ⟨result, heq, -⟩ | ⟨-, heq⟩
  · exact absurd heq (hr result)
  · have hwork : Step setting (c.put [] [] number call r) _ :=
      .work _ [] ⟨number, call, r⟩ [] r' s (by rw [heq]) (by rw [put_state]; exact hnext)
    rw [heq] at hwork ⊢
    exact hwork

/-- A job that nobody holds up comes to the end of its run. -/
theorem Run.put_of_isFree (number : Nat) (call : κ) (r : Routine σ α) (c : Crowd σ κ α)
    (hfree : r.isFree c.state = true) :
    Run setting (c.put [] [] number call r)
      { c with
        state := (r.run c.state).2
        running := []
        ended := c.ended ++ [⟨number, call, (r.run c.state).1⟩] } := by
  -- Nobody else takes a step, so the state of the crowd is always that of the routine run so far.
  induction r generalizing c with
  | finish result => exact .refl
  | act step next ih => exact .head (.put_next number call nofun rfl) (ih _ _ hfree)
  | await wait next ih => exact .head (.put_next number call nofun rfl) (ih _ hfree)
  | hold ready next ih =>
    rw [Routine.isFree, Bool.and_eq_true] at hfree
    exact .head (.put_next number call nofun (if_pos hfree.1)) (ih _ hfree.2)

/-- An idle crowd after one more call. -/
def after (setting : Setting σ κ α) (c : Crowd σ κ α) (call : κ) : Crowd σ κ α where
  state := ((setting.task call).run c.state).2
  started := c.started + 1
  ended := c.ended ++ [⟨c.started, call, ((setting.task call).run c.state).1⟩]

/-- A call that nobody holds up does in an idle crowd what it does alone. -/
theorem Run.call (hidle : c.running = []) (call : κ) (hallowed : setting.allowed call c.state)
    (hfree : (setting.task call).isFree c.state = true) : Run setting c (c.after setting call) := by
  have hstart := Step.start c call hallowed
  have hjob : Run setting ({ c with started := c.started + 1 }.put [] [] c.started call _) _ :=
    .put_of_isFree c.started call (setting.task call) _ hfree
  rw [hidle] at hstart
  exact .head hstart hjob

end Crowd

end LaunchIndex
