import LaunchIndex.Routine.Gather
import LaunchIndex.Proofs.Oblivious

/-! Routines that take turns on the lock of one connection. The routines that are not finished
stand in line: the first holds the lock or is about to, and the others wait with consecutive
tickets. A round lets only the first go on, and when that leaves, the next. So no round changes
what comes of it if the routines are finished one after another in the order of the list. -/

namespace LaunchIndex

namespace Routine

variable {σ α β : Type}

/-! ### One turn -/

def Turn.run : Turn σ α → α × σ
  | .finished result s => (result, s)
  | .waiting rest s => rest.run s

theorem run_advance (suspends : Nat → Wait → Bool) (passed : Nat) (r : Routine σ α) (s : σ) :
    (advance suspends passed r s).run = r.run s := by
  induction r generalizing passed s with
  | finish result => rfl
  | act step next ih => exact ih _ _ _
  | await wait next ih =>
    rw [advance]
    split
    · rfl
    · exact ih _ s
  | hold ready next ih =>
    rw [advance]
    split
    · exact ih _ s
    · rfl

section Round

variable {pattern : Pattern} {number place : Nat} {r rest : Routine σ α}
  {others : List (Progress σ α)} {s s' : σ}

theorem round_done (result : α) : round pattern number place (.done result :: others) s =
    (.done result :: (round pattern number (place + 1) others s).1,
      (round pattern number (place + 1) others s).2) := rfl

theorem round_sitsOut (h : pattern.sitsOut number place = true) :
    round pattern number place (.pending r :: others) s =
      (.pending r :: (round pattern number (place + 1) others s).1,
        (round pattern number (place + 1) others s).2) := by
  rw [round, if_pos h]

theorem round_waiting (h : pattern.sitsOut number place = false)
    (ha : advance (pattern.suspends number place) 0 r s = .waiting rest s') :
    round pattern number place (.pending r :: others) s =
      (.pending rest :: (round pattern number (place + 1) others s').1,
        (round pattern number (place + 1) others s').2) := by
  rw [round, h, if_neg Bool.false_ne_true, ha]

theorem round_finished (h : pattern.sitsOut number place = false) {result : α}
    (ha : advance (pattern.suspends number place) 0 r s = .finished result s') :
    round pattern number place (.pending r :: others) s =
      (.done result :: (round pattern number (place + 1) others s').1,
        (round pattern number (place + 1) others s').2) := by
  rw [round, h, if_neg Bool.false_ne_true, ha]

end Round

/-- What a turn makes of a routine, and the state after it. -/
def Turn.progress : Turn σ α → Progress σ α × σ
  | .finished result s => (.done result, s)
  | .waiting rest s => (.pending rest, s)

theorem round_goes {pattern : Pattern} {number place : Nat}
    (h : pattern.sitsOut number place = false) (r : Routine σ α)
    (others : List (Progress σ α)) (s : σ) :
    round pattern number place (.pending r :: others) s =
      let turn := (advance (pattern.suspends number place) 0 r s).progress
      (turn.1 :: (round pattern number (place + 1) others turn.2).1,
        (round pattern number (place + 1) others turn.2).2) := by
  rcases ha : advance (pattern.suspends number place) 0 r s with ⟨result, s'⟩ | ⟨rest, s'⟩
  · rw [round_finished h ha]
    rfl
  · rw [round_waiting h ha]
    rfl

/-- How often a routine waits when it runs alone. -/
def awaits : Routine σ α → σ → Nat
  | finish _, _ => 0
  | act step next, s => (next (step s).1).awaits (step s).2
  | await _ next, s => next.awaits s + 1
  | hold _ next, s => next.awaits s

/-! ### Holding the lock -/

def leaving (s : Site) : Unit × Site :=
  ((), s.mapConnection fun c => { c with lock := c.lock.leave })

/-- What is left of a routine that holds the lock: steady steps and waits, the end of its hold, and
then steps without a wait. -/
inductive Holding : Routine Site α → Prop
  | act {β : Type} {step : Site → β × Site} {next : β → Routine Site α}
      (hstep : Site.Oblivious step) (hsame : ∀ s, next (step s).1 = next (step s.bare).1)
      (hnext : ∀ b, Holding (next b)) : Holding (act step next)
  | await {wait : Wait} {next : Routine Site α} (hnext : Holding next) : Holding (await wait next)
  | leave {next : Unit → Routine Site α} (hnext : ∀ u, (next u).Steady false) :
      Holding (act leaving next)

theorem Holding.bind {r : Routine Site α} {k : α → Routine Site β} (h : r.Holding)
    (hk : ∀ a, (k a).Steady false) : (r.bind k).Holding := by
  induction h with
  | act hstep hsame hnext ih => exact .act hstep (fun s => congrArg (·.bind k) (hsame s)) ih
  | await hnext ih => exact .await ih
  | leave hnext => exact .leave fun u => (hnext u).bind hk

theorem Steady.bind_holding {r : Routine Site α} {k : α → Routine Site β} {mayWait : Bool}
    (h : r.Steady mayWait) (hk : ∀ a, (k a).Holding) : (r.bind k).Holding := by
  induction h with
  | finish result => exact hk result
  | act hstep hsame hnext ih => exact .act hstep (fun s => congrArg (·.bind k) (hsame s)) ih
  | await hmay hnext ih => exact .await ih

theorem Holding.blind {r : Routine Site α} (h : r.Holding) : r.Blind := by
  induction h with
  | act hstep hsame hnext ih => exact .act hstep.toBlind hsame ih
  | await hnext ih => exact ⟨⟨ih.bare, ih.trace⟩, ih.result⟩
  | leave hnext =>
    refine .act ⟨fun _ => rfl, fun s => ?_⟩ (fun _ => rfl) fun u => (hnext u).blind
    exact (List.append_nil s.world.trace).symm

/-- Steps without a wait are done in one turn. -/
theorem Steady.advance_eq {r : Routine Site α} (h : r.Steady false) (suspends : Nat → Wait → Bool)
    (passed : Nat) (s : Site) : ∃ result s', advance suspends passed r s = .finished result s' ∧
      s'.connection.lock = s.connection.lock := by
  induction h generalizing passed s with
  | finish result => exact ⟨result, s, rfl, rfl⟩
  | act hstep hsame hnext ih =>
    obtain ⟨result, s', ha, hl⟩ := ih _ _ _
    exact ⟨result, s', ha, hl.trans (hstep.lock s)⟩
  | await hmay hnext ih => exact absurd hmay (by simp)

/-- A turn of the holder ends at a wait with the lock still held, or at the end with the lock
left. -/
theorem Holding.advance_eq {r : Routine Site α} (h : r.Holding) (suspends : Nat → Wait → Bool)
    (passed : Nat) (s : Site) :
    (∃ rest s', advance suspends passed r s = .waiting rest s' ∧ rest.Holding ∧
      rest.awaits s' < r.awaits s ∧ s'.connection.lock = s.connection.lock) ∨
      ∃ result s', advance suspends passed r s = .finished result s' ∧
        s'.connection.lock = s.connection.lock.leave := by
  induction h generalizing passed s with
  | act hstep hsame hnext ih =>
    rcases ih _ _ _ with ⟨rest, s', ha, hr, hlt, hl⟩ | ⟨result, s', ha, hl⟩
    · exact .inl ⟨rest, s', ha, hr, hlt, hl.trans (hstep.lock s)⟩
    · exact .inr ⟨result, s', ha, hl.trans (congrArg _ (hstep.lock s))⟩
  | @await wait next hnext ih =>
    rw [advance]
    split
    · exact .inl ⟨next, s, rfl, hnext, Nat.lt_succ_self _, rfl⟩
    · rcases ih _ s with ⟨rest, s', ha, hr, hlt, hl⟩ | hfinished
      · exact .inl ⟨rest, s', ha, hr, Nat.lt_succ_of_lt hlt, hl⟩
      · exact .inr hfinished
  | leave hnext =>
    obtain ⟨result, s', ha, hl⟩ := (hnext ()).advance_eq suspends passed (leaving s).2
    exact .inr ⟨result, s', ha, hl⟩

/-! ### The line -/

/-- The routine waits for the turn of a ticket, and will hold the lock then. -/
def Held (ticket : Nat) (r : Routine Site α) : Prop :=
  ∃ rest : Routine Site α, rest.Holding ∧
    r = hold (fun s => s.connection.lock.admits ticket) rest

/-- The unfinished routines wait with consecutive tickets. -/
def Queued : Nat → List (Progress Site α) → Prop
  | _, [] => True
  | ticket, .done _ :: others => Queued ticket others
  | ticket, .pending r :: others => r.Held ticket ∧ Queued (ticket + 1) others

/-- The first unfinished routine holds the lock or waits for its ticket, which has the turn; the
others wait behind it. -/
def Lined : Nat → List (Progress Site α) → Prop
  | _, [] => True
  | ticket, .done _ :: others => Lined ticket others
  | ticket, .pending r :: others => (r.Holding ∨ r.Held ticket) ∧ Queued (ticket + 1) others

def pendings : List (Progress Site α) → Nat
  | [] => 0
  | .done _ :: others => pendings others
  | .pending _ :: others => pendings others + 1

/-- A lock with so many tickets given out, of which one has the turn. -/
def lockOf (ticket count : Nat) : Turnstile := if count = 0 then {} else ⟨ticket + count, ticket⟩

/-- The routines stand in line for the lock of the site. -/
structure InLine (ticket : Nat) (all : List (Progress Site α)) (s : Site) : Prop where
  lined : Lined ticket all
  lock : s.connection.lock = lockOf ticket (pendings all)

def finishAll : List (Progress Site α) → Site → List α × Site
  | [], s => ([], s)
  | .done result :: others, s => (result :: (finishAll others s).1, (finishAll others s).2)
  | .pending r :: others, s =>
    ((r.run s).1 :: (finishAll others (r.run s).2).1, (finishAll others (r.run s).2).2)

/-- How many turns are needed for that at most. -/
def turnsLeft : List (Progress Site α) → Site → Nat
  | [], _ => 0
  | .done _ :: others, s => turnsLeft others s
  | .pending r :: others, s => r.awaits s + 1 + turnsLeft others (r.run s).2

def firstPending (place : Nat) : List (Progress Site α) → Option Nat
  | [] => none
  | .done _ :: others => firstPending (place + 1) others
  | .pending _ :: _ => some place

theorem leave_lockOf (ticket count : Nat) :
    (lockOf ticket (count + 1)).leave = lockOf (ticket + 1) count := by
  have hcount : count + 1 ≠ 0 := by omega
  simp only [lockOf, if_neg hcount, Turnstile.leave]
  by_cases h : count = 0
  · simp [h]
  · rw [if_neg (by omega), if_neg h]
    simp only [Turnstile.mk.injEq, and_true]
    omega

theorem lined_of_queued {ticket : Nat} {all : List (Progress Site α)} (h : Queued ticket all) :
    Lined ticket all := by
  induction all generalizing ticket with
  | nil => trivial
  | cons p others ih =>
    cases p with
    | done result => exact ih h
    | pending r => exact ⟨.inr h.1, h.2⟩

/-- An unfinished routine with the next ticket goes to the end of the queue. -/
theorem queued_concat {ticket : Nat} {front : List (Progress Site α)} {r : Routine Site α}
    (h : Queued ticket front) (hr : r.Held (ticket + pendings front)) :
    Queued ticket (front ++ [.pending r]) := by
  induction front generalizing ticket with
  | nil => exact ⟨hr, trivial⟩
  | cons p others ih =>
    cases p with
    | done result => exact ih h hr
    | pending r' => exact ⟨h.1, ih h.2 (by rwa [pendings, Nat.add_comm _ 1, ← Nat.add_assoc] at hr)⟩

theorem lined_concat {ticket : Nat} {front : List (Progress Site α)} {r : Routine Site α}
    (h : Lined ticket front)
    (hr : pendings front = 0 ∧ r.Holding ∨ r.Held (ticket + pendings front)) :
    Lined ticket (front ++ [.pending r]) := by
  induction front with
  | nil =>
    rcases hr with ⟨-, hr⟩ | hr
    · exact ⟨.inl hr, trivial⟩
    · exact ⟨.inr hr, trivial⟩
  | cons p others ih =>
    cases p with
    | done result => exact ih h hr
    | pending r' =>
      rcases hr with ⟨hzero, -⟩ | hr
      · exact absurd hzero (Nat.succ_ne_zero _)
      · refine ⟨h.1, queued_concat h.2 ?_⟩
        rwa [pendings, Nat.add_comm _ 1, ← Nat.add_assoc] at hr

theorem lined_concat_done {ticket : Nat} {front : List (Progress Site α)} (result : α)
    (h : Lined ticket front) : Lined ticket (front ++ [.done result]) := by
  have hqueued : ∀ {ticket : Nat} {front : List (Progress Site α)}, Queued ticket front →
      Queued ticket (front ++ [.done result]) := by
    intro ticket front h
    induction front generalizing ticket with
    | nil => trivial
    | cons p others ih =>
      cases p with
      | done result' => exact ih h
      | pending r => exact ⟨h.1, ih h.2⟩
  induction front with
  | nil => trivial
  | cons p others ih =>
    cases p with
    | done result' => exact ih h
    | pending r => exact ⟨h.1, hqueued h.2⟩

theorem lined_of_pendings_eq_zero {front : List (Progress Site α)} (h : pendings front = 0)
    (ticket : Nat) : Lined ticket front := by
  induction front with
  | nil => trivial
  | cons p others ih =>
    cases p with
    | done result => exact ih h
    | pending r => exact absurd h (Nat.succ_ne_zero _)

theorem pendings_append (front back : List (Progress Site α)) :
    pendings (front ++ back) = pendings front + pendings back := by
  induction front with
  | nil => rw [List.nil_append, pendings, Nat.zero_add]
  | cons p others ih =>
    cases p with
    | done result => exact ih
    | pending r =>
      rw [List.cons_append, pendings, pendings, ih]
      omega

theorem finishAll_append (front back : List (Progress Site α)) (s : Site) :
    finishAll (front ++ back) s =
      ((finishAll front s).1 ++ (finishAll back (finishAll front s).2).1,
        (finishAll back (finishAll front s).2).2) := by
  induction front generalizing s with
  | nil => rfl
  | cons p others ih =>
    cases p with
    | done result => rw [List.cons_append, finishAll, finishAll, ih]; rfl
    | pending r => rw [List.cons_append, finishAll, finishAll, ih]; rfl

theorem blind_of_turn {ticket : Nat} {r : Routine Site α} (h : r.Holding ∨ r.Held ticket) :
    r.Blind := by
  rcases h with hr | ⟨rest, hrest, rfl⟩
  · exact hr.blind
  · exact ⟨⟨hrest.blind.bare, hrest.blind.trace⟩, hrest.blind.result⟩

/-- On similar sites, finishing a line comes to the same. -/
theorem Lined.alike_finishAll {counts : Happening → Bool} {ticket : Nat}
    {all : List (Progress Site α)} {s t : Site} (h : Lined ticket all) (hst : s.Similar counts t) :
    Alike counts (finishAll all s) (finishAll all t) := by
  induction all generalizing ticket s t with
  | nil => exact ⟨rfl, hst⟩
  | cons p others ih =>
    cases p with
    | done result =>
      obtain ⟨hresults, hsite⟩ := ih h hst
      exact ⟨congrArg (result :: ·) hresults, hsite⟩
    | pending r =>
      obtain ⟨hresult, hmiddle⟩ := (blind_of_turn h.1).alike hst
      obtain ⟨hresults, hsite⟩ := ih (lined_of_queued h.2) hmiddle
      exact ⟨congrArg₂ List.cons hresult hresults, hsite⟩

theorem Lined.trace_prefix {ticket : Nat} {all : List (Progress Site α)} (h : Lined ticket all)
    (s : Site) : s.world.trace <+: (finishAll all s).2.world.trace := by
  induction all generalizing ticket s with
  | nil => exact List.prefix_rfl
  | cons p others ih =>
    cases p with
    | done result => exact ih h s
    | pending r =>
      have hfirst : s.world.trace <+: (r.run s).2.world.trace := by
        rw [(blind_of_turn h.1).trace]
        exact List.prefix_append _ _
      exact hfirst.trans (ih (lined_of_queued h.2) _)

/-- Nobody goes on whose ticket is behind the one that has the turn. -/
theorem round_queued (pattern : Pattern) (number : Nat) {place ticket : Nat}
    {all : List (Progress Site α)} {s : Site} (h : Queued ticket all)
    (hs : s.connection.lock.serving < ticket) : round pattern number place all s = (all, s) := by
  induction all generalizing place ticket with
  | nil => rfl
  | cons p others ih =>
    cases p with
    | done result => rw [round_done, ih h hs]
    | pending r =>
      obtain ⟨⟨rest, -, rfl⟩, hothers⟩ := h
      have hblocked : s.connection.lock.admits ticket = false := by
        simp only [Turnstile.admits, beq_eq_false_iff_ne]
        omega
      rcases hsits : pattern.sitsOut number place with _ | _
      · have hwaits : advance (pattern.suspends number place) 0
            (hold (fun s => s.connection.lock.admits ticket) rest) s =
              .waiting (hold (fun s => s.connection.lock.admits ticket) rest) s := by
          rw [advance, hblocked, if_neg Bool.false_ne_true]
        rw [round_waiting hsits hwaits, ih hothers (Nat.lt_succ_of_lt hs)]
      · rw [round_sitsOut hsits, ih hothers (Nat.lt_succ_of_lt hs)]

/-- What a round makes of a line. -/
structure RoundOf (pattern : Pattern) (number place : Nat) (all : List (Progress Site α))
    (s : Site) (all' : List (Progress Site α)) (s' : Site) : Prop where
  inLine : ∃ ticket, InLine ticket all' s'
  finishAll_eq : finishAll all' s' = finishAll all s
  turnsLeft_le : turnsLeft all' s' ≤ turnsLeft all s
  progress : ∀ p, firstPending place all = some p → pattern.sitsOut number p = false →
    turnsLeft all' s' < turnsLeft all s
  idle : ∀ p, firstPending place all = some p → pattern.sitsOut number p = true →
    all' = all ∧ s' = s

/-- The holder, or the one that has the turn, goes on. -/
theorem advance_of_turn {ticket : Nat} {r : Routine Site α} (h : r.Holding ∨ r.Held ticket)
    (suspends : Nat → Wait → Bool) (passed : Nat) {s : Site}
    (hs : s.connection.lock.serving = ticket) :
    (∃ rest s', advance suspends passed r s = .waiting rest s' ∧ rest.Holding ∧
      rest.awaits s' < r.awaits s ∧ s'.connection.lock = s.connection.lock) ∨
      ∃ result s', advance suspends passed r s = .finished result s' ∧
        s'.connection.lock = s.connection.lock.leave := by
  rcases h with hr | ⟨rest, hrest, rfl⟩
  · exact hr.advance_eq suspends passed s
  · have hready : s.connection.lock.admits ticket = true := by simp [Turnstile.admits, hs]
    rw [advance, hready, if_pos rfl]
    exact hrest.advance_eq suspends passed s

/-- A round over a line leaves a line, and what comes of it is the same. -/
theorem round_inLine (pattern : Pattern) (number place : Nat) {ticket : Nat}
    {all : List (Progress Site α)} {s : Site} (h : InLine ticket all s) :
    RoundOf pattern number place all s (round pattern number place all s).1
      (round pattern number place all s).2 := by
  induction all generalizing place ticket s with
  | nil => exact ⟨⟨ticket, h⟩, rfl, le_rfl, nofun, nofun⟩
  | cons p others ih =>
    obtain ⟨hlined, hlock⟩ := h
    cases p with
    | done result =>
      obtain ⟨⟨ticket', hlined', hlock'⟩, hfinish, hle, hlt, hidle⟩ :=
        ih (place + 1) ⟨hlined, hlock⟩
      rw [round_done]
      refine ⟨⟨ticket', hlined', hlock'⟩, ?_, hle, hlt, fun p hp hs => ?_⟩
      · rw [finishAll, finishAll, hfinish]
      · obtain ⟨hall, hsite⟩ := hidle p hp hs
        exact ⟨congrArg _ hall, hsite⟩
    | pending r =>
      obtain ⟨hr, hothers⟩ := hlined
      have hcount : pendings others + 1 ≠ 0 := by omega
      have hserving : s.connection.lock.serving = ticket := by
        rw [hlock, pendings, lockOf, if_neg hcount]
      have hblocked : ∀ s' : Site, s'.connection.lock = s.connection.lock →
          round pattern number (place + 1) others s' = (others, s') := fun s' hs' =>
        round_queued pattern number hothers (by rw [hs', hserving]; omega)
      rcases hsits : pattern.sitsOut number place with _ | _
      · rcases advance_of_turn hr (pattern.suspends number place) 0 hserving with
          ⟨rest, s', ha, hrest, hawaits, hl⟩ | ⟨result, s', ha, hl⟩
        · have hrun : rest.run s' = r.run s := by
            rw [← run_advance (pattern.suspends number place) 0 r s, ha]; rfl
          rw [round_waiting hsits ha, hblocked s' hl]
          have hless :
              turnsLeft (.pending rest :: others) s' < turnsLeft (.pending r :: others) s := by
            rw [turnsLeft, turnsLeft, hrun]
            omega
          refine ⟨⟨ticket, ⟨.inl hrest, hothers⟩, hl.trans hlock⟩, ?_, hless.le, fun _ _ _ => hless,
            fun p hp hs => ?_⟩
          · rw [finishAll, finishAll, hrun]
          · obtain rfl := Option.some.inj hp
            exact absurd (hsits.symm.trans hs) (by simp)
        · have hrun : r.run s = (result, s') := by
            rw [← run_advance (pattern.suspends number place) 0 r s, ha]; rfl
          have hlock' : s'.connection.lock = lockOf (ticket + 1) (pendings others) := by
            rw [hl, hlock]
            exact leave_lockOf ticket (pendings others)
          obtain ⟨⟨ticket', hlined', hlock''⟩, hfinish, hle, -, -⟩ :=
            ih (place + 1) ⟨lined_of_queued hothers, hlock'⟩
          rw [round_finished hsits ha]
          have hless : turnsLeft (.done result :: (round pattern number (place + 1) others s').1)
              (round pattern number (place + 1) others s').2 <
                turnsLeft (.pending r :: others) s := by
            simp only [turnsLeft, hrun]
            omega
          refine ⟨⟨ticket', hlined', hlock''⟩, ?_, hless.le, fun _ _ _ => hless, fun p hp hs => ?_⟩
          · rw [finishAll, finishAll, hrun, hfinish]
          · obtain rfl := Option.some.inj hp
            exact absurd (hsits.symm.trans hs) (by simp)
      · rw [round_sitsOut hsits, hblocked s rfl]
        refine ⟨⟨ticket, ⟨hr, hothers⟩, hlock⟩, rfl, le_rfl, fun p hp hs => ?_,
          fun _ _ _ => ⟨rfl, rfl⟩⟩
        obtain rfl := Option.some.inj hp
        exact absurd (hsits.symm.trans hs) (by simp)

/-! ### Round after round -/

/-- Without an unfinished routine the results are there and nothing is left to do. -/
theorem finishAll_of_done {all : List (Progress Site α)} (s : Site)
    (h : all.all Progress.isDone = true) :
    all.map Progress.result? = (finishAll all s).1.map some ∧ (finishAll all s).2 = s ∧
      pendings all = 0 := by
  induction all with
  | nil => exact ⟨rfl, rfl, rfl⟩
  | cons p others ih =>
    cases p with
    | done result =>
      obtain ⟨hresults, hsite, hcount⟩ := ih h
      exact ⟨congrArg (some result :: ·) hresults, hsite, hcount⟩
    | pending r => exact absurd h (by simp [Progress.isDone])

theorem finishAll_of_pendings_eq_zero {all : List (Progress Site α)} (h : pendings all = 0)
    (s t : Site) : finishAll all t = ((finishAll all s).1, t) := by
  induction all with
  | nil => rfl
  | cons p others ih =>
    cases p with
    | done result => rw [finishAll, finishAll, ih h]
    | pending r => exact absurd h (Nat.succ_ne_zero _)

theorem finishAll_progress (turn : Turn Site α) :
    finishAll [turn.progress.1] turn.progress.2 = ([turn.run.1], turn.run.2) := by
  cases turn <;> rfl

theorem finishAll_of_result {all : List (Progress Site α)} (s : Site) {i : Nat} {result : α}
    (h : (all.map Progress.result?)[i]? = some (some result)) :
    (finishAll all s).1[i]? = some result := by
  induction all generalizing s i with
  | nil => exact absurd h (by simp)
  | cons p others ih =>
    cases i with
    | zero =>
      cases p with
      | done result' => exact Option.some.inj h
      | pending r => exact absurd (Option.some.inj h) (by simp [Progress.result?])
    | succ i =>
      cases p with
      | done result' => exact ih s h
      | pending r => exact ih _ h

theorem isDone_all_iff {place : Nat} {all : List (Progress Site α)} :
    all.all Progress.isDone = true ↔ firstPending place all = none := by
  induction all generalizing place with
  | nil => exact ⟨fun _ => rfl, fun _ => rfl⟩
  | cons p others ih =>
    cases p with
    | done result => exact ih
    | pending r => simp [Progress.isDone, firstPending]

theorem round_of_done {pattern : Pattern} {number place : Nat} {all : List (Progress σ α)}
    (h : all.all Progress.isDone = true) (s : σ) : round pattern number place all s = (all, s) := by
  induction all generalizing place with
  | nil => rfl
  | cons p others ih =>
    cases p with
    | done result => rw [round_done, ih h]
    | pending r => exact absurd h (by simp [Progress.isDone])

theorem rounds_succ (pattern : Pattern) (number limit : Nat) (all : List (Progress σ α)) (s : σ) :
    rounds pattern number (limit + 1) all s =
      rounds pattern (number + 1) limit (round pattern number 0 all s).1
        (round pattern number 0 all s).2 := by
  rw [rounds]
  split
  next hdone =>
    rw [round_of_done hdone]
    cases limit with
    | zero => rfl
    | succ limit => rw [rounds, if_pos hdone]
  next => rfl

theorem rounds_inLine (pattern : Pattern) (number limit : Nat) {ticket : Nat}
    {all : List (Progress Site α)} {s : Site} (h : InLine ticket all s) :
    (∃ ticket', InLine ticket' (rounds pattern number limit all s).1
      (rounds pattern number limit all s).2) ∧
      finishAll (rounds pattern number limit all s).1 (rounds pattern number limit all s).2 =
        finishAll all s := by
  induction limit generalizing number ticket all s with
  | zero => exact ⟨⟨ticket, h⟩, rfl⟩
  | succ limit ih =>
    rw [rounds]
    split
    · exact ⟨⟨ticket, h⟩, rfl⟩
    · obtain ⟨⟨ticket', hline⟩, hfinish, -, -, -⟩ := round_inLine pattern number 0 h
      obtain ⟨hline', hfinish'⟩ := ih (number + 1) hline
      exact ⟨hline', hfinish'.trans hfinish⟩

/-- A place always gets another turn. -/
def Pattern.Fair (pattern : Pattern) : Prop :=
  ∀ place number, ∃ later, number ≤ later ∧ pattern.sitsOut later place = false

/-- If every place always gets another turn, all routines of a line are finished in the end. -/
theorem exists_rounds_done {pattern : Pattern} (hfair : pattern.Fair) (number : Nat) {ticket : Nat}
    {all : List (Progress Site α)} {s : Site} (h : InLine ticket all s) :
    ∃ bound, ∀ limit, bound ≤ limit →
      (rounds pattern number limit all s).1.all Progress.isDone = true := by
  induction hn : turnsLeft all s using Nat.strong_induction_on generalizing number ticket all s with
  | _ n ih =>
    rcases hp : firstPending 0 all with _ | p
    · have hdone := isDone_all_iff.mpr hp
      refine ⟨0, fun limit _ => ?_⟩
      cases limit with
      | zero => exact hdone
      | succ limit => rw [rounds, if_pos hdone]; exact hdone
    · have hgoes : ∀ number, pattern.sitsOut number p = false → ∃ bound, ∀ limit,
          bound ≤ limit → (rounds pattern number limit all s).1.all Progress.isDone = true := by
        intro number hturn
        obtain ⟨⟨ticket', hline⟩, -, -, hlt, -⟩ := round_inLine pattern number 0 h
        obtain ⟨bound, hbound⟩ := ih _ (hn ▸ hlt p hp hturn) (number + 1) hline rfl
        refine ⟨bound + 1, fun limit hlimit => ?_⟩
        obtain ⟨limit, rfl⟩ := Nat.exists_eq_add_of_le' (Nat.le_of_add_left_le hlimit)
        rw [rounds_succ]
        exact hbound limit (by omega)
      -- The first unfinished routine may sit out some rounds, in which nothing happens.
      have hwaits : ∀ d number, pattern.sitsOut (number + d) p = false → ∃ bound, ∀ limit,
          bound ≤ limit → (rounds pattern number limit all s).1.all Progress.isDone = true := by
        intro d
        induction d with
        | zero => exact fun number hturn => hgoes number hturn
        | succ d ihd =>
          intro number hturn
          rcases hs : pattern.sitsOut number p with _ | _
          · exact hgoes number hs
          · obtain ⟨-, -, -, -, hidle⟩ := round_inLine pattern number 0 h
            obtain ⟨hall, hsite⟩ := hidle p hp hs
            obtain ⟨bound, hbound⟩ := ihd (number + 1) (by rwa [Nat.add_right_comm])
            refine ⟨bound + 1, fun limit hlimit => ?_⟩
            obtain ⟨limit, rfl⟩ := Nat.exists_eq_add_of_le' (Nat.le_of_add_left_le hlimit)
            rw [rounds_succ, hall, hsite]
            exact hbound limit (by omega)
      obtain ⟨later, hle, hturn⟩ := hfair p number
      exact hwaits (later - number) number (by rwa [Nat.add_sub_cancel' hle])

end Routine

end LaunchIndex
