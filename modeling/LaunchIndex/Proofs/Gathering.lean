import LaunchIndex.Proofs.InTurn
import LaunchIndex.Proofs.Provision

/-! Calls that are started together. In the first round each call joins the line for the lock in
its turn, or is refused if it is a search and the connection is not open just then. From there on
the line is served in its order, so the calls come to what they come to one after another. -/

namespace LaunchIndex

open Routine (Progress Pattern InLine Alike finishAll pendings lockOf advance)

/-- The rows that are answered to a question do not go by what was asked before, as with an index
that nobody changes. -/
def StandIn.IsConsistent (t : StandIn) : Prop :=
  ∀ past inquiry, t.rows past inquiry = t.rows [] inquiry

namespace Call

def fresh (c : Call) : Progress Site (Outcome Answer) := .pending c.task.run

/-- A call has joined a line as `p`, or has been refused. -/
structure Joins (c : Call) (front : List (Progress Site (Outcome Answer))) (s : Site)
    (p : Progress Site (Outcome Answer)) (s' : Site) (refusal : Option Fault) : Prop where
  inLine : ∃ ticket, InLine ticket (front ++ [p]) s'
  refused : ∀ fault, refusal = some fault → c.isSearch = true ∧
    s.connection.isConnected = false ∧ fault = .notConnected s.connection.path
  finishAll : ∀ counts, Alike counts (finishAll (front ++ [p]) s')
    ((finishAll front s).1 ++ [(c.turn refusal (finishAll front s).2).1],
      (c.turn refusal (finishAll front s).2).2)

section Start

variable {c : Call} {rest : Routine Site (Outcome Answer)} {ticket : Nat}
  {front : List (Progress Site (Outcome Answer))} {s : Site}

theorem joins_of_skips (hskips : c.skips s = true) (h : InLine ticket front s) :
    c.Joins front s (.done (.error (.notConnected s.connection.path))) s
      (some (.notConnected s.connection.path)) where
  inLine := by
    refine ⟨ticket, Routine.lined_concat_done _ h.lined, ?_⟩
    rw [Routine.pendings_append]
    exact h.lock
  refused fault heq := by
    simp only [skips, Bool.and_eq_true, Bool.not_eq_true'] at hskips
    exact ⟨hskips.1, hskips.2, (Option.some.inj heq).symm⟩
  finishAll counts := by
    rw [Routine.finishAll_append]
    exact ⟨rfl, .refl _ _⟩

/-- A turn of a call that queues begins with the question whether its ticket is served. -/
theorem advance_queue (suspends : Nat → Wait → Bool) (rest : Routine Site (Outcome Answer))
    (s : Site) : advance suspends 0 (Routine.queue rest) s =
      if (Routine.taking s).2.connection.lock.admits (Routine.taking s).1 then
        advance suspends 0 rest (Routine.taking s).2
      else
        .waiting (.hold (fun t => t.connection.lock.admits (Routine.taking s).1) rest)
          (Routine.taking s).2 := rfl

/-- If nobody is in line, the call takes the lock at once. -/
theorem joins_of_free (hrest : c.Shape rest) (suspends : Nat → Wait → Bool)
    (h : InLine ticket front s) (hzero : pendings front = 0) :
    c.Joins front s (advance suspends 0 (Routine.queue rest) s).progress.1
      (advance suspends 0 (Routine.queue rest) s).progress.2 none where
  refused _ heq := absurd heq (by simp)
  inLine := by
    have hlock : s.connection.lock = {} := by rw [h.lock, hzero, lockOf, if_pos rfl]
    have htaken : (Routine.taking s).2.connection.lock = ⟨1, 0⟩ := by
      rw [Routine.taking, hlock]
      rfl
    have hready : (Routine.taking s).2.connection.lock.admits (Routine.taking s).1 = true := by
      rw [htaken, Routine.taking, hlock]
      rfl
    rw [advance_queue, hready, if_pos rfl]
    rcases hrest.holding.advance_eq suspends 0 (Routine.taking s).2 with
      ⟨rest', s', ha, hholding, -, hl⟩ | ⟨result, s', ha, hl⟩ <;> rw [ha]
    · refine ⟨0, Routine.lined_concat (Routine.lined_of_pendings_eq_zero hzero 0)
        (.inl ⟨hzero, hholding⟩), ?_⟩
      rw [Routine.pendings_append, hzero]
      exact hl.trans htaken
    · refine ⟨0, Routine.lined_concat_done result (Routine.lined_of_pendings_eq_zero hzero 0), ?_⟩
      rw [Routine.pendings_append, hzero]
      exact hl.trans (congrArg _ htaken)
  finishAll counts := by
    obtain ⟨hresult, hsite⟩ :=
      (hrest.holding.alike_queue counts s).trans (hrest.run counts s).symm
    rw [Routine.finishAll_append, Routine.finishAll_of_pendings_eq_zero hzero s,
      Routine.finishAll_progress, Routine.run_advance, hresult]
    have hfront : (Routine.finishAll front s).2 = s := by
      rw [Routine.finishAll_of_pendings_eq_zero hzero s]
    rw [hfront]
    exact ⟨rfl, hsite⟩

/-- Otherwise it waits behind the others. -/
theorem joins_of_busy (hrest : c.Shape rest) (suspends : Nat → Wait → Bool)
    (h : InLine ticket front s) (hpos : pendings front ≠ 0) :
    c.Joins front s (advance suspends 0 (Routine.queue rest) s).progress.1
      (advance suspends 0 (Routine.queue rest) s).progress.2 none := by
  have hlock : s.connection.lock = ⟨ticket + pendings front, ticket⟩ := by
    rw [h.lock, lockOf, if_neg hpos]
  have hticket : (Routine.taking s).1 = ticket + pendings front := by
    rw [Routine.taking, hlock]
    rfl
  have htaken : (Routine.taking s).2.connection.lock =
      ⟨ticket + pendings front + 1, ticket⟩ := by
    rw [Routine.taking, hlock]
    rfl
  have hblocked : (Routine.taking s).2.connection.lock.admits (Routine.taking s).1 = false := by
    rw [htaken, hticket]
    simp only [Turnstile.admits, beq_eq_false_iff_ne]
    omega
  rw [advance_queue, hblocked, if_neg Bool.false_ne_true, hticket]
  refine ⟨⟨ticket, Routine.lined_concat h.lined (.inr ⟨rest, hrest.holding, rfl⟩), ?_⟩,
    fun _ heq => absurd heq (by simp), fun counts => ?_⟩
  · have hcount : pendings front + 1 ≠ 0 := by omega
    rw [Routine.pendings_append, lockOf]
    exact htaken.trans (if_neg hcount).symm
  · obtain ⟨hresults, hfront⟩ :=
      h.lined.alike_finishAll (Site.similar_withLock counts s.connection.lock.take.2 s)
    obtain ⟨hresult, hsite⟩ :=
      (hrest.holding.blind.alike hfront).trans (hrest.run counts (Routine.finishAll front s).2).symm
    rw [Routine.finishAll_append]
    exact ⟨congrArg₂ (fun results result => results ++ [result]) hresults hresult, hsite⟩

/-- A call that gets its first turn joins the line or is refused. -/
theorem exists_joins (c : Call) (suspends : Nat → Wait → Bool) (h : InLine ticket front s) :
    ∃ refusal, c.Joins front s (advance suspends 0 c.task.run s).progress.1
      (advance suspends 0 c.task.run s).progress.2 refusal := by
  obtain ⟨rest, hrest⟩ := c.exists_shape
  rw [hrest.starts]
  by_cases hskips : c.skips s = true
  · rw [if_pos hskips]
    exact ⟨_, joins_of_skips hskips h⟩
  · rw [if_neg hskips]
    by_cases hzero : pendings front = 0
    · exact ⟨none, joins_of_free hrest suspends h hzero⟩
    · exact ⟨none, joins_of_busy hrest suspends h hzero⟩

end Start

variable {pattern : Pattern}

/-- The site at which a call of the list starts: those before it have had their first turns. -/
def startOf (pattern : Pattern) (place : Nat) (calls : List Call) (i : Nat) (s : Site) : Site :=
  (Routine.round pattern 0 place ((calls.take i).map fresh) s).2

/-- The first round over calls that come to a line, of which some are refused. -/
structure Starts (pattern : Pattern) (place : Nat)
    (front : List (Progress Site (Outcome Answer))) (s : Site) (calls : List Call)
    (entries : List (Call × Option Fault)) : Prop where
  calls_eq : entries.map Prod.fst = calls
  inLine : ∃ ticket, InLine ticket (front ++ (Routine.round pattern 0 place (calls.map fresh) s).1)
    (Routine.round pattern 0 place (calls.map fresh) s).2
  refused : ∀ (i : Nat) c fault, entries[i]? = some (c, some fault) → c.isSearch = true ∧
    (startOf pattern place calls i s).connection.isConnected = false ∧
      fault = .notConnected (startOf pattern place calls i s).connection.path
  finishAll : ∀ counts, Alike counts
    (finishAll (front ++ (Routine.round pattern 0 place (calls.map fresh) s).1)
      (Routine.round pattern 0 place (calls.map fresh) s).2)
    ((finishAll front s).1 ++ (inTurnBut entries (finishAll front s).2).1,
      (inTurnBut entries (finishAll front s).2).2)

theorem exists_starts (hstart : ∀ place, pattern.sitsOut 0 place = false) (calls : List Call)
    (place : Nat) {ticket : Nat} {front : List (Progress Site (Outcome Answer))} {s : Site}
    (h : InLine ticket front s) : ∃ entries, Starts pattern place front s calls entries := by
  induction calls generalizing place ticket front s with
  | nil =>
    refine ⟨[], rfl, ⟨ticket, ?_⟩, nofun, fun counts => ?_⟩
    · rw [List.map_nil, Routine.round, List.append_nil]
      exact h
    · rw [List.map_nil, Routine.round, List.append_nil, inTurnBut, List.append_nil]
      exact ⟨rfl, .refl _ _⟩
  | cons c calls ih =>
    have hround := fun others => Routine.round_goes (hstart place) c.task.run others s
    obtain ⟨refusal, hjoins⟩ := c.exists_joins (pattern.suspends 0 place) h
    generalize (advance (pattern.suspends 0 place) 0 c.task.run s).progress = turn at hround hjoins
    obtain ⟨ticket', hline⟩ := hjoins.inLine
    -- For the calls after it, this one is the last of the front.
    obtain ⟨entries, hcalls, hline', hrefused, hfinish⟩ := ih (place + 1) hline
    have hsplit := List.append_assoc front [turn.1]
      (Routine.round pattern 0 (place + 1) (calls.map fresh) turn.2).1
    refine ⟨(c, refusal) :: entries, congrArg (c :: ·) hcalls, ?_, ?_, fun counts => ?_⟩
    · rw [List.map_cons, fresh, hround]
      rw [hsplit] at hline'
      exact hline'
    · intro i c' fault hentry
      cases i with
      | zero =>
        simp only [List.getElem?_cons_zero, Option.some.injEq, Prod.mk.injEq] at hentry
        obtain ⟨rfl, hfault⟩ := hentry
        exact hjoins.refused fault hfault
      | succ i =>
        have hsite : startOf pattern place (c :: calls) (i + 1) s =
            startOf pattern (place + 1) calls i turn.2 := by
          rw [startOf, List.take_succ_cons, List.map_cons, fresh, hround]
          rfl
        rw [hsite]
        exact hrefused i c' fault hentry
    · rw [List.map_cons, fresh, hround]
      have hmore := hfinish counts
      rw [hsplit] at hmore
      obtain ⟨hresults, hmiddle⟩ := hjoins.finishAll counts
      obtain ⟨hrest, hsite⟩ := alike_inTurnBut entries hmiddle
      refine hmore.trans ⟨?_, hsite⟩
      simp only [hresults, hrest, inTurnBut, List.append_assoc, List.cons_append, List.nil_append]

/-- What has become of calls that are started together after so many rounds. -/
def together (pattern : Pattern) (limit : Nat) (calls : List Call) (s : Site) :
    List (Progress Site (Outcome Answer)) × Site :=
  Routine.rounds pattern 0 limit (calls.map fresh) s

def gather (pattern : Pattern) (limit : Nat) (calls : List Call) (s : Site) :
    List (Option (Outcome Answer)) × Site :=
  Routine.gather pattern limit (calls.map fun c => c.task.run) s

theorem gather_eq (limit : Nat) (calls : List Call) (s : Site) : gather pattern limit calls s =
    ((together pattern limit calls s).1.map Progress.result?,
      (together pattern limit calls s).2) := by
  rw [gather, Routine.gather, List.map_map]
  rfl

theorem all_isSome_eq (all : List (Progress Site (Outcome Answer))) :
    (all.map Progress.result?).all Option.isSome = all.all Progress.isDone := by
  rw [List.all_map]
  congr 1
  funext p
  cases p <;> rfl

namespace Starts

variable {calls : List Call} {entries : List (Call × Option Fault)} {s : Site}

/-- After the first round the calls stand in line, and come to what they come to in their turn. -/
theorem inLine_together (h : Starts pattern 0 [] s calls entries) (limit : Nat) :
    (∃ ticket, InLine ticket (together pattern (limit + 1) calls s).1
      (together pattern (limit + 1) calls s).2) ∧
      ∀ counts, Alike counts (Routine.finishAll (together pattern (limit + 1) calls s).1
        (together pattern (limit + 1) calls s).2) (inTurnBut entries s) := by
  obtain ⟨ticket, hline⟩ := h.inLine
  obtain ⟨hlines, hfinish⟩ := Routine.rounds_inLine pattern 1 limit hline
  rw [together, Routine.rounds_succ]
  refine ⟨hlines, fun counts => ?_⟩
  rw [List.nil_append] at hfinish
  rw [hfinish]
  exact h.finishAll counts

theorem gather_result (h : Starts pattern 0 [] s calls entries) {limit i : Nat}
    {result : Outcome Answer} (hr : (gather pattern limit calls s).1[i]? = some (some result)) :
    (inTurnBut entries s).1[i]? = some result := by
  rw [gather_eq] at hr
  cases limit with
  | zero =>
    rw [together, Routine.rounds, List.map_map, List.getElem?_map] at hr
    obtain ⟨c, -, hc⟩ := Option.map_eq_some_iff.mp hr
    exact absurd hc (by simp [fresh, Progress.result?])
  | succ limit =>
    obtain ⟨-, hfinish⟩ := h.inLine_together limit
    rw [← (hfinish fun _ => true).result]
    exact Routine.finishAll_of_result _ hr

theorem gather_trace (h : Starts pattern 0 [] s calls entries) (limit : Nat) :
    (gather pattern limit calls s).2.world.trace <+: (inTurnBut entries s).2.world.trace := by
  rw [gather_eq]
  cases limit with
  | zero => exact trace_inTurnBut entries s
  | succ limit =>
    obtain ⟨⟨ticket, hline⟩, hfinish⟩ := h.inLine_together limit
    have htrace := (hfinish fun _ => true).site.trace
    rw [List.filter_true, List.filter_true] at htrace
    rw [← htrace]
    exact hline.lined.trace_prefix _

theorem gather_of_finished (h : Starts pattern 0 [] s calls entries) (hs : s.Unlocked)
    {limit : Nat} (hdone : (gather pattern limit calls s).1.all Option.isSome = true) :
    gather pattern limit calls s =
      ((inTurnBut entries s).1.map some, (inTurnBut entries s).2) := by
  rw [gather_eq] at hdone ⊢
  cases limit with
  | zero =>
    rcases calls with _ | ⟨c, calls⟩
    · obtain rfl := List.map_eq_nil_iff.mp h.calls_eq
      rfl
    · exact absurd hdone (by simp [together, Routine.rounds, fresh, Progress.result?])
  | succ limit =>
    obtain ⟨⟨ticket, hline⟩, hfinish⟩ := h.inLine_together limit
    rw [all_isSome_eq] at hdone
    obtain ⟨hresults, hsite, hcount⟩ := Routine.finishAll_of_done
      (together pattern (limit + 1) calls s).2 hdone
    obtain ⟨hresult, hbare, htrace⟩ := hfinish fun _ => true
    rw [hsite] at hbare htrace
    rw [List.filter_true, List.filter_true] at htrace
    have hlock : (together pattern (limit + 1) calls s).2.connection.lock = {} := by
      rw [hline.lock, hcount, lockOf, if_pos rfl]
    have hlock' : (inTurnBut entries s).2.connection.lock = {} :=
      keeps_inTurnBut Site.lasting_unlocked entries hs
    rw [hresults, hresult, Site.ext_of_bare hbare htrace (hlock.trans hlock'.symm)]

theorem gather_finishes (h : Starts pattern 0 [] s calls entries) (hfair : pattern.Fair) :
    ∃ bound, ∀ limit, bound ≤ limit →
      (gather pattern limit calls s).1.all Option.isSome = true := by
  obtain ⟨ticket, hline⟩ := h.inLine
  obtain ⟨bound, hbound⟩ := Routine.exists_rounds_done hfair 1 hline
  refine ⟨bound + 1, fun limit hlimit => ?_⟩
  obtain ⟨limit, rfl⟩ := Nat.exists_eq_add_of_le' (Nat.le_of_add_left_le hlimit)
  have hall := hbound limit (by omega)
  rw [List.nil_append] at hall
  rw [gather_eq, all_isSome_eq, together, Routine.rounds_succ]
  exact hall

end Starts

theorem answeredAlike_of_consistent {c : Call} {s t : Site} (h : s.standIn? = t.standIn?)
    (hs : s.Provided StandIn.IsConsistent) : c.AnsweredAlike s t := by
  intro inquiry _
  rw [Site.reply, Site.reply, ← h]
  rcases hstandIn : s.standIn? with _ | standIn
  · rfl
  · have hsame := hs.of_standIn? hstandIn
    exact congrArg some ((hsame _ inquiry).trans (hsame _ inquiry).symm)

/-- Where stand-ins are consistent, a call is answered as it is without the refusals before it. -/
theorem answeredAlike_inTurnBut {s : Site} (hs : s.Provided StandIn.IsConsistent)
    {entries : List (Call × Option Fault)}
    (hsearch : ∀ c fault, (c, some fault) ∈ entries → c.isSearch = true) (i : Nat) (c : Call) :
    c.AnsweredAlike (inTurnBut (entries.take i) s).2
      (inTurn ((entries.map Prod.fst).take i) s).2 := by
  have hbefore : ∀ c fault, (c, some fault) ∈ entries.take i → c.isSearch = true :=
    fun c fault hmem => hsearch c fault (List.mem_of_mem_take hmem)
  have hkin := (inTurnBut_kin hbefore (.refl s)).1
  rw [List.map_take] at hkin
  exact answeredAlike_of_consistent hkin.standIn_eq
    (keeps_inTurnBut (Site.lasting_provided _) _ hs)

/-- Calls that are started together on a reachable site use the handle one at a time, in the order
of the list. They come to what they come to one after another, but for searches that are refused
because the connection is not open as they start. A stand-in may answer each question as it likes;
one that also goes by what it was asked before has been asked less where a search was refused, and
then a later call has the same result as without refusals if it is answered the same. -/
theorem gather_inTurn {s : Site} (h : s.Reachable)
    (hstart : ∀ place, pattern.sitsOut 0 place = false) (calls : List Call) :
    ∃ entries : List (Call × Option Fault), entries.map Prod.fst = calls ∧
      (∀ (i : Nat) c fault, entries[i]? = some (c, some fault) → c.isSearch = true ∧
        (startOf pattern 0 calls i s).connection.isConnected = false ∧
          fault = .notConnected (startOf pattern 0 calls i s).connection.path) ∧
      (∀ limit,
        (∀ (i : Nat) result, (gather pattern limit calls s).1[i]? = some (some result) →
          (∃ c fault, entries[i]? = some (c, some fault) ∧ result = .error fault) ∨
            (inTurnBut entries s).1[i]? = some result ∧
              ((s.Provided StandIn.IsConsistent ∨
                  ∀ c, calls[i]? = some c → c.AnsweredAlike (inTurnBut (entries.take i) s).2
                    (inTurn (calls.take i) s).2) →
                (inTurn calls s).1[i]? = some result)) ∧
        (0 < limit → ∃ ticket, InLine ticket (together pattern limit calls s).1
          (together pattern limit calls s).2) ∧
        (gather pattern limit calls s).2.world.trace <+: (inTurnBut entries s).2.world.trace ∧
        (∀ past n, past ++ [.used n] <+: (gather pattern limit calls s).2.world.trace →
          Unclosed n past) ∧
        ((gather pattern limit calls s).1.all Option.isSome = true →
          gather pattern limit calls s =
            ((inTurnBut entries s).1.map some, (inTurnBut entries s).2) ∧
          (gather pattern limit calls s).2.connection = (inTurn calls s).2.connection ∧
          (gather pattern limit calls s).2.world.deeds = (inTurn calls s).2.world.deeds)) ∧
      (pattern.Fair → ∃ bound, ∀ limit, bound ≤ limit →
        (gather pattern limit calls s).1.all Option.isSome = true) := by
  have hunlocked := h.unlocked
  have hnobody : InLine 0 ([] : List (Progress Site (Outcome Answer))) s := ⟨trivial, hunlocked⟩
  obtain ⟨entries, hstarts⟩ := exists_starts hstart calls 0 hnobody
  obtain ⟨first, hbalanced⟩ := h.balanced
  have hsearch : ∀ c fault, (c, some fault) ∈ entries → c.isSearch = true := by
    intro c fault hmem
    obtain ⟨i, hi⟩ := List.mem_iff_getElem?.mp hmem
    exact (hstarts.refused i c fault hi).1
  have hconsistent := fun hs i c => answeredAlike_inTurnBut (s := s) hs hsearch i c
  obtain ⟨hkin, hresults⟩ := inTurnBut_kin hsearch (.refl s)
  rw [hstarts.calls_eq] at hkin hresults hconsistent
  refine ⟨entries, hstarts.calls_eq, hstarts.refused, fun limit => ⟨fun i result hr => ?_, ?_, ?_,
    fun past n hp => ?_, fun hdone => ?_⟩, hstarts.gather_finishes⟩
  · have hturn := hstarts.gather_result hr
    rcases hresults i with ⟨c, fault, hentry, hrefused⟩ | heq
    · exact .inl ⟨c, fault, hentry, Option.some.inj (hturn.symm.trans hrefused)⟩
    · refine .inr ⟨hturn, fun halike => (heq fun c hc => ?_).symm.trans hturn⟩
      rcases halike with hs | halike
      · exact hconsistent hs i c
      · exact halike c hc
  · intro hlimit
    obtain ⟨limit, rfl⟩ := Nat.exists_eq_add_of_le' hlimit
    exact (hstarts.inLine_together limit).1
  · exact hstarts.gather_trace limit
  · have hkept := keeps_inTurnBut (Site.lasting_balanced first) entries hbalanced
    exact Ledger.unclosed_of_used hkept.accounts (hp.trans (hstarts.gather_trace limit))
  · have hend := hstarts.gather_of_finished hunlocked hdone
    have hlock : (inTurnBut entries s).2.connection.lock = (inTurn calls s).2.connection.lock :=
      (keeps_inTurnBut Site.lasting_unlocked entries hunlocked).trans
        (keeps_inTurn Site.lasting_unlocked calls hunlocked).symm
    refine ⟨hend, ?_, ?_⟩ <;> rw [hend]
    · exact hkin.connection_eq hlock
    · exact hkin.deeds

/-- A stand-in that lists files, but fails every search. -/
def failsSearches : StandIn where
  rows _
    | .search _ => .error (.store StoreError.locked)
    | _ => .ok []

/-- A closed connection whose next attempt to connect succeeds. -/
def shut : Site :=
  (Task.exec (Operation.tasks [])
    ⟨{ path := "/index", policy := default, busyTimeout := Binary64.zero false,
       script := some [.standIn failsSearches] },
     { environment := ⟨[], "/", [], "/"⟩ }⟩).2

theorem shut_reachable : shut.Reachable :=
  ⟨.text "/index", default, .real (Binary64.zero false), _, _, _, _, rfl, rfl, rfl⟩

/-- Every wait suspends, and nobody sits out a round. -/
def everyWait : Pattern where
  suspends := fun _ _ _ _ => true
  sitsOut := fun _ _ => false

theorem provided_shut : shut.Provided StandIn.IsConsistent := by
  rintro t (held | ⟨hleft, hmem⟩)
  · cases held
  · obtain rfl := Option.some.inj hleft
    obtain rfl := Attempt.standIn.inj (List.mem_singleton.mp hmem)
    exact fun _ _ => rfl

/-- A search that is started together with the opening of the connection is refused. In its turn its
statement would fail; the call after it, whose statement does not, has the same result. -/
theorem gather_inTurn_shut :
    (startOf everyWait 0 [.establish, .search (.text "a") rfl 5, .mostUsed (.int 5)] 1
        shut).connection.isConnected = false ∧
      (gather everyWait 9 [.establish, .search (.text "a") rfl 5, .mostUsed (.int 5)] shut).1 =
        [some (.ok .nothing), some (.error (.notConnected "/index")), some (.ok (.records []))] ∧
      (inTurn [.establish, .search (.text "a") rfl 5, .mostUsed (.int 5)] shut).1[2]? =
        some (.ok (.records [])) := by
  have hfirst : ∀ place, everyWait.sitsOut 0 place = false := fun _ => rfl
  obtain ⟨entries, hcalls, hstart, hlimit, -⟩ := gather_inTurn shut_reachable hfirst
    [.establish, .search (.text "a") rfl 5, .mostUsed (.int 5)]
  refine ⟨?_, rfl, ?_⟩
  · have hrefused : (gather everyWait 9 [.establish, .search (.text "a") rfl 5, .mostUsed (.int 5)]
        shut).1[1]? = some (some (.error (.notConnected "/index"))) := rfl
    rcases (hlimit 9).1 1 _ hrefused with ⟨c, fault, hentry, -⟩ | ⟨-, hturn⟩
    · exact (hstart 1 c fault hentry).2.1
    · -- Without a refusal the search would find nothing, and would not raise.
      exact absurd (Option.some.inj (hturn (.inl provided_shut))) nofun
  · have hlisted : (gather everyWait 9 [.establish, .search (.text "a") rfl 5, .mostUsed (.int 5)]
        shut).1[2]? = some (some (.ok (.records []))) := rfl
    rcases (hlimit 9).1 2 _ hlisted with ⟨c, fault, hentry, -⟩ | ⟨-, hturn⟩
    · have hcall : (entries.map Prod.fst)[2]? = some c := by
        rw [List.getElem?_map, hentry]
        rfl
      rw [hcalls] at hcall
      obtain rfl := Option.some.inj hcall
      exact absurd (hstart 2 _ fault hentry).1 nofun
    · exact hturn (.inl provided_shut)

end Call

end LaunchIndex
