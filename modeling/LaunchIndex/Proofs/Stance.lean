import LaunchIndex.Proofs.Calls
import LaunchIndex.Proofs.Conduct
import LaunchIndex.Proofs.Crowd

/-! The lock of a connection in a crowd. A job stands aside, or waits in the queue with a ticket, or
holds the lock; only the holder changes the connection, and what it has seen of the connection it
can rely on until it leaves. Tickets are distinct, so there is one holder at most, and every step of
the crowd is a proper one. -/

namespace LaunchIndex

namespace Connection

def bare (c : Connection) : Connection := { c with lock := {} }

theorem eq_of_bare {c c' : Connection} (h : c'.bare = c.bare) :
    c' = { c with lock := c'.lock } := by
  have hlock : c' = { c'.bare with lock := c'.lock } := rfl
  rw [hlock, h]
  rfl

/-- A connection counts as connected exactly if it holds a handle, and holds none once destroyed. -/
structure Sound (c : Connection) : Prop where
  connected : c.connected = c.handle.isSome
  destroyed : c.destroyed = true → c.handle = none

end Connection

namespace Site

/-- What a step may do to a connection: a destroyed one stays as it is, and nothing is attempted. -/
structure Proper (s s' : Site) : Prop where
  path : s'.connection.path = s.connection.path
  sound : s.connection.Sound → s'.connection.Sound
  destroyed : s.connection.destroyed = true → s'.connection.destroyed = true
  attempts : s.connection.destroyed = true →
    s'.world.tally.attempts = s.world.tally.attempts

/-- A step that leaves the connection to others. -/
structure Bystands (s s' : Site) : Prop where
  connection : s'.connection = s.connection
  attempts : s'.world.tally.attempts = s.world.tally.attempts

theorem Proper.trans {s₁ s₂ s₃ : Site} (h : s₁.Proper s₂) (h' : s₂.Proper s₃) : s₁.Proper s₃ where
  path := h'.path.trans h.path
  sound hs := h'.sound (h.sound hs)
  destroyed hd := h'.destroyed (h.destroyed hd)
  attempts hd := (h'.attempts (h.destroyed hd)).trans (h.attempts hd)

/-- Only the connection apart from its lock matters, and the attempts. -/
theorem proper_of_eq {s s' : Site} (hc : s'.connection.bare = s.connection.bare)
    (ha : s'.world.tally.attempts = s.world.tally.attempts) : s.Proper s' := by
  have hsame := Connection.eq_of_bare hc
  refine ⟨?_, fun hs => ?_, fun hd => ?_, fun _ => ha⟩ <;> rw [hsame]
  · exact ⟨hs.connected, hs.destroyed⟩
  · exact hd

theorem Bystands.proper {s s' : Site} (h : s.Bystands s') : s.Proper s' :=
  proper_of_eq (by rw [h.connection]) h.attempts

theorem Bystands.refl (s : Site) : s.Bystands s := ⟨rfl, rfl⟩

/-- Nobody but the holder of the lock changes anything but the lock. -/
def Leaves (s s' : Site) : Prop := s'.connection.bare = s.connection.bare

structure Handles (s s' : Site) : Prop where
  proper : s.Proper s'
  lock : s'.connection.lock = s.connection.lock

theorem Handles.refl (s : Site) : s.Handles s := ⟨proper_of_eq rfl rfl, rfl⟩

theorem bystands_world {s : Site} {f : World → World}
    (h : (f s.world).tally.attempts = s.world.tally.attempts) : s.Bystands (s.mapWorld f) :=
  ⟨rfl, h⟩

theorem handles_world {s : Site} {f : World → World}
    (h : (f s.world).tally.attempts = s.world.tally.attempts) : s.Handles (s.mapWorld f) :=
  ⟨(bystands_world h).proper, rfl⟩

theorem conduct_handles : Conduct Leaves Handles (fun s => s.connection.destroyed = false)
    (fun s => s.connection.handle = none) where
  same := .refl
  alive_of _ := id
  alive_rely _ _ ha hs := (congrArg Connection.destroyed hs).trans ha
  alive_congr _ _ ha hd := hd.trans ha
  idle_of _ := id
  idle_rely _ _ hi hs := (congrArg Connection.handle hs).trans hi
  idle_congr _ _ hi hc := by rw [hc]; exact hi
  detach s := ⟨⟨rfl, fun _ => ⟨rfl, fun _ => rfl⟩, id, fun _ => rfl⟩, rfl⟩
  closeHandle h s := by
    rcases s.closeHandle_eq h with hc | ⟨fault, hc⟩ <;> rw [hc]
    · exact handles_world (by simp [Tally.add])
    · exact handles_world (by simp [Tally.add])
  nextAttempt s ha := by
    rw [nextAttempt_eq]
    exact ⟨⟨rfl, fun hs => ⟨hs.connected, hs.destroyed⟩, id,
      fun hd => absurd (ha.symm.trans hd) nofun⟩, rfl⟩
  connect attempt s := by
    refine ⟨proper_of_eq (by rw [connect_connection]) (by rw [connect_tally]), ?_⟩
    rw [connect_connection]
  attach h s ha :=
    ⟨⟨rfl, fun _ => ⟨rfl, fun hd => absurd (ha.symm.trans hd) nofun⟩, id, fun _ => rfl⟩, rfl⟩
  used h inquiry s := handles_world (by simp)
  sleep seconds s := handles_world (by simp [Tally.add])
  log e s := handles_world (by simp)
  destroy s hi := ⟨⟨rfl, fun hs => ⟨hs.connected, fun _ => hi⟩, fun _ => rfl, fun _ => rfl⟩, rfl⟩

end Site

/-! ### Where a job stands -/

/-- How a job stands to the lock. The holder knows the connection as it left it. -/
inductive Stance where
  | aside
  | queued (ticket : Nat)
  | holding (c : Connection)

namespace Stance

/-- The stance fits the connection. -/
def Agrees : Stance → Connection → Prop
  | aside, _ => True
  | queued ticket, c => c.lock.serving ≤ ticket ∧ ticket < c.lock.issued
  | holding seen, c => c.bare = seen.bare ∧ c.lock.serving < c.lock.issued

/-- The ticket of a job; the holder of the lock has the one that is served. -/
def ticket? : Stance → Turnstile → Option Nat
  | aside, _ => none
  | queued ticket, _ => some ticket
  | holding _, lock => some lock.serving

/-- No ticket is held twice. -/
def Apart (lock : Turnstile) (a b : Stance) : Prop :=
  ∀ ticket, a.ticket? lock = some ticket → b.ticket? lock ≠ some ticket

theorem Apart.symm {lock : Turnstile} {a b : Stance} (h : Apart lock a b) : Apart lock b a :=
  fun ticket hb ha => h ticket ha hb

/-- The stances of a crowd around a connection. -/
structure Lined (stances : List Stance) (c : Connection) : Prop where
  ordered : c.lock.serving ≤ c.lock.issued
  agrees : ∀ a ∈ stances, a.Agrees c
  apart : stances.Pairwise (Apart c.lock)

theorem lined_middle_iff {before after : List Stance} {a : Stance} {c : Connection} :
    Lined (before ++ a :: after) c ↔
      Lined (before ++ after) c ∧ a.Agrees c ∧ ∀ b ∈ before ++ after, Apart c.lock a b := by
  have hperm : (before ++ a :: after).Perm (a :: (before ++ after)) := List.perm_middle
  constructor
  · rintro ⟨hordered, hagrees, hapart⟩
    obtain ⟨hfirst, hrest⟩ :=
      List.pairwise_cons.mp ((hperm.pairwise_iff fun h => h.symm).mp hapart)
    exact ⟨⟨hordered, fun b hb => hagrees b (hperm.mem_iff.mpr (List.mem_cons_of_mem _ hb)), hrest⟩,
      hagrees a (hperm.mem_iff.mpr List.mem_cons_self), hfirst⟩
  · rintro ⟨⟨hordered, hagrees, hapart⟩, ha, hfirst⟩
    refine ⟨hordered, fun b hb => ?_, (hperm.pairwise_iff fun h => h.symm).mpr
      (List.pairwise_cons.mpr ⟨hfirst, hapart⟩)⟩
    rcases List.mem_cons.mp (hperm.mem_iff.mp hb) with rfl | hb
    · exact ha
    · exact hagrees b hb

/-- One step of a job, from a stance to the next. -/
inductive Passes : Stance → Stance → Site → Site → Prop
  | aside {s s' : Site} (h : s.Bystands s') : Passes aside aside s s'
  | enter (s : Site) : Passes aside (queued (Routine.taking s).1) s (Routine.taking s).2
  | serve {ticket : Nat} {s : Site} (h : s.connection.lock.admits ticket = true) :
    Passes (queued ticket) (holding s.connection) s s
  | work {seen : Connection} {s s' : Site} (h : s.Handles s') :
    Passes (holding seen) (holding s'.connection) s s'
  | leave (seen : Connection) (s : Site) :
    Passes (holding seen) aside s (s.withLock s.connection.lock.leave)

variable {a a' b : Stance} {s s' : Site}

theorem Passes.proper (h : Passes a a' s s') : s.Proper s' := by
  cases h with
  | aside h => exact h.proper
  | enter => exact Site.proper_of_eq rfl rfl
  | serve h => exact Site.proper_of_eq rfl rfl
  | work h => exact h.proper
  | leave => exact Site.proper_of_eq rfl rfl

/-- After a step the next stance agrees with the connection. -/
theorem Passes.agrees (h : Passes a a' s s')
    (hordered : s.connection.lock.serving ≤ s.connection.lock.issued)
    (ha : a.Agrees s.connection) :
    a'.Agrees s'.connection ∧ s'.connection.lock.serving ≤ s'.connection.lock.issued := by
  cases h with
  | aside h => exact ⟨trivial, by rw [h.connection]; exact hordered⟩
  | enter => exact ⟨⟨hordered, Nat.lt_succ_self _⟩, Nat.le_succ_of_le hordered⟩
  | serve h =>
    obtain ⟨-, hissued⟩ := ha
    rw [← of_decide_eq_true h] at hissued
    exact ⟨⟨rfl, hissued⟩, hordered⟩
  | work h =>
    obtain ⟨-, hissued⟩ := ha
    rw [Agrees, h.lock]
    exact ⟨⟨rfl, hissued⟩, hordered⟩
  | leave =>
    refine ⟨trivial, ?_⟩
    rw [Site.withLock_lock, Turnstile.leave]
    split
    · exact Nat.le_refl 0
    · exact ha.2

theorem not_apart_holding (lock : Turnstile) (c c' : Connection) :
    ¬Apart lock (holding c) (holding c') := fun h => h lock.serving rfl rfl

/-- A step leaves every other job where it stands. -/
theorem Passes.other (h : Passes a a' s s') (ha : a.Agrees s.connection)
    (hb : b.Agrees s.connection) (hapart : Apart s.connection.lock a b) :
    b.Agrees s'.connection ∧ b.ticket? s'.connection.lock = b.ticket? s.connection.lock ∧
      Apart s'.connection.lock a' b := by
  cases h with
  | aside h => rw [h.connection]; exact ⟨hb, rfl, hapart⟩
  | enter =>
    -- The new ticket is greater than every ticket before it.
    cases b with
    | aside => exact ⟨trivial, rfl, nofun⟩
    | queued ticket =>
      refine ⟨⟨hb.1, Nat.lt_succ_of_lt hb.2⟩, rfl, ?_⟩
      rintro _ ⟨⟩ heq
      exact absurd (Option.some.inj heq) hb.2.ne
    | holding seen =>
      refine ⟨⟨hb.1, Nat.lt_succ_of_lt hb.2⟩, rfl, ?_⟩
      rintro _ ⟨⟩ heq
      exact absurd (Option.some.inj heq) hb.2.ne
  | serve h =>
    refine ⟨hb, rfl, fun ticket hticket => hapart ticket ?_⟩
    rw [← hticket]
    exact congrArg some (of_decide_eq_true h).symm
  | work h =>
    cases b with
    | holding seen => exact absurd hapart (not_apart_holding _ _ _)
    | aside => exact ⟨trivial, rfl, nofun⟩
    | queued ticket =>
      rw [Agrees, h.lock]
      exact ⟨hb, rfl, hapart⟩
  | leave seen =>
    cases b with
    | holding seen' => exact absurd hapart (not_apart_holding _ _ _)
    | aside => exact ⟨trivial, rfl, nofun⟩
    | queued ticket =>
      -- A job that waits has a later ticket than the one that is served.
      have hne : s.connection.lock.serving ≠ ticket :=
        fun heq => hapart _ rfl (congrArg some heq.symm)
      obtain ⟨hserving, hissued⟩ := hb
      refine ⟨?_, rfl, nofun⟩
      rw [Agrees, Site.withLock_lock, Turnstile.leave, if_neg (by omega)]
      exact ⟨by simp only; omega, hissued⟩

/-- A step of one job keeps the others in line. -/
theorem Lined.pass {before after : List Stance}
    (h : Lined (before ++ a :: after) s.connection) (hpass : Passes a a' s s') :
    Lined (before ++ a' :: after) s'.connection := by
  obtain ⟨⟨hordered, hagrees, hapart⟩, ha, hothers⟩ := lined_middle_iff.mp h
  have hother := fun b hb => hpass.other ha (hagrees b hb) (hothers b hb)
  obtain ⟨ha', hordered'⟩ := hpass.agrees hordered ha
  refine lined_middle_iff.mpr ⟨⟨hordered', fun b hb => (hother b hb).1, ?_⟩, ha', fun b hb =>
    (hother b hb).2.2⟩
  refine hapart.imp_of_mem fun {b d} hb hd hbd ticket hticket => ?_
  rw [(hother b hb).2.1] at hticket
  rw [(hother d hd).2.1]
  exact hbd ticket hticket

/-- A job that stands aside can join the line or go. -/
theorem lined_aside_iff {before after : List Stance} {c : Connection} :
    Lined (before ++ aside :: after) c ↔ Lined (before ++ after) c :=
  lined_middle_iff.trans ⟨And.left, fun h => ⟨h, trivial, fun _ _ => nofun⟩⟩

end Stance

/-! ### Routines that mind the lock -/

namespace Routine

open Stance (aside queued holding)

variable {α β : Type}

/-- A routine in a stance: aside it leaves the connection to others or joins the queue, and from the
queue on it goes through its turn until it leaves. -/
inductive Minds : Stance → Routine Site α → Prop
  | finish (result : α) : Minds aside (finish result)
  | bystand {β : Type} {step : Site → β × Site} {next : β → Routine Site α}
    (hstep : ∀ s : Site, s.Bystands (step s).2) (hnext : ∀ b, Minds aside (next b)) :
    Minds aside (act step next)
  | await (wait : Wait) {next : Routine Site α} (hnext : Minds aside next) :
    Minds aside (await wait next)
  | enter {rest : Routine Site α} (hrest : ∀ s : Site, Minds (holding s.connection) rest) :
    Minds aside (queue rest)
  | queued (ticket : Nat) {rest : Routine Site α}
    (hrest : ∀ s : Site, Minds (holding s.connection) rest) :
    Minds (queued ticket) (hold (fun s => s.connection.lock.admits ticket) rest)
  | work {c : Connection} {β : Type} {step : Site → β × Site} {next : β → Routine Site α}
    (hstep : ∀ s : Site, s.connection.bare = c.bare → s.Handles (step s).2)
    (hnext : ∀ s : Site, s.connection.bare = c.bare →
      Minds (holding (step s).2.connection) (next (step s).1)) :
    Minds (holding c) (act step next)
  | pause {c : Connection} (wait : Wait) {next : Routine Site α}
    (hnext : ∀ s : Site, s.connection.bare = c.bare → Minds (holding s.connection) next) :
    Minds (holding c) (.await wait next)
  | turn {c : Connection} {ready : Site → Bool} {next : Routine Site α}
    (hnext : ∀ s : Site, s.connection.bare = c.bare → Minds (holding s.connection) next) :
    Minds (holding c) (hold ready next)
  | leave {c : Connection} {next : Unit → Routine Site α} (hnext : Minds aside (next ())) :
    Minds (holding c) (act (fun s => ((), s.withLock s.connection.lock.leave)) next)

/-- The next step of a routine leads it from its stance to another one. -/
theorem Minds.next {a : Stance} {r r' : Routine Site α} {s s' : Site} (h : r.Minds a)
    (ha : a.Agrees s.connection) (hnext : r.next? s = some (r', s')) :
    ∃ a', r'.Minds a' ∧ Stance.Passes a a' s s' := by
  cases h with
  | finish result => exact absurd hnext nofun
  | bystand hstep hrest =>
    obtain ⟨rfl, rfl⟩ := Prod.mk.inj (Option.some.inj hnext)
    exact ⟨aside, hrest _, .aside (hstep s)⟩
  | await wait hrest =>
    obtain ⟨rfl, rfl⟩ := Prod.mk.inj (Option.some.inj hnext)
    exact ⟨aside, hrest, .aside (.refl _)⟩
  | enter hrest =>
    obtain ⟨rfl, rfl⟩ := Prod.mk.inj (Option.some.inj hnext)
    exact ⟨_, .queued _ hrest, .enter s⟩
  | queued ticket hrest =>
    obtain ⟨hready, hnext⟩ := Option.ite_none_right_eq_some.mp hnext
    obtain ⟨rfl, rfl⟩ := Prod.mk.inj (Option.some.inj hnext)
    exact ⟨_, hrest _, .serve hready⟩
  | work hstep hrest =>
    obtain ⟨rfl, rfl⟩ := Prod.mk.inj (Option.some.inj hnext)
    exact ⟨_, hrest s ha.1, .work (hstep s ha.1)⟩
  | pause wait hrest =>
    obtain ⟨rfl, rfl⟩ := Prod.mk.inj (Option.some.inj hnext)
    exact ⟨_, hrest s ha.1, .work (.refl s)⟩
  | turn hrest =>
    obtain ⟨-, hnext⟩ := Option.ite_none_right_eq_some.mp hnext
    obtain ⟨rfl, rfl⟩ := Prod.mk.inj (Option.some.inj hnext)
    exact ⟨_, hrest s ha.1, .work (.refl s)⟩
  | leave hrest =>
    obtain ⟨rfl, rfl⟩ := Prod.mk.inj (Option.some.inj hnext)
    exact ⟨aside, hrest, .leave _ s⟩

theorem Minds.bind {a : Stance} {r : Routine Site α} {k : α → Routine Site β} (h : r.Minds a)
    (hk : ∀ result, (k result).Minds aside) : (r.bind k).Minds a := by
  induction h with
  | finish result => exact hk result
  | bystand hstep hnext ih => exact .bystand hstep ih
  | await wait hnext ih => exact .await wait ih
  | enter hrest ih => exact .enter ih
  | queued ticket hrest ih => exact .queued ticket ih
  | work hstep hnext ih => exact .work hstep ih
  | pause wait hnext ih => exact .pause wait ih
  | turn hnext ih => exact .turn ih
  | leave hnext ih => exact .leave ih

/-- What is assured under the lock is done while holding it. -/
theorem Assures.minds {post : α → Site → Prop} {r : Routine Site α} {k : α → Routine Site β}
    {s : Site} (h : r.Assures Site.Leaves Site.Handles post s)
    (hk : ∀ result c, (k result).Minds (holding c)) : (r.bind k).Minds (holding s.connection) := by
  induction r generalizing s with
  | finish result => exact hk result _
  | act step next ih =>
    exact .work (fun s' hs => (h s' hs).1) fun s' hs => ih _ (h s' hs).2
  | await wait next ih => exact .pause wait fun s' hs => ih (h s' hs)
  | hold ready next ih => exact .turn fun s' hs => ih (h s' hs)

end Routine

end LaunchIndex
