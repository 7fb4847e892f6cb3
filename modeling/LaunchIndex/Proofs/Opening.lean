import Mathlib.Data.List.Infix
import LaunchIndex.Proofs.Trial

/-! Opening a connection with retries. What each attempt to connect would meet is a sequence of
outcomes. Opening goes through the transient ones, with a pause after each, until the first
outcome that is not transient or until the policy is used up. -/

namespace LaunchIndex

/-! ### Transient errors -/

theorem Text.contains_iff (needle t : Text) : Text.contains needle t = true ↔ needle <:+: t := by
  induction t with
  | nil => simp [Text.contains]
  | cons c rest ih =>
    rw [Text.contains, Bool.or_eq_true, List.isPrefixOf_iff_prefix, ih, List.infix_cons_iff]

namespace StoreError

/-- The code of the error, if there is one, is an integer. -/
def IsCoded (e : StoreError) : Prop :=
  e.code = none ∨ e.code = some .null ∨ ∃ n, e.code = some (.int n)

/-- The error tells of a busy database: by the low byte of its code, or without a code by a phrase
in its message. -/
def IsBusy (e : StoreError) : Prop :=
  (∃ n, e.code = some (.int n) ∧ (n % 256 = 5 ∨ n % 256 = 6)) ∨
    ((e.code = none ∨ e.code = some .null) ∧
      ∃ phrase ∈ (["database is locked", "database is busy", "database table is locked",
        "database schema is locked"] : List Text), phrase <:+: Text.lower e.message)

theorem exists_isTransient {e : StoreError} (h : e.IsCoded) :
    ∃ b, e.isTransient = .ok b ∧ (b = true ↔ e.IsBusy) := by
  obtain ⟨kind, message, code⟩ := e
  have hphrases : (busyPhrases.any fun phrase => Text.contains phrase (Text.lower message)) =
      true ↔ ∃ phrase ∈ busyPhrases, phrase <:+: Text.lower message := by
    simp only [List.any_eq_true, Text.contains_iff]
  rcases h with rfl | rfl | ⟨n, rfl⟩
  · exact ⟨_, rfl, hphrases.trans (by simp [IsBusy, busyPhrases])⟩
  · exact ⟨_, rfl, hphrases.trans (by simp [IsBusy, busyPhrases])⟩
  · exact ⟨_, rfl, by simp [IsBusy]⟩

theorem IsBusy.isTransient {e : StoreError} (h : e.IsBusy) : e.isTransient = .ok true := by
  have hcoded : e.IsCoded := by
    rcases h with ⟨n, hn, -⟩ | ⟨hn | hn, -⟩
    · exact .inr (.inr ⟨n, hn⟩)
    · exact .inl hn
    · exact .inr (.inl hn)
  obtain ⟨b, hb, hiff⟩ := exists_isTransient hcoded
  rw [hb, hiff.mpr h]

theorem IsCoded.isTransient_of_not_isBusy {e : StoreError} (h : e.IsCoded) (hbusy : ¬e.IsBusy) :
    e.isTransient = .ok false := by
  obtain ⟨b, hb, hiff⟩ := exists_isTransient h
  rw [hb, Bool.eq_false_iff.mpr fun hb => hbusy (hiff.mp hb)]

end StoreError

/-! ### Attempts and pauses -/

/-- How often connecting has been attempted, and the pauses in seconds, in order. -/
structure Tally where
  attempts : Nat := 0
  pauses : List Binary64 := []

/-- Only attempts and pauses count. -/
def Tally.add (t : Tally) : Happening → Tally
  | .attempted _ _ => { t with attempts := t.attempts + 1 }
  | .slept seconds => { t with pauses := t.pauses ++ [seconds] }
  | _ => t

namespace World

def tally (w : World) : Tally := w.trace.foldl Tally.add {}

@[simp] theorem tally_happen (h : Happening) (w : World) :
    (w.happen h).tally = w.tally.add h := by
  simp [tally, happen]

@[simp] theorem tally_log (e : Event) (w : World) : (w.log e).tally = w.tally := tally_happen _ w

@[simp] theorem tally_sleep (seconds : Binary64) (w : World) :
    (w.sleep seconds).tally = w.tally.add (.slept seconds) := tally_happen _ _

@[simp] theorem tally_openHandle (target : Target) (w : World) :
    (w.openHandle target).2.tally = w.tally := tally_happen _ _

@[simp] theorem tally_use (h : Handle) (inquiry : Inquiry) (w : World) :
    (w.use h inquiry).tally = w.tally := tally_happen (.used h.number) w

end World

namespace Site

theorem released_tally (s : Site) : s.released.world.tally = s.world.tally := by
  rcases s.released_eq with ⟨-, hr⟩ | ⟨h, -, hr⟩
  · rw [hr]; rfl
  · rcases s.detach.2.closeHandle_eq h with hc | ⟨fault, hc⟩ <;> rw [hr, hc] <;>
      simp [mapWorld, detach, mapConnection, Tally.add]

theorem connect_tally (attempt : Attempt) (s : Site) :
    (s.connect attempt).2.world.tally = s.world.tally := by
  rcases s.connect_eq attempt with ⟨_, h⟩ | ⟨_, h⟩ | ⟨_, _, h⟩ <;> rw [h] <;>
    simp [mapWorld, Tally.add]

theorem trial_tally (s : Site) :
    s.trial.2.world.tally = { s.world.tally with attempts := s.world.tally.attempts + 1 } := by
  rw [trial_eq, connect_tally, noted, World.tally_happen, released_tally]
  rfl

end Site

/-- The seconds of the pause before a retry, counted from zero. -/
def Policy.seconds (p : Policy) (retry : Nat) : Binary64 :=
  ((Binary64.ofInt? (p.delay retry)).getD (Binary64.zero false)).divNat 1000

namespace Site

/-- The site after a trial that met a transient error, and the pause before the retry. -/
def afterBusy (p : Policy) (retry : Nat) (s : Site) : Site :=
  s.trial.2.mapWorld fun w =>
    (w.log (Event.busy (retry + 1) p.givenAttempts)).sleep (p.seconds retry)

/-- The site after some more retries, of which the first has a number. -/
def afterRetries (p : Policy) : Nat → Site → Nat → Site
  | _, s, 0 => s
  | retry, s, k + 1 => afterRetries p (retry + 1) (s.afterBusy p retry) k

/-- The tally when one attempt and some retries, of which the first has a number, are over. -/
def tallied (p : Policy) (retry : Nat) (s : Site) (k : Nat) : Tally where
  attempts := s.world.tally.attempts + (k + 1)
  pauses := s.world.tally.pauses ++ (List.range k).map fun j => p.seconds (retry + j)

/-- An attempt alone is one without retries. -/
theorem trial_tallied (p : Policy) (retry : Nat) (s : Site) :
    s.trial.2.world.tally = s.tallied p retry 0 := by
  rw [trial_tally]
  simp [tallied]

/-- A busy attempt is an attempt and a pause. -/
theorem tallied_afterBusy (p : Policy) (retry : Nat) (s : Site) (k : Nat) :
    (s.afterBusy p retry).tallied p (retry + 1) k = s.tallied p retry (k + 1) := by
  have htally : (s.afterBusy p retry).world.tally =
      ⟨s.world.tally.attempts + 1, s.world.tally.pauses ++ [p.seconds retry]⟩ := by
    simp [afterBusy, mapWorld, trial_tally, Tally.add]
  have hshift : ∀ j, retry + 1 + j = retry + (j + 1) := fun j => by omega
  rw [tallied, tallied, htally, List.range_succ_eq_map, List.map_cons, List.map_map]
  simp only [Function.comp_def, hshift, List.append_assoc, List.singleton_append, Nat.add_zero,
    Nat.succ_eq_add_one, Tally.mk.injEq, and_true]
  omega

end Site

namespace Connection

variable {s : Site} {path : Text} {p : Policy} {last : Option StoreError} {n left : Nat}

theorem exec_attempts_zero : Task.exec (attempts path p last n 0) s =
    (.error (.unavailable path p.givenAttempts last),
      s.mapWorld (World.log (Event.unavailable path p.givenAttempts))) := rfl

theorem exec_attempts_succ : Task.exec (attempts path p last (n + 1) (left + 1)) s =
    match s.trial.1 with
    | .ok h => (.ok (), (s.trial.2.attach h).mapWorld (World.log (Event.opened path (n + 1))))
    | .error (.store e) =>
      match e.isTransient with
      | .ok true =>
        Task.exec (if 0 < left then do pause p (n + 1); attempts path p (some e) (n + 2) left
            else attempts path p (some e) (n + 2) left)
          (s.trial.2.mapWorld (World.log (Event.busy (n + 1) p.givenAttempts)))
      | .ok false =>
        (.error (.openFailed path e), s.trial.2.mapWorld (World.log (Event.openFailed path e)))
      | .error fault => (.error fault, s.trial.2)
    | .error fault => (.error fault, s.trial.2) := by
  have htrial : Site.connect (release.run s).2.nextAttempt.1 (release.run s).2.nextAttempt.2 =
    s.trial := rfl
  rw [attempts]
  simp only [Task.exec_bind, Task.exec_lift, Routine.run_step, Routine.run_waitFor, htrial]
  rcases s.trial.1 with fault | h
  · cases fault with
    | store e =>
      simp only [Task.exec_bind, Task.exec_mk, Routine.run_pure]
      rcases e.isTransient with fault | ⟨_ | _⟩ <;> rfl
    | _ => rfl
  · rfl

theorem exec_attempts_ok {h : Handle} (ht : s.trial.1 = .ok h) :
    Task.exec (attempts path p last (n + 1) (left + 1)) s =
      (.ok (), (s.trial.2.attach h).mapWorld (World.log (Event.opened path (n + 1)))) := by
  rw [exec_attempts_succ, ht]

theorem exec_attempts_fatal {e : StoreError} (ht : s.trial.1 = .error (.store e))
    (he : e.isTransient = .ok false) :
    Task.exec (attempts path p last (n + 1) (left + 1)) s =
      (.error (.openFailed path e),
        s.trial.2.mapWorld (World.log (Event.openFailed path e))) := by
  rw [exec_attempts_succ, ht]
  simp only [he]

theorem exec_attempts_foreign {fault : Fault} (ht : s.trial.1 = .error fault)
    (hf : ∀ e, fault ≠ .store e) :
    Task.exec (attempts path p last (n + 1) (left + 1)) s = (.error fault, s.trial.2) := by
  rw [exec_attempts_succ, ht]
  cases fault with
  | store e => exact absurd rfl (hf e)
  | _ => rfl

theorem exec_pause (hd : (Binary64.ofInt? (p.delay n)).isSome) :
    Task.exec (pause p (n + 1)) s = (.ok (), s.mapWorld (World.sleep (p.seconds n))) := by
  obtain ⟨ms, hms⟩ := Option.isSome_iff_exists.mp hd
  have hretry : ((n + 1 : Nat) : Int) - 1 = n := by omega
  have hseconds : p.seconds n = ms.divNat 1000 := by rw [Policy.seconds, hms]; rfl
  simp only [pause, hretry, hms, hseconds, Task.exec_bind, Task.exec_lift, Routine.run_update,
    Routine.run_waitFor]

theorem exec_pause_none (hd : Binary64.ofInt? (p.delay n) = none) :
    Task.exec (pause p (n + 1)) s = (.error Fault.integerTooLargeForReal, s) := by
  have hretry : ((n + 1 : Nat) : Int) - 1 = n := by omega
  simp only [pause, hretry, hd]
  rfl

theorem exec_attempts_busy {e : StoreError} (ht : s.trial.1 = .error (.store e))
    (he : e.isTransient = .ok true) (hd : (Binary64.ofInt? (p.delay n)).isSome) :
    Task.exec (attempts path p last (n + 1) (left + 2)) s =
      Task.exec (attempts path p (some e) (n + 2) (left + 1)) (s.afterBusy p n) := by
  rw [exec_attempts_succ, ht]
  simp only [he, Nat.succ_pos, ↓reduceIte, Task.exec_bind, exec_pause hd]
  rfl

theorem exec_attempts_last {e : StoreError} (ht : s.trial.1 = .error (.store e))
    (he : e.isTransient = .ok true) :
    Task.exec (attempts path p last (n + 1) 1) s =
      (.error (.unavailable path p.givenAttempts (some e)),
        s.trial.2.mapWorld fun w => (w.log (Event.busy (n + 1) p.givenAttempts)).log
          (Event.unavailable path p.givenAttempts)) := by
  rw [exec_attempts_succ, ht]
  simp only [he, lt_irrefl, ↓reduceIte, exec_attempts_zero]
  rfl

/-- An outcome of an attempt that is worth a retry. -/
def Transient (outcome : Outcome Handle) : Prop := ∃ e, outcome = .error (.store e) ∧ e.IsBusy

/-- How opening ends at an outcome that is not transient. -/
structure Settled (path : Text) (outcome : Outcome Handle) (ended : Outcome Unit × Site) :
    Prop where
  bound : ∀ h, outcome = .ok h → ended.1 = .ok () ∧ ended.2.connection.handle = some h ∧
    ended.2.connection.connected = true
  fatal : ∀ e, outcome = .error (.store e) → ended.1 = .error (.openFailed path e) ∧
    e.message <:+ (Fault.openFailed path e).message
  foreign : ∀ fault, outcome = .error fault → (∀ e, fault ≠ .store e) → ended.1 = .error fault
  unbound : ∀ fault, outcome = .error fault → ended.2.connection.handle = none

/-- The message of a failure ends with that of its cause. -/
theorem message_suffix (path : Text) (e : StoreError) :
    e.message <:+ (Fault.openFailed path e).message := by
  unfold Fault.message
  exact List.suffix_append _ _

/-- The first attempt is the last if its outcome is not transient. -/
theorem settled_of_not_transient (hcoded : ∀ e, s.trial.1 = .error (.store e) → e.IsCoded)
    (ht : ¬Transient s.trial.1) :
    Settled path s.trial.1 (Task.exec (attempts path p last (n + 1) (left + 1)) s) ∧
      (Task.exec (attempts path p last (n + 1) (left + 1)) s).2.world.tally =
        s.tallied p n 0 := by
  have htally := s.trial_tallied p n
  rcases houtcome : s.trial.1 with fault | h
  · have hhandle : s.trial.2.connection.handle = none := by rw [Site.trial_connection]
    by_cases hf : ∃ e, fault = .store e
    · obtain ⟨e, rfl⟩ := hf
      have he := (hcoded e houtcome).isTransient_of_not_isBusy fun hb => ht ⟨e, houtcome, hb⟩
      rw [exec_attempts_fatal houtcome he]
      refine ⟨⟨fun _ heq => absurd heq (by simp), ?_, ?_, fun _ _ => hhandle⟩,
        (World.tally_log _ _).trans htally⟩
      · rintro e' heq
        obtain rfl : e = e' := by simpa using heq
        exact ⟨rfl, message_suffix path e⟩
      · rintro fault heq hne
        exact absurd (Except.error.inj heq).symm (hne e)
    · push Not at hf
      rw [exec_attempts_foreign houtcome hf]
      refine ⟨⟨fun _ heq => absurd heq (by simp), ?_, ?_, fun _ _ => hhandle⟩, htally⟩
      · rintro e heq
        exact absurd (Except.error.inj heq) (hf e)
      · rintro fault' heq -
        rw [Except.error.inj heq]
  · rw [exec_attempts_ok houtcome]
    refine ⟨⟨?_, nofun, nofun, nofun⟩, (World.tally_log _ _).trans htally⟩
    rintro h' heq
    obtain rfl := Except.ok.inj heq
    exact ⟨rfl, rfl, rfl⟩

/-- Opening goes through transient outcomes up to the first other one. -/
theorem settled_of_first (k : Nat) (hk : k < left)
    (htransient : ∀ j < k, Transient (s.afterRetries p n j).trial.1)
    (hlast : ¬Transient (s.afterRetries p n k).trial.1)
    (hcoded : ∀ e, (s.afterRetries p n k).trial.1 = .error (.store e) → e.IsCoded)
    (hdelays : ∀ j < k, (Binary64.ofInt? (p.delay (n + j : Nat))).isSome) :
    Settled path (s.afterRetries p n k).trial.1
        (Task.exec (attempts path p last (n + 1) left) s) ∧
      (Task.exec (attempts path p last (n + 1) left) s).2.world.tally = s.tallied p n k := by
  induction k generalizing n s last left with
  | zero =>
    obtain ⟨left, rfl⟩ := Nat.exists_eq_add_of_lt hk
    rw [Nat.zero_add]
    simpa [Site.afterRetries] using settled_of_not_transient hcoded hlast
  | succ k ih =>
    obtain ⟨left, rfl⟩ : ∃ m, left = m + 2 := ⟨left - 2, by omega⟩
    obtain ⟨e, houtcome, hbusy⟩ := htransient 0 (Nat.succ_pos k)
    have hstep : Task.exec (attempts path p last (n + 1) (left + 2)) s = _ :=
      exec_attempts_busy houtcome hbusy.isTransient (hdelays 0 (Nat.succ_pos k))
    have hshift : ∀ j, n + 1 + j = n + (j + 1) := fun j => by omega
    have hk : k < left + 1 := by omega
    rw [hstep]
    obtain ⟨hsettled, htally⟩ := ih hk (fun j hj => htransient (j + 1) (by omega)) hlast
      hcoded fun j hj => (hshift j) ▸ hdelays (j + 1) (by omega)
    exact ⟨hsettled, htally.trans (s.tallied_afterBusy p n k)⟩

/-- Opening gives up when the last attempt has met a transient error too. -/
theorem exhausted_of_transient (htransient : ∀ j ≤ left, Transient (s.afterRetries p n j).trial.1)
    (hdelays : ∀ j < left, (Binary64.ofInt? (p.delay (n + j : Nat))).isSome) :
    ∃ e, (s.afterRetries p n left).trial.1 = .error (.store e) ∧
      (Task.exec (attempts path p last (n + 1) (left + 1)) s).1 =
        .error (.unavailable path p.givenAttempts (some e)) ∧
      (Task.exec (attempts path p last (n + 1) (left + 1)) s).2.connection.handle = none ∧
      (Task.exec (attempts path p last (n + 1) (left + 1)) s).2.world.tally =
        s.tallied p n left := by
  induction left generalizing n s last with
  | zero =>
    obtain ⟨e, houtcome, hbusy⟩ := htransient 0 le_rfl
    have hstep : Task.exec (attempts path p last (n + 1) 1) s = _ :=
      exec_attempts_last houtcome hbusy.isTransient
    refine ⟨e, houtcome, ?_⟩
    rw [hstep]
    refine ⟨rfl, ?_, ?_⟩
    · change s.trial.2.connection.handle = none
      rw [Site.trial_connection]
    · simp [Site.mapWorld, Site.trial_tally, Site.tallied]
  | succ left ih =>
    obtain ⟨e, houtcome, hbusy⟩ := htransient 0 (Nat.zero_le _)
    have hstep : Task.exec (attempts path p last (n + 1) (left + 2)) s = _ :=
      exec_attempts_busy houtcome hbusy.isTransient (hdelays 0 (Nat.succ_pos left))
    have hshift : ∀ j, n + 1 + j = n + (j + 1) := fun j => by omega
    rw [hstep, ← Site.tallied_afterBusy]
    exact ih (fun j hj => htransient (j + 1) (by omega))
      fun j hj => (hshift j) ▸ hdelays (j + 1) (by omega)

end Connection

/-! ### Opening -/

theorem Policy.of_eq_ok {attempts initial cap : Value} {p : Policy}
    (h : Policy.of attempts initial cap = .ok p) :
    p.givenAttempts = attempts ∧ attempts.toInteger = .ok p.attempts ∧
      initial.toInteger = .ok p.initial ∧ cap.toInteger = .ok p.cap := by
  unfold Policy.of at h
  obtain ⟨n, hn, h⟩ := Outcome.of_bind_eq_ok h
  split at h
  case isFalse => exact absurd h nofun
  obtain ⟨i, hi, h⟩ := Outcome.of_bind_eq_ok h
  split at h
  case isFalse => exact absurd h nofun
  obtain ⟨c, hc, h⟩ := Outcome.of_bind_eq_ok h
  split at h
  case isFalse => exact absurd h nofun
  obtain rfl := Except.ok.inj h
  exact ⟨rfl, hn, hi, hc⟩

theorem Policy.of_int {n i c : Int} {p : Policy}
    (h : Policy.of (.int n) (.int i) (.int c) = .ok p) :
    p.givenAttempts = .int n ∧ p.attempts = n := by
  obtain ⟨hgiven, hattempts, -⟩ := Policy.of_eq_ok h
  exact ⟨hgiven, (Except.ok.inj hattempts).symm⟩

namespace Site

variable {s : Site}

/-- What the attempts to open a connection would meet, one after another, if all before were
transient. -/
def outcomeAt (s : Site) (k : Nat) : Outcome Handle :=
  (s.afterRetries s.connection.policy 0 k).trial.1

theorem afterRetries_withLock (lock : Turnstile) (p : Policy) (retry : Nat) (s : Site) (k : Nat) :
    (s.withLock lock).afterRetries p retry k = (s.afterRetries p retry k).withLock lock := by
  induction k generalizing retry s with
  | zero => rfl
  | succ k ih =>
    have hbusy : (s.withLock lock).afterBusy p retry = (s.afterBusy p retry).withLock lock := by
      rw [afterBusy, trial_withLock]; rfl
    rw [afterRetries, hbusy]
    exact ih _ _

theorem afterRetries_script (p : Policy) (retry : Nat) (s : Site) (k : Nat) :
    (s.afterRetries p retry k).connection.script = s.connection.script.map (List.drop k) := by
  induction k generalizing retry s with
  | zero =>
    rw [afterRetries]
    cases s.connection.script <;> rfl
  | succ k ih =>
    have hbusy : (s.afterBusy p retry).connection.script =
        s.connection.script.map List.tail := by
      change s.trial.2.connection.script = _
      rw [trial_connection]
    rw [afterRetries, ih, hbusy, Option.map_map]
    simp [Function.comp_def]

theorem scripted_afterRetries {entries : List Attempt} {a : Attempt} {k : Nat} {p : Policy}
    {retry : Nat} (hscript : s.connection.script = some entries) (ha : entries[k]? = some a) :
    (s.afterRetries p retry k).scripted = a := by
  rw [scripted, afterRetries_script, hscript]
  simp [List.head?_drop, ha]

end Site

namespace Connection

variable {s : Site} {n i c : Int}

theorem Settled.withLock {path : Text} {outcome : Outcome Handle} {ended : Outcome Unit × Site}
    (h : Settled path outcome ended) (lock : Turnstile) :
    Settled path outcome (ended.1, ended.2.withLock lock) :=
  ⟨h.bound, h.fatal, h.foreign, h.unbound⟩

/-- Opening a connection that is not open goes through the attempts of its policy. -/
theorem exec_establish (hdestroyed : s.connection.destroyed = false)
    (hclosed : s.connection.isConnected = false)
    (hpolicy : Policy.of (.int n) (.int i) (.int c) = .ok s.connection.policy) :
    ∃ before after, Task.exec establish s =
      ((Task.exec (attempts s.connection.path s.connection.policy none 1 n.toNat)
          (s.withLock before)).1,
        (Task.exec (attempts s.connection.path s.connection.policy none 1 n.toNat)
          (s.withLock before)).2.withLock after) := by
  have hrounds : s.connection.policy.rounds = .ok n.toNat := by
    obtain ⟨hgiven, hattempts⟩ := Policy.of_int hpolicy
    rw [Policy.rounds, hgiven, hattempts]
  have hunlocked : ∀ lock, Task.exec establishUnlocked (s.withLock lock) =
      Task.exec (attempts s.connection.path s.connection.policy none 1 n.toNat)
        (s.withLock lock) := by
    intro lock
    have hdestroyed' : (s.withLock lock).connection.destroyed = false := hdestroyed
    have hclosed' : (s.withLock lock).connection.isConnected = false := hclosed
    have hrounds' : (s.withLock lock).connection.policy.rounds = .ok n.toNat := hrounds
    simp only [establishUnlocked, Task.exec_bind, Task.exec_lift, Routine.run_look, hdestroyed',
      hclosed', Bool.false_eq_true, ↓reduceIte, Task.exec_mk, Routine.run_pure, hrounds']
    rfl
  rw [establish, Task.exec_locked, hunlocked]
  exact ⟨_, _, rfl⟩

/-- Opening a connection that is not open makes attempts up to the first outcome that is not
transient, with the pauses of the policy in between, and ends as that outcome says. If all outcomes
up to the bound of the policy are transient, it gives up without a pause after the last. -/
theorem establish_settled (hdestroyed : s.connection.destroyed = false)
    (hclosed : s.connection.isConnected = false)
    (hpolicy : Policy.of (.int n) (.int i) (.int c) = .ok s.connection.policy)
    (hdelays : ∀ k : Nat, (k : Int) + 1 < n →
      (Binary64.ofInt? (s.connection.policy.delay k)).isSome)
    (hcoded : ∀ (k : Nat) e, (k : Int) < n → s.outcomeAt k = .error (.store e) → e.IsCoded) :
    let ended := Task.exec establish s
    let seconds := s.connection.policy.seconds
    let tally := s.world.tally
    (∀ k : Nat, (k : Int) < n → ¬Transient (s.outcomeAt k) →
      (∀ j < k, Transient (s.outcomeAt j)) →
        Settled s.connection.path (s.outcomeAt k) ended ∧
        ended.2.world.tally =
          ⟨tally.attempts + (k + 1), tally.pauses ++ (List.range k).map seconds⟩) ∧
    ((∀ k : Nat, (k : Int) < n → Transient (s.outcomeAt k)) →
      (∃ e, s.outcomeAt (n.toNat - 1) = .error (.store e) ∧
        ended.1 = .error (.unavailable s.connection.path (.int n) (some e))) ∧
      ended.2.connection.handle = none ∧
      ended.2.world.tally =
        ⟨tally.attempts + n.toNat, tally.pauses ++ (List.range (n.toNat - 1)).map seconds⟩) ∧
    (∀ entries a (k : Nat), s.connection.script = some entries → entries[k]? = some a →
      (∀ fault, a = .fails fault → s.outcomeAt k = .error fault) ∧
      ∀ t, a = .standIn t → ∃ number, s.outcomeAt k = .ok ⟨number, .standIn t⟩) := by
  obtain ⟨before, after, hended⟩ := exec_establish hdestroyed hclosed hpolicy
  obtain ⟨hgiven, hattempts⟩ := Policy.of_int hpolicy
  have hpositive : 1 ≤ n := hattempts ▸ s.connection.policy.one_le_attempts
  have houtcome : ∀ k, ((s.withLock before).afterRetries s.connection.policy 0 k).trial.1 =
      s.outcomeAt k := by
    intro k
    rw [Site.afterRetries_withLock, Site.trial_withLock, Site.outcomeAt]
  have hdelay : ∀ k : Nat, (k : Int) + 1 < n →
      (Binary64.ofInt? (s.connection.policy.delay (0 + k : Nat))).isSome := by
    intro k hk
    rw [Nat.zero_add]
    exact hdelays k hk
  intro ended seconds tally
  refine ⟨fun k hk hlast hfirst => ?_, fun hall => ?_, fun entries a k hscript ha => ⟨?_, ?_⟩⟩
  · have hk' : k < n.toNat := by omega
    rw [← houtcome] at hlast ⊢
    obtain ⟨hsettled, htally⟩ := settled_of_first k hk'
      (fun j hj => (houtcome j).symm ▸ hfirst j hj) hlast
      (fun e he => hcoded k e hk (houtcome k ▸ he)) (fun j hj => hdelay j (by omega))
    rw [show ended = _ from hended]
    refine ⟨hsettled.withLock after, htally.trans ?_⟩
    simp only [Site.tallied, Nat.zero_add]
    rfl
  · obtain ⟨m, hm⟩ : ∃ m, n.toNat = m + 1 := ⟨n.toNat - 1, by omega⟩
    obtain ⟨e, he, hgave, hhandle, htally⟩ := exhausted_of_transient
      (fun j (hj : j ≤ m) => (houtcome j).symm ▸ hall j (by omega))
      (fun j hj => hdelay j (by omega))
    rw [show ended = _ from hended, hm]
    refine ⟨⟨e, (houtcome m).symm.trans he, hgiven ▸ hgave⟩, hhandle, htally.trans ?_⟩
    simp only [Site.tallied, Nat.zero_add]
    rfl
  · rintro fault rfl
    exact Site.trial_of_fails (Site.scripted_afterRetries hscript ha)
  · rintro t rfl
    exact Site.trial_of_standIn (Site.scripted_afterRetries hscript ha)

def busyOnce : Site where
  connection :=
    { path := "/index", policy := ⟨.int 2, .int 100, .int 1600, 2, 100, 1600, by decide, by decide,
        by decide⟩,
      busyTimeout := Binary64.zero false,
      script := some [.fails (.store StoreError.locked), .standIn {}] }
  world := { environment := ⟨[], "/", [], "/"⟩ }

theorem establish_settled_busyOnce :
    (Task.exec establish busyOnce).1 = .ok () ∧
      (Task.exec establish busyOnce).2.world.tally =
        ⟨2, [busyOnce.connection.policy.seconds 0]⟩ := by
  have hfirst : busyOnce.outcomeAt 0 = .error (.store StoreError.locked) :=
    Site.trial_of_fails rfl
  obtain ⟨number, hsecond⟩ : ∃ number, busyOnce.outcomeAt 1 = .ok ⟨number, .standIn {}⟩ :=
    Site.trial_of_standIn rfl
  have hbusy : StoreError.locked.IsBusy := .inl ⟨5, rfl, .inl rfl⟩
  obtain ⟨hsettled, -⟩ := establish_settled (s := busyOnce) (n := 2) (i := 100) (c := 1600)
    rfl rfl rfl
    (by
      intro k hk
      obtain rfl : k = 0 := by omega
      decide)
    (by
      intro k e hk he
      obtain rfl | rfl : k = 0 ∨ k = 1 := by omega
      · rw [hfirst] at he
        obtain rfl : StoreError.locked = e := by simpa using he
        exact .inr (.inr ⟨5, rfl⟩)
      · rw [hsecond] at he
        exact absurd he (by simp))
  obtain ⟨hend, htally⟩ := hsettled 1 (by decide) (by rw [hsecond]; rintro ⟨e, he, -⟩; simp at he)
    (by
      intro j hj
      obtain rfl : j = 0 := by omega
      exact ⟨_, hfirst, hbusy⟩)
  exact ⟨(hend.bound _ hsecond).1, htally⟩

end Connection

end LaunchIndex
