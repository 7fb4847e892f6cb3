import LaunchIndex.Proofs.Ledger
import LaunchIndex.Proofs.Opening
import LaunchIndex.Proofs.Queries

/-! The handle of a connection and the trace. In a balanced site a ledger accepts the trace and
has open just the handle that the connection holds; a connection counts as connected exactly if it
holds a handle, and holds none once it is destroyed. Each step of a connection keeps the balance,
and so does each operation. -/

namespace LaunchIndex

/-- The site agrees with a ledger of its trace, handles being numbered from `first`. -/
structure Site.Balanced (first : Nat) (s : Site) : Prop where
  accounts : Ledger.run { next := first } s.world.trace =
    some ⟨s.connection.handle.map (·.number), s.world.nextHandle⟩
  connected : s.connection.connected = s.connection.handle.isSome
  destroyed : s.connection.destroyed = true → s.connection.handle = none

namespace Site.Balanced

variable {first : Nat} {s s' : Site}

theorem isConnected (h : s.Balanced first) :
    s.connection.isConnected = s.connection.handle.isSome := by
  rw [Connection.isConnected, h.connected, Bool.and_self]

/-- Only the connection, the trace and the next number matter. -/
theorem of_eq (h : s.Balanced first) (hc : s'.connection = s.connection)
    (ht : s'.world.trace = s.world.trace) (hn : s'.world.nextHandle = s.world.nextHandle) :
    s'.Balanced first := by
  obtain ⟨haccounts, hconnected, hdestroyed⟩ := h
  exact ⟨by rw [ht, hc, hn, haccounts], by rw [hc, hconnected], by rwa [hc]⟩

theorem withLock (h : s.Balanced first) (lock : Turnstile) : (s.withLock lock).Balanced first :=
  ⟨h.accounts, h.connected, h.destroyed⟩

/-- An entry that a ledger with the handle of the connection takes as it is. -/
theorem happen {e : Happening} (h : s.Balanced first)
    (he : Ledger.enter ⟨s.connection.handle.map (·.number), s.world.nextHandle⟩ e =
      some ⟨s.connection.handle.map (·.number), s.world.nextHandle⟩) :
    (s.mapWorld (World.happen e)).Balanced first where
  accounts := by
    change Ledger.run _ (s.world.trace ++ [e]) = _
    rw [Ledger.run_concat, h.accounts]
    exact he
  connected := h.connected
  destroyed := h.destroyed

theorem log (h : s.Balanced first) (e : Event) : (s.mapWorld (World.log e)).Balanced first :=
  h.happen rfl

theorem sleep (h : s.Balanced first) (seconds : Binary64) :
    (s.mapWorld (World.sleep seconds)).Balanced first :=
  (h.happen (e := .slept seconds) rfl).of_eq rfl rfl rfl

/-! ### The handle -/

theorem released (h : s.Balanced first) : s.released.Balanced first := by
  rcases s.released_eq with ⟨hnone, hr⟩ | ⟨handle, hsome, hr⟩
  · rw [hr]
    have haccounts := h.accounts
    rw [hnone] at haccounts
    exact ⟨haccounts, rfl, fun _ => rfl⟩
  · have hclosed : (s.detach.2.mapWorld (World.happen (.closed handle.number))).Balanced first := by
      refine ⟨?_, rfl, fun _ => rfl⟩
      change Ledger.run _ (s.world.trace ++ [_]) = _
      rw [Ledger.run_concat, h.accounts, hsome]
      exact if_pos rfl
    rw [hr]
    rcases s.detach.2.closeHandle_eq handle with hc | ⟨fault, hc⟩
    · rw [hc]; exact hclosed
    · rw [hc]; exact hclosed.log _

theorem noted (h : s.Balanced first) (hnone : s.connection.handle = none) :
    s.noted.Balanced first where
  accounts := by
    change Ledger.run _ (s.world.trace ++ [_]) = _
    rw [Ledger.run_concat, h.accounts]
    exact if_pos (by rw [hnone]; rfl)
  connected := h.connected
  destroyed := h.destroyed

theorem run_openHandle (h : s.Balanced first) (hnone : s.connection.handle = none)
    (target : Target) :
    Ledger.run { next := first } (s.world.openHandle target).2.trace =
      some ⟨some s.world.nextHandle, s.world.nextHandle + 1⟩ := by
  change Ledger.run _ (s.world.trace ++ [_]) = _
  rw [Ledger.run_concat, h.accounts, hnone]
  exact if_pos ⟨rfl, rfl⟩

/-- A failing attempt keeps the balance; a handle must be attached to keep it. -/
theorem connect (h : s.Balanced first) (hnone : s.connection.handle = none)
    (hd : s.connection.destroyed = false) (attempt : Attempt) :
    (∀ fault, (s.connect attempt).1 = .error fault → (s.connect attempt).2.Balanced first) ∧
      ∀ handle, (s.connect attempt).1 = .ok handle →
        ((s.connect attempt).2.attach handle).Balanced first := by
  rcases s.connect_eq attempt with ⟨fault, hc⟩ | ⟨target, hc⟩ | ⟨target, e, hc⟩ <;> rw [hc]
  · exact ⟨fun _ _ => h, fun _ heq => absurd heq (by simp)⟩
  · refine ⟨nofun, ?_⟩
    rintro handle heq
    obtain rfl := Except.ok.inj heq
    exact ⟨h.run_openHandle hnone target, rfl, fun hd' => absurd (hd.symm.trans hd') (by simp)⟩
  · refine ⟨fun _ _ => ⟨?_, h.connected, h.destroyed⟩, fun _ heq => absurd heq (by simp)⟩
    change Ledger.run _ ((s.world.openHandle target).2.trace ++ [_]) =
      some ⟨s.connection.handle.map _, _⟩
    rw [Ledger.run_concat, h.run_openHandle hnone, hnone]
    exact if_pos rfl

/-- A trial keeps the balance if it fails, and else once its handle is attached. -/
theorem trial (h : s.Balanced first) (hd : s.connection.destroyed = false) :
    (∀ fault, s.trial.1 = .error fault → s.trial.2.Balanced first) ∧
      ∀ handle, s.trial.1 = .ok handle → (s.trial.2.attach handle).Balanced first := by
  have hnone : s.released.connection.handle = none := by rw [released_connection]
  have hd' : s.released.connection.destroyed = false := by rw [released_connection]; exact hd
  rw [trial_eq]
  exact (h.released.noted hnone).connect hnone hd' _

end Site.Balanced

theorem Site.outlasting_balanced (first : Nat) : Outlasting (Balanced first) where
  lock _ lock h := h.withLock lock
  used s handle inquiry h hh := by
    have hused : (s.mapWorld (World.happen (.used handle.number))).Balanced first :=
      h.happen (by rw [hh]; exact if_pos rfl)
    exact ⟨hused.accounts, hused.connected, hused.destroyed⟩
  log _ e h := h.log e

/-! ### Tasks -/

namespace Connection

variable {first : Nat} {s : Site} {path : Text} {p : Policy} {last : Option StoreError}
  {n left : Nat}

theorem exec_pause_eq (p : Policy) (attempt : Nat) (s : Site) :
    (∃ fault, Task.exec (pause p attempt) s = (.error fault, s)) ∨
      ∃ seconds, Task.exec (pause p attempt) s = (.ok (), s.mapWorld (World.sleep seconds)) := by
  rcases hms : Binary64.ofInt? (p.delay (attempt - 1)) with _ | ms
  · exact .inl ⟨_, by simp only [pause, hms]; rfl⟩
  · exact .inr ⟨_, by simp only [pause, hms]; rfl⟩

/-- The attempts keep the balance, and without success there is no handle. -/
theorem balanced_attempts (h : s.Balanced first) (hd : s.connection.destroyed = false)
    (hnone : s.connection.handle = none) :
    (Task.exec (attempts path p last (n + 1) left) s).2.Balanced first ∧
      ∀ fault, (Task.exec (attempts path p last (n + 1) left) s).1 = .error fault →
        (Task.exec (attempts path p last (n + 1) left) s).2.connection.handle = none := by
  induction left generalizing n s last with
  | zero =>
    rw [exec_attempts_zero]
    exact ⟨h.log _, fun _ _ => hnone⟩
  | succ left ih =>
    obtain ⟨hfailed, hfound⟩ := h.trial hd
    have hnone' : s.trial.2.connection.handle = none := by rw [Site.trial_connection]
    rcases ht : s.trial.1 with fault | handle <;> rw [exec_attempts_succ, ht]
    · have htrial := hfailed fault ht
      cases fault with
      | store e =>
        simp only
        split
        case h_1 =>
          have hlogged := htrial.log (Event.busy (n + 1) p.givenAttempts)
          have hd' : s.trial.2.connection.destroyed = false := by
            rw [Site.trial_connection]; exact hd
          split
          · rw [Task.exec_bind]
            rcases exec_pause_eq p (n + 1) (s.trial.2.mapWorld
              (World.log (Event.busy (n + 1) p.givenAttempts))) with ⟨fault, hp⟩ | ⟨seconds, hp⟩ <;>
              rw [hp]
            · exact ⟨hlogged, fun _ _ => hnone'⟩
            · exact ih (hlogged.sleep seconds) hd' hnone'
          · exact ih hlogged hd' hnone'
        case h_2 => exact ⟨htrial.log _, fun _ _ => hnone'⟩
        case h_3 => exact ⟨htrial, fun _ _ => hnone'⟩
      | _ => exact ⟨htrial, fun _ _ => hnone'⟩
    · exact ⟨(hfound handle ht).log _, fun _ hf => absurd hf (by simp)⟩

theorem balanced_establishUnlocked (h : s.Balanced first) :
    (Task.exec establishUnlocked s).2.Balanced first ∧
      ∀ fault, (Task.exec establishUnlocked s).1 = .error fault →
        (Task.exec establishUnlocked s).2.connection.handle = none := by
  simp only [establishUnlocked, Task.exec_bind, Task.exec_lift, Routine.run_look]
  by_cases hd : s.connection.destroyed = true
  · rw [if_pos hd]
    exact ⟨h, fun _ _ => h.destroyed hd⟩
  · by_cases hc : s.connection.isConnected = true
    · rw [if_neg hd, if_pos hc]
      exact ⟨h, fun _ hf => absurd hf (by simp)⟩
    · have hnone : s.connection.handle = none := by
        rw [h.isConnected] at hc
        simpa using hc
      rw [if_neg hd, if_neg hc, Task.exec_bind, Task.exec_mk, Routine.run_pure]
      rcases s.connection.policy.rounds with fault | rounds
      · exact ⟨h, fun _ _ => hnone⟩
      · exact balanced_attempts h (Bool.eq_false_iff.mpr hd) hnone

theorem keeps_establish : establish.Keeps (Site.Balanced first) :=
  (Site.outlasting_balanced first).locked fun _ hs => (balanced_establishUnlocked hs).1

theorem handle_eq_none_of_establish (h : s.Balanced first) {fault : Fault}
    (hf : (Task.exec establish s).1 = .error fault) :
    (Task.exec establish s).2.connection.handle = none := by
  rw [establish, Task.exec_locked] at hf ⊢
  exact (balanced_establishUnlocked (h.withLock _)).2 fault hf

theorem exec_release (s : Site) : Task.exec (liftRoutine release) s = (.ok (), s.released) :=
  Task.exec_lift _ _

theorem exec_close (s : Site) :
    Task.exec close s = (.ok (), s.released.withLock s.connection.lock.take.2.leave) := by
  rw [close, Task.exec_locked, exec_release, Site.released_withLock]
  rfl

theorem exec_destroy (s : Site) :
    Task.exec destroy s =
      (.ok (), (s.released.mapConnection fun c => { c with destroyed := true }).withLock
        s.connection.lock.take.2.leave) := by
  rw [destroy, Task.exec_locked, Task.exec_bind, exec_release, Site.released_withLock]
  rfl

theorem keeps_close : close.Keeps (Site.Balanced first) := by
  intro s hs
  rw [exec_close]
  exact hs.released.withLock _

theorem keeps_destroy : destroy.Keeps (Site.Balanced first) := by
  intro s hs
  have hreleased := hs.released
  have hnone : s.released.connection.handle = none := by rw [Site.released_connection]
  rw [exec_destroy]
  exact ⟨hreleased.accounts, hreleased.connected, fun _ => hnone⟩

/-- After a block there is no handle, whether the block is entered or not and however it ends. -/
theorem handle_eq_none_of_within {α : Type} (h : s.Balanced first) (block : Task α) :
    (Task.exec (within block) s).2.connection.handle = none := by
  rw [within, Task.exec_bind]
  rcases he : Task.exec establish s with ⟨fault | _, s'⟩
  · have hfailed : (Task.exec establish s).1 = .error fault := by rw [he]
    have hnone := handle_eq_none_of_establish h hfailed
    rw [he] at hnone
    exact hnone
  · simp only [Task.exec_bind, Task.exec_lift, exec_close, Task.exec_mk, Routine.run_pure]
    change (Site.released _).connection.handle = none
    rw [Site.released_connection]

end Connection

end LaunchIndex
