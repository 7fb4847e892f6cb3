import LaunchIndex.Proofs.Task

/-! One attempt to connect. The handle is released first; the attempt then meets a handle or a
fault. All that it changes of the connection is the handle and the script, and a handle that is
opened but cannot be read is closed before its error is passed on. -/

namespace LaunchIndex

namespace Site

variable {s : Site}

/-! ### Releasing the handle -/

def released (s : Site) : Site := (Connection.release.run s).2

theorem released_eq (s : Site) :
    s.connection.handle = none ∧ s.released = s.detach.2 ∨
      ∃ h, s.connection.handle = some h ∧ s.released = s.detach.2.closeHandle h := by
  rcases hh : s.connection.handle with _ | h
  · exact .inl ⟨rfl, by simp [released, Connection.release, detach, hh]⟩
  · exact .inr ⟨h, rfl, by simp [released, Connection.release, detach, hh]⟩

theorem closeHandle_eq (h : Handle) (s : Site) :
    s.closeHandle h = s.mapWorld (World.happen (.closed h.number)) ∨
      ∃ fault, s.closeHandle h = s.mapWorld fun w =>
        (w.happen (.closed h.number)).log (Event.closeFailed s.connection.path fault) := by
  unfold closeHandle
  split
  · exact .inr ⟨_, rfl⟩
  · exact .inl rfl

theorem released_connection (s : Site) :
    s.released.connection = { s.connection with handle := none, connected := false } := by
  rcases s.released_eq with ⟨-, hr⟩ | ⟨h, -, hr⟩
  · rw [hr]; rfl
  · rcases s.detach.2.closeHandle_eq h with hc | ⟨fault, hc⟩ <;> rw [hr, hc] <;> rfl

/-! ### Connecting -/

/-- The built-in way to connect fails before there is a handle, opens one, or opens one and
closes it again. -/
theorem connectFile_eq (path : Text) (w : World) :
    (∃ fault, connectFile path w = (.error fault, w)) ∨
      (∃ target, connectFile path w = (.ok (w.openHandle target).1, (w.openHandle target).2)) ∨
      ∃ target e, connectFile path w =
        (.error (.store e), (w.openHandle target).2.happen (.closed w.nextHandle)) := by
  unfold connectFile
  split
  case h_1 fault _ => exact .inl ⟨fault, rfl⟩
  case h_2 =>
    split
    case h_1 => exact .inl ⟨_, rfl⟩
    case h_2 => exact .inr (.inr ⟨.directory, StoreError.unreadable, rfl⟩)
    case h_3 number _ =>
      simp only
      split
      case h_1 => exact .inr (.inl ⟨.file number, rfl⟩)
      case h_2 e _ => exact .inr (.inr ⟨.file number, e, rfl⟩)

/-- An attempt fails before there is a handle, opens one, or opens one and closes it again. -/
theorem connect_eq (attempt : Attempt) (s : Site) :
    (∃ fault, s.connect attempt = (.error fault, s)) ∨
      (∃ target, s.connect attempt = (.ok (s.world.openHandle target).1,
        s.mapWorld fun w => (w.openHandle target).2)) ∨
      ∃ target e, s.connect attempt = (.error (.store e),
        s.mapWorld fun w => (w.openHandle target).2.happen (.closed w.nextHandle)) := by
  cases attempt with
  | fails fault => exact .inl ⟨fault, rfl⟩
  | standIn t => exact .inr (.inl ⟨.standIn t, rfl⟩)
  | real =>
    rcases connectFile_eq s.connection.path s.world with ⟨fault, h⟩ | ⟨target, h⟩ | ⟨target, e, h⟩
    · exact .inl ⟨fault, by simp [connect, onWorld, h]⟩
    · exact .inr (.inl ⟨target, by simp [connect, onWorld, h, mapWorld]⟩)
    · exact .inr (.inr ⟨target, e, by simp [connect, onWorld, h, mapWorld]⟩)

theorem connect_connection (attempt : Attempt) (s : Site) :
    (s.connect attempt).2.connection = s.connection := by
  rcases s.connect_eq attempt with ⟨_, h⟩ | ⟨_, h⟩ | ⟨_, _, h⟩ <;> rw [h] <;> rfl

/-! ### The attempt -/

/-- What the next attempt is, real if the script is used up or absent. -/
def scripted (s : Site) : Attempt := (s.connection.script.bind List.head?).getD .real

/-- The site once the next attempt is taken off the script and noted. -/
def noted (s : Site) : Site where
  connection := { s.connection with script := s.connection.script.map List.tail }
  world := s.world.happen (.attempted s.connection.script.isSome s.connection.path)

theorem nextAttempt_eq (s : Site) : s.nextAttempt = (s.scripted, s.noted) := by
  obtain ⟨⟨path, policy, timeout, script, handle, connected, destroyed, lock⟩, world⟩ := s
  rcases script with _ | ⟨_ | ⟨a, rest⟩⟩ <;> rfl

/-- One attempt to connect, after the handle is released. -/
def trial (s : Site) : Outcome Handle × Site :=
  s.released.nextAttempt.2.connect s.released.nextAttempt.1

theorem trial_eq (s : Site) : s.trial = s.released.noted.connect s.scripted := by
  have hnext : s.released.scripted = s.scripted := by
    rw [scripted, scripted, released_connection]
  rw [trial, nextAttempt_eq, hnext]

/-- An attempt takes the handle off the connection and an entry off the script. -/
theorem trial_connection (s : Site) :
    s.trial.2.connection =
      { s.connection with
        handle := none
        connected := false
        script := s.connection.script.map List.tail } := by
  rw [trial_eq, connect_connection, noted, released_connection]

theorem trial_of_fails {fault : Fault} (h : s.scripted = .fails fault) :
    s.trial.1 = .error fault := by
  rw [trial_eq, h]; rfl

theorem trial_of_standIn {t : StandIn} (h : s.scripted = .standIn t) :
    ∃ number, s.trial.1 = .ok ⟨number, .standIn t⟩ := by
  rw [trial_eq, h]; exact ⟨_, rfl⟩

/-! ### The lock -/

variable (lock : Turnstile)

theorem released_withLock (s : Site) : (s.withLock lock).released = s.released.withLock lock := by
  rcases s.released_eq with ⟨hh, hr⟩ | ⟨h, hh, hr⟩
  · rcases (s.withLock lock).released_eq with ⟨-, hr'⟩ | ⟨h, hh', -⟩
    · rw [hr, hr']; rfl
    · exact absurd (hh.symm.trans hh') (by simp)
  · rcases (s.withLock lock).released_eq with ⟨hh', -⟩ | ⟨h', hh', hr'⟩
    · exact absurd (hh.symm.trans hh') (by simp)
    · obtain rfl : h = h' := Option.some.inj (hh.symm.trans hh')
      rw [hr, hr', closeHandle, closeHandle]
      split <;> rfl

theorem trial_withLock (s : Site) :
    (s.withLock lock).trial = (s.trial.1, s.trial.2.withLock lock) := by
  have hconnect : ∀ (a : Attempt) (s : Site),
      (s.withLock lock).connect a = ((s.connect a).1, (s.connect a).2.withLock lock) := by
    intro a s
    cases a <;> rfl
  rw [trial_eq, trial_eq, released_withLock]
  exact hconnect s.scripted s.released.noted

end Site

end LaunchIndex
