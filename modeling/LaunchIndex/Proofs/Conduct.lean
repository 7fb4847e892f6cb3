import LaunchIndex.Query
import LaunchIndex.Proofs.Assurance
import LaunchIndex.Proofs.Trial

/-! What an operation does while it holds the lock of its connection. Its steps are few: it takes
the handle off and closes it, it tries to connect and binds a handle, it uses the handle, pauses,
writes to the log and marks the connection as destroyed. If each of these steps keeps to a
guarantee, so does every operation. The connection has to be alive for an attempt to connect, and
idle when it is destroyed. -/

namespace LaunchIndex

/-- The steps of an operation that holds the lock keep to `guar` if others keep to `rely`. -/
structure Site.Conduct (rely guar : Site → Site → Prop) (alive idle : Site → Prop) : Prop where
  same : ∀ s, guar s s
  alive_of : ∀ s, s.connection.destroyed = false → alive s
  alive_rely : ∀ s s', alive s → rely s s' → alive s'
  alive_congr : ∀ s s', alive s → s'.connection.destroyed = s.connection.destroyed → alive s'
  idle_of : ∀ s, s.connection.handle = none → idle s
  idle_rely : ∀ s s', idle s → rely s s' → idle s'
  idle_congr : ∀ s s', idle s → s'.connection = s.connection → idle s'
  detach : ∀ s, guar s s.detach.2
  closeHandle : ∀ h s, guar s (s.closeHandle h)
  nextAttempt : ∀ s, alive s → guar s s.nextAttempt.2
  connect : ∀ attempt s, guar s (s.connect attempt).2
  attach : ∀ h s, alive s → guar s (s.attach h)
  used : ∀ h inquiry s, guar s (s.mapWorld (World.use h inquiry))
  sleep : ∀ seconds s, guar s (s.mapWorld (World.sleep seconds))
  log : ∀ e s, guar s (s.mapWorld (World.log e))
  destroy : ∀ s, idle s → guar s (s.mapConnection fun c => { c with destroyed := true })

theorem Site.closeHandle_connection (h : Handle) (s : Site) :
    (s.closeHandle h).connection = s.connection := by
  rcases s.closeHandle_eq h with hc | ⟨fault, hc⟩ <;> rw [hc] <;> rfl

theorem Site.conduct_any (rely : Site → Site → Prop) :
    Conduct rely (fun _ _ => True) (fun _ => True) fun _ => True where
  same _ := trivial
  alive_of _ _ := trivial
  alive_rely _ _ _ _ := trivial
  alive_congr _ _ _ _ := trivial
  idle_of _ _ := trivial
  idle_rely _ _ _ _ := trivial
  idle_congr _ _ _ _ := trivial
  detach _ := trivial
  closeHandle _ _ := trivial
  nextAttempt _ _ := trivial
  connect _ _ := trivial
  attach _ _ _ := trivial
  used _ _ _ := trivial
  sleep _ _ := trivial
  log _ _ := trivial
  destroy _ _ := trivial

namespace Site.Conduct

variable {rely guar : Site → Site → Prop} {alive idle : Site → Prop} {α : Type} {s : Site}

/-- A connection whose handle is released is idle, and alive if it was. -/
theorem release (h : Conduct rely guar alive idle) (s : Site) :
    Connection.release.Assures rely guar (fun _ s' => idle s' ∧ (alive s → alive s')) s := by
  refine Routine.Assures.bind (Routine.assures_step fun s' hs => ⟨h.detach s', ?_⟩)
  have hidle : idle s'.detach.2 := h.idle_of _ rfl
  have halive : alive s → alive s'.detach.2 := fun ha =>
    h.alive_congr s' _ (h.alive_rely _ _ ha hs) rfl
  split
  · exact ⟨hidle, halive⟩
  · rename_i handle _
    refine Routine.Assures.bind (Routine.assures_waitFor fun s₁ hs₁ => ?_)
    refine Routine.assures_update fun s₂ hs₂ => ⟨h.closeHandle handle s₂, ?_, fun ha => ?_⟩
    · have hidle₂ := h.idle_rely _ _ (h.idle_rely _ _ hidle hs₁) hs₂
      exact h.idle_congr _ _ hidle₂ (closeHandle_connection handle s₂)
    · have halive₂ := h.alive_rely _ _ (h.alive_rely _ _ (halive ha) hs₁) hs₂
      exact h.alive_congr _ _ halive₂ (by rw [closeHandle_connection])

theorem writeLog (h : Conduct rely guar alive idle) (e : Event) (s : Site) :
    (Connection.log e).Assures rely guar (fun _ s' => alive s → alive s') s :=
  Routine.assures_update fun s' hs =>
    ⟨h.log e s', fun ha => h.alive_congr _ _ (h.alive_rely _ _ ha hs) rfl⟩

theorem pause (h : Conduct rely guar alive idle) (p : Policy) (attempt : Nat) (s : Site) :
    (Connection.pause p attempt).Assures rely guar (fun _ s' => alive s → alive s') s := by
  unfold Connection.pause
  split
  · exact Task.assures_throw id
  · rename_i milliseconds _
    refine Task.Assures.bind (Task.assures_lift (Routine.assures_update fun s₁ hs₁ => ?_))
    refine ⟨h.sleep _ _, Task.assures_lift (Routine.assures_waitFor fun s₂ hs₂ ha => ?_)⟩
    have ha₁ : alive (s₁.mapWorld (World.sleep (milliseconds.divNat 1000))) :=
      h.alive_congr s₁ _ (h.alive_rely _ _ ha hs₁) rfl
    exact h.alive_rely _ _ ha₁ hs₂

theorem attempts (h : Conduct rely guar alive idle) (path : Text) (p : Policy)
    (last : Option StoreError) (n left : Nat) (ha : alive s) :
    (Connection.attempts path p last n left).Assures rely guar (fun _ _ => True) s := by
  induction left generalizing last n s with
  | zero =>
    exact Task.Assures.bind (Task.assures_lift ((h.writeLog _ s).mono (fun _ _ => id) fun _ _ _ =>
      Task.assures_throw trivial))
  | succ left ih =>
    refine Task.Assures.bind (Task.assures_lift ((h.release s).mono (fun _ _ => id) ?_))
    rintro - s₁ ⟨-, ha₁⟩
    refine Task.Assures.bind (Task.assures_lift (Routine.assures_step fun s₂ hs₂ => ?_))
    have ha₂ := h.alive_rely _ _ (ha₁ ha) hs₂
    have ha₃ : alive s₂.nextAttempt.2 := h.alive_congr _ _ ha₂ (by rw [nextAttempt_eq]; rfl)
    refine ⟨h.nextAttempt s₂ ha₂, ?_⟩
    refine Task.Assures.bind (Task.assures_lift (Routine.assures_waitFor fun s₄ hs₄ => ?_))
    refine Task.Assures.bind (Task.assures_lift (Routine.assures_step fun s₅ hs₅ => ?_))
    have ha₅ := h.alive_rely _ _ (h.alive_rely _ _ ha₃ hs₄) hs₅
    refine ⟨h.connect _ s₅, ?_⟩
    have ha₆ : alive (s₅.connect s₂.nextAttempt.1).2 :=
      h.alive_congr _ _ ha₅ (by rw [connect_connection])
    generalize s₅.connect s₂.nextAttempt.1 = met at ha₆
    obtain ⟨fault | handle, s₆⟩ := met
    · cases fault with
      | store e =>
        refine Task.Assures.bind (Task.assures_ofOutcome ?_)
        rcases e.isTransient with fault | busy
        · trivial
        · cases busy with
          | false =>
            exact Task.Assures.bind (Task.assures_lift ((h.writeLog _ s₆).mono (fun _ _ => id)
              fun _ _ _ => Task.assures_throw trivial))
          | true =>
            refine Task.Assures.bind (Task.assures_lift ((h.writeLog _ s₆).mono (fun _ _ => id) ?_))
            intro _ s₇ ha₇
            split
            · refine Task.Assures.bind ((h.pause p n s₇).mono (fun _ _ => id) ?_)
              rintro (fault | _) s₈ ha₈
              · trivial
              · exact ih _ _ (ha₈ (ha₇ ha₆))
            · exact ih _ _ (ha₇ ha₆)
      | _ => exact Task.assures_throw trivial
    · refine Task.Assures.bind (Task.assures_lift (Routine.assures_update fun s₇ hs₇ => ?_))
      refine ⟨h.attach handle s₇ (h.alive_rely _ _ ha₆ hs₇), ?_⟩
      exact Task.assures_lift ((h.writeLog _ _).mono (fun _ _ => id) fun _ _ _ => trivial)

theorem establishUnlocked (h : Conduct rely guar alive idle) (s : Site) :
    Connection.establishUnlocked.Assures rely guar (fun _ _ => True) s := by
  refine Task.Assures.bind (Task.assures_lift (Routine.assures_look fun s' hs => ⟨h.same s', ?_⟩))
  dsimp only
  split
  · exact Task.assures_throw trivial
  · rename_i hd
    have ha : alive s' := h.alive_of s' (Bool.eq_false_iff.mpr hd)
    split
    · exact Task.assures_pure trivial
    · refine Task.Assures.bind (Task.assures_ofOutcome ?_)
      rcases s'.connection.policy.rounds with fault | rounds
      · trivial
      · exact h.attempts _ _ _ _ _ ha

theorem close (h : Conduct rely guar alive idle) (s : Site) :
    Task.Assures rely guar (fun _ _ => True) (Connection.liftRoutine Connection.release) s :=
  Task.assures_lift ((h.release s).mono (fun _ _ => id) fun _ _ _ => trivial)

theorem destroyUnlocked (h : Conduct rely guar alive idle) (s : Site) :
    Task.Assures rely guar (fun _ s' => s'.connection.destroyed = true) (do
      Connection.liftRoutine Connection.release
      Connection.liftRoutine (Routine.update
        (Site.mapConnection fun c => { c with destroyed := true }))) s := by
  refine Task.Assures.bind (Task.assures_lift ((h.release s).mono (fun _ _ => id) ?_))
  rintro - s₁ ⟨hidle, -⟩
  refine Task.assures_lift (Routine.assures_update fun s₂ hs₂ => ⟨?_, rfl⟩)
  exact Conduct.destroy h s₂ (h.idle_rely _ _ hidle hs₂)

theorem onHandle (h : Conduct rely guar alive idle) (handle : Handle) (inquiry : Inquiry)
    (query : Nat → World → Outcome α) (standIn : StandIn → Past → Inquiry → Outcome α) (s : Site) :
    (Connection.onHandle handle inquiry query standIn).Assures rely guar (fun _ _ => True) s := by
  refine Task.Assures.bind (Task.assures_lift (Routine.assures_waitFor fun s₁ _ => ?_))
  exact fun s₂ _ => ⟨h.used handle inquiry s₂, trivial⟩

theorem useUnlocked (h : Conduct rely guar alive idle) {use : Handle → Task α}
    (huse : ∀ handle s, (use handle).Assures rely guar (fun _ _ => True) s) (s : Site) :
    Task.Assures rely guar (fun _ _ => True) (do
      let c ← Connection.liftRoutine (Routine.look Site.connection)
      match c.isConnected, c.handle with
      | true, some handle => use handle
      | _, _ => throw (.notConnected c.path)) s := by
  refine Task.Assures.bind (Task.assures_lift (Routine.assures_look fun s' _ => ⟨h.same s', ?_⟩))
  dsimp only
  split
  · exact huse _ s'
  · exact Task.assures_throw trivial

end Site.Conduct

/-! ### How operations are put together -/

/-- A property of tasks that goes with their parts. Under the lock it takes a task that keeps to
`guar` if others keep to `rely`. -/
structure Task.Manner (rely guar : Site → Site → Prop) (p : (α : Type) → Task α → Prop) :
    Prop where
  conduct : ∃ alive idle, Site.Conduct rely guar alive idle
  locked : ∀ {α : Type} {task : Task α}, (∀ s, task.Assures rely guar (fun _ _ => True) s) →
    p α (Connection.locked task)
  bind : ∀ {α β : Type} {task : Task α} {next : α → Task β}, p α task → (∀ a, p β (next a)) →
    p β (task >>= next)
  attempt : ∀ {α : Type} {task : Task α}, p α task →
    p (Outcome α) (Connection.liftRoutine task.run)
  ofOutcome : ∀ {α : Type} (outcome : Outcome α), p α (ExceptT.mk (pure outcome))
  look : ∀ {α : Type} (f : Site → α), p α (Connection.liftRoutine (Routine.look f))
  log : ∀ e, p Unit (Connection.liftRoutine (Connection.log e))

namespace Task.Manner

variable {rely guar : Site → Site → Prop} {p : (α : Type) → Task α → Prop} {α : Type}

theorem establish (h : Manner rely guar p) : p Unit Connection.establish := by
  obtain ⟨alive, idle, hconduct⟩ := h.conduct
  exact h.locked hconduct.establishUnlocked

theorem close (h : Manner rely guar p) : p Unit Connection.close := by
  obtain ⟨alive, idle, hconduct⟩ := h.conduct
  exact h.locked hconduct.close

theorem destroy (h : Manner rely guar p) : p Unit Connection.destroy := by
  obtain ⟨alive, idle, hconduct⟩ := h.conduct
  exact h.locked fun s =>
    (hconduct.destroyUnlocked s).mono (fun _ _ => id) fun _ _ _ => trivial

theorem statement {π : Type} (h : Manner rely guar p) (parameters : Outcome π)
    (inquiry : π → Inquiry) (query : π → Nat → World → Outcome α)
    (standIn : StandIn → Past → Inquiry → Outcome α) :
    p α (Connection.withHandle fun handle => do
      let x ← ExceptT.mk (pure parameters)
      Connection.onHandle handle (inquiry x) (query x) standIn) := by
  obtain ⟨alive, idle, hconduct⟩ := h.conduct
  refine h.locked (hconduct.useUnlocked fun handle s => Task.Assures.bind ?_)
  rcases parameters with fault | x
  · exact Task.assures_ofOutcome trivial
  · exact Task.assures_ofOutcome (hconduct.onHandle handle _ _ _ s)

theorem search (h : Manner rely guar p) (query maxResults : Value) :
    p (List Record) (Connection.search query maxResults) := by
  refine h.bind (h.look _) fun c => ?_
  split
  · exact h.ofOutcome (.error _)
  · split
    · exact h.ofOutcome (.ok _)
    · refine h.bind (h.ofOutcome _) fun parameters => ?_
      refine h.bind (h.attempt (h.statement (.ok ()) (fun _ => .search parameters)
        (fun _ => Connection.searchRows parameters) StandIn.rows)) fun result => ?_
      rcases result with fault | rows
      · simp only
        split
        · exact h.bind (h.log _) fun _ => h.ofOutcome (.ok _)
        · exact h.ofOutcome (.error _)
      · exact h.ofOutcome _

theorem usage (h : Manner rely guar p) (filePath : Value) :
    p (Option Connection.UsageStat) (Connection.usage filePath) := by
  refine h.bind (h.look _) fun c => h.bind (h.ofOutcome _) fun path => ?_
  refine h.bind (h.statement (.ok ()) (fun _ => .usage path) (fun _ => Connection.usageRow path)
    StandIn.usage) fun row => ?_
  cases row with
  | none => exact h.ofOutcome (.ok _)
  | some row => exact h.ofOutcome _

theorem mostUsed (h : Manner rely guar p) (limit : Value) :
    p (List Record) (Connection.mostUsed limit) :=
  h.bind (h.statement limit.toInteger (fun n => .mostUsed (max 1 n))
    (fun n => Connection.mostUsedRows (max 1 n)) StandIn.rows) fun _ => h.ofOutcome _

end Task.Manner

end LaunchIndex
