import LaunchIndex.Proofs.Crowd
import LaunchIndex.Proofs.Task

/-! What a routine assures while others interfere. Between any two of its steps others may change
the state, but only as the routine can rely on; in return each of its own steps changes the state as
it guarantees. Assurances compose along a routine, and those of a task along its outcomes. -/

namespace LaunchIndex

namespace Routine

variable {σ τ α β : Type} {rely guar : σ → σ → Prop}

/-- While others change the state by `rely`, every step changes it by `guar`, and the result comes
with `post`. -/
def Assures (rely guar : σ → σ → Prop) (post : α → σ → Prop) : Routine σ α → σ → Prop
  | finish result, s => post result s
  | act step next, s => ∀ s', rely s s' →
    guar s' (step s').2 ∧ (next (step s').1).Assures rely guar post (step s').2
  | await _ next, s => ∀ s', rely s s' → next.Assures rely guar post s'
  | hold _ next, s => ∀ s', rely s s' → next.Assures rely guar post s'

theorem Assures.bind {r : Routine σ α} {k : α → Routine σ β} {post : β → σ → Prop} {s : σ}
    (h : r.Assures rely guar (fun a s => (k a).Assures rely guar post s) s) :
    (r.bind k).Assures rely guar post s := by
  induction r generalizing s with
  | finish result => exact h
  | act step next ih => exact fun s' hs => ⟨(h s' hs).1, ih _ (h s' hs).2⟩
  | await wait next ih => exact fun s' hs => ih (h s' hs)
  | hold ready next ih => exact fun s' hs => ih (h s' hs)

theorem Assures.mono {guar' : σ → σ → Prop} {post post' : α → σ → Prop} {r : Routine σ α} {s : σ}
    (h : r.Assures rely guar post s) (hguar : ∀ s s', guar s s' → guar' s s')
    (hpost : ∀ a s, post a s → post' a s) : r.Assures rely guar' post' s := by
  induction r generalizing s with
  | finish result => exact hpost _ _ h
  | act step next ih => exact fun s' hs => ⟨hguar _ _ (h s' hs).1, ih _ (h s' hs).2⟩
  | await wait next ih => exact fun s' hs => ih (h s' hs)
  | hold ready next ih => exact fun s' hs => ih (h s' hs)

/-- What others do makes no difference, if it leaves the post-condition. -/
theorem Assures.of_rely {post : α → σ → Prop} {r : Routine σ α} {s s' : σ}
    (h : r.Assures rely guar post s)
    (htrans : ∀ s₁ s₂ s₃, rely s₁ s₂ → rely s₂ s₃ → rely s₁ s₃)
    (hpost : ∀ a s₁ s₂, post a s₁ → rely s₁ s₂ → post a s₂) (hs : rely s s') :
    r.Assures rely guar post s' := by
  cases r with
  | finish result => exact hpost result s s' h hs
  | act step next => exact fun s'' hs' => h s'' (htrans _ _ _ hs hs')
  | await wait next => exact fun s'' hs' => h s'' (htrans _ _ _ hs hs')
  | hold ready next => exact fun s'' hs' => h s'' (htrans _ _ _ hs hs')

/-- What is left of a routine after a step assures the same. -/
theorem Assures.next {post : α → σ → Prop} {r r' : Routine σ α} {s s' : σ}
    (h : r.Assures rely guar post s) (hrefl : rely s s) (hnext : r.next? s = some (r', s')) :
    r'.Assures rely guar post s' := by
  cases r with
  | finish result => exact absurd hnext nofun
  | act step next =>
    obtain ⟨rfl, rfl⟩ := Prod.mk.inj (Option.some.inj hnext)
    exact (h s hrefl).2
  | await wait next =>
    obtain ⟨rfl, rfl⟩ := Prod.mk.inj (Option.some.inj hnext)
    exact h s hrefl
  | hold ready next =>
    obtain ⟨-, hnext⟩ := Option.ite_none_right_eq_some.mp hnext
    obtain ⟨rfl, rfl⟩ := Prod.mk.inj (Option.some.inj hnext)
    exact h s hrefl

/-- A routine that runs alone comes to its post-condition. -/
theorem Assures.run {post : α → σ → Prop} {r : Routine σ α} {s : σ}
    (h : r.Assures rely guar post s) (hrefl : ∀ s, rely s s) : post (r.run s).1 (r.run s).2 := by
  induction r generalizing s with
  | finish result => exact h
  | act step next ih => exact ih _ (h s (hrefl s)).2
  | await wait next ih => exact ih (h s (hrefl s))
  | hold ready next ih => exact ih (h s (hrefl s))

theorem assures_step {post : α → σ → Prop} {f : σ → α × σ} {s : σ}
    (h : ∀ s', rely s s' → guar s' (f s').2 ∧ post (f s').1 (f s').2) :
    (step f).Assures rely guar post s := h

theorem assures_update {post : Unit → σ → Prop} {f : σ → σ} {s : σ}
    (h : ∀ s', rely s s' → guar s' (f s') ∧ post () (f s')) :
    (update f).Assures rely guar post s := h

theorem assures_look {post : α → σ → Prop} {f : σ → α} {s : σ}
    (h : ∀ s', rely s s' → guar s' s' ∧ post (f s') s') : (look f).Assures rely guar post s := h

theorem assures_waitFor {post : Unit → σ → Prop} {wait : Wait} {s : σ}
    (h : ∀ s', rely s s' → post () s') : (waitFor wait).Assures rely guar post s := h

/-! ### Whatever others do -/

/-- A routine whose steps keep to `guar` whatever others do. -/
def Obeys (guar : σ → σ → Prop) (post : α → Prop) (r : Routine σ α) : Prop :=
  ∀ s, r.Assures (fun _ _ => True) guar (fun a _ => post a) s

/-- What holds whatever others do holds if they keep to something. -/
theorem Obeys.assures {post : α → Prop} {r : Routine σ α} (h : r.Obeys guar post) (s : σ) :
    r.Assures rely guar (fun a _ => post a) s := by
  have hany : ∀ (r : Routine σ α) s, r.Assures (fun _ _ => True) guar (fun a _ => post a) s →
      r.Assures rely guar (fun a _ => post a) s := by
    intro r
    induction r with
    | finish result => exact fun _ => id
    | act step next ih => exact fun s h s' _ => ⟨(h s' trivial).1, ih _ _ (h s' trivial).2⟩
    | await wait next ih => exact fun s h s' _ => ih s' (h s' trivial)
    | hold ready next ih => exact fun s h s' _ => ih s' (h s' trivial)
  exact hany r s (h s)

theorem Obeys.bind {post : α → Prop} {post' : β → Prop} {r : Routine σ α} {k : α → Routine σ β}
    (h : r.Obeys guar post) (hk : ∀ a, post a → (k a).Obeys guar post') :
    (r.bind k).Obeys guar post' := fun s =>
  Assures.bind ((h s).mono (fun _ _ => id) fun a s ha => hk a ha s)

theorem Obeys.zoom {get : τ → σ} {set : σ → τ → τ} {guar' : τ → τ → Prop} {post : α → Prop}
    {r : Routine σ α} (h : r.Obeys guar post)
    (hguar : ∀ t s, guar (get t) s → guar' t (set s t)) :
    (r.zoom get set).Obeys guar' post := by
  induction r with
  | finish result => exact fun t => h (get t)
  | act step next ih =>
    intro t t' _
    obtain ⟨hstep, hrest⟩ := h (get t) (get t') trivial
    refine ⟨hguar t' _ hstep, ih _ (fun s => ?_) _⟩
    cases hnext : next (step (get t')).1 <;> rw [hnext] at hrest <;> exact hrest
  | await wait next ih => exact fun t t' _ => ih (fun s => h (get t) s trivial) t'
  | hold ready next ih => exact fun t t' _ => ih (fun s => h (get t) s trivial) t'

end Routine

namespace Task

variable {α β : Type} {rely guar : Site → Site → Prop}

def Assures (rely guar : Site → Site → Prop) (post : Outcome α → Site → Prop) (task : Task α)
    (s : Site) : Prop := Routine.Assures rely guar post task.run s

theorem Assures.bind {task : Task α} {next : α → Task β} {post : Outcome β → Site → Prop}
    {s : Site}
    (h : task.Assures rely guar (fun
      | .ok a => (next a).Assures rely guar post
      | .error fault => post (.error fault)) s) :
    (task >>= next).Assures rely guar post s := by
  refine Routine.Assures.bind (Routine.Assures.mono h (fun _ _ => id) fun outcome s houtcome => ?_)
  rcases outcome with fault | a <;> exact houtcome

theorem Assures.mono {guar' : Site → Site → Prop} {post post' : Outcome α → Site → Prop}
    {task : Task α} {s : Site} (h : task.Assures rely guar post s)
    (hguar : ∀ s s', guar s s' → guar' s s') (hpost : ∀ a s, post a s → post' a s) :
    task.Assures rely guar' post' s := Routine.Assures.mono h hguar hpost

theorem assures_ofOutcome {post : Outcome α → Site → Prop} {outcome : Outcome α} {s : Site}
    (h : post outcome s) : Assures rely guar post (ExceptT.mk (pure outcome)) s := h

theorem assures_pure {post : Outcome α → Site → Prop} {a : α} {s : Site} (h : post (.ok a) s) :
    Assures rely guar post (pure a) s := h

theorem assures_throw {post : Outcome α → Site → Prop} {fault : Fault} {s : Site}
    (h : post (.error fault) s) : Assures rely guar post (throw fault : Task α) s := h

theorem assures_lift {r : Routine Site α} {post : Outcome α → Site → Prop} {s : Site}
    (h : r.Assures rely guar (fun a => post (.ok a)) s) :
    Assures rely guar post (Connection.liftRoutine r) s := Routine.Assures.bind h

theorem Assures.attempt {task : Task α} {post : Outcome (Outcome α) → Site → Prop} {s : Site}
    (h : task.Assures rely guar (fun outcome => post (.ok outcome)) s) :
    Assures rely guar post (Connection.liftRoutine task.run) s := assures_lift h

theorem Assures.locked {task : Task α} {post : Outcome α → Site → Prop} {s : Site}
    (h : ∀ s₁, rely s s₁ → guar s₁ (s₁.withLock s₁.connection.lock.take.2) ∧
      ∀ s₂, rely (s₁.withLock s₁.connection.lock.take.2) s₂ →
        task.Assures rely guar (fun outcome s₃ => ∀ s₄, rely s₃ s₄ →
          guar s₄ (s₄.withLock s₄.connection.lock.leave) ∧
            post outcome (s₄.withLock s₄.connection.lock.leave)) s₂) :
    (Connection.locked task).Assures rely guar post s := by
  intro s₁ hs₁
  refine ⟨(h s₁ hs₁).1, fun s₂ hs₂ => ?_⟩
  have hbody : (task.run.bind fun outcome => Connection.leave.bind fun _ =>
      Routine.finish outcome).Assures rely guar post s₂ :=
    Routine.Assures.bind ((h s₁ hs₁).2 s₂ hs₂)
  exact hbody

end Task

end LaunchIndex
