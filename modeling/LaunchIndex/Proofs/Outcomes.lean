import LaunchIndex.Fault
import LaunchIndex.Proofs.Crowd

/-! What a result can be. A predicate on outcomes says of what is returned that it is good and of a
failure that it is foreseen. A routine yields such results if it does so on whatever its steps find;
then it does among any others that leave the same to be found. -/

namespace LaunchIndex

namespace Outcome

variable {α β : Type} {good good' : α → Prop} {foreseen foreseen' : Fault → Prop}

/-- What is returned is good, and a failure is one of those that are foreseen. -/
def Ensures (good : α → Prop) (foreseen : Fault → Prop) : Outcome α → Prop
  | .ok a => good a
  | .error fault => foreseen fault

theorem Ensures.mono {o : Outcome α} (h : o.Ensures good foreseen) (hgood : ∀ a, good a → good' a)
    (hforeseen : ∀ fault, foreseen fault → foreseen' fault) : o.Ensures good' foreseen' := by
  cases o with
  | ok a => exact hgood a h
  | error fault => exact hforeseen fault h

theorem Ensures.map {o : Outcome α} {good : β → Prop} {f : α → β}
    (h : o.Ensures (fun a => good (f a)) foreseen) : Ensures good foreseen (o.map f) := by
  cases o with
  | ok a => exact h
  | error fault => exact h

theorem Ensures.bind {o : Outcome α} {good' : β → Prop} {next : α → Outcome β}
    (h : o.Ensures good foreseen) (hnext : ∀ a, good a → (next a).Ensures good' foreseen) :
    Ensures good' foreseen (o >>= next) := by
  cases o with
  | ok a => exact hnext a h
  | error fault => exact h

/-- A list fails as one of its members does. -/
theorem ensures_mapM {f : α → Outcome β} {l : List α}
    (h : ∀ a ∈ l, (f a).Ensures (fun _ => True) foreseen) :
    Ensures (fun _ => True) foreseen (l.mapM f) := by
  induction l with
  | nil => exact trivial
  | cons a rest ih =>
    rw [List.mapM_cons]
    refine Ensures.bind (h a List.mem_cons_self) fun b _ => ?_
    exact Ensures.bind (ih fun c hc => h c (List.mem_cons_of_mem _ hc)) fun _ _ => trivial

/-! ### Lists of results -/

variable {ε : Type} {f : α → Except ε β}

theorem mapM_eq_ok {g : α → β} {l : List α} (h : ∀ a ∈ l, f a = .ok (g a)) :
    l.mapM f = .ok (l.map g) := by
  induction l with
  | nil => rfl
  | cons a rest ih =>
    have ih := ih fun b hb => h b (List.mem_cons_of_mem _ hb)
    simp only [List.mapM_cons, h a List.mem_cons_self, ih]
    rfl

theorem exists_of_mapM_eq_ok {l : List α} {results : List β} (h : l.mapM f = .ok results) :
    ∀ b ∈ results, ∃ a ∈ l, f a = .ok b := by
  induction l generalizing results with
  | nil =>
    obtain rfl := Except.ok.inj h
    exact nofun
  | cons a rest ih =>
    rw [List.mapM_cons] at h
    cases ha : f a with
    | error e =>
      rw [ha] at h
      cases h
    | ok b =>
      cases hrest : rest.mapM f with
      | error e =>
        rw [ha, hrest] at h
        cases h
      | ok bs =>
        rw [ha, hrest] at h
        obtain rfl := Except.ok.inj h
        rintro c (_ | ⟨_, hc⟩)
        · exact ⟨a, List.mem_cons_self, ha⟩
        · obtain ⟨a', ha', hc⟩ := ih hrest c hc
          exact ⟨a', List.mem_cons_of_mem _ ha', hc⟩

end Outcome

namespace Routine

variable {σ κ α β : Type} {found kept : σ → Prop} {post post' : α → Prop}

/-- On the states that are found, every step leaves a state that is kept, and the result comes with
`post`. -/
def Yields (found kept : σ → Prop) (post : α → Prop) : Routine σ α → Prop
  | finish result => post result
  | act step next => ∀ s, found s → kept (step s).2 ∧ (next (step s).1).Yields found kept post
  | await _ next => next.Yields found kept post
  | hold _ next => next.Yields found kept post

theorem Yields.mono {r : Routine σ α} (h : r.Yields found kept post)
    (hpost : ∀ a, post a → post' a) : r.Yields found kept post' := by
  induction r with
  | finish result => exact hpost _ h
  | act step next ih => exact fun s hs => ⟨(h s hs).1, ih _ (h s hs).2⟩
  | await wait next ih => exact ih h
  | hold ready next ih => exact ih h

theorem Yields.bind {post : β → Prop} {r : Routine σ α} {k : α → Routine σ β}
    (h : r.Yields found kept fun a => (k a).Yields found kept post) :
    (r.bind k).Yields found kept post := by
  induction r with
  | finish result => exact h
  | act step next ih => exact fun s hs => ⟨(h s hs).1, ih _ (h s hs).2⟩
  | await wait next ih => exact ih h
  | hold ready next ih => exact ih h

theorem Yields.zoom {τ : Type} {get : τ → σ} {set : σ → τ → τ} {r : Routine σ α}
    (h : r.Yields found kept post) (hset : ∀ s t, get (set s t) = s) :
    (r.zoom get set).Yields (fun t => found (get t)) (fun t => kept (get t)) post := by
  induction r with
  | finish result => exact h
  | act step next ih =>
    intro t ht
    obtain ⟨hkept, hnext⟩ := h (get t) ht
    rw [← hset (step (get t)).2 t] at hkept
    exact ⟨hkept, ih _ hnext⟩
  | await wait next ih => exact ih h
  | hold ready next ih => exact ih h

/-- What is left of a routine after a step yields the same. -/
theorem Yields.next {r r' : Routine σ α} {s s' : σ} (h : r.Yields found kept post)
    (hs : found s) (hkept : kept s) (hnext : r.next? s = some (r', s')) :
    r'.Yields found kept post ∧ kept s' := by
  cases r with
  | finish result => exact absurd hnext nofun
  | act step next =>
    obtain ⟨rfl, rfl⟩ := Prod.mk.inj (Option.some.inj hnext)
    exact (h s hs).symm
  | await wait next =>
    obtain ⟨rfl, rfl⟩ := Prod.mk.inj (Option.some.inj hnext)
    exact ⟨h, hkept⟩
  | hold ready next =>
    obtain ⟨-, hnext⟩ := Option.ite_none_right_eq_some.mp hnext
    obtain ⟨rfl, rfl⟩ := Prod.mk.inj (Option.some.inj hnext)
    exact ⟨h, hkept⟩

/-- Whether a routine that runs alone is never held up, and finds all states as usual. -/
def isUsual (usual : σ → Bool) : Routine σ α → σ → Bool
  | finish _, _ => true
  | act step next, s => usual s && (next (step s).1).isUsual usual (step s).2
  | await _ next, s => usual s && next.isUsual usual s
  | hold ready next, s => usual s && (ready s && next.isUsual usual s)

theorem yields_step {f : σ → α × σ} (h : ∀ s, found s → kept (f s).2 ∧ post (f s).1) :
    (step f).Yields found kept post := h

theorem yields_update {f : σ → σ} (h : ∀ s, found s → kept (f s)) :
    (update f).Yields found kept fun _ => True := fun s hs => ⟨h s hs, trivial⟩

end Routine

namespace Crowd

variable {σ κ α : Type} {setting : Setting σ κ α} {found kept usual : σ → Prop}
  {post : κ → α → Prop} {s : σ} {c c' : Crowd σ κ α}

/-- Any number of steps, each from a state as usual. -/
def UsualRun (setting : Setting σ κ α) (usual : σ → Prop) : Crowd σ κ α → Crowd σ κ α → Prop :=
  Relation.ReflTransGen fun c c' => Step setting c c' ∧ usual c.state

/-- A job that nobody holds up comes to the end of its run, from one usual state to the next. -/
theorem UsualRun.put_of_isUsual {usual : σ → Bool} (number : Nat) (call : κ) (r : Routine σ α)
    (c : Crowd σ κ α) (husual : r.isUsual usual c.state = true) :
    UsualRun setting (usual · = true) (c.put [] [] number call r)
      { c with
        state := (r.run c.state).2
        running := []
        ended := c.ended ++ [⟨number, call, (r.run c.state).1⟩] } := by
  have hstate (r : Routine σ α) (c : Crowd σ κ α) (h : usual c.state = true) :
      usual (c.put [] [] number call r).state = true := by
    rw [put_state]
    exact h
  induction r generalizing c with
  | finish result => exact .refl
  | act step next ih =>
    obtain ⟨hs, hrest⟩ := Bool.and_eq_true_iff.mp husual
    exact .head ⟨.put_next number call nofun rfl, hstate _ c hs⟩ (ih _ _ hrest)
  | await wait next ih =>
    obtain ⟨hs, hrest⟩ := Bool.and_eq_true_iff.mp husual
    exact .head ⟨.put_next number call nofun rfl, hstate _ c hs⟩ (ih _ hrest)
  | hold ready next ih =>
    obtain ⟨hs, hrest⟩ := Bool.and_eq_true_iff.mp husual
    obtain ⟨hready, hrest⟩ := Bool.and_eq_true_iff.mp hrest
    exact .head ⟨.put_next number call nofun (if_pos hready), hstate _ c hs⟩ (ih _ hrest)

/-- A call in an idle crowd that starts as usual and goes on so. -/
theorem UsualRun.call {usual : σ → Bool} (hidle : c.running = []) (call : κ)
    (hallowed : setting.allowed call c.state) (hstart : usual c.state = true)
    (husual : (setting.task call).isUsual usual c.state = true) :
    UsualRun setting (usual · = true) c (c.after setting call) := by
  have hstep := Step.start c call hallowed
  have hjob : UsualRun setting (usual · = true)
      ({ c with started := c.started + 1 }.put [] [] c.started call _) _ :=
    .put_of_isUsual c.started call (setting.task call) _ husual
  rw [hidle] at hstep
  exact .head ⟨hstep, hstart⟩ hjob

/-- The state is kept, and every call yields or has yielded what is said of it. -/
structure Yielding (found kept : σ → Prop) (post : κ → α → Prop) (c : Crowd σ κ α) : Prop where
  state : kept c.state
  all : c.All (fun job _ => job.rest.Yields found kept (post job.call))
    fun e _ => post e.call e.result

theorem yielding_of_start (hs : kept s) :
    ({ state := s } : Crowd σ κ α).Yielding found kept post :=
  ⟨hs, all_of_start s⟩

theorem Yielding.step (h : c.Yielding found kept post) (hstep : Step setting c c')
    (hfound : found c.state)
    (htask : ∀ call s, setting.allowed call s → (setting.task call).Yields found kept (post call))
    (houtside : ∀ s s', kept s → setting.outside s s' → kept s') :
    c'.Yielding found kept post := by
  refine ⟨?_, h.all.step hstep (fun _ _ _ _ => id) (fun _ => id) (fun _ => id)
    (fun call hallowed => htask call _ hallowed)
    fun job rest s hjob hnext => (hjob.next hfound h.state hnext).1⟩
  cases hstep with
  | start call allowed => rw [put_state]; exact h.state
  | work before job after rest s running next =>
    rw [put_state]
    have hjob := h.all.running job (by rw [running]; simp)
    exact (hjob.next hfound h.state next).2
  | outside s outside => exact houtside _ _ h.state outside

theorem Yielding.run (h : c.Yielding found kept post) (hrun : UsualRun setting usual c c')
    (hfound : ∀ s, kept s → usual s → found s)
    (htask : ∀ call s, setting.allowed call s → (setting.task call).Yields found kept (post call))
    (houtside : ∀ s s', kept s → setting.outside s s' → kept s') :
    c'.Yielding found kept post := by
  induction hrun with
  | refl => exact h
  | tail _ hstep ih => exact ih.step hstep.1 (hfound _ ih.state hstep.2) htask houtside

end Crowd

end LaunchIndex
