import LaunchIndex.Proofs.Assurance

/-! Routines that act once at most, and with their last step. Every other step is quiet, so what has
been done in a crowd of them can be read off its ended calls: a step of the crowd is quiet, or it
ends one call and does what that call is there for. -/

namespace LaunchIndex

namespace Routine

variable {σ τ α β : Type} {rely quiet : σ → σ → Prop} {silent : α → Prop}
  {acts : α → σ → σ → Prop}

/-- While others change the state by `rely`, every step is quiet and the result is silent, unless
the last step acts. -/
def ActsLast (rely quiet : σ → σ → Prop) (silent : α → Prop) (acts : α → σ → σ → Prop) :
    Routine σ α → σ → Prop
  | finish result, _ => silent result
  | act step next, s => ∀ s', rely s s' →
    (quiet s' (step s').2 ∧ (next (step s').1).ActsLast rely quiet silent acts (step s').2) ∨
      ∃ result, next (step s').1 = finish result ∧ acts result s' (step s').2
  | await _ next, s => ∀ s', rely s s' → next.ActsLast rely quiet silent acts s'
  | hold _ next, s => ∀ s', rely s s' → next.ActsLast rely quiet silent acts s'

theorem ActsLast.of_rely {r : Routine σ α} {s s' : σ} (h : r.ActsLast rely quiet silent acts s)
    (htrans : ∀ s₁ s₂ s₃, rely s₁ s₂ → rely s₂ s₃ → rely s₁ s₃) (hs : rely s s') :
    r.ActsLast rely quiet silent acts s' := by
  cases r with
  | finish result => exact h
  | act step next => exact fun s'' hs' => h s'' (htrans _ _ _ hs hs')
  | await wait next => exact fun s'' hs' => h s'' (htrans _ _ _ hs hs')
  | hold ready next => exact fun s'' hs' => h s'' (htrans _ _ _ hs hs')

theorem ActsLast.mono {acts' : α → σ → σ → Prop} {r : Routine σ α} {s : σ}
    (h : r.ActsLast rely quiet silent acts s) (hacts : ∀ a s s', acts a s s' → acts' a s s') :
    r.ActsLast rely quiet silent acts' s := by
  induction r generalizing s with
  | finish result => exact h
  | act step next ih =>
    intro s' hs
    rcases h s' hs with ⟨hquiet, hrest⟩ | ⟨result, hnext, hact⟩
    · exact .inl ⟨hquiet, ih _ hrest⟩
    · exact .inr ⟨result, hnext, hacts _ _ _ hact⟩
  | await wait next ih => exact fun s' hs => ih (h s' hs)
  | hold ready next ih => exact fun s' hs => ih (h s' hs)

/-- A step of the routine is quiet, or acts and is the last one. -/
theorem ActsLast.next {r r' : Routine σ α} {s s' : σ} (h : r.ActsLast rely quiet silent acts s)
    (hrefl : rely s s) (hsame : quiet s s) (hnext : r.next? s = some (r', s')) :
    (quiet s s' ∧ r'.ActsLast rely quiet silent acts s') ∨
      ∃ result, r' = finish result ∧ acts result s s' := by
  cases r with
  | finish result => exact absurd hnext nofun
  | act step next =>
    obtain ⟨rfl, rfl⟩ := Prod.mk.inj (Option.some.inj hnext)
    exact h s hrefl
  | await wait next =>
    obtain ⟨rfl, rfl⟩ := Prod.mk.inj (Option.some.inj hnext)
    exact .inl ⟨hsame, h s hrefl⟩
  | hold ready next =>
    obtain ⟨-, hnext⟩ := Option.ite_none_right_eq_some.mp hnext
    obtain ⟨rfl, rfl⟩ := Prod.mk.inj (Option.some.inj hnext)
    exact .inl ⟨hsame, h s hrefl⟩

theorem Assures.actsLast {r : Routine σ α} {s : σ}
    (h : r.Assures rely quiet (fun a _ => silent a) s) : r.ActsLast rely quiet silent acts s := by
  induction r generalizing s with
  | finish result => exact h
  | act step next ih => exact fun s' hs => .inl ⟨(h s' hs).1, ih _ (h s' hs).2⟩
  | await wait next ih => exact fun s' hs => ih (h s' hs)
  | hold ready next ih => exact fun s' hs => ih (h s' hs)

/-- What is quiet comes before what acts. -/
theorem Assures.bind_actsLast {acts : β → σ → σ → Prop} {silent : β → Prop} {r : Routine σ α}
    {k : α → Routine σ β} {s : σ}
    (h : r.Assures rely quiet (fun a s => (k a).ActsLast rely quiet silent acts s) s) :
    (r.bind k).ActsLast rely quiet silent acts s := by
  induction r generalizing s with
  | finish result => exact h
  | act step next ih => exact fun s' hs => .inl ⟨(h s' hs).1, ih _ (h s' hs).2⟩
  | await wait next ih => exact fun s' hs => ih (h s' hs)
  | hold ready next ih => exact fun s' hs => ih (h s' hs)

/-- After an act there is only a result to return. -/
theorem ActsLast.bind {silent' : β → Prop} {acts' : β → σ → σ → Prop} {r : Routine σ α}
    {k : α → Routine σ β} {s : σ} (h : r.ActsLast rely quiet silent acts s)
    (hsilent : ∀ a s, silent a → (k a).ActsLast rely quiet silent' acts' s)
    (hacts : ∀ a s s', acts a s s' → ∃ b, k a = finish b ∧ acts' b s s') :
    (r.bind k).ActsLast rely quiet silent' acts' s := by
  induction r generalizing s with
  | finish result => exact hsilent result s h
  | act step next ih =>
    intro s' hs
    rcases h s' hs with ⟨hquiet, hrest⟩ | ⟨result, hnext, hact⟩
    · exact .inl ⟨hquiet, ih _ hrest⟩
    · obtain ⟨b, hk, hb⟩ := hacts _ _ _ hact
      refine .inr ⟨b, ?_, hb⟩
      change (next (step s').1).bind k = finish b
      rw [hnext, ← hk]
      rfl
  | await wait next ih => exact fun s' hs => ih (h s' hs)
  | hold ready next ih => exact fun s' hs => ih (h s' hs)

/-- A routine on a part of a state that is there acts as it does on the part alone. -/
theorem ActsLast.zoom (has : τ → Prop) (get : τ → σ) (set : σ → τ → τ)
    {rely' quiet' : τ → τ → Prop} {acts' : α → τ → τ → Prop} {r : Routine σ α} {t : τ}
    (h : r.ActsLast rely quiet silent acts (get t)) (ht : has t)
    (hhas : ∀ t t', has t → rely' t t' → has t')
    (hset : ∀ t s, has t → quiet (get t) s → has (set s t) ∧ get (set s t) = s)
    (hrely : ∀ t t', has t → rely' t t' → rely (get t) (get t'))
    (hquiet : ∀ t s, has t → quiet (get t) s → quiet' t (set s t))
    (hacts : ∀ a t s, has t → acts a (get t) s → acts' a t (set s t)) :
    (r.zoom get set).ActsLast rely' quiet' silent acts' t := by
  induction r generalizing t with
  | finish result => exact h
  | act step next ih =>
    intro t' ht'
    have hhas' := hhas t t' ht ht'
    rcases h (get t') (hrely t t' ht ht') with ⟨hstep, hrest⟩ | ⟨result, hnext, hact⟩
    · obtain ⟨hthere, hget⟩ := hset t' _ hhas' hstep
      exact .inl ⟨hquiet t' _ hhas' hstep, ih _ (by rw [hget]; exact hrest) hthere⟩
    · refine .inr ⟨result, ?_, hacts _ _ _ hhas' hact⟩
      simp only
      rw [hnext]
      rfl
  | await wait next ih => exact fun t' ht' => ih (h _ (hrely t t' ht ht')) (hhas t t' ht ht')
  | hold ready next ih => exact fun t' ht' => ih (h _ (hrely t t' ht ht')) (hhas t t' ht ht')

end Routine

namespace Crowd

variable {σ κ α : Type} {setting : Setting σ κ α} {c c' : Crowd σ κ α}
  {rely quiet : σ → σ → Prop} {silent : κ → α → Prop} {acts : κ → α → σ → σ → Prop}

/-- Every job acts with its last step, if it is not over. -/
def ActsLast (rely quiet : σ → σ → Prop) (silent : κ → α → Prop) (acts : κ → α → σ → σ → Prop)
    (c : Crowd σ κ α) : Prop :=
  c.All
    (fun job s => (∃ result, job.rest = .finish result) ∨
      job.rest.ActsLast rely quiet (silent job.call) (acts job.call) s)
    fun _ _ => True

/-- What a step of a crowd does: it is quiet, and if a call ends then silently; or it ends a call
with its act. -/
inductive Told (quiet : σ → σ → Prop) (silent : κ → α → Prop) (acts : κ → α → σ → σ → Prop)
    (c c' : Crowd σ κ α) : Prop
  | quiet (hquiet : quiet c.state c'.state) (hended : c'.ended = c.ended)
  | silent (hquiet : quiet c.state c'.state) (e : Ended κ α) (hsilent : silent e.call e.result)
    (hended : c'.ended = c.ended ++ [e])
  | acts (e : Ended κ α) (hacts : acts e.call e.result c.state c'.state)
    (hended : c'.ended = c.ended ++ [e])

theorem ActsLast.told (h : c.ActsLast rely quiet silent acts) (hstep : Step setting c c')
    (hrefl : rely c.state c.state) (hsame : ∀ s, quiet s s)
    (hstart : ∀ call, setting.allowed call c.state →
      (setting.task call).ActsLast rely quiet (silent call) (acts call) c.state)
    (houtside : ∀ s s', setting.outside s s' → quiet s s') : Told quiet silent acts c c' := by
  cases hstep with
  | start call allowed =>
    rcases put_eq { c with started := c.started + 1 } c.running [] c.started call
      (setting.task call) with ⟨result, hr, heq⟩ | ⟨-, heq⟩ <;> rw [heq]
    · have hsilent := hstart call allowed
      rw [hr] at hsilent
      exact .silent (hsame _) ⟨_, call, result⟩ hsilent rfl
    · exact .quiet (hsame _) rfl
  | work before job after rest s running next =>
    have hjob := h.running job (by rw [running]; simp)
    rcases hjob with ⟨result, hr⟩ | hjob
    · rw [hr] at next
      exact absurd next nofun
    · rcases put_eq { c with state := s } before after job.number job.call rest with
        ⟨result, rfl, heq⟩ | ⟨hrest, heq⟩ <;> rw [heq]
      · rcases hjob.next hrefl (hsame _) next with ⟨hquiet, hsilent⟩ | ⟨result', hr, hact⟩
        · exact .silent hquiet ⟨_, job.call, result⟩ hsilent rfl
        · obtain rfl := Routine.finish.inj hr
          exact .acts ⟨_, job.call, result⟩ hact rfl
      · rcases hjob.next hrefl (hsame _) next with ⟨hquiet, -⟩ | ⟨result', hr, -⟩
        · exact .quiet hquiet rfl
        · exact absurd hr (hrest result')
  | outside s outside => exact .quiet (houtside _ _ outside) rfl

theorem ActsLast.step (h : c.ActsLast rely quiet silent acts) (hstep : Step setting c c')
    (hrefl : rely c.state c.state) (hsame : ∀ s, quiet s s)
    (htrans : ∀ s₁ s₂ s₃, rely s₁ s₂ → rely s₂ s₃ → rely s₁ s₃)
    (hstart : ∀ call, setting.allowed call c.state →
      (setting.task call).ActsLast rely quiet (silent call) (acts call) c.state)
    (hrely : rely c.state c'.state) : c'.ActsLast rely quiet silent acts := by
  refine All.step h hstep (fun _ _ _ _ _ => trivial) (fun job hjob => ?_) (fun _ _ => trivial)
    (fun call hallowed => .inr (hstart call hallowed)) fun job rest s hjob hnext => ?_
  · exact hjob.imp_right fun hjob => hjob.of_rely htrans hrely
  · rcases hjob with ⟨result, hr⟩ | hjob
    · rw [hr] at hnext
      exact absurd hnext nofun
    · rcases hjob.next hrefl (hsame _) hnext with ⟨-, hrest⟩ | ⟨result, hr, -⟩
      · exact .inr hrest
      · exact .inl ⟨result, hr⟩

end Crowd

end LaunchIndex
