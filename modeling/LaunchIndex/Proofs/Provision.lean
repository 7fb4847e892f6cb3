import LaunchIndex.Proofs.Asking
import LaunchIndex.Proofs.Failures
import LaunchIndex.Proofs.Lifecycle

/-! Which stand-ins a connection can come to ask: the one that it has for a handle, and those that
are left in its script. Whatever is done with the connection, no other ones are added. -/

namespace LaunchIndex

/-- The stand-in is the handle of the connection, or is left in its script. -/
inductive Connection.Provides (c : Connection) (t : StandIn) : Prop
  | held {number : Nat} (handle : c.handle = some ⟨number, .standIn t⟩)
  | scripted {script : List Attempt} (left : c.script = some script) (mem : .standIn t ∈ script)

/-- Every stand-in that the connection can come to ask is good. -/
def Site.Provided (good : StandIn → Prop) (s : Site) : Prop :=
  ∀ t, s.connection.Provides t → good t

namespace Site

variable {good : StandIn → Prop} {s s' : Site}

/-- A stand-in that an attempt meets is the next one of the script. -/
theorem scripted_of_trial {number : Nat} {t : StandIn}
    (h : s.trial.1 = .ok ⟨number, .standIn t⟩) : s.scripted = .standIn t := by
  rw [trial_eq] at h
  cases hscripted : s.scripted with
  | fails fault =>
    rw [hscripted] at h
    cases h
  | standIn t' =>
    rw [hscripted] at h
    obtain rfl : t' = t := Target.standIn.inj (Handle.mk.inj (Except.ok.inj h)).2
    rfl
  | real =>
    have hreal :=
      Service.ensures_connectFile s.released.noted.connection.path s.released.noted.world
    rw [hscripted, connect, onWorld] at h
    rw [h] at hreal
    exact absurd rfl (hreal t)

namespace Provided

/-- Only the handle and the script matter. -/
theorem of_eq (h : s.Provided good) (hhandle : s'.connection.handle = s.connection.handle)
    (hscript : s'.connection.script = s.connection.script) : s'.Provided good := by
  rintro t (hheld | ⟨hleft, hmem⟩)
  · exact h t (.held (hhandle.symm.trans hheld))
  · exact h t (.scripted (hscript.symm.trans hleft) hmem)

theorem released (h : s.Provided good) : s.released.Provided good := by
  intro t ht
  rw [released_connection] at ht
  rcases ht with hheld | ⟨hleft, hmem⟩
  · cases hheld
  · exact h t (.scripted hleft hmem)

theorem trial (h : s.Provided good) : s.trial.2.Provided good := by
  intro t ht
  rw [trial_connection] at ht
  rcases ht with hheld | ⟨hleft, hmem⟩
  · cases hheld
  · obtain ⟨script, hscript, rfl⟩ := Option.map_eq_some_iff.mp hleft
    exact h t (.scripted hscript (List.mem_of_mem_tail hmem))

theorem attach (h : s.Provided good) {handle : Handle} (ht : s.trial.1 = .ok handle) :
    (s.trial.2.attach handle).Provided good := by
  rintro t (hheld | ⟨hleft, hmem⟩)
  · obtain rfl := Option.some.inj hheld
    have hnext := scripted_of_trial ht
    rw [scripted] at hnext
    cases hscript : s.connection.script with
    | none =>
      rw [hscript] at hnext
      cases hnext
    | some script =>
      cases script with
      | nil =>
        rw [hscript] at hnext
        cases hnext
      | cons attempt rest =>
        rw [hscript] at hnext
        obtain rfl : attempt = .standIn t := hnext
        exact h t (.scripted hscript List.mem_cons_self)
  · exact h.trial t (.scripted hleft hmem)

end Provided

theorem Provided.of_standIn? (h : s.Provided good) {t : StandIn} (ht : s.standIn? = some t) :
    good t := by
  refine h t ?_
  unfold standIn? at ht
  split at ht
  · next hhandle => exact .held (Option.some.inj ht ▸ hhandle)
  · cases ht

theorem outlasting_provided (good : StandIn → Prop) : Outlasting (Provided good) where
  lock _ _ h := h.of_eq rfl rfl
  used _ _ _ h _ := h.of_eq rfl rfl
  log _ _ h := h.of_eq rfl rfl

end Site

namespace Connection

variable {good : StandIn → Prop} {path : Text} {p : Policy} {last : Option StoreError}
  {n left : Nat}

theorem provided_pause : (pause p n).Keeps (Site.Provided good) := by
  intro s hs
  rcases exec_pause_eq p n s with ⟨fault, hp⟩ | ⟨seconds, hp⟩ <;> rw [hp]
  · exact hs
  · exact hs.of_eq rfl rfl

theorem provided_attempts :
    (attempts path p last (n + 1) left).Keeps (Site.Provided good) := by
  induction left generalizing n last with
  | zero => exact fun s hs => hs.of_eq rfl rfl
  | succ left ih =>
    intro s hs
    rcases ht : s.trial.1 with fault | handle <;> rw [exec_attempts_succ, ht]
    · cases fault with
      | store e =>
        simp only
        split
        case h_1 =>
          have hbusy : (s.trial.2.mapWorld
              (World.log (Event.busy (n + 1) p.givenAttempts))).Provided good :=
            hs.trial.of_eq rfl rfl
          split
          · exact provided_pause.bind (fun _ => ih) _ hbusy
          · exact ih _ hbusy
        case h_2 => exact hs.trial.of_eq rfl rfl
        case h_3 => exact hs.trial
      | _ => exact hs.trial
    · exact (hs.attach ht).of_eq rfl rfl

theorem provided_establish : establish.Keeps (Site.Provided good) := by
  refine (Site.outlasting_provided good).locked ((Task.keeps_look _).bind fun c => ?_)
  split
  · exact Task.keeps_throw _
  · split
    · exact Task.keeps_pure _
    · exact (Task.keeps_ofOutcome _).bind fun rounds => provided_attempts

end Connection

theorem Site.lasting_provided (good : StandIn → Prop) : Lasting (Provided good) where
  establish := Connection.provided_establish
  close s hs := by
    rw [Connection.exec_close]
    exact hs.released.of_eq rfl rfl
  destroy s hs := by
    rw [Connection.exec_destroy]
    exact hs.released.of_eq rfl rfl
  search := (outlasting_provided good).search
  usage := (outlasting_provided good).usage
  mostUsed := (outlasting_provided good).mostUsed
  log := (outlasting_provided good).keeps_log
  world _ _ h _ _ := h.of_eq rfl rfl

end LaunchIndex
