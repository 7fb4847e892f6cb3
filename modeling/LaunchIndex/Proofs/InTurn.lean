import LaunchIndex.Proofs.Asking

/-! Calls one after another, of which some may be refused. A search does nothing that counts for
the others but to ask, so if only searches are refused, the others come to the same as without
refusals, unless a stand-in gives them another answer because it has been asked less. -/

namespace LaunchIndex

/-- An attempt to connect, an opened or closed handle, or a pause: everything but a use of a handle
and an entry of the log. -/
def Happening.isDeed : Happening → Bool
  | used _ => false
  | logged _ => false
  | _ => true

def World.deeds (w : World) : List Happening := w.trace.filter Happening.isDeed

namespace Site

/-- Sites that differ in the lock at most, in what stand-ins have been asked, and in the trace, but
not in its deeds. -/
def Kin (s t : Site) : Prop := (s.asking []).Similar Happening.isDeed (t.asking [])

theorem Kin.refl (s : Site) : s.Kin s := Similar.refl _ _

theorem Kin.connection_eq {s t : Site} (h : s.Kin t)
    (hlock : s.connection.lock = t.connection.lock) : s.connection = t.connection :=
  connection_eq_of_bare (s := s.asking []) (t := t.asking []) h.bare hlock

theorem Kin.deeds {s t : Site} (h : s.Kin t) : s.world.deeds = t.world.deeds := h.trace

theorem Kin.similar {s t : Site} (h : s.Kin t) :
    s.Similar Happening.isDeed (t.asking s.world.asked) :=
  ⟨congrArg (asking s.world.asked) h.bare, h.trace⟩

theorem Kin.standIn_eq {s t : Site} (h : s.Kin t) : s.standIn? = t.standIn? := by
  have hbare : (s.asking []).bare.standIn? = (t.asking []).bare.standIn? := by rw [h.bare]
  exact hbare

/-- A query does no deed. -/
theorem outlasting_kin (s : Site) : Outlasting fun t => t.Kin s where
  lock t lock h := (similar_withLock _ lock (t.asking [])).trans h
  used t handle inquiry h _ := by
    refine ⟨h.bare, ?_⟩
    rw [← h.trace]
    simp [asking, mapWorld, World.use, World.happen, Happening.isDeed]
  log t e h := by
    refine ⟨h.bare, ?_⟩
    rw [← h.trace]
    simp [asking, mapWorld, World.log, World.happen, Happening.isDeed]

end Site

open Routine (Alike)

namespace Call

theorem keeps_task {p : Site → Prop} (h : Site.Lasting p) (c : Call) : c.task.Keeps p := by
  cases c with
  | establish => exact h.establish.bind fun _ => Task.keeps_pure _
  | close => exact h.close.bind fun _ => Task.keeps_pure _
  | destroy => exact h.destroy.bind fun _ => Task.keeps_pure _
  | search query nonempty maxResults => exact (h.search _ _).bind fun _ => Task.keeps_pure _
  | mostUsed limit => exact (h.mostUsed _).bind fun _ => Task.keeps_pure _

/-- What a call asks of the handle, if its parameters can be made. -/
def inquiry? : Call → Option Inquiry
  | search query _ maxResults =>
    (Connection.searchParameters query (.int maxResults)).toOption.map Inquiry.search
  | mostUsed limit => limit.toInteger.toOption.map fun n => .mostUsed (max 1 n)
  | _ => none

/-- Stand-ins give the call the same answer on two sites. -/
def AnsweredAlike (c : Call) (s t : Site) : Prop :=
  ∀ inquiry, c.inquiry? = some inquiry → s.reply inquiry = t.reply inquiry

def asks : Call → Bool
  | search _ _ _ | mostUsed _ => true
  | _ => false

theorem asks_of_isSearch {c : Call} (hc : c.isSearch = true) : c.asks = true := by
  cases c with
  | search query nonempty maxResults => rfl
  | _ => exact absurd hc (by simp [isSearch])

theorem heedless_task {c : Call} (hc : c.asks = false) : c.task.Heedless := by
  cases c with
  | establish => exact Connection.heedless_establish.bind fun _ => Task.heedless_pure _
  | close => exact Connection.heedless_close.bind fun _ => Task.heedless_pure _
  | destroy => exact Connection.heedless_destroy.bind fun _ => Task.heedless_pure _
  | _ => exact absurd hc (by simp [asks])

theorem keeps_kin {c : Call} (hc : c.asks = true) (s : Site) : c.task.Keeps fun t => t.Kin s := by
  cases c with
  | search query nonempty maxResults =>
    exact ((Site.outlasting_kin s).search _ _).bind fun _ => Task.keeps_pure _
  | mostUsed limit => exact ((Site.outlasting_kin s).mostUsed _).bind fun _ => Task.keeps_pure _
  | _ => exact absurd hc (by simp [asks])

theorem exec_kin (c : Call) {s t : Site} (h : s.Kin t) :
    (Task.exec c.task s).2.Kin (Task.exec c.task t).2 := by
  cases hc : c.asks with
  | true => exact (keeps_kin hc s s (.refl s)).trans (h.trans (keeps_kin hc t t (.refl t)).symm)
  | false =>
    have halike := (c.blind.alike h).site
    have hasking (u : Site) : c.task.run.run (u.asking []) = _ := heedless_task hc [] u
    rw [hasking s, hasking t] at halike
    exact halike

/-- A call that is answered alike comes to the same. -/
theorem echoes_task {c : Call} {s : Site} {past : Past}
    (h : c.AnsweredAlike (s.asking past) s) : c.task.Echoes s past := by
  have hrows : ∀ inquiry, c.inquiry? = some inquiry → ∀ t, s.standIn? = some t →
      t.rows past inquiry = t.rows s.world.asked inquiry := by
    intro inquiry hc t ht
    have hreply : s.standIn?.map _ = s.standIn?.map _ := h inquiry hc
    rw [ht] at hreply
    exact Option.some.inj hreply
  cases c with
  | search query nonempty maxResults =>
    refine (Connection.echoes_search fun p hp => hrows _ ?_).bind_heedless fun _ =>
      Task.heedless_pure _
    rw [inquiry?, hp]
    rfl
  | mostUsed limit =>
    refine (Connection.echoes_mostUsed fun n hn => hrows _ ?_).bind_heedless fun _ =>
      Task.heedless_pure _
    rw [inquiry?, hn]
    rfl
  | _ => exact (heedless_task rfl).echoes _ _

theorem result_of_kin {c : Call} {s t : Site} (h : s.Kin t) (halike : c.AnsweredAlike s t) :
    (Task.exec c.task s).1 = (Task.exec c.task t).1 := by
  have hsame : c.AnsweredAlike (t.asking s.world.asked) t := by
    intro inquiry hc
    rw [← halike inquiry hc, Site.reply, Site.reply, h.standIn_eq]
    rfl
  exact (c.blind.alike h.similar).result.trans (echoes_task hsame).result

/-- The calls one after another. -/
def inTurn : List Call → Site → List (Outcome Answer) × Site
  | [], s => ([], s)
  | c :: calls, s =>
    let (result, s) := Task.exec c.task s
    let (results, s) := inTurn calls s
    (result :: results, s)

def turn (c : Call) (refusal : Option Fault) (s : Site) : Outcome Answer × Site :=
  match refusal with
  | none => Task.exec c.task s
  | some fault => (.error fault, s)

/-- The calls one after another; some are refused and do nothing. -/
def inTurnBut : List (Call × Option Fault) → Site → List (Outcome Answer) × Site
  | [], s => ([], s)
  | (c, refusal) :: entries, s =>
    let (result, s) := c.turn refusal s
    let (results, s) := inTurnBut entries s
    (result :: results, s)

variable {counts : Happening → Bool} {s t : Site}

theorem alike_turn (c : Call) (refusal : Option Fault) (h : s.Similar counts t) :
    Alike counts (c.turn refusal s) (c.turn refusal t) := by
  cases refusal with
  | none => exact c.blind.alike h
  | some fault => exact ⟨rfl, h⟩

theorem alike_inTurnBut (entries : List (Call × Option Fault)) (h : s.Similar counts t) :
    Alike counts (inTurnBut entries s) (inTurnBut entries t) := by
  induction entries generalizing s t with
  | nil => exact ⟨rfl, h⟩
  | cons entry entries ih =>
    obtain ⟨c, refusal⟩ := entry
    obtain ⟨hresult, hmiddle⟩ := c.alike_turn refusal h
    obtain ⟨hresults, hsite⟩ := ih hmiddle
    exact ⟨congrArg₂ List.cons hresult hresults, hsite⟩

theorem keeps_inTurnBut {p : Site → Prop} (h : Site.Lasting p)
    (entries : List (Call × Option Fault)) (hs : p s) : p (inTurnBut entries s).2 := by
  induction entries generalizing s with
  | nil => exact hs
  | cons entry entries ih =>
    obtain ⟨c, refusal⟩ := entry
    cases refusal with
    | none => exact ih (c.keeps_task h s hs)
    | some fault => exact ih hs

theorem keeps_inTurn {p : Site → Prop} (h : Site.Lasting p) (calls : List Call) (hs : p s) :
    p (inTurn calls s).2 := by
  induction calls generalizing s with
  | nil => exact hs
  | cons c calls ih => exact ih (c.keeps_task h s hs)

theorem trace_inTurnBut (entries : List (Call × Option Fault)) (s : Site) :
    s.world.trace <+: (inTurnBut entries s).2.world.trace := by
  induction entries generalizing s with
  | nil => exact List.prefix_rfl
  | cons entry entries ih =>
    obtain ⟨c, refusal⟩ := entry
    cases refusal with
    | none =>
      have hfirst : s.world.trace <+: (Task.exec c.task s).2.world.trace := by
        rw [Task.exec, c.blind.trace]
        exact List.prefix_append _ _
      exact hfirst.trans (ih _)
    | some fault => exact ih s

/-- If only searches are refused, nothing else changes but what stand-ins are asked. -/
theorem inTurnBut_kin {entries : List (Call × Option Fault)}
    (hsearch : ∀ c fault, (c, some fault) ∈ entries → c.isSearch = true) (h : s.Kin t) :
    (inTurnBut entries s).2.Kin (inTurn (entries.map Prod.fst) t).2 ∧
      ∀ i : Nat, (∃ c fault, entries[i]? = some (c, some fault) ∧
          (inTurnBut entries s).1[i]? = some (.error fault)) ∨
        ((∀ c, (entries.map Prod.fst)[i]? = some c → c.AnsweredAlike
            (inTurnBut (entries.take i) s).2 (inTurn ((entries.map Prod.fst).take i) t).2) →
          (inTurnBut entries s).1[i]? = (inTurn (entries.map Prod.fst) t).1[i]?) := by
  induction entries generalizing s t with
  | nil => exact ⟨h, fun i => .inr fun _ => rfl⟩
  | cons entry entries ih =>
    obtain ⟨c, refusal⟩ := entry
    have hrest : ∀ c fault, (c, some fault) ∈ entries → c.isSearch = true := fun c fault hmem =>
      hsearch c fault (List.mem_cons_of_mem _ hmem)
    cases refusal with
    | none =>
      obtain ⟨hsite, hresults⟩ := ih hrest (c.exec_kin h)
      refine ⟨hsite, fun i => ?_⟩
      cases i with
      | zero => exact .inr fun halike => congrArg some (result_of_kin h (halike c rfl))
      | succ i => exact hresults i
    | some fault =>
      -- In its turn the search would do no deed.
      have hc := hsearch c fault List.mem_cons_self
      have hkin := keeps_kin (asks_of_isSearch hc) t t (.refl t)
      obtain ⟨hsite, hresults⟩ := ih hrest (h.trans hkin.symm)
      refine ⟨hsite, fun i => ?_⟩
      cases i with
      | zero => exact .inl ⟨c, fault, rfl, rfl⟩
      | succ i => exact hresults i

end Call

end LaunchIndex
