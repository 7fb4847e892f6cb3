/-! Operations that may be suspended. A routine is a tree of atomic steps on a shared state,
with marks where it waits for the outside and where it waits for its turn. Run alone it takes
its steps one after another; the marks say where another routine may step in between. -/

namespace LaunchIndex

/-- What a routine waits for outside of the program: the database engine, a stand-in for it that
answers at once, or the end of a pause. -/
inductive Wait where
  | engine
  | standIn
  | pause
deriving DecidableEq, Repr

/-- An operation on a state of type `σ` with a result of type `α`. -/
inductive Routine (σ : Type) (α : Type) : Type 1 where
  | finish (result : α)
  | act {β : Type} (step : σ → β × σ) (next : β → Routine σ α)
  | await (wait : Wait) (next : Routine σ α)
  | hold (ready : σ → Bool) (next : Routine σ α)

namespace Routine

variable {σ τ α β : Type}

def bind : Routine σ α → (α → Routine σ β) → Routine σ β
  | finish result, k => k result
  | act step next, k => act step fun b => (next b).bind k
  | await wait next, k => await wait (next.bind k)
  | hold ready next, k => hold ready (next.bind k)

instance : Monad (Routine σ) where
  pure := finish
  bind := bind

/-- The routine run alone. Nobody else holds it up, so its marks are passed over. -/
def run : Routine σ α → σ → α × σ
  | finish result, s => (result, s)
  | act step next, s => (next (step s).1).run (step s).2
  | await _ next, s => next.run s
  | hold _ next, s => next.run s

theorem run_bind (r : Routine σ α) (k : α → Routine σ β) (s : σ) :
    (r.bind k).run s = (k (r.run s).1).run (r.run s).2 := by
  induction r generalizing s with
  | finish result => rfl
  | act step next ih => exact ih _ _
  | await wait next ih => exact ih _
  | hold ready next ih => exact ih _

/-- One step that changes the state. -/
def update (f : σ → σ) : Routine σ Unit := act (fun s => ((), f s)) finish

/-- One step that looks at the state. -/
def look (f : σ → α) : Routine σ α := act (fun s => (f s, s)) finish

/-- One step that does both. -/
def step (f : σ → α × σ) : Routine σ α := act f finish

/-- A mark for a wait. -/
def waitFor (wait : Wait) : Routine σ Unit := await wait (finish ())

/-- A mark for a turn. -/
def holdUntil (ready : σ → Bool) : Routine σ Unit := hold ready (finish ())

/-- The routine on a part of a larger state. -/
def zoom (get : τ → σ) (set : σ → τ → τ) : Routine σ α → Routine τ α
  | finish result => finish result
  | act step next =>
    act (fun t => ((step (get t)).1, set (step (get t)).2 t)) fun b => (next b).zoom get set
  | await wait next => await wait (next.zoom get set)
  | hold ready next => hold (fun t => ready (get t)) (next.zoom get set)

end Routine

end LaunchIndex
