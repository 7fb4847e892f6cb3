import LaunchIndex.Routine

/-! Routines that are started together and take turns. In each round every routine that is not
finished goes on, in the order of the list, until it has to wait. Which waits really suspend a
routine, and for how long, is left to a pattern. -/

namespace LaunchIndex

namespace Routine

variable {σ α : Type}

/-- How a turn ends. -/
inductive Turn (σ α : Type) : Type 1 where
  | finished (result : α) (state : σ)
  | waiting (rest : Routine σ α) (state : σ)

/-- A routine goes on until it is finished, suspended or held up. In its turn it has passed so
many waits already. -/
def advance (suspends : Nat → Wait → Bool) (passed : Nat) : Routine σ α → σ → Turn σ α
  | finish result, s => .finished result s
  | act step next, s => advance suspends passed (next (step s).1) (step s).2
  | await wait next, s =>
    if suspends passed wait then .waiting next s else advance suspends (passed + 1) next s
  | hold ready next, s =>
    if ready s then advance suspends passed next s else .waiting (hold ready next) s

/-- Which waits of a turn suspend, and which routines sit out a round, by round and by place in
the list. -/
structure Pattern where
  suspends : Nat → Nat → Nat → Wait → Bool
  sitsOut : Nat → Nat → Bool

/-- The database engine works on its own time; everything else answers at once. -/
def Pattern.engineOnly : Pattern where
  suspends := fun _ _ _ wait => wait == .engine
  sitsOut := fun _ _ => false

/-- A gathered routine: its result, or what is left of it. -/
inductive Progress (σ α : Type) : Type 1 where
  | done (result : α)
  | pending (rest : Routine σ α)

/-- One turn of each routine from a place in the list on. -/
def round (pattern : Pattern) (number : Nat) (place : Nat) :
    List (Progress σ α) → σ → List (Progress σ α) × σ
  | [], s => ([], s)
  | .done result :: others, s =>
    let (others, s) := round pattern number (place + 1) others s
    (.done result :: others, s)
  | .pending rest :: others, s =>
    if pattern.sitsOut number place then
      let (others, s) := round pattern number (place + 1) others s
      (.pending rest :: others, s)
    else
      match advance (pattern.suspends number place) 0 rest s with
      | .finished result s =>
        let (others, s) := round pattern number (place + 1) others s
        (.done result :: others, s)
      | .waiting rest s =>
        let (others, s) := round pattern number (place + 1) others s
        (.pending rest :: others, s)

def Progress.isDone : Progress σ α → Bool
  | .done _ => true
  | .pending _ => false

def Progress.result? : Progress σ α → Option α
  | .done result => some result
  | .pending _ => none

/-- Round after round until all routines are finished, or the rounds are used up. -/
def rounds (pattern : Pattern) (number : Nat) :
    Nat → List (Progress σ α) → σ → List (Progress σ α) × σ
  | 0, all, s => (all, s)
  | left + 1, all, s =>
    if all.all Progress.isDone then (all, s)
    else
      let (all, s) := round pattern number 0 all s
      rounds pattern (number + 1) left all s

/-- The results of routines started together, and the final state. -/
def gather (pattern : Pattern) (limit : Nat) (routines : List (Routine σ α)) (s : σ) :
    List (Option α) × σ :=
  let (all, s) := rounds pattern 0 limit (routines.map .pending) s
  (all.map Progress.result?, s)

end Routine

end LaunchIndex
