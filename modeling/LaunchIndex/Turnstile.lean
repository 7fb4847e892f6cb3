/-! A lock that serves in the order of arrival. Each arrival takes a ticket, and the lock is
held by the ticket that is being served. When the last holder leaves, the tickets start anew,
so a free lock has one state. -/

namespace LaunchIndex

/-- The next ticket to be given out and the ticket that holds the lock. -/
structure Turnstile where
  issued : Nat := 0
  serving : Nat := 0
deriving DecidableEq, Repr

namespace Turnstile

def isFree (t : Turnstile) : Bool := t.issued == t.serving

/-- A ticket for an arrival. -/
def take (t : Turnstile) : Nat × Turnstile := (t.issued, { t with issued := t.issued + 1 })

/-- Whether a ticket holds the lock. -/
def admits (t : Turnstile) (ticket : Nat) : Bool := t.serving == ticket

/-- The holder leaves, and the next ticket is served. -/
def leave (t : Turnstile) : Turnstile :=
  if t.serving + 1 = t.issued then {} else { t with serving := t.serving + 1 }

theorem leave_take : ({} : Turnstile).take.2.leave = {} := rfl

end Turnstile

end LaunchIndex
