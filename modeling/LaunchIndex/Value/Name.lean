import LaunchIndex.Fault

/-! Texts from values where nothing but a text will do. Elsewhere a value of any kind has a text;
here a value of another kind is refused, for an operation that only texts have or as the name
of a file. -/

namespace LaunchIndex.Value

/-- The text that a value is, for an operation that only texts have. -/
def textFor (operation : Text) : Value → Outcome Text
  | text t => .ok t
  | bytes _ => .error .notOfBytes
  | v => .error (.noMethod v.kindName operation)

/-- The name of a file that a value is. -/
def fileName : Value → Outcome Text
  | text t => .ok t
  | v => .error (.noFileName v.kindName)

/-- The name of the place that a value stands for when it is asked what is there. Numbers stand
for open files, and there are none. -/
def placeName : Value → Outcome Text
  | text t => .ok t
  | bool b => .ok (bool b).display
  | int i => .ok (int i).display
  | v => .error (.noPlace v.kindName)

/-- The name of a place, or null for the standard one. -/
def placeName? (v : Value) : Outcome (Option Text) :=
  match v with
  | null => .ok none
  | v => v.placeName.map some

end LaunchIndex.Value
