import LaunchIndex.Fault

/-! The named arguments of operations. A caller may leave some out and must give the others; a
name that the operation does not have is refused first. -/

namespace LaunchIndex

/-- The names of the arguments of an operation. -/
structure Signature where
  operation : Text
  required : List Text := []
  optional : List Text := []

namespace Signature

/-- Whether an operation can be called with the arguments of these names. -/
def check (s : Signature) (given : List Text) : Outcome Unit :=
  let known := s.required ++ s.optional
  match given.find? fun name => !known.contains name with
  | some name => .error (.unexpectedArgument s.operation name)
  | none =>
    match s.required.find? fun name => !given.contains name with
    | some name => .error (.missingArgument s.operation name)
    | none => .ok ()

end Signature

end LaunchIndex
