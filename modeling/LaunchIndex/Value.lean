import LaunchIndex.Binary64.Shortest
import LaunchIndex.Text.Quoted
import LaunchIndex.Text.Utf8

/-! Values whose kind is known only when they arrive: arguments of calls, entries of settings
documents and columns of rows. Each kind has its empty members, and each value a text: as
itself where it stands alone, quoted where it is part of a larger value. -/

namespace LaunchIndex

/-- A value of any kind. The entries of a dictionary keep their order. -/
inductive Value where
  | null
  | bool (b : Bool)
  | int (i : Int)
  | real (x : Binary64)
  | text (t : Text)
  | bytes (b : Text.Bytes)
  | list (items : List Value)
  | dict (entries : List (Text × Value))

namespace Value

instance : Inhabited Value := ⟨null⟩

instance : Coe Text Value := ⟨text⟩

/-- Nothing, false, zero, and whatever holds no element count as empty. -/
def isEmpty : Value → Bool
  | null => true
  | bool b => !b
  | int i => i == 0
  | real x => x.isZero
  | text t => t.isEmpty
  | bytes b => b.isEmpty
  | list items => items.isEmpty
  | dict entries => entries.isEmpty

/-- The name of the value's kind in messages. -/
def kindName : Value → Text
  | null => "NoneType"
  | bool _ => "bool"
  | int _ => "int"
  | real _ => "float"
  | text _ => "str"
  | bytes _ => "bytes"
  | list _ => "list"
  | dict _ => "dict"

mutual

/-- The text of a value inside a larger one. -/
def quoted : Value → Text
  | null => "None"
  | bool true => "True"
  | bool false => "False"
  | int i => Text.ofInt i
  | real x => x.display
  | text t => t.quoted
  | bytes b => Text.quotedBytes b
  | list items => Text.ofString "[" ++ Text.join ", " (quotedItems items) ++ Text.ofString "]"
  | dict entries =>
    Text.ofString "\x7b" ++ Text.join ", " (quotedEntries entries) ++ Text.ofString "\x7d"

def quotedItems : List Value → List Text
  | [] => []
  | v :: rest => quoted v :: quotedItems rest

def quotedEntries : List (Text × Value) → List Text
  | [] => []
  | (k, v) :: rest => (k.quoted ++ Text.ofString ": " ++ quoted v) :: quotedEntries rest

end

/-- The text of a value on its own: a text stands for itself. -/
def display : Value → Text
  | text t => t
  | v => v.quoted

/-- The entry of a row or dictionary under a name. -/
def lookup (entries : List (Text × Value)) (name : Text) : Option Value :=
  (entries.find? fun e => e.1 == name).map (·.2)

end Value

end LaunchIndex
