import LaunchIndex.Fault

/-! The contents of a TOML document: tables of named items. A table remembers how it came
about, because that decides which later lines may add to it. Headers declare tables and
elements of arrays of tables; dotted keys and headers make the tables on their way; a table
written as a value takes nothing more. -/

namespace LaunchIndex.Toml

/-- How a table came about. -/
inductive Origin where
  /-- It is written between braces. -/
  | closed
  /-- It has a header of its own. -/
  | declared
  /-- It lies on the way to a table with a header. -/
  | implied
  /-- A dotted key under the header with this number made it or added to it. -/
  | dotted (header : Nat)
deriving DecidableEq, Repr

/-- An item of a document. An array of tables holds its last element first. -/
inductive Item where
  | text (t : Text)
  | int (i : Int)
  | real (x : Binary64)
  | bool (b : Bool)
  | moment (spelling : Text)
  | array (items : List Item)
  | table (origin : Origin) (entries : List (Text × Item))
  | tables (elements : List Item)

/-- The named items of a table, in the order of the document. -/
abbrev Entries := List (Text × Item)

namespace Entries

def get? (entries : Entries) (name : Text) : Option Item :=
  (entries.find? fun e => e.1 == name).map (·.2)

/-- The entries with the item under a name changed, or with a new item at the end. -/
def update (name : Text) (change : Option Item → Outcome Item) : Entries → Outcome Entries
  | [] => (change none).map fun item => [(name, item)]
  | entry :: rest =>
    if entry.1 = name then (change (some entry.2)).map fun item => (name, item) :: rest
    else (update name change rest).map (entry :: ·)

/-- A change of the table at the end of a path. Missing tables on the way are made, and in an
array of tables the path goes on in its last element. -/
def within (change : Entries → Outcome Entries) : List Text → Entries → Outcome Entries
  | [], entries => change entries
  | name :: path, entries =>
    entries.update name fun
      | none => (within change path []).map (.table .implied)
      | some (.table origin inner) =>
        if origin = .closed then .error .malformedToml
        else (within change path inner).map (.table origin)
      | some (.tables (.table origin inner :: older)) =>
        (within change path inner).map fun inner => .tables (.table origin inner :: older)
      | some _ => .error .malformedToml

/-- A table gets its header. It must not have one yet, and no dotted key may have reached it. -/
def declare (name : Text) (entries : Entries) : Outcome Entries :=
  entries.update name fun
    | none => .ok (.table .declared [])
    | some (.table .implied inner) => .ok (.table .declared inner)
    | some _ => .error .malformedToml

/-- An array of tables gets a new last element. -/
def append (name : Text) (entries : Entries) : Outcome Entries :=
  entries.update name fun
    | none => .ok (.tables [.table .declared []])
    | some (.tables elements) => .ok (.tables (.table .declared [] :: elements))
    | some _ => .error .malformedToml

/-- A new item under a dotted key below a header. The tables on the way may lie on the way to a
header or come from dotted keys under the same header. -/
def insert (header : Nat) (item : Item) : List Text → Entries → Outcome Entries
  | [], _ => .error .malformedToml
  | [name], entries =>
    entries.update name fun
      | none => .ok item
      | some _ => .error .malformedToml
  | name :: path, entries =>
    entries.update name fun
      | none => (insert header item path []).map (.table (.dotted header))
      | some (.table origin inner) =>
        if origin = .implied ∨ origin = .dotted header then
          (insert header item path inner).map (.table (.dotted header))
        else .error .malformedToml
      | some _ => .error .malformedToml

end Entries

end LaunchIndex.Toml
