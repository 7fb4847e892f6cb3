import LaunchIndex.Store.Tables

/-! A database file and the statements that are run on it. Which tables and columns there are
is the layout; a statement on a layout that lacks one of them fails before any row is looked
at. -/

namespace LaunchIndex.Store

/-- The columns of the table of files. -/
inductive Columns where
  | names
  | all
deriving DecidableEq, Repr

/-- Which tables and indexes a database has. -/
structure Layout where
  files : Option Columns
  usage : Bool
  indexes : Bool
deriving DecidableEq, Repr

namespace Layout

def empty : Layout := ⟨none, false, false⟩

def complete : Layout := ⟨some .all, true, true⟩

def completed (l : Layout) : Layout := ⟨some (l.files.getD .all), true, true⟩

/-- Whether the table of files is strict. One without all columns is not. -/
def isStrict (l : Layout) : Bool := l.files == some .all

def names (l : Layout) : List Text :=
  let named (present : Bool) (names : List String) : List Text :=
    if present then names.map Text.ofString else []
  named l.files.isSome ["files"] ++ named l.indexes ["idx_filename", "idx_path"] ++
    named l.usage ["idx_usage_launch_count", "usage_stats"]

/-- The tables of files and of launches are there. -/
def requireBoth (l : Layout) : Except StoreError Unit :=
  if l.files.isNone then .error (StoreError.noTable "files")
  else if l.usage then .ok ()
  else .error (StoreError.noTable "usage_stats")

/-- Both tables are there, with every column of a file. -/
def requireRecords (l : Layout) : Except StoreError Unit := do
  l.requireBoth
  if l.files = some .names then .error (StoreError.noColumn "f.file_type") else .ok ()

def requireFiles (l : Layout) : Except StoreError Unit :=
  if l.files.isNone then .error (StoreError.noTable "files") else .ok ()

def requireUsage (l : Layout) : Except StoreError Unit :=
  if l.usage then .ok () else .error (StoreError.noTable "usage_stats")

/-- The table of files has the columns of a new row. -/
def requireInsert (l : Layout) : Except StoreError Unit :=
  match l.files with
  | none => .error (StoreError.noTable "files")
  | some .names => .error (StoreError.noInsertColumn "files" "size")
  | some .all => .ok ()

end Layout

/-- A database: its layout and its rows. -/
structure Database where
  layout : Layout
  tables : Tables

namespace Database

def empty : Database := ⟨Layout.empty, {}⟩

def complete (tables : Tables) : Database := ⟨Layout.complete, tables⟩

/-- The hits of a search. A pattern that is too long fails as soon as there is a row to look
at. -/
def search (d : Database) (p : SearchParameters) : Except StoreError (List Tables.Hit) :=
  if Like.isTooComplex p.holds && !d.tables.files.isEmpty then
    .error StoreError.patternTooComplex
  else .ok (d.tables.search p)

end Database

end LaunchIndex.Store
