import LaunchIndex.Environment
import LaunchIndex.Store.Database

/-! The files that the program can reach. A name leads to a directory or to a file; a file
keeps its contents under a number of its own, so that who has it open keeps it when another
file takes its name. -/

namespace LaunchIndex

/-- What a file holds. -/
inductive Content where
  | bytes (b : Text.Bytes)
  | database (d : Store.Database)

/-- What a name leads to. -/
inductive Node where
  | directory
  | file (number : Nat)
deriving DecidableEq, Repr

/-- The names that exist, as lists of parts from the root, and the contents by file number. Names
that do not start at the root start at `here`. -/
structure Disk where
  here : List Text := []
  entries : List (List Text × Node) := []
  contents : List (Nat × Content) := []
  nextFile : Nat := 0

namespace Disk

/-- The root always exists. -/
def nodeAt? (d : Disk) (parts : List Text) : Option Node :=
  if parts = [] then some .directory
  else (d.entries.find? fun e => e.1 == parts).map (·.2)

/-- The place that a list of parts leads to from a directory; every part but the last must be
a directory. -/
def walk (d : Disk) (here : List Text) : List Text → Option (List Text)
  | [] => some here
  | part :: rest =>
    if d.nodeAt? here = some .directory then
      if part = [] ∨ part = Path.dot then walk d here rest
      else if part = Path.dotDot then walk d here.dropLast rest
      else walk d (here ++ [part]) rest
    else none

/-- The greatest size of a name in bytes, and of one of its parts. -/
def maxNameBytes : Nat := 4095

def maxPartBytes : Nat := 255

/-- Whether a name is longer than a name can be. -/
def isTooLong (name : Text) : Bool :=
  maxNameBytes < Text.Utf8.nameSize name ||
    (name.splitOn Path.slash).any fun part => maxPartBytes < Text.Utf8.nameSize part

/-- The bytes of a name. A surrogate that stands for no byte has none, and no byte is null. -/
def nameBytes (name : Text) : Outcome Text.Bytes :=
  match Text.Utf8.encodeName? name with
  | .error run => .error (.unencodable run)
  | .ok bytes => if bytes.contains 0 then .error .embeddedNull else .ok bytes

/-- Whether a name is one that a file can have. -/
def isPossibleName (name : Text) : Bool :=
  (nameBytes name).toBool && !name.isEmpty && !isTooLong name

/-- The place of a name. A name that no file can have leads nowhere. -/
def place? (d : Disk) (name : Text) : Option (List Text) :=
  if isPossibleName name then
    d.walk (if Path.isAbsolute name then [] else d.here) (name.splitOn Path.slash)
  else none

def find? (d : Disk) (name : Text) : Option Node := (d.place? name).bind d.nodeAt?

/-- A file without a database is empty or cannot be read as one. -/
def content? (d : Disk) (number : Nat) : Option Content :=
  (d.contents.find? fun c => c.1 == number).map (·.2)

def setContent (d : Disk) (number : Nat) (content : Content) : Disk :=
  { d with
    contents := d.contents.map fun c => if c.1 == number then (number, content) else c }

def partsOf (name : Text) : List Text := (name.splitOn Path.slash).filter fun p => !p.isEmpty

/-- The nonempty lists that a list starts with, shortest first. -/
def heads {α : Type} : List α → List (List α)
  | [] => []
  | a :: rest => [a] :: (heads rest).map (a :: ·)

/-- A directory with all directories above it, where they do not exist yet. -/
def makeDirectories (d : Disk) (parts : List Text) : Disk :=
  let missing := (heads parts).filter fun p => (d.nodeAt? p).isNone
  { d with entries := d.entries ++ missing.map fun p => (p, .directory) }

def putFile (d : Disk) (parts : List Text) (content : Content) : Disk :=
  let d := d.makeDirectories parts.dropLast
  { d with
    entries := (d.entries.filter fun e => e.1 != parts) ++ [(parts, .file d.nextFile)]
    contents := d.contents ++ [(d.nextFile, content)]
    nextFile := d.nextFile + 1 }

def remove (d : Disk) (parts : List Text) : Disk :=
  { d with entries := d.entries.filter fun e => e.1 != parts }

/-- The bytes that every file with a database starts with. They are no document of text. -/
def databaseMark : Text.Bytes :=
  [0x53, 0x51, 0x4C, 0x69, 0x74, 0x65, 0x20, 0x66, 0x6F, 0x72, 0x6D, 0x61, 0x74, 0x20, 0x33, 0]

/-- The bytes of the file with a name, if there is one. -/
def bytes? (d : Disk) (name : Text) : Outcome (Option Text.Bytes) :=
  match d.find? name with
  | none => .ok none
  | some .directory => .error (.isDirectory name)
  | some (.file number) =>
    match d.content? number with
    | some (.bytes b) => .ok (some b)
    | some (.database _) => .ok (some databaseMark)
    | none => .ok none

/-- The database in a file. An empty file is a database without tables. -/
def database (d : Disk) (number : Nat) : Except StoreError Store.Database :=
  match d.content? number with
  | some (.database db) => .ok db
  | some (.bytes []) => .ok Store.Database.empty
  | _ => .error StoreError.notADatabase

def setDatabase (d : Disk) (number : Nat) (db : Store.Database) : Disk :=
  d.setContent number (.database db)

end Disk

end LaunchIndex
