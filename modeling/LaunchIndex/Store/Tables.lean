import LaunchIndex.Like
import LaunchIndex.Record
import LaunchIndex.Store.Cell

/-! The tables of an index: one row for each file, and one for each file that has been
launched, keyed by the id of the file. The module holds the three reading statements, each as
a selection and an order on the files, and the changes that the indexing program and the
launch counter make. A strict table of files has a name and a path in every row, and no path
twice; a table that is not strict may lack them. -/

namespace LaunchIndex.Store

/-- An indexed file. Its name and its path are texts or absent; the other columns hold what they are
given. -/
structure FileRow where
  id : Int
  filename : Option Text
  path : Option Text
  size : Cell
  modifiedTime : Cell
  fileType : Cell
deriving DecidableEq

structure UsageRow where
  fileId : Int
  launchCount : Cell
  lastLaunched : Cell
deriving DecidableEq

/-- The rows of both tables, and the greatest file id that has ever been given. -/
structure Tables where
  files : List FileRow := []
  usage : List UsageRow := []
  lastFileId : Int := 0

/-- The parameters of a search. -/
structure SearchParameters where
  exact : Text
  starts : Text
  holds : Text
  limit : Int
deriving DecidableEq

namespace Tables

/-! ### Reading -/

/-- The files at a path, by id. -/
def filesAt (t : Tables) (path : Text) : List FileRow := t.files.filter fun f => f.path == some path

def fileAt? (t : Tables) (path : Text) : Option FileRow := (t.filesAt path).head?

def usageOf? (t : Tables) (id : Int) : Option UsageRow := t.usage.find? fun u => u.fileId == id

/-- The rows of a result up to a limit; a negative limit keeps all of them. -/
def limited {α : Type} (limit : Int) (rows : List α) : List α :=
  if limit < 0 then rows else rows.take limit.toNat

/-- Zero for the exact name, one for a name that starts with the query, two for the rest. -/
def tier (p : SearchParameters) (f : FileRow) : Int :=
  if f.filename = some p.exact then 0
  else if f.filename.any (fun name => Like.accepts p.starts (Like.read name)) then 1
  else 2

/-- A file that a search has found. -/
structure Hit where
  file : FileRow
  count : Cell
  tier : Int

/-- The order of the bytes of names: lexicographic up to the first null byte, and then by size. -/
def compareNameBytes (s t : Text.Bytes) : Ordering :=
  (Cell.compareBytes (s.takeWhile (· != 0)) (t.takeWhile (· != 0))).then
    (compare s.length t.length)

/-- The order of names without regard to the case of ASCII letters. -/
def compareNames (s t : Text) : Ordering :=
  compareNameBytes (Text.Utf8.rawBytes (Text.asciiLower s))
    (Text.Utf8.rawBytes (Text.asciiLower t))

/-- An order of texts in which a missing one comes first. -/
def missingFirst (order : Text → Text → Ordering) : Option Text → Option Text → Ordering
  | none, none => .eq
  | none, some _ => .lt
  | some _, none => .gt
  | some s, some t => order s t

/-- Better tiers first, then more launches, then the name without regard to the case of ASCII
letters, then the path. -/
def Hit.order (a b : Hit) : Ordering :=
  (compare a.tier b.tier).then <|
    (Cell.order b.count a.count).then <|
      (missingFirst compareNames a.file.filename b.file.filename).then
        (missingFirst Cell.compareText a.file.path b.file.path)

/-- The launches of a file, zero if it has no usage row. -/
def countOf (t : Tables) (f : FileRow) : Cell :=
  match t.usageOf? f.id with
  | some u => if u.launchCount = .null then .int 0 else u.launchCount
  | none => .int 0

/-- Every file whose name holds the query. -/
def hits (t : Tables) (p : SearchParameters) : List Hit :=
  (t.files.filter fun f => f.filename.any fun name => Like.accepts p.holds (Like.read name)).map
    fun f => ⟨f, t.countOf f, tier p f⟩

/-- The best hits in order. -/
def search (t : Tables) (p : SearchParameters) : List Hit :=
  limited p.limit ((t.hits p).mergeSort fun a b => (a.order b).isLE)

structure Launched where
  file : FileRow
  usage : UsageRow

/-- More launches first, then the later launch. -/
def Launched.order (a b : Launched) : Ordering :=
  (Cell.order b.usage.launchCount a.usage.launchCount).then
    (Cell.order b.usage.lastLaunched a.usage.lastLaunched)

def launched (t : Tables) : List Launched :=
  t.files.filterMap fun f => (t.usageOf? f.id).map fun u => ⟨f, u⟩

def mostLaunched (t : Tables) (limit : Int) : List Launched :=
  limited limit (t.launched.mergeSort fun a b => (a.order b).isLE)

def usageAt? (t : Tables) (path : Text) : Option UsageRow :=
  (t.launched.find? fun l => l.file.path == some path).map (·.usage)

/-- The value of a name or path. -/
def nameValue (name : Option Text) : Value := (name.map Value.text).getD .null

def fileColumns (f : FileRow) : Row :=
  [("filename", nameValue f.filename), ("path", nameValue f.path),
    ("file_type", f.fileType.toValue), ("size", f.size.toValue),
    ("modified_time", f.modifiedTime.toValue)]

def Hit.toRow (h : Hit) : Row :=
  fileColumns h.file ++ ([("launch_count", h.count.toValue), ("tier", .int h.tier)] : Row)

def Launched.toRow (l : Launched) : Row :=
  fileColumns l.file ++ ([("launch_count", l.usage.launchCount.toValue)] : Row)

def usageColumns (u : UsageRow) : Row :=
  [("file_id", .int u.fileId), ("launch_count", u.launchCount.toValue),
    ("last_launched", u.lastLaunched.toValue)]

/-- Whether a column can be handed out; a text must be UTF-8. -/
def isFetchable : Value → Bool
  | .text t => t.isEncodable
  | _ => true

/-- A row of a result is handed out, unless one of its columns cannot be. -/
def fetch (row : Row) : Except StoreError Row :=
  match row.find? fun column => !isFetchable column.2 with
  | some (name, v) => .error (StoreError.undecodable name v.display)
  | none => .ok row

/-! ### Changes -/

/-- One more launch in a list of usage rows: the row of the file counts one more, or a first
row is added. -/
def countLaunch (id : Int) (time : Int) : List UsageRow → List UsageRow
  | [] => [⟨id, .int 1, .int time⟩]
  | u :: rest =>
    if u.fileId = id then ⟨id, u.launchCount.addOne, .int time⟩ :: rest
    else u :: countLaunch id time rest

/-- One more launch of the file with an id. A first row needs the file, which may have gone since
its id was read. -/
def recordLaunch (t : Tables) (id : Int) (time : Int) : Except StoreError Tables :=
  if t.usage.any (fun u => u.fileId == id) || t.files.any (fun f => f.id == id) then
    .ok { t with usage := countLaunch id time t.usage }
  else .error StoreError.noParent

/-- The columns of a new or changed row before they are checked. -/
structure NewFile where
  filename : Cell
  path : Cell
  size : Cell := .null
  modifiedTime : Cell := .null
  fileType : Cell := .null

/-- A cell of a column of text, null being absent. -/
def textOf? (c : Cell) : Option Text :=
  match c.forText with
  | .text t => some t
  | _ => none

/-- The name and the path of a row, which must be there in a strict table. -/
def NewFile.names (strict : Bool) (n : NewFile) :
    Except StoreError (Option Text × Option Text) :=
  let filename := textOf? n.filename
  let path := textOf? n.path
  if strict && filename.isNone then .error (StoreError.isNull "files.filename")
  else if strict && path.isNone then .error (StoreError.isNull "files.path")
  else .ok (filename, path)

/-- A new row gets an id above every id given before. -/
def insertFile (t : Tables) (strict : Bool) (n : NewFile) : Except StoreError Tables :=
  match n.names strict with
  | .error e => .error e
  | .ok (filename, path) =>
    if strict && t.files.any (fun f => f.path == path) then
      .error (StoreError.notUnique "files.path")
    else
      let id := t.lastFileId + 1
      let file : FileRow :=
        ⟨id, filename, path, n.size.forInteger, n.modifiedTime.forInteger, n.fileType.forText⟩
      .ok { t with files := t.files ++ [file], lastFileId := id }

/-- The rows at a path go, and with each its usage row. -/
def deleteFile (t : Tables) (path : Text) : Nat × Tables :=
  let gone := t.filesAt path
  (gone.length,
    { t with
      files := t.files.filter fun f => !(f.path == some path)
      usage := t.usage.filter fun u => !gone.any fun f => f.id == u.fileId })

/-- The rows at a path get another name and path. -/
def renameFile (t : Tables) (strict : Bool) (path : Text) (n : NewFile) :
    Except StoreError (Nat × Tables) :=
  match t.filesAt path with
  | [] => .ok (0, t)
  | found =>
    match n.names strict with
    | .error e => .error e
    | .ok (filename, target) =>
      if strict && t.files.any (fun f => f.path == target && !(f.path == some path)) then
        .error (StoreError.notUnique "files.path")
      else
        .ok (found.length,
          { t with
            files := t.files.map fun f =>
              if f.path == some path then { f with filename, path := target } else f })

/-- A new usage row with its columns before they are checked. `referenced` tells whether the
file must exist. -/
def insertUsage (t : Tables) (referenced : Bool) (fileId count last : Cell) :
    Except StoreError Tables :=
  match fileId.forInteger, count.forInteger with
  | .null, _ => .error (StoreError.isNull "usage_stats.file_id")
  | _, .null => .error (StoreError.isNull "usage_stats.launch_count")
  | .int id, count =>
    if t.usage.any (fun u => u.fileId == id) then
      .error (StoreError.notUnique "usage_stats.file_id")
    else if referenced && !t.files.any (fun f => f.id == id) then .error StoreError.noParent
    else .ok { t with usage := t.usage ++ [⟨id, count, last.forInteger⟩] }
  | _, _ => .error StoreError.noParent

end Tables

end LaunchIndex.Store
