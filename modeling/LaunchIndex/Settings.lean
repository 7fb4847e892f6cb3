import LaunchIndex.Retry
import LaunchIndex.Settings.Entry
import LaunchIndex.World

/-! The settings of the panel, from a YAML file with one entry for each setting. The entries are
checked one by one, and all complaints are reported together. Without a file every setting has
its default. -/

namespace LaunchIndex

/-- The settings of the panel: where the index lies, how opening it is retried, and where the
shared preferences lie. -/
structure Settings where
  databasePath : Text
  attempts : Int := Policy.defaultAttempts
  initialDelay : Int := Policy.defaultInitial
  maxDelay : Int := Policy.defaultCap
  busyTimeout : Binary64 := Binary64.zero false
  preferencesPath : Text

namespace Settings

open Yaml (Datum)

def default (e : Environment) : Settings where
  databasePath := e.databasePath
  preferencesPath := e.indexerConfigPath

def policy (s : Settings) : Outcome Policy :=
  Policy.of (.int s.attempts) (.int s.initialDelay) (.int s.maxDelay)

/-! ### Checking -/

/-- The entries of a document. -/
abbrev Entries := List (Datum × Datum)

/-- The keys that a document may have, in the order in which their entries are checked. -/
def keys : List Text :=
  ["db_path", "retry_max_attempts", "retry_initial_delay_ms", "retry_max_delay_ms",
    "busy_timeout_s", "ui_config_path"]

/-- The entry under a key. -/
def valueUnder? (entries : Entries) (key : Text) : Option Datum :=
  (entries.find? fun e =>
    match e.1 with
    | .text t => t == key
    | _ => false).map (·.2)

/-- The entry under a key as it was read, if there is one. -/
def field {α : Type} (entries : Entries) (key : Text) (read : Datum → Except Defect α) :
    Except Defect (Option α) :=
  match valueUnder? entries key with
  | none => .ok none
  | some d => (read d).map some

/-- A value that a condition holds for. -/
def checked {α : Type} (defect : Defect) (holds : α → Bool) (result : Except Defect α) :
    Except Defect α := do
  let a ← result
  if holds a then return a else .error defect

/-- The checked entries of a document. An entry that is absent or failed is not there for the
check of another one. -/
structure Fields where
  databasePath : Except Defect (Option (Option Text))
  attempts : Except Defect (Option Int)
  initialDelay : Except Defect (Option Int)
  maxDelay : Except Defect (Option Int)
  busyTimeout : Except Defect (Option Binary64)
  preferencesPath : Except Defect (Option (Option Text))

def isBelowZero (x : Binary64) : Bool := x.negative && !x.isNaN && !x.isZero

def Fields.of (entries : Entries) : Fields :=
  let initialDelay := field entries "retry_initial_delay_ms" fun d =>
    checked .negative (fun i => 0 ≤ i) (Entry.integer d)
  let least :=
    match initialDelay with
    | .ok (some i) => i
    | _ => Policy.defaultInitial
  { databasePath := field entries "db_path" Entry.text
    attempts := field entries "retry_max_attempts" fun d =>
      checked .tooFewAttempts (fun i => 1 ≤ i) (Entry.integer d)
    initialDelay
    maxDelay := field entries "retry_max_delay_ms" fun d =>
      checked .capBelowInitial (fun i => least ≤ i) (Entry.integer d)
    busyTimeout := field entries "busy_timeout_s" fun d =>
      checked .negative (fun x => !isBelowZero x) (Entry.real d)
    preferencesPath := field entries "ui_config_path" Entry.text }

def complaint {α : Type} (key : Text) : Except Defect α → List Complaint
  | .ok _ => []
  | .error defect => [⟨some (.text key), defect⟩]

def Fields.complaints (f : Fields) : List Complaint :=
  complaint "db_path" f.databasePath ++ complaint "retry_max_attempts" f.attempts ++
    complaint "retry_initial_delay_ms" f.initialDelay ++
    complaint "retry_max_delay_ms" f.maxDelay ++ complaint "busy_timeout_s" f.busyTimeout ++
    complaint "ui_config_path" f.preferencesPath

/-- Whether a name is one that a document may have and, as a text, has. -/
def isUsed (entries : Entries) (name : Text) : Bool :=
  keys.contains name && (valueUnder? entries name).isSome

/-- The complaint about a key that a document may not have. Bytes count as the text that they
stand for, but no field is read from under them. -/
def keyComplaint (entries : Entries) (key : Datum) : Option Complaint :=
  let complain (defect : Defect) : Option Complaint := some ⟨some (Entry.keyName key), defect⟩
  match key with
  | .text t => if keys.contains t then none else complain .unknownKey
  | .bytes bytes =>
    match Text.Utf8.decode? bytes with
    | some cs => if isUsed entries (Text.ofChars cs) then none else complain .unknownKey
    | none => complain .keyNotText
  | _ => complain .keyNotText

/-- Whether a key is text that no bytes stand for. -/
def isUnencodable : Datum → Bool
  | .text t => !t.isEncodable
  | _ => false

/-- The complaints about a document: those about declared entries, and then those about other
keys in the order of the document. A key that no bytes stand for is the only complaint. -/
def complaints (entries : Entries) : List Complaint :=
  if entries.any fun e => isUnencodable e.1 then [⟨none, .notUnicode⟩]
  else (Fields.of entries).complaints ++ entries.filterMap fun e => keyComplaint entries e.1

/-- What a field says, or its default. -/
def valueOr {α : Type} (default : α) : Except Defect (Option α) → α
  | .ok (some a) => a
  | _ => default

/-- The path in a field, or its default, in full and without detours. -/
def pathOr (e : Environment) (default : Text) (field : Except Defect (Option (Option Text))) :
    Outcome Text :=
  (e.expandHome ((valueOr none field).getD default)).map e.absolute

/-- The settings that a document without complaints stands for. -/
def Fields.settings (e : Environment) (f : Fields) : Outcome Settings := do
  let d := Settings.default e
  let databasePath ← pathOr e d.databasePath f.databasePath
  let preferencesPath ← pathOr e d.preferencesPath f.preferencesPath
  return {
    databasePath
    attempts := valueOr d.attempts f.attempts
    initialDelay := valueOr d.initialDelay f.initialDelay
    maxDelay := valueOr d.maxDelay f.maxDelay
    busyTimeout := valueOr d.busyTimeout f.busyTimeout
    preferencesPath }

/-- The settings in the entries of a document. -/
def ofEntries (e : Environment) (entries : Entries) : Outcome Settings :=
  match complaints entries with
  | [] => (Fields.of entries).settings e
  | cs => .error (.rejected cs)

/-! ### Loading -/

/-- The entries of the document in a file. An empty document has none; the document must be a
mapping otherwise. -/
def entriesOf (path : Text) (bytes : Text.Bytes) : Outcome Entries := do
  let document ← Yaml.ofBytes bytes
  if document.isEmpty then return []
  else
    match document.rootContents? with
    | some (.mapping entries) => return entries
    | _ => .error (.notAMapping path)

/-- The file with the settings, unless one is given: the one that a variable names, or the
standard one. -/
def standardPath (e : Environment) : Text :=
  match e.lookup "NOVASEARCH_CONFIG_PATH" with
  | some path => if path = [] then e.panelConfigPath else path
  | none => e.panelConfigPath

/-- The longest timeout in seconds that needs no warning. -/
def longTimeout : Int := 5

/-- The settings in a file. A long timeout leaves a warning in the log. -/
def load (path : Option Text) (w : World) : Outcome Settings × World :=
  let e := w.environment
  let path := path.getD (standardPath e)
  match w.disk.bytes? path with
  | .error fault => (.error fault, w)
  | .ok none => (.ok (default e), w)
  | .ok (some bytes) =>
    match (entriesOf path bytes).bind (ofEntries e) with
    | .error fault => (.error fault, w)
    | .ok s =>
      if !s.busyTimeout.isNaN && Binary64.compareInt longTimeout s.busyTimeout == .lt then
        (.ok s, w.log (Event.longTimeout s.busyTimeout))
      else (.ok s, w)

end Settings

end LaunchIndex
