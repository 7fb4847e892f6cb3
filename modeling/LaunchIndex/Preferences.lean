import LaunchIndex.Query
import LaunchIndex.Shortcut
import LaunchIndex.Toml.Document

/-! The preferences that the panel shares with the indexing program: the keyboard shortcut and
the number of results, from the `ui` table of a TOML file. A file that cannot be read as TOML
counts as empty and leaves an entry in the log, and so does a directory in its place; a
preference of the wrong kind counts as absent. -/

namespace LaunchIndex.Preferences

open Toml (Item Entries)

/-- The entries under a name, if a table has the name. -/
def tableAt (entries : Entries) (name : Text) : Entries :=
  match entries.get? name with
  | some (.table _ inner) => inner
  | _ => []

/-- The preferences of a file; without a path, of the file of the indexing program. -/
def table (path : Option Text) (w : World) : Outcome Entries × World :=
  let path := path.getD w.environment.indexerConfigPath
  let unreadable (fault : Fault) : Outcome Entries × World :=
    (.ok [], w.log (Event.unreadableConfig path fault))
  match w.disk.bytes? path with
  | .ok none => (.ok [], w)
  | .ok (some bytes) =>
    match Toml.ofBytes bytes with
    | .ok entries => (.ok (tableAt entries "ui"), w)
    | .error .malformedToml => unreadable .malformedToml
    | .error fault => (.error fault, w)
  | .error fault => unreadable fault

/-- The shortcut among the preferences, without the blanks around it. -/
def shortcutIn (preferences : Entries) : Option Text :=
  match preferences.get? "keyboard_shortcut" with
  | some (.text t) => if t.isBlank then none else some t.trim
  | _ => none

/-- The number of results among the preferences, or the default. -/
def maxResultsIn (preferences : Entries) : Int :=
  match preferences.get? "max_results" with
  | some (.int i) => if 0 < i then i else Limit.default
  | _ => Limit.default

def keyboardShortcut (path : Option Text) (w : World) : Outcome (Option Text) × World :=
  let (preferences, w) := table path w
  (preferences.map shortcutIn, w)

/-- The number of results that a search returns unless the caller says otherwise. -/
def maxResults (path : Option Text) (w : World) : Outcome Int × World :=
  let (preferences, w) := table path w
  (preferences.map maxResultsIn, w)

def resolvedShortcut (path : Option Text) (w : World) : Outcome Text × World :=
  match keyboardShortcut path w with
  | (.error fault, w) => (.error fault, w)
  | (.ok shortcut, w) =>
    match shortcut.bind Shortcut.convert with
    | some converted => (.ok converted, w.log (Event.configuredShortcut converted))
    | none => (.ok Shortcut.default, w.log (Event.defaultShortcut Shortcut.default))

end LaunchIndex.Preferences
