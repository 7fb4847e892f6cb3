import LaunchIndex.Fault

/-! Log entries. An entry is a level, a template with one place for each argument, the
arguments, and the failure that it reports, if any. -/

namespace LaunchIndex

inductive Level where
  | debug
  | info
  | warning
deriving DecidableEq, Repr

/-- An argument of a log entry. -/
inductive Argument where
  | value (v : Value)
  | fault (f : Fault)

instance : Coe Value Argument := ⟨.value⟩

instance : Coe Fault Argument := ⟨.fault⟩

instance : Coe Text Argument := ⟨fun t => .value (.text t)⟩

structure Event where
  level : Level
  template : Text
  arguments : List Argument := []
  failure : Option Fault := none

namespace Event

def opened (path : Text) (attempt : Nat) : Event where
  level := .debug
  template := "Opened index database %s (attempt %s)"
  arguments := [path, Value.int attempt]

def busy (attempt : Nat) (attempts : Value) : Event where
  level := .warning
  template := "Index database is busy/locked (attempt %s/%s)"
  arguments := [Value.int attempt, attempts]

def openFailed (path : Text) (cause : StoreError) : Event where
  level := .warning
  template := "Failed to open index database %s: %s"
  arguments := [path, Fault.store cause]

def unavailable (path : Text) (attempts : Value) : Event where
  level := .warning
  template := "Could not open index database %s after %s attempts"
  arguments := [path, attempts]

def closeFailed (path : Text) (cause : Fault) : Event where
  level := .warning
  template := "Failed to close index database %s"
  arguments := [path]
  failure := some cause

def searchFailed (query : Value) (cause : Fault) : Event where
  level := .warning
  template := "Search failed for query %r: %s"
  arguments := [query, cause]

def notIndexed (path : Text) : Event where
  level := .debug
  template := "Launch of unindexed file not recorded: %s"
  arguments := [path]

def recordFailed (path : Text) (cause : Fault) : Event where
  level := .warning
  template := "Failed to record launch of %s: %s"
  arguments := [path, cause]

def unreadableConfig (path : Text) (cause : Fault) : Event where
  level := .warning
  template := "Failed to read config file %s: %s"
  arguments := [path, cause]

def longTimeout (seconds : Binary64) : Event where
  level := .warning
  template :=
    "busy_timeout_s (%s) is long; every open attempt may block for that long before backing off."
  arguments := [Value.real seconds]

def configuredShortcut (shortcut : Text) : Event where
  level := .info
  template := "Using configured keyboard shortcut: %s"
  arguments := [shortcut]

def defaultShortcut (shortcut : Text) : Event where
  level := .info
  template := "Using default keyboard shortcut: %s"
  arguments := [shortcut]

/-! ### The panel -/

def indexPath (path : Text) : Event where
  level := .info
  template := "Index database: %s"
  arguments := [path]

def retryBounds (attempts initial cap : Int) : Event where
  level := .info
  template := "Open retry: %s attempts, %s-%s ms backoff."
  arguments := [Value.int attempts, Value.int initial, Value.int cap]

def shortcut (shortcut : Text) : Event where
  level := .info
  template := "Keyboard shortcut: %s"
  arguments := [shortcut]

def searched : Event where
  level := .info
  template := "search_files"

def shutdown (reason : Text) : Event where
  level := .info
  template := "Shutdown initiated (%s)"
  arguments := [reason]

def cleanupFailed (cause : Fault) : Event where
  level := .warning
  template := "Shutdown cleanup failed"
  failure := some cause

end Event

end LaunchIndex
