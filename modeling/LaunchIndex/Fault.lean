import LaunchIndex.Calendar
import LaunchIndex.Complaint
import LaunchIndex.Text.Utf8

/-! The causes for which an operation fails, and the message of each. A cause keeps what a
caller can ask of it; the wording is one function. -/

namespace LaunchIndex

/-- The classes of errors that the database engine reports. -/
inductive StoreClass where
  | error
  | interface
  | database
  | internal
  | operational
  | programming
  | integrity
  | data
  | notSupported
deriving DecidableEq, Repr

/-- An error of the database engine: its class, its message, and the engine's result code if it
gave one. -/
structure StoreError where
  kind : StoreClass
  message : Text
  code : Option Value := none

namespace StoreError

private def coded (kind : StoreClass) (code : Int) (message : Text) : StoreError :=
  ⟨kind, message, some (.int code)⟩

def locked : StoreError := coded .operational 5 "database is locked"

def cannotOpen : StoreError := coded .operational 14 "unable to open database file"

def unreadable : StoreError := coded .operational 10 "disk I/O error"

def notADatabase : StoreError := coded .database 26 "file is not a database"

def readOnly : StoreError := coded .operational 8 "attempt to write a readonly database"

def patternTooComplex : StoreError :=
  coded .operational 1 "LIKE or GLOB pattern too complex"

def noTable (name : Text) : StoreError :=
  coded .operational 1 (Text.ofString "no such table: " ++ name)

def noColumn (name : Text) : StoreError :=
  coded .operational 1 (Text.ofString "no such column: " ++ name)

def noInsertColumn (table name : Text) : StoreError :=
  coded .operational 1
    (Text.ofString "table " ++ table ++ Text.ofString " has no column named " ++ name)

def notUnique (column : Text) : StoreError :=
  coded .integrity 2067 (Text.ofString "UNIQUE constraint failed: " ++ column)

def isNull (column : Text) : StoreError :=
  coded .integrity 1299 (Text.ofString "NOT NULL constraint failed: " ++ column)

def noParent : StoreError := coded .integrity 787 "FOREIGN KEY constraint failed"

/-- A text or a sequence of bytes that no column takes. -/
def tooBig : StoreError := coded .data 18 "string or blob too big"

/-- A column whose text is not UTF-8. Of the message the first bytes are kept, and what is not ASCII
in them is replaced. -/
def undecodable (column text : Text) : StoreError :=
  let message := Text.ofString "Could not decode to UTF-8 column '" ++ column ++
    Text.ofString "' with text '" ++ text.takeWhile (·.val != 0) ++ Text.ofString "'"
  ⟨.operational, Text.Utf8.asciiOnly ((Text.Utf8.rawBytes message).take 198), none⟩

/-- A parameter, counted from one, whose value has no stored form. -/
def unsupportedParameter (position : Nat) (kindName : Text) : StoreError :=
  ⟨.programming, Text.ofString "Error binding parameter " ++ Text.ofNat position ++
    Text.ofString ": type '" ++ kindName ++ Text.ofString "' is not supported", none⟩

end StoreError

/-- Why an operation failed. -/
inductive Fault where
  | missingConnection
  | emptyDatabasePath
  | emptyFilePath
  | destroyed (path : Text)
  | notConnected (path : Text)
  | unavailable (path : Text) (attempts : Value) (cause : Option StoreError)
  | openFailed (path : Text) (cause : StoreError)
  | store (error : StoreError)
  | storeWarning (message : Text)
  | foreign (name message : Text)
  | outOfRange (message : Text)
  | unencodable (run : Text.Utf8.BadRun)
  | undecodable
  | missingColumn (name : Text)
  | tooManyDigits (count : Nat)
  | undefinedInteger
  | notANumber (literal : Value)
  | noInteger (kindName : Text)
  | noReal (kindName : Text)
  | noOrder (kindName : Text)
  | noMethod (kindName method : Text)
  | noCount (kindName : Text)
  | noSum
  | notOfBytes
  | unexpectedArgument (operation name : Text)
  | missingArgument (operation name : Text)
  | tooFewAttempts
  | negativeDelay
  | delayExceedsCap
  | isDirectory (path : Text)
  | notDirectory (path : Text)
  | alreadyExists (path : Text)
  | nameTooLong (path : Text)
  | embeddedNull
  | malformedToml
  | malformedYaml
  | notDigits (base : Nat) (literal : Value)
  | noNumber
  | unknownWord (text : Text)
  | noMoment
  | noSuchMoment (flaw : Calendar.Flaw)
  | noSuchCharacter
  | notTextual (kindName : Text)
  | noFileName (kindName : Text)
  | noPlace (kindName : Text)
  | tooDeep
  | notAMapping (path : Text)
  | rejected (complaints : List Complaint)

namespace Fault

/-- An integer that no 64-bit column takes. -/
def integerTooLargeForStore : Fault :=
  outOfRange "Python int too large to convert to SQLite INTEGER"

/-- A text or a sequence of bytes whose size is no signed integer of 32 bits. -/
def tooLongForStore (kind : Text) : Fault :=
  outOfRange (kind ++ Text.ofString " longer than INT_MAX bytes")

def integerTooLargeForReal : Fault := outOfRange "int too large to convert to float"

def powerTooLarge : Fault := outOfRange "(34, 'Numerical result out of range')"

def infiniteInteger : Fault := outOfRange "cannot convert float infinity to integer"

/-- What had to be done in a given time was not done. -/
def timedOut : Fault := foreign "TimeoutError" []

private def within (before : String) (t : Text) (after : String) : Text :=
  Text.ofString before ++ t ++ Text.ofString after

/-- The place of a run of surrogates in a message. -/
private def badRunMessage (r : Text.Utf8.BadRun) : Text :=
  if r.stop = r.start + 1 then
    within "'utf-8' codec can't encode character '\\u" (Text.Quoted.hex 4 r.first.val)
      "' in position " ++ within "" (Text.ofNat r.start) ": surrogates not allowed"
  else
    within "'utf-8' codec can't encode characters in position " (Text.ofNat r.start) "-" ++
      within "" (Text.ofNat (r.stop - 1)) ": surrogates not allowed"

def message : Fault → Text
  | missingConnection => "Index connection is required"
  | emptyDatabasePath => "Database path cannot be empty"
  | emptyFilePath => "File path cannot be empty"
  | destroyed path => within "Index connection for " path " has been destroyed"
  | notConnected path => within "Index database " path " is not connected"
  | unavailable path attempts _ =>
    within "Could not open index database " path " after " ++ within "" attempts.display " attempts"
  | openFailed path cause => within "Failed to open index database " path ": " ++ cause.message
  | store error => error.message
  | storeWarning message => message
  | foreign _ message => message
  | outOfRange message => message
  | unencodable run => badRunMessage run
  | undecodable => "invalid UTF-8"
  | missingColumn name => name.quoted
  | tooManyDigits count =>
    within "Exceeds the limit (4300 digits) for integer string conversion: value has "
      (Text.ofNat count) " digits; use sys.set_int_max_str_digits() to increase the limit"
  | undefinedInteger => "cannot convert float NaN to integer"
  | notANumber literal => within "could not convert string to float: " literal.quoted ""
  | noInteger kindName =>
    within "int() argument must be a string, a bytes-like object or a real number, not '"
      kindName "'"
  | noReal kindName =>
    within "float() argument must be a string or a real number, not '" kindName "'"
  | noOrder kindName => within "'>' not supported between instances of '" kindName "' and 'int'"
  | noMethod kindName method =>
    within "'" kindName "' object has no attribute '" ++ within "" method "'"
  | noCount kindName => within "'" kindName "' object cannot be interpreted as an integer"
  | noSum => "can only concatenate str (not \"int\") to str"
  | notOfBytes => "a bytes-like object is required, not 'str'"
  | unexpectedArgument operation name =>
    within "" operation "() got an unexpected keyword argument '" ++ within "" name "'"
  | missingArgument operation name =>
    within "" operation "() missing 1 required positional argument: " ++ name.quoted
  | tooFewAttempts => "max_attempts must be at least 1"
  | negativeDelay => "initial_delay_ms cannot be negative"
  | delayExceedsCap => "initial_delay_ms must not exceed max_delay_ms"
  | isDirectory path => within "[Errno 21] Is a directory: " path.quoted ""
  | notDirectory path => within "[Errno 20] Not a directory: " path.quoted ""
  | alreadyExists path => within "[Errno 17] File exists: " path.quoted ""
  | nameTooLong path => within "[Errno 36] File name too long: " path.quoted ""
  | embeddedNull => "embedded null byte"
  | malformedToml => "malformed TOML"
  | malformedYaml => "malformed YAML"
  | notDigits base literal =>
    within "invalid literal for int() with base " (Text.ofNat base) ": " ++ literal.quoted.take 200
  | noNumber => "string index out of range"
  | unknownWord text => text.quoted
  | noMoment => "'NoneType' object has no attribute 'groupdict'"
  | noSuchMoment flaw => flaw.message
  | noSuchCharacter => "chr() arg not in range(0x110000)"
  | notTextual kindName =>
    within "expected string or bytes-like object, got '" kindName "'"
  | noFileName kindName =>
    within "expected str, bytes or os.PathLike object, not " kindName ""
  | noPlace kindName =>
    within "stat: path should be string, bytes, os.PathLike or integer, not " kindName ""
  | tooDeep => "maximum recursion depth exceeded"
  | notAMapping path => within "Invalid configuration: expected a mapping in " path ""
  | rejected _ => "Invalid configuration"

end Fault

/-- A result or the cause of a failure. -/
abbrev Outcome := Except Fault

/-- Two steps give a result only if the first gives one, and the second does from it. -/
theorem Outcome.of_bind_eq_ok {α β : Type} {x : Outcome α} {f : α → Outcome β} {b : β}
    (h : x >>= f = .ok b) : ∃ a, x = .ok a ∧ f a = .ok b := by
  rcases x with fault | a
  · exact absurd h nofun
  · exact ⟨a, rfl, h⟩

end LaunchIndex
