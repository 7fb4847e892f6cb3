import LaunchIndex.Fault

/-! The process environment and the names of files in it: joining, the shortest spelling of
an absolute name, home directories, and the directories for settings and data. -/

namespace LaunchIndex

/-- What the process inherits: variables, the working directory and the home directories of
accounts. -/
structure Environment where
  assignments : List (Text × Text)
  workingDirectory : Text
  accounts : List (Text × Text) := []
  ownHome : Text := "/"

namespace Path

def slash : CodePoint := CodePoint.ofChar '/'

def isAbsolute : Text → Bool
  | [] => false
  | c :: _ => c == slash

/-- A name inside a directory; an absolute name stays as it is. -/
def join (directory name : Text) : Text :=
  if isAbsolute name then name
  else if directory = [] ∨ directory.getLast? = some slash then directory ++ name
  else directory ++ slash :: name

/-- The slashes that a normal name starts with: two if there are exactly two, else one at most. -/
def leadingSlashes (name : Text) : Nat :=
  match (name.takeWhile (· == slash)).length with
  | 0 => 0
  | 2 => 2
  | _ => 1

def dot : Text := "."

def dotDot : Text := ".."

/-- The parts of a name with a part dropped for each dot-dot behind it. `kept` holds the parts so
far, last one first. At the root dot-dot leads nowhere. -/
def resolve (rooted : Bool) (kept : List Text) : List Text → List Text
  | [] => kept.reverse
  | part :: rest =>
    if part = [] ∨ part = dot then resolve rooted kept rest
    else if part = dotDot then
      match kept with
      | [] => if rooted then resolve rooted [] rest else resolve rooted [part] rest
      | last :: others =>
        if last = dotDot then resolve rooted (part :: kept) rest else resolve rooted others rest
    else resolve rooted (part :: kept) rest

/-- The name without empty parts, dots and, where possible, dot-dots. -/
def normalize (name : Text) : Text :=
  let slashes := leadingSlashes name
  let parts := resolve (0 < slashes) [] (name.splitOn slash)
  let result := List.replicate slashes slash ++ Text.join [slash] parts
  if result = [] then dot else result

def parent (name : Text) : Text :=
  let head := (name.reverse.dropWhile (· != slash)).reverse
  if head.all (· == slash) then head else (head.reverse.dropWhile (· == slash)).reverse

end Path

namespace Environment

def lookup (e : Environment) (name : Text) : Option Text :=
  (e.assignments.find? fun v => v.1 == name).map (·.2)

def absolute (e : Environment) (name : Text) : Text :=
  Path.normalize (Path.join e.workingDirectory name)

/-- The home directory of an account, if it exists. The name of an account is passed on as bytes
that end at a null character. -/
def accountHome? (e : Environment) (account : Text) : Outcome (Option Text) :=
  match Text.Utf8.encodeName? account with
  | .error run => .error (.unencodable run)
  | .ok bytes =>
    if bytes.contains 0 then .error .embeddedNull
    else .ok ((e.accounts.find? fun a => a.1 == account).map (·.2))

/-- A name inside a home directory, given with its leading slash. -/
def underHome (home name : Text) : Text :=
  let result := (home.reverse.dropWhile (· == Path.slash)).reverse ++ name
  if result = [] then [Path.slash] else result

/-- The home directory that the process was given. -/
def home (e : Environment) : Text := (e.lookup "HOME").getD e.ownHome

/-- The name with a leading tilde, or tilde and account, replaced by that home directory. -/
def expandHome (e : Environment) (name : Text) : Outcome Text :=
  match name with
  | [] => .ok []
  | c :: rest =>
    let account := rest.takeWhile (· != Path.slash)
    let inside := rest.dropWhile (· != Path.slash)
    if c ≠ CodePoint.ofChar '~' then .ok name
    else if account = [] then .ok (underHome e.home inside)
    else (e.accountHome? account).map fun home => (home.map (underHome · inside)).getD name

/-! ### Standard directories -/

def applicationName : Text := "novasearch"

/-- The base directory that a variable names, if it names an absolute one, or a directory under
the home directory. -/
def baseDirectory (e : Environment) (variableName : Text) (fallback : List Text) : Text :=
  let default := fallback.foldl Path.join (underHome e.home [])
  match e.lookup variableName with
  | some base => if Path.isAbsolute base then base else default
  | none => default

def dataDirectory (e : Environment) : Text :=
  Path.join (e.baseDirectory "XDG_DATA_HOME" [".local", "share"]) applicationName

def configDirectory (e : Environment) : Text :=
  Path.join (e.baseDirectory "XDG_CONFIG_HOME" [".config"]) applicationName

def databasePath (e : Environment) : Text := Path.join e.dataDirectory "index.db"

def indexerConfigPath (e : Environment) : Text := Path.join e.configDirectory "config.toml"

def panelConfigPath (e : Environment) : Text := Path.join e.configDirectory "novasearch.yaml"

end Environment

end LaunchIndex
