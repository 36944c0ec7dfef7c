import BufferMachine.Host.FileTree
import BufferMachine.Settings.Basic
import BufferMachine.Settings.Substitution
import BufferMachine.Toml.Document

/-!
# Where settings come from

A setting can be given on the command line, in the environment or in a configuration file, and it
has a value to begin with.  The first of these that has the setting decides.  In the environment a
setting has its name in capitals, and an empty value counts as none.

A setting whose name has several parts is hidden by a value that its first parts alone have, in the
environment, in the configuration file or because they name another setting of the tool: it then has
no value at all, unless something that comes before gives it one.
-/

namespace BufferMachine

/-- The values of settings by where they come from. -/
structure SettingLayers where
  /-- What was given on the command line. -/
  given : List (Bytes × SettingValue) := []
  environment : List (Bytes × Bytes) := []
  configuration : SettingTree := .table []
  /-- What holds if nothing else is said. -/
  initial : List (Bytes × SettingValue) := []
deriving Repr

namespace SettingLayers

/-- The value of a variable of the environment, unless it is empty. -/
def fromEnvironment (l : SettingLayers) (name : Bytes) : Option Bytes :=
  match l.environment.lookup (Text.toUpper name) with
  | some value => if value.isEmpty then none else some value
  | none => none

/-- The beginnings of a name that end before a point. -/
def parents : Bytes → List Bytes
  | [] => []
  | b :: rest => (if b = byte '.' then [[]] else []) ++ (parents rest).map (b :: ·)

/-- The name under which the tool keeps its log; no setting can have it. -/
def reserved : Bytes := bytes "logger"

/-- Does the name belong to a setting of the tool? -/
def isInitial (l : SettingLayers) (name : Bytes) : Bool := (l.initial.lookup name).isSome

/-- Is the name taken before any configuration is read? -/
def isTaken (l : SettingLayers) (name : Bytes) : Bool := name = reserved || l.isInitial name

/-- The value of a setting that is not given on the command line, by what the configuration says. -/
def configured? (l : SettingLayers) (name : Bytes) : Option SettingValue :=
  let parts := Bytes.pieces (byte '.') name
  match l.configuration.find? parts with
  | some tree => some tree.value
  | none => if l.configuration.isBlocked parts then none else l.initial.lookup name

def get? (l : SettingLayers) (name : Bytes) : Option SettingValue :=
  if (parents name).contains reserved then none
  else
    match l.given.lookup name with
    | some value => some value
    | none =>
      if (parents name).any l.isInitial then none
      else
        match l.fromEnvironment name with
        | some value => some (.text value)
        | none => if (parents name).any fun p =>
          (l.fromEnvironment p).isSome then none else l.configured? name

def names (l : SettingLayers) : List Bytes :=
  let known := l.initial.map Prod.fst
  known ++ ((l.configuration.leaves l.isTaken).map Prod.fst).filter fun n => !known.contains n

def settings (l : SettingLayers) : Settings :=
  ⟨l.names.filterMap fun name => (l.get? name).map fun value => (name, value)⟩

end SettingLayers

/-! ### The configuration file -/

/-- What became of the configuration file. -/
inductive ConfigurationResult where
  /-- There is none. -/
  | missing
  | loaded (path : Bytes) (tree : SettingTree)
  | unreadable (path : Bytes) (cause : FileFailure)
  | malformed (path : Bytes) (fault : Toml.Fault)
deriving Repr

namespace ConfigurationResult

def tree : ConfigurationResult → SettingTree
  | .loaded _ tree => tree
  | _ => .table []

def path : ConfigurationResult → Bytes
  | .missing => []
  | .loaded path _ => path
  | .unreadable path _ => path
  | .malformed path _ => path

def log (r : ConfigurationResult) : List LogEntry :=
  let trouble (message : Bytes) :=
    (LogEntry.say .error "Error loading config file").withText "error" message
  let first := match r with
    | .missing => [LogEntry.say .debug "No config file found, using defaults as a base"]
    | .loaded .. => []
    | .unreadable _ cause => [trouble cause.message]
    | .malformed _ fault => [trouble (bytes "While parsing config: " ++ fault.message)]
  first ++ [(LogEntry.say .debug "loaded config from file").withText "file" r.path]

end ConfigurationResult

namespace Configuration

/-- The endings that a configuration file may have; the text is the same under each. -/
def endings : List String :=
  ["json", "toml", "yaml", "yml", "properties", "props", "prop", "hcl", "tfvars", "dotenv",
    "env", "ini"]

/-- The names that a configuration file may have, in the order in which they are tried. -/
def fileNames : List Bytes :=
  endings.map (fun e => bytes "config." ++ bytes e) ++ [bytes "config"]

def absolute (directory path : Bytes) : Bytes :=
  if Path.isAbsolute path then Path.clean path else Path.join directory path

/-- The directory of a user's own configuration. -/
def homeDirectory (root : Bytes) (environment : List (Bytes × Bytes)) : Bytes :=
  let value (name : Bytes) : Bytes := (environment.lookup name).getD []
  absolute root (Substitution.replace value (value (bytes "HOME") ++ bytes "/.bufc"))

/-- The directories in which a configuration file is looked for, in this order. -/
def directories (root : Bytes) (environment : List (Bytes × Bytes)) : List Bytes :=
  [Path.join root (bytes "config"), bytes "/etc/bufc", homeDirectory root environment,
    Path.clean root]

/-- The configuration file to be used if none is named. -/
def find? (files : FileTree) (environment : List (Bytes × Bytes)) : Option Bytes :=
  ((directories files.root environment).flatMap fun d =>
    fileNames.map (Path.join d)).find? files.isFile

def loadFile (files : FileTree) (path : Bytes) : ConfigurationResult :=
  match files.readFile path with
  | .error cause => .unreadable path cause
  | .ok text =>
    match Toml.tree text with
    | .error fault => .malformed path fault
    | .ok tree => .loaded path tree.lowered

/-- Loads the file that is named, or else the one that is found. -/
def load (files : FileTree) (environment : List (Bytes × Bytes)) (named : Bytes) :
    ConfigurationResult :=
  if !named.isEmpty then loadFile files named
  else
    match find? files environment with
    | some path => loadFile files path
    | none => .missing

end Configuration

end BufferMachine
