import BufferMachine.Host.Path

/-!
# File trees

The files of a file system as a value, seen from a working directory.  A tree lists its entries by
the components of their absolute paths.  The working directory, the usual directories of the system
and its devices are always there.  Every operation either gives its result or the reason that a file
system would give for refusing it.
-/

namespace BufferMachine

inductive FileError where
  | notFound
  | notADirectory
  | isADirectory
  | nameTooLong
  | alreadyExists
  | notEmpty
  | invalidArgument
  | notPermitted
  | noSpace
  | noDevice
  | tooManyLevels
deriving DecidableEq, Repr

def FileError.message : FileError → Bytes
  | .notFound => bytes "no such file or directory"
  | .notADirectory => bytes "not a directory"
  | .isADirectory => bytes "is a directory"
  | .nameTooLong => bytes "file name too long"
  | .alreadyExists => bytes "file exists"
  | .notEmpty => bytes "directory not empty"
  | .invalidArgument => bytes "invalid argument"
  | .notPermitted => bytes "permission denied"
  | .noSpace => bytes "no space left on device"
  | .noDevice => bytes "no such device or address"
  | .tooManyLevels => bytes "too many levels of symbolic links"

/-- A refused operation: what was attempted, on which path, and why it was refused. -/
structure FileFailure where
  operation : Bytes
  path : Bytes
  error : FileError
deriving DecidableEq, Repr

def FileFailure.message (f : FileFailure) : Bytes :=
  f.operation ++ bytes " " ++ f.path ++ bytes ": " ++ f.error.message

inductive Device where
  /-- Empty, and takes everything. -/
  | empty
  /-- Zero bytes without an end. -/
  | zeros
  /-- Zero bytes without an end, and no room for anything. -/
  | full
  /-- What the program is given to read. -/
  | input
  /-- What the program writes. -/
  | output
  /-- What the program reports. -/
  | errors
  /-- A terminal, which the program does not have. -/
  | terminal
deriving DecidableEq, Repr

/-- What a path can name. -/
inductive Entry where
  | file (content : Bytes)
  | directory
  | device (kind : Device)
deriving DecidableEq, Repr

/-- The files and directories of a file system, by the components of their absolute paths. -/
structure FileTree where
  entries : List (List Bytes × Entry) := []
  /-- The components of the working directory. -/
  directory : List Bytes := [bytes "tmp", bytes "work"]
  /-- What is left to read of the input. -/
  input : Bytes := []
deriving DecidableEq, Repr

namespace FileTree

/-! ### Looking up entries -/

def systemDirectories : List (List Bytes) :=
  [[bytes "bin"], [bytes "boot"], [bytes "dev"], [bytes "dev", bytes "fd"], [bytes "etc"],
    [bytes "home"], [bytes "lib"], [bytes "media"], [bytes "mnt"], [bytes "opt"], [bytes "proc"],
    [bytes "root"], [bytes "run"], [bytes "sbin"], [bytes "srv"], [bytes "sys"], [bytes "tmp"],
    [bytes "usr"], [bytes "usr", bytes "bin"], [bytes "usr", bytes "lib"],
    [bytes "usr", bytes "local"], [bytes "usr", bytes "sbin"], [bytes "usr", bytes "share"],
    [bytes "var"], [bytes "var", bytes "tmp"]]

def systemDevices : List (List Bytes × Device) :=
  [([bytes "dev", bytes "null"], .empty), ([bytes "dev", bytes "zero"], .zeros),
    ([bytes "dev", bytes "full"], .full), ([bytes "dev", bytes "stdin"], .input),
    ([bytes "dev", bytes "stdout"], .output), ([bytes "dev", bytes "stderr"], .errors),
    ([bytes "dev", bytes "tty"], .terminal), ([bytes "dev", bytes "fd", bytes "0"], .input),
    ([bytes "dev", bytes "fd", bytes "1"], .output),
    ([bytes "dev", bytes "fd", bytes "2"], .errors)]

/-- What the system has under a list of components. -/
def system? (names : List Bytes) : Option Entry :=
  if systemDirectories.contains names then some .directory
  else (systemDevices.lookup names).map .device

/-- The absolute path of the working directory. -/
def root (t : FileTree) : Bytes := t.directory.flatMap (Path.separator :: ·)

/-- The entry under a list of components. -/
def entryAt? (t : FileTree) (names : List Bytes) : Option Entry :=
  if names.isPrefixOf t.directory then some .directory
  else (t.entries.lookup names).or (system? names)

/-- The components one step further on. -/
def descend (names : List Bytes) (component : Bytes) : List Bytes :=
  if component = Path.up then names.dropLast else names ++ [component]

def longestName : Nat := 255

def longestPath : Nat := 4095

/-- Follows components one after the other.  All that is passed through has to be a directory; what
the last component names need not exist. -/
def follow (t : FileTree) (names : List Bytes) : List Bytes → Except FileError (List Bytes)
  | [] => .ok names
  | c :: cs =>
    match t.entryAt? names with
    | none => .error .notFound
    | some .directory =>
      if c = Path.here then follow t names cs
      else if c.length > longestName then .error .nameTooLong
      else follow t (descend names c) cs
    | some _ => .error .notADirectory

/-- Where a path leads. -/
def locate (t : FileTree) (path : Bytes) : Except FileError (List Bytes) :=
  if path.contains 0 then .error .invalidArgument
  else if path.isEmpty then .error .notFound
  else if path.length > longestPath then .error .nameTooLong
  else
    t.follow (if Path.isAbsolute path then [] else t.directory)
      ((Bytes.pieces Path.separator path).filter (!·.isEmpty))

/-- What a path names. -/
def find (t : FileTree) (path : Bytes) : Except FileError Entry := do
  match t.entryAt? (← t.locate path) with
  | none => .error .notFound
  | some .directory => return .directory
  | some entry => if Path.namesDirectory path then .error .notADirectory else return entry

def device? (t : FileTree) (path : Bytes) : Option Device :=
  match t.find path with
  | .ok (.device kind) => some kind
  | _ => none

def exists? (t : FileTree) (path : Bytes) : Bool :=
  match t.find path with
  | .ok _ => true
  | .error _ => false

def isFile (t : FileTree) (path : Bytes) : Bool :=
  match t.find path with
  | .ok (.file _) => true
  | _ => false

def isDirectory (t : FileTree) (path : Bytes) : Bool :=
  match t.find path with
  | .ok .directory => true
  | _ => false

/-! ### Changing entries -/

def setEntry (names : List Bytes) (entry : Entry) :
    List (List Bytes × Entry) → List (List Bytes × Entry)
  | [] => [(names, entry)]
  | (ns, e) :: rest =>
    if ns = names then (ns, entry) :: rest else (ns, e) :: setEntry names entry rest

def set (t : FileTree) (names : List Bytes) (entry : Entry) : FileTree :=
  { t with entries := setEntry names entry t.entries }

def erase (t : FileTree) (names : List Bytes) : FileTree :=
  { t with entries := t.entries.filter (·.1 != names) }

def hasChildren (t : FileTree) (names : List Bytes) : Bool :=
  t.entries.any fun (ns, _) => names.isPrefixOf ns && ns != names

/-- Reads a whole file.  Of a device without an end nothing is read. -/
def readFile (t : FileTree) (path : Bytes) : Except FileFailure Bytes :=
  match t.find path with
  | .error e => .error ⟨bytes "open", path, e⟩
  | .ok .directory => .error ⟨bytes "read", path, .isADirectory⟩
  | .ok (.file content) => .ok content
  | .ok (.device .input) => .ok t.input
  | .ok (.device .terminal) => .error ⟨bytes "open", path, .noDevice⟩
  | .ok (.device _) => .ok []

/-- The tree after a path has been read: what has been read of the input is gone. -/
def afterReading (t : FileTree) (path : Bytes) : FileTree :=
  if t.device? path = some .input then { t with input := [] } else t

/-- Writes a whole file, which is made if it is not there. -/
def writeFile (t : FileTree) (path content : Bytes) : Except FileFailure FileTree :=
  let refuse (e : FileError) : Except FileFailure FileTree := .error ⟨bytes "open", path, e⟩
  match t.locate path with
  | .error e => refuse e
  | .ok names =>
    if Path.namesDirectory path then refuse .isADirectory
    else
      match t.entryAt? names with
      | some .directory => refuse .isADirectory
      | some (.device .terminal) => refuse .noDevice
      | some (.device .full) => .error ⟨bytes "write", path, .noSpace⟩
      | some (.device _) => .ok t
      | _ => .ok (t.set names (.file content))

def makeDirectory (t : FileTree) (path : Bytes) : Except FileFailure FileTree :=
  let refuse (e : FileError) : Except FileFailure FileTree := .error ⟨bytes "mkdir", path, e⟩
  match t.locate path with
  | .error e => refuse e
  | .ok names =>
    if (t.entryAt? names).isSome then refuse .alreadyExists else .ok (t.set names .directory)

/-- The path of the directory that the last component of a path lies in, if the path has more than
one. -/
def parentPath? (path : Bytes) : Option Bytes :=
  let upToLast := (Path.withoutTrailing path).reverse.dropWhile (· ≠ Path.separator)
  if upToLast.length > 1 then some (upToLast.drop 1).reverse else none

/-- Makes a directory and, before it, the directories it lies in; at most `depth` of them.  What has
been made before a failure stays. -/
def makeDirectoriesTo (t : FileTree) (path : Bytes) : Nat → Except (FileFailure × FileTree) FileTree
  | 0 => .ok t
  | depth + 1 =>
    match t.find path with
    | .ok .directory => .ok t
    | .ok _ => .error (⟨bytes "mkdir", path, .notADirectory⟩, t)
    | .error _ => do
      let parented ← match parentPath? path with
        | some parent => t.makeDirectoriesTo parent depth
        | none => .ok t
      match parented.makeDirectory path with
      | .ok made => .ok made
      | .error failure =>
        match parented.find path with
        | .ok .directory => .ok parented
        | _ => .error (failure, parented)

def makeDirectories (t : FileTree) (path : Bytes) : Except (FileFailure × FileTree) FileTree :=
  t.makeDirectoriesTo path (path.length + 1)

/-- Removes a file or an empty directory.  What belongs to the system cannot be removed. -/
def remove (t : FileTree) (path : Bytes) : Except FileFailure FileTree :=
  let refuse (e : FileError) : Except FileFailure FileTree := .error ⟨bytes "remove", path, e⟩
  match t.locate path with
  | .error e => refuse e
  | .ok names =>
    match t.entryAt? names with
    | none => refuse .notFound
    | some .directory =>
      if names.isPrefixOf t.directory then refuse .invalidArgument
      else if t.hasChildren names then refuse .notEmpty
      else if (t.entries.lookup names).isNone then refuse .notPermitted
      else .ok (t.erase names)
    | some (.file _) =>
      if Path.namesDirectory path then refuse .notADirectory else .ok (t.erase names)
    | some (.device _) => refuse .notPermitted

def directorySize : Nat := 4096

def size? (t : FileTree) (path : Bytes) : Option Nat :=
  match t.find path with
  | .ok (.file content) => some content.length
  | .ok .directory => some directorySize
  | .ok (.device _) => some 0
  | .error _ => none

/-! ### Whole trees -/

/-- Puts a file where it belongs, or a directory if the path says so, with all the directories it
lies in. -/
def plant (t : FileTree) (path content : Bytes) : FileTree :=
  let directory := if Path.namesDirectory path then some path else parentPath? path
  let grown := match directory with
    | some d => (t.makeDirectories d).toOption.getD t
    | none => t
  if Path.namesDirectory path then grown else (grown.writeFile path content).toOption.getD grown

def ofFiles (directory : List Bytes) (files : List (Bytes × Bytes)) : FileTree :=
  files.foldl (fun t (path, content) => t.plant path content) { directory }

/-- The components of a place as seen from the working directory, if it lies below. -/
def below? (t : FileTree) (names : List Bytes) : Option (List Bytes) :=
  if t.directory.isPrefixOf names then some (names.drop t.directory.length) else none

/-- The regular files below the working directory, by their paths from there. -/
def files (t : FileTree) : List (Bytes × Bytes) :=
  t.entries.filterMap fun (names, entry) =>
    match t.below? names, entry with
    | some inner, .file content => some (List.intercalate [Path.separator] inner, content)
    | _, _ => none

end FileTree

end BufferMachine
