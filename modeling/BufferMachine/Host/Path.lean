import BufferMachine.Text.Bytes

/-!
# Paths

A path is a byte string with slashes between its components.  The operations here are lexical: they
do not look at any file.
-/

namespace BufferMachine.Path

def separator : UInt8 := byte '/'

/-- The component that stays in the same directory. -/
def here : Bytes := bytes "."

/-- The component that goes up to the parent directory. -/
def up : Bytes := bytes ".."

def isAbsolute (path : Bytes) : Bool := path.head? == some separator

/-- The components that matter: empty ones and those that stay in place are left out. -/
def components (path : Bytes) : List Bytes :=
  (Bytes.pieces separator path).filter fun c => !c.isEmpty && c != here

/-- Adds a component to a cleaned path given from its end; going up takes the last component
away. -/
def push (rooted : Bool) (reversed : List Bytes) (component : Bytes) : List Bytes :=
  if component = up then
    match reversed with
    | [] => if rooted then [] else [up]
    | last :: rest => if last = up then up :: reversed else rest
  else component :: reversed

/-- The components after going up has been carried out as far as possible. -/
def cleanComponents (path : Bytes) : List Bytes :=
  ((components path).foldl (push (isAbsolute path)) []).reverse

/-- The shortest path with the same lexical meaning. -/
def clean (path : Bytes) : Bytes :=
  let joined := List.intercalate [separator] (cleanComponents path)
  if isAbsolute path then separator :: joined
  else if joined.isEmpty then here
  else joined

/-- A path inside a directory, cleaned; an empty directory name counts for nothing. -/
def join (directory name : Bytes) : Bytes :=
  if directory.isEmpty then if name.isEmpty then [] else clean name
  else clean (directory ++ [separator] ++ name)

def withoutTrailing (path : Bytes) : Bytes := (path.reverse.dropWhile (· == separator)).reverse

def base (path : Bytes) : Bytes :=
  if path.isEmpty then here
  else
    match withoutTrailing path with
    | [] => [separator]
    | trimmed => (trimmed.reverse.takeWhile (· ≠ separator)).reverse

/-- Does the path end with a slash, so that it can only name a directory? -/
def namesDirectory (path : Bytes) : Bool := path.getLast? == some separator

end BufferMachine.Path
