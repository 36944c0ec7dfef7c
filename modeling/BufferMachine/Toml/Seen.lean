import BufferMachine.Toml.Expression

/-!
# Names that a TOML text has used

A name can be given a value once.  A table can be opened by one heading, and what a heading or a
dotted name has opened cannot be opened again by the other.  `Seen` records what every name stands
for, and `Seen.check` says what is wrong with an expression that comes next.
-/

namespace BufferMachine.Toml

/-- What is known about a name. -/
structure Known where
  path : List Bytes
  kind : NameKind
  /-- Has a heading opened it, or is it closed to dotted names for another reason? -/
  isExplicit : Bool := false
  /-- Did a name with a value bring it up? -/
  isDotted : Bool := false
deriving DecidableEq, Repr

/-- What is known about names, and the table that the last heading opened. -/
structure Seen where
  known : List Known := []
  current : List Bytes := []
deriving DecidableEq, Repr

namespace Seen

def find? (s : Seen) (path : List Bytes) : Option Known := s.known.find? (·.path == path)

/-- Is the second path longer than the first and a continuation of it? -/
def isBelow (path other : List Bytes) : Bool := path.isPrefixOf other && path.length < other.length

def add (s : Seen) (k : Known) : Seen := { s with known := s.known ++ [k] }

def modify (s : Seen) (path : List Bytes) (change : Known → Known) : Seen :=
  { s with known := s.known.map fun k => if k.path == path then change k else k }

/-- Closes what dotted names have opened in the current table. -/
def closeDotted (s : Seen) : Seen :=
  { s with known := s.known.map fun k =>
      if isBelow s.current k.path && k.isDotted then
        { k with isExplicit := true, isDotted := false }
      else k }

/-- Forgets what stands below a name. -/
def forgetBelow (s : Seen) (path : List Bytes) : Seen :=
  { s with known := s.known.filter fun k => !isBelow path k.path }

/-- Goes along the parts of a heading but the last one. -/
def enter (s : Seen) (front : List Bytes) : List Bytes → Except Fault Seen
  | [] | [_] => .ok s
  | name :: rest =>
    let path := front ++ [name]
    match s.find? path with
    | none => enter (s.add { path, kind := .table }) path rest
    | some k => if k.kind = .value then .error (.notATable name k.kind) else enter s path rest

def openTable (s : Seen) (path : List Bytes) : Except Fault Seen := do
  let s ← enter s.closeDotted [] path
  let name := path.getLastD []
  match s.find? path with
  | none => return { s.add { path, kind := .table, isExplicit := true } with current := path }
  | some k =>
    if k.kind != .table then throw (.shouldBeTable name k.kind)
    if k.isExplicit then throw (.tableAgain name)
    return { s.modify path fun k => { k with isExplicit := true } with current := path }

def openTableOfList (s : Seen) (path : List Bytes) : Except Fault Seen := do
  let s ← enter s.closeDotted [] path
  match s.find? path with
  | none => return { s.add { path, kind := .tableList, isExplicit := true } with current := path }
  | some k =>
    if k.kind != .tableList then throw (.shouldBeTableList (path.getLastD []) k.kind)
    return { s.forgetBelow path with current := path }

/-- Goes along the parts of a name that gets a value. -/
def name (s : Seen) (front : List Bytes) : List Bytes → Except Fault Seen
  | [] => .ok (s.modify front fun k => { k with kind := .value })
  | part :: rest =>
    let path := front ++ [part]
    match s.find? path with
    | none => name (s.add { path, kind := .table, isDotted := true }) path rest
    | some k =>
      if rest.isEmpty then .error (.nameAgain part)
      else if k.kind != .table then .error (.notATable part k.kind)
      else if k.isExplicit then .error (.tableClosed part)
      else name s path rest

mutual

/-- Checks the names inside a value; tables there have nothing to do with those outside. -/
def checkInside : Written → Except Fault Unit
  | .list items => checkItems items
  | .table entries => checkEntries {} entries
  | _ => .ok ()

def checkItems : List Written → Except Fault Unit
  | [] => .ok ()
  | item :: rest => do
    checkInside item
    checkItems rest

def checkEntries (s : Seen) : List (List Bytes × Written) → Except Fault Unit
  | [] => .ok ()
  | (path, value) :: rest => do
    let s ← s.name [] path
    checkInside value
    checkEntries s rest

end

/-- Checks the names of the next expression, and records them. -/
def check (s : Seen) : Expression → Except Fault Seen
  | .table path => s.openTable path
  | .tableOfList path => s.openTableOfList path
  | .entry path value => do
    let s ← s.name s.current path
    checkInside value
    return s

end Seen

end BufferMachine.Toml
