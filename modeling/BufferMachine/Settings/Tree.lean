import BufferMachine.Settings.Value
import BufferMachine.Text.Case

/-!
# Trees of settings

Settings are grouped in tables, tables stand in tables, and a list holds values or tables.  The name
of a setting is made of the names on the way to it, with points between them; a point that belongs
to one of those names is not told apart from one between two of them.
-/

namespace BufferMachine

/-- Settings as they are grouped. -/
inductive SettingTree where
  | leaf (value : SettingValue)
  | list (items : List SettingTree)
  | table (entries : List (Bytes × SettingTree))
deriving Repr

namespace SettingTree

/-- The entries of a table; nothing else has any. -/
def entries : SettingTree → List (Bytes × SettingTree)
  | .table entries => entries
  | _ => []

def isTable : SettingTree → Bool
  | .table _ => true
  | _ => false

/-! ### Text -/

def spaced (texts : List Bytes) : Bytes := List.intercalate (bytes " ") texts

mutual

/-- The tree as it is shown in the log; tables are sorted by name. -/
def shown : SettingTree → Bytes
  | .leaf value => value.shown
  | .list items => bytes "[" ++ spaced (shownItems items) ++ bytes "]"
  | .table entries =>
    let sorted := (shownEntries entries).mergeSort fun a b => Bytes.notAfter a.1 b.1
    bytes "map[" ++ spaced (sorted.map fun (name, text) => name ++ bytes ":" ++ text) ++ bytes "]"

def shownItems : List SettingTree → List Bytes
  | [] => []
  | item :: rest => item.shown :: shownItems rest

def shownEntries : List (Bytes × SettingTree) → List (Bytes × Bytes)
  | [] => []
  | (name, tree) :: rest => (name, tree.shown) :: shownEntries rest

end

def value : SettingTree → SettingValue
  | .leaf value => value
  | tree => .composite tree.shown

/-! ### Names -/

mutual

/-- The tree with all names in small letters. -/
def lowered : SettingTree → SettingTree
  | .leaf value => .leaf value
  | .list items => .list (loweredItems items)
  | .table entries => .table (loweredEntries entries)

def loweredItems : List SettingTree → List SettingTree
  | [] => []
  | item :: rest => item.lowered :: loweredItems rest

def loweredEntries : List (Bytes × SettingTree) → List (Bytes × SettingTree)
  | [] => []
  | (name, tree) :: rest => (Text.toLower name, tree.lowered) :: loweredEntries rest

end

def joined (parts : List Bytes) : Bytes := List.intercalate (bytes ".") parts

def countdown : Nat → List Nat
  | 0 => []
  | n + 1 => (n + 1) :: countdown n

/-- The item of a list that a part of a name points to. -/
def item? (items : List SettingTree) (part : Bytes) : Option SettingTree :=
  match Literal.inBase 10 part with
  | .ok (.ofNat n) => items[n]?
  | _ => none

/-- Finds what has a name in a tree.  As many parts of the name as possible are taken together, in a
list one, the number of an item; where that leads nowhere fewer are tried. -/
def findUpTo : Nat → SettingTree → List Bytes → Option SettingTree
  | _, tree, [] => some tree
  | 0, _, _ => none
  | _, .leaf _, _ :: _ => none
  | fuel + 1, .list items, part :: rest => (item? items part).bind fun found =>
    findUpTo fuel found rest
  | fuel + 1, .table entries, part :: rest =>
    (countdown (rest.length + 1)).findSome? fun n =>
      let parts := part :: rest
      (entries.lookup (Text.toLower (joined (parts.take n)))).bind fun found =>
        findUpTo fuel found (parts.drop n)

def find? (tree : SettingTree) (parts : List Bytes) : Option SettingTree :=
  findUpTo parts.length tree parts

/-- Goes along a name part by part, and tells whether something that is no table stands on the
way. -/
def isBlocked : SettingTree → List Bytes → Bool
  | .table entries, part :: rest =>
    match entries.lookup part with
    | some found =>
      if rest.isEmpty then false else if found.isTable then isBlocked found rest else true
    | none => false
  | _, _ => false

mutual

/-- The settings in a tree with their names, which have the given beginning.  Where `isClosed` holds
of the name of a table, the table counts as one setting. -/
def leavesFrom (isClosed : Bytes → Bool) (front : Bytes) : SettingTree → List (Bytes × SettingTree)
  | .table entries =>
    if !front.isEmpty && isClosed front then [(front, .table entries)]
    else leavesOf isClosed front entries
  | tree => [(front, tree)]

def leavesOf (isClosed : Bytes → Bool) (front : Bytes) :
    List (Bytes × SettingTree) → List (Bytes × SettingTree)
  | [] => []
  | (name, tree) :: rest =>
    let full := if front.isEmpty then name else front ++ bytes "." ++ name
    leavesFrom isClosed full tree ++ leavesOf isClosed front rest

end

/-- The settings in a tree with their names. -/
def leaves (tree : SettingTree) (isClosed : Bytes → Bool := fun _ => false) :
    List (Bytes × SettingTree) :=
  leavesOf isClosed [] tree.entries

/-! ### Changes -/

/-- A table with one entry set; an entry that is there already keeps its place. -/
def set (entries : List (Bytes × SettingTree)) (name : Bytes) (tree : SettingTree) :
    List (Bytes × SettingTree) :=
  if (entries.lookup name).isSome then
    entries.map fun (n, t) =>
      if n = name then (n, tree) else (n, t)
  else entries ++ [(name, tree)]

def changeLast (change : SettingTree → SettingTree) : List SettingTree → List SettingTree
  | [] => []
  | [item] => [change item]
  | item :: rest => item :: changeLast change rest

/-- Changes a tree, or the last item if it is a list. -/
def inLast (change : SettingTree → SettingTree) : SettingTree → SettingTree
  | .list items => .list (changeLast change items)
  | tree => change tree

/-- Changes what stands under a name given by its parts.  A list on the way stands for its last
item, and anything else that is no table is replaced by one. -/
def update (tree : SettingTree) (change : Option SettingTree → SettingTree) (parts : List Bytes) :
    SettingTree :=
  match parts with
  | [] => change (some tree)
  | [name] => .table (set tree.entries name (change (tree.entries.lookup name)))
  | name :: rest =>
    let inner := (tree.entries.lookup name).getD (.table [])
    .table (set tree.entries name (inLast (update · change rest) inner))

def put (whole tree : SettingTree) (parts : List Bytes) : SettingTree :=
  whole.update (fun _ => tree) parts

end SettingTree

end BufferMachine
