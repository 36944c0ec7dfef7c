import BufferMachine.Settings.Tree
import BufferMachine.Toml.Numeral
import BufferMachine.Toml.Seen

/-!
# TOML texts

`tree` reads a whole text and gives the settings in it as a tree.  Each expression is read, its
names are checked, and then its value is worked out; the first fault ends the reading.
-/

namespace BufferMachine.Toml

mutual

def decode : Written → Except Fault SettingTree
  | .text value => .ok (.leaf (.text value))
  | .truth value => .ok (.leaf (.truth value))
  | .integer characters => do return .leaf (.number (← integer characters))
  | .fraction characters => do return .leaf (.fraction (← fraction characters))
  | .moment kind characters => do return .leaf (.moment (← moment kind characters))
  | .list items => do return .list (← decodeItems items)
  | .table entries => decodeEntries (.table []) entries

def decodeItems : List Written → Except Fault (List SettingTree)
  | [] => .ok []
  | item :: rest => do
    let first ← decode item
    return first :: (← decodeItems rest)

/-- The entries of a table that is written, put into a tree. -/
def decodeEntries (tree : SettingTree) : List (List Bytes × Written) → Except Fault SettingTree
  | [] => .ok tree
  | (path, value) :: rest => do
    let made ← decode value
    decodeEntries (tree.put made path) rest

end

structure Document where
  seen : Seen := {}
  tree : SettingTree := .table []
deriving Repr

def Document.add (d : Document) (e : Expression) : Except Fault Document := do
  let seen ← d.seen.check e
  match e with
  | .table path => return ⟨seen, d.tree.update (·.getD (.table [])) path⟩
  | .tableOfList path =>
    let oneMore : Option SettingTree → SettingTree
      | some (.list items) => .list (items ++ [.table []])
      | _ => .list [.table []]
    return ⟨seen, d.tree.update oneMore path⟩
  | .entry path value =>
    let made ← decode value
    return ⟨seen, d.tree.put made (seen.current ++ path)⟩

/-- Reads lines; the end of a line is passed over when the next one is read. -/
def linesUpTo : Nat → Document → Input → Except Fault Document
  | 0, d, _ => .ok d
  | fuel + 1, d, input => do
    let (said, left) ← line input
    let d ← match said with
      | some e => d.add e
      | none => pure d
    if left.isEmpty then return d
    let next ← lineEnd left
    if next.isEmpty then return d else linesUpTo fuel d next

/-- The settings of a text, under their names as they are written. -/
def tree (text : Bytes) : Except Fault SettingTree := do
  let input := Utf8.characters text
  return (← linesUpTo (input.length + 1) {} input).tree

end BufferMachine.Toml
