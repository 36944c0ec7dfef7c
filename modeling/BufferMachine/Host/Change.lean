import BufferMachine.Host.FileTree

/-!
# Changes of a file tree

How one tree becomes another: which directories are made, which files are written, and what is
removed.  Directories are made before the files in them are written, and files are removed before
the directories they were in.
-/

namespace BufferMachine

/-- A change of a file tree, by the components of an absolute path. -/
inductive Change where
  | makeDirectory (names : List Bytes)
  | writeFile (names : List Bytes) (content : Bytes)
  | removeFile (names : List Bytes)
  | removeDirectory (names : List Bytes)
deriving DecidableEq, Repr

namespace FileTree

def additions (before after : FileTree) : List Change :=
  after.entries.filterMap fun (names, entry) =>
    if before.entries.lookup names = some entry then none
    else
      match entry with
      | .directory => some (.makeDirectory names)
      | .file content => some (.writeFile names content)
      | .device _ => none

def removals (before after : FileTree) : List Change :=
  before.entries.reverse.filterMap fun (names, entry) =>
    if (after.entries.lookup names).isSome then none
    else
      match entry with
      | .directory => some (.removeDirectory names)
      | .file _ => some (.removeFile names)
      | .device _ => none

def changes (before after : FileTree) : List Change :=
  removals before after ++ additions before after

end FileTree

end BufferMachine
