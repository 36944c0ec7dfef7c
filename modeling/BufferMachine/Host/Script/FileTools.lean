import BufferMachine.Host.Script.Pattern
import BufferMachine.Host.Script.Tool

/-!
# Tools for files

Tools that list, copy, move, make and remove files and directories.
-/

namespace BufferMachine.Script.FileTools

open Tool

def listed (letters : Bytes) (sh : Shell) (path : Bytes) : List Bytes :=
  let names := namesIn sh.files path
  if letters.contains (byte 'a') then [Path.here, Path.up] ++ names
  else if letters.contains (byte 'A') then names
  else names.filter fun n => n.head? != some (byte '.')

def ls : Tool := withOptions "aA1dr" (fun letters operands sh =>
  let operands := (if operands.isEmpty then [Path.here] else operands).mergeSort Bytes.notAfter
  let directories := operands.filter fun p => sh.files.isDirectory p && !letters.contains (byte 'd')
  let files := operands.filter fun p => sh.files.exists? p && !directories.contains p
  let complained := forOperands (fun path sh =>
    match sh.files.find path with
    | .ok _ => .ok sh
    | .error e =>
      .error (told sh "cannot access " ++ inQuotes path ++ bytes ": " ++ reason e)) sh operands 2
  let blocks := directories.map fun d =>
    (if operands.length > 1 then [d ++ bytes ":"] else []) ++ listed letters sh d
  let all := (if files.isEmpty then [] else [files]) ++ blocks
  complained.write outputChannel (List.intercalate [newline] (all.map Bytes.unlines))) 2

/-- Where a file goes: into the target if that is a directory. -/
def destination (sh : Shell) (path target : Bytes) : Bytes :=
  if sh.files.isDirectory target then Path.join target (Path.base path) else target

def copyDirectory (files : FileTree) (path place : Bytes) : Except FileFailure FileTree := do
  let made ← (files.makeDirectories place).mapError Prod.fst
  match files.locate path, made.locate place with
  | .ok start, .ok goal =>
    let inner := files.entries.filter fun (names, _) => start.isPrefixOf names && names != start
    return inner.foldl (fun t (names, entry) => t.set (goal ++ names.drop start.length) entry) made
  | _, _ => return made

def copyTo (verb : String) (whole : Bytes → Bool) (finish : Bytes → Shell → Shell) : Tool :=
  withOptions "fpirRav" fun letters operands sh =>
    match operands.getLast?, operands.dropLast with
    | some target, first :: more =>
      forOperands (fun path sh =>
        let place := destination sh path target
        let refuse (failure : FileFailure) : Except Bytes Shell :=
          .error (told sh "cannot " ++ bytes verb ++ bytes " " ++ inQuotes place ++ bytes ": " ++
            reason failure.error)
        match sh.files.find path with
        | .error e => .error (told sh "cannot stat " ++ inQuotes path ++ bytes ": " ++ reason e)
        | .ok .directory =>
          if !whole letters then
            .error (told sh "-r not specified; omitting directory " ++ inQuotes path)
          else
            match copyDirectory sh.files path place with
            | .ok files => .ok (finish path { sh with files })
            | .error failure => refuse failure
        | .ok entry =>
          let content := match entry with
            | .file content => content
            | _ => []
          match sh.files.writeFile place content with
          | .ok files => .ok (finish path { sh with files })
          | .error failure => refuse failure) sh (first :: more)
    | some only, [] =>
      sh.complain 1 (told sh "missing destination file operand after " ++ inQuotes only ++ hint sh)
    | none, _ => sh.complain 1 (told sh "missing file operand" ++ hint sh)

def cp : Tool := copyTo "create regular file"
  (fun letters => letters.any fun l => l == byte 'r' || l == byte 'R' || l == byte 'a')
    fun _ sh => sh

/-- The files without what is below a path. -/
def emptied (files : FileTree) (path : Bytes) : FileTree :=
  match files.locate path with
  | .ok place =>
    { files with
      entries := files.entries.filter fun (names, _) =>
        !(place.isPrefixOf names && names != place) }
  | .error _ => files

def mv : Tool := copyTo "move to" (fun _ => true) fun path sh =>
  match (emptied sh.files path).remove path with
  | .ok files => { sh with files }
  | .error _ => sh

/-- Gives a file a second name. -/
def ln : Tool := copyTo "create link" (fun _ => true) fun _ sh => sh

def rm : Tool := withOptions "frRv" fun letters operands sh =>
  let forced := letters.contains (byte 'f')
  let whole := letters.contains (byte 'r') || letters.contains (byte 'R')
  if operands.isEmpty && !forced then sh.complain 1 (told sh "missing operand" ++ hint sh)
  else
    forOperands (fun path sh =>
      let refuse (e : FileError) : Except Bytes Shell :=
        .error (told sh "cannot remove " ++ inQuotes path ++ bytes ": " ++ reason e)
      match sh.files.find path with
      | .error e => if forced && e == .notFound then .ok sh else refuse e
      | .ok entry =>
        if entry == .directory && !whole then refuse .isADirectory
        else
          match (if entry == .directory then emptied sh.files path else sh.files).remove path with
          | .ok files => .ok { sh with files }
          | .error failure => refuse failure.error) sh operands

/-- Makes files that are not there. -/
def touch : Tool := withOptions "acm" fun _ operands sh =>
  if operands.isEmpty then sh.complain 1 (told sh "missing file operand" ++ hint sh)
  else
    forOperands (fun path sh =>
      if sh.files.exists? path then .ok sh
      else
        match sh.files.writeFile path [] with
        | .ok files => .ok { sh with files }
        | .error failure =>
          .error (told sh "cannot touch " ++ inQuotes path ++ bytes ": " ++ reason failure.error))
      sh operands

def mkdir : Tool := withOptions "p" fun letters operands sh =>
  let make (files : FileTree) (path : Bytes) : Except (FileFailure × FileTree) FileTree :=
    if letters.contains (byte 'p') then files.makeDirectories path
    else (files.makeDirectory path).mapError (·, files)
  if operands.isEmpty then sh.complain 1 (told sh "missing operand" ++ hint sh)
  else
    operands.foldl (fun sh path =>
      match make sh.files path with
      | .ok files => { sh with files }
      | .error (failure, files) =>
        { sh with files }.complain 1
          (told sh "cannot create directory " ++ inQuotes path ++ bytes ": " ++
            reason failure.error))
      (sh.ended 0)

def rmdir : Tool := withOptions "" fun _ operands sh =>
  forOperands (fun path sh =>
    let refuse (e : FileError) : Except Bytes Shell :=
      .error (told sh "failed to remove " ++ inQuotes path ++ bytes ": " ++ reason e)
    match sh.files.find path with
    | .ok .directory =>
      match sh.files.remove path with
      | .ok files => .ok { sh with files }
      | .error failure => refuse failure.error
    | .ok _ => refuse .notADirectory
    | .error e => refuse e) sh operands

end BufferMachine.Script.FileTools
