import BufferMachine.CommandLine.Run
import BufferMachine.Host.Change

/-!
# The executable

The tool as a program: it takes a picture of the working directory, runs the command line on it,
writes the changes back and prints what there is to print.
-/

open BufferMachine

namespace BufferMachine.Main

def ofString (text : String) : Bytes := text.toUTF8.data.toList

/-- The string of some bytes; what is no text is replaced. -/
def textOf (text : Bytes) : String := (String.fromUTF8? ⟨(Utf8.repair text).toArray⟩).getD ""

def pathOf (names : List Bytes) : String := textOf (names.flatMap (Path.separator :: ·))

/-- Reads the directory under some components, with all that is in it, down to a depth. -/
def readTree (names : List Bytes) : Nat → IO (List (List Bytes × Entry))
  | 0 => return []
  | depth + 1 => do
    let listed ← ((← IO.currentDir) / pathOf names).readDir
    let parts ← listed.toList.mapM fun item => do
      let here := names ++ [ofString item.fileName]
      if ← item.path.isDir then
        return (here, Entry.directory) :: (← readTree here depth)
      else
        let content ← IO.FS.readBinFile item.path
        return [(here, Entry.file content.data.toList)]
    return parts.flatten

/-- How deep the picture of the working directory goes. -/
def pictureDepth : Nat := 32

def apply : Change → IO Unit
  | .makeDirectory names => IO.FS.createDirAll (pathOf names)
  | .writeFile names content => IO.FS.writeBinFile (pathOf names) ⟨content.toArray⟩
  | .removeFile names => IO.FS.removeFile (pathOf names)
  | .removeDirectory names => IO.FS.removeDir (pathOf names)

/-- The variables of the environment that the tool asks for. -/
def environment : IO (List (Bytes × Bytes)) := do
  let settings := (Command.initialSettings 1).map Prod.fst
  let names := (settings ++ settings.flatMap SettingLayers.parents).map Text.toUpper
  let found ← (bytes "HOME" :: names.eraseDups).mapM fun name => do
    return (← IO.getEnv (textOf name)).map fun value => (name, ofString value)
  return found.filterMap id

def readsInput (arguments : List Bytes) : Bool :=
  match CommandLine.request 1 arguments with
  | .ok (.perform .repl _) => true
  | _ => arguments.any ((bytes "/dev/").isPrefixOf ·)

def line (readable : Bool) (e : LogEntry) : Bytes :=
  (if readable then e.readableLine else e.toJson.compact) ++ [newline]

def present (o : CommandLine.Outcome) : IO Unit := do
  let output ← IO.getStdout
  let errors ← IO.getStderr
  output.write ⟨o.output.toArray⟩
  for report in o.reports do
    match report with
    | .text content => errors.write ⟨content.toArray⟩
    | .entry e => errors.write ⟨(line o.readable e).toArray⟩
  for failure in o.failure do
    errors.write ⟨(line false (CommandLine.failureEntry failure)).toArray⟩

end BufferMachine.Main

def main (arguments : List String) : IO UInt32 := do
  let called := arguments.map Main.ofString
  let directory := Path.components (Main.ofString (← IO.currentDir).toString)
  let entries ← Main.readTree directory Main.pictureDepth
  let input ← if Main.readsInput called then (← IO.getStdin).readBinToEnd else pure ByteArray.empty
  let files : FileTree := { entries, directory, input := input.data.toList }
  let world : CommandLine.World := { files, environment := ← Main.environment }
  let outcome := CommandLine.run (Launcher.standard world.environment) world called
  for change in files.changes outcome.files do Main.apply change
  Main.present outcome
  return outcome.exitCode.toUInt32
