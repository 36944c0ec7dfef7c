import BufferMachine.Build.Artifacts
import BufferMachine.Build.Toolchain
import BufferMachine.Settings.Basic

/-!
# The desk of a command

What a command of the tool works on: the files, the metrics, what it has written, and what it has
reported.  Reports are log entries and texts in the order in which they were made.  A log entry is
only reported if it has the weight that is asked for.
-/

namespace BufferMachine

/-- Something that a command reports beside its output. -/
inductive Report where
  | entry (e : LogEntry)
  | text (content : Bytes)
deriving DecidableEq, Repr

/-- What a command works on. -/
structure Desk where
  files : FileTree
  metrics : Option Metrics.Store := none
  /-- Entries of less weight are not reported. -/
  threshold : LogLevel := .info
  output : Bytes := []
  reports : List Report := []
deriving DecidableEq, Repr

inductive Failure where
  | unreadable (failure : SourceFailure)
  | refused (path : Bytes) (diagnostic : Diagnostic)
  | unscanned (path : Bytes) (diagnostic : Diagnostic)
  | unwritable (path : Bytes) (cause : FileFailure)
  | unbuilt (path : Bytes) (cause : ToolchainFailure)
  | unknownFormat (name : Bytes)
deriving DecidableEq, Repr

def Failure.message : Failure → Bytes
  | .unreadable failure => failure.message
  | .refused path diagnostic =>
    bytes "unable to compile " ++ path ++ bytes ": " ++ diagnostic.summary
  | .unscanned path diagnostic =>
    bytes "unable to scan " ++ path ++ bytes ": " ++ diagnostic.summary
  | .unwritable path cause => bytes "unable to write " ++ path ++ bytes ": " ++ cause.message
  | .unbuilt path cause => bytes "unable to build " ++ path ++ bytes ": " ++ cause.message
  | .unknownFormat name => bytes "unsupported output format '" ++ name ++ bytes "'"

/-- Steps of a command: they change the desk, and a failure keeps the changes. -/
abbrev Work := ExceptT Failure (StateM Desk)

namespace Desk

/-- Reports an entry, if it has the weight for it. -/
def log (d : Desk) (e : LogEntry) : Desk :=
  if d.threshold.weight ≤ e.level.weight then { d with reports := d.reports ++ [.entry e] } else d

def logAll (d : Desk) (entries : List LogEntry) : Desk := entries.foldl log d

def tell (d : Desk) (text : Bytes) : Desk := { d with reports := d.reports ++ [.text text] }

def print (d : Desk) (text : Bytes) : Desk := { d with output := d.output ++ text }

end Desk

namespace Work

def note (path : Bytes) (e : LogEntry) : Work Unit :=
  modify (·.log (e.inContext [(bytes "file", .text path)]))

def readSource (path : Bytes) : Work Bytes := do
  match BufferMachine.readSource (← get).files path with
  | .ok content =>
    modify fun d => { d with files := d.files.afterReading path }
    return content
  | .error failure => throw (.unreadable failure)

/-- Compiles a source as the settings ask, and shows where it is wrong if it is. -/
def compile (settings : Settings) (path source : Bytes) : Work Compilation := do
  let desk ← get
  let (result, w) :=
    (settings.compiler path).run source { files := desk.files, metrics := desk.metrics }
  set (({ desk with files := w.files, metrics := w.metrics } : Desk).logAll
    (w.log.map (·.inContext [(bytes "file", .text path)])))
  match result with
  | .ok compilation => return compilation
  | .error diagnostic =>
    modify (·.tell (diagnostic.render source))
    throw (.refused path diagnostic)

/-- Writes a file, which may be the device of the output or of the reports. -/
def writeFile (path content : Bytes) : Work Unit := do
  let files := (← get).files
  match files.writeFile path content with
  | .error cause => throw (.unwritable path cause)
  | .ok written =>
    if files.device? path = some .output then modify (·.print content)
    else if files.device? path = some .errors then modify (·.tell content)
    else modify fun d => { d with files := written }

end Work

end BufferMachine
