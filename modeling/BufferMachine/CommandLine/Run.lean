import BufferMachine.Build.Build
import BufferMachine.CommandLine.Help
import BufferMachine.Metrics.Exposition
import BufferMachine.Session.Session
import BufferMachine.Settings.Layers

/-!
# Running the tool

`CommandLine.run` is the whole tool as a function: from the arguments and the world that the tool is
called in to what it leaves behind.  Arguments are checked before anything else happens.  Then the
settings are loaded, which fixes how much is logged, the command is carried out, and the metrics are
written.
-/

namespace BufferMachine.CommandLine

/-- The world that the tool is called in. -/
structure World where
  /-- The files, and among the devices the input. -/
  files : FileTree
  environment : List (Bytes × Bytes) := []
  processors : Nat := 1
deriving DecidableEq, Repr

/-- What the tool leaves behind. -/
structure Outcome where
  files : FileTree
  exitCode : Nat := 0
  output : Bytes := []
  reports : List Report := []
  /-- Are log entries written for people to read, and not as JSON? -/
  readable : Bool := false
  /-- What made the tool fail. -/
  failure : Option Bytes := none
deriving DecidableEq, Repr

/-! ### Commands -/

def gen (settings : Settings) (path : Bytes) : Work Unit := do
  let source ← Work.readSource path
  let compilation ← Work.compile settings path source
  let out := settings.text "gen.out"
  if out.isEmpty || out = bytes "-" then modify (·.print compilation.code)
  else
    Work.writeFile out compilation.code
    Work.note path
      (((LogEntry.say .info "wrote generated code").withText "output" out).withText "size"
      (ByteSize.text compilation.code.length))

def tokens (settings : Settings) (path : Bytes) : Work Unit := do
  let format := settings.text "bufc.output"
  unless TableFormat.names.contains format do throw (.unknownFormat format)
  let source ← Work.readSource path
  match scan settings.keywordRule source with
  | .error diagnostic =>
    modify (·.tell (diagnostic.render source))
    throw (.unscanned path diagnostic)
  | .ok found =>
    modify (·.print (((TokenTable.mk (some found)).render (.ofName format)).toOption.getD []))

def session (settings : Settings) : Work Unit := do
  let input := (← get).files.input
  let reactions :=
    ({ rule := settings.keywordRule } : Session).run (SessionEvent.ofInput Session.words input)
  modify fun d => (d.logAll (reactions.flatMap (·.log))).print (reactions.flatMap (·.output))

def help (processors : Nat) (topics : List Bytes) : Work Unit :=
  match Command.find topics with
  | .ok (command, _) => modify (·.print (command.helpText processors))
  | .error _ => modify (·.tell (Command.unknownTopicText topics))

def perform (launcher : Launcher) (world : World) (settings : Settings) (command : Command)
    (arguments : List Bytes) :
    Work Unit :=
  match command with
  | .build => Build.files settings launcher arguments
  | .gen => gen settings (arguments.headD [])
  | .tokens => tokens settings (arguments.headD [])
  | .repl => session settings
  | .help => help world.processors arguments
  | .root => return
  | .completion => return

/-! ### Arguments -/

def checkCount (command : Command) (arguments : List Bytes) : Except UsageFailure Unit :=
  match command with
  | .build => if arguments.isEmpty then .error (.tooFew 0) else .ok ()
  | .gen | .tokens => if arguments.length = 1 then .ok () else .error (.wrongCount arguments.length)
  | _ => .ok ()

inductive Request where
  | show (text : Bytes)
  | perform (command : Command) (arguments : Arguments)
deriving DecidableEq, Repr

def request (processors : Nat) (arguments : List Bytes) : Except UsageFailure Request := do
  let (command, rest) ← Command.find arguments
  let read ← Arguments.read (command.flags processors) rest
  if read.asks "help" then return .show (command.helpText processors)
  else if command.tellsVersion && read.asks "version" then return .show Command.versionText
  else if command = .root || command = .completion then return .show (command.helpText processors)
  else
    checkCount command read.rest
    return .perform command read

/-! ### The tool -/

/-- The least weight of the log entries that are wanted. -/
def threshold (settings : Settings) : LogLevel :=
  let verbosity := settings.number "bufc.verbose"
  if 2 ≤ verbosity then .trace else if verbosity = 1 then .debug else .info

def settingText : Option SettingValue → Bytes
  | some value => value.shown
  | none => bytes "<nil>"

def settingEntries (layers : SettingLayers) : List LogEntry :=
  (layers.names.filter fun n => n != bytes "logger" && n != bytes "metrics").map fun n =>
    { level := .trace, message := some (n ++ bytes "=" ++ settingText (layers.get? n)) }

/-- The most digits that are added to the name of a file to get the name of a temporary one. -/
def temporaryDigits : Nat := 10

/-- The length of the name of the temporary file for a path; an asterisk in the name gives way to
the digits. -/
def temporaryLength (path : Bytes) : Nat :=
  let name := Path.base path
  (if name.contains (byte '*') then name.length - 1 else name.length) + temporaryDigits

/-- Writes a file by way of a temporary one in the same directory. -/
def replaceFile (files : FileTree) (path content : Bytes) : Except FileFailure FileTree :=
  if temporaryLength path > FileTree.longestName then .error ⟨bytes "open", path, .nameTooLong⟩
  else files.writeFile path content

def writeMetrics (settings : Settings) (desk : Desk) : Desk :=
  let path := settings.text "bufc.metrics-file"
  match desk.metrics with
  | none => desk
  | some store =>
    if path.isEmpty then desk
    else
      match replaceFile desk.files path store.exposition with
      | .ok files =>
        ({ desk with files } : Desk).log
          ((LogEntry.say .debug "wrote metrics").withText "file" path)
      | .error cause =>
        desk.log (((LogEntry.say .error "unable to write metrics").withText "error"
          cause.message).withText "file" path)

/-- Carries out a command: loads the settings, performs it, writes the metrics. -/
def carryOut (launcher : Launcher) (world : World) (command : Command)
    (arguments : Arguments) : Outcome :=
  let given := Command.givenSettings (command.flags world.processors) arguments
  let before : SettingLayers :=
    { given, environment := world.environment, initial := Command.initialSettings world.processors }
  let readable := before.settings.truth "bufc.local"
  let named := ((given.lookup (bytes "config")).map SettingValue.toText).getD []
  let configuration := Configuration.load world.files world.environment named
  let layers := { before with configuration := configuration.tree }
  let settings := layers.settings
  let fresh : Desk :=
    { files := world.files.afterReading configuration.path,
      threshold := threshold before.settings }
  let opened := fresh.logAll configuration.log
  let ready := ({ opened with threshold := threshold settings, metrics := some {} } : Desk).logAll
    (settingEntries layers)
  let (result, desk) := (perform launcher world settings command arguments.rest).run.run ready
  let final := writeMetrics settings desk
  let failure := match result with
    | .ok () => none
    | .error e => some e.message
  { files := final.files, exitCode := if failure.isSome then 1 else 0, output := final.output,
    reports := final.reports, readable, failure }

def run (launcher : Launcher) (world : World) (arguments : List Bytes) : Outcome :=
  match request world.processors arguments with
  | .error refusal => { files := world.files, exitCode := 1, failure := some refusal.message }
  | .ok (.show text) => { files := world.files, output := text }
  | .ok (.perform command read) => carryOut launcher world command read

def failureEntry (failure : Bytes) : LogEntry :=
  (LogEntry.say .error "root command failed").withText "error" failure

/-- The log entries in JSON form: those of the run, unless they are written for people, and the one
about a failure. -/
def Outcome.entries (o : Outcome) : List LogEntry :=
  let reported := o.reports.filterMap fun
    | .entry e => some e
    | .text _ => none
  (if o.readable then [] else reported) ++ o.failure.toList.map failureEntry

def Outcome.errors (o : Outcome) : Bytes :=
  o.reports.flatMap fun
    | .entry _ => []
    | .text content => content

end BufferMachine.CommandLine
