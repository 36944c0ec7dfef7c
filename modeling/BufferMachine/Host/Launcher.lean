import BufferMachine.Host.Script.Run
import BufferMachine.Text.Quoted

/-!
# Starting programs

A program is found by its name, started with arguments on the files of a tree, and ends well or with
a reason why not.  How programs are found and started is a `Launcher`; the one given here knows the
tools and runs scripts.
-/

namespace BufferMachine

inductive StartError where
  | refused (error : FileError)
  | notAProgram
deriving DecidableEq, Repr

def StartError.message : StartError → Bytes
  | .refused error => error.message
  | .notAProgram => bytes "exec format error"

/-- Why a program did not end well. -/
inductive ProcessFailure where
  | exited (status : Nat)
  | signalled (signal : Nat)
  | cancelled
  | notFound (name : Bytes)
  | notStarted (path : Bytes) (error : StartError)
deriving DecidableEq, Repr

/-- The names of signals, from the first one on. -/
def signalTexts : List Bytes :=
  [bytes "hangup", bytes "interrupt", bytes "quit", bytes "illegal instruction",
    bytes "trace/breakpoint trap", bytes "aborted", bytes "bus error",
    bytes "floating point exception", bytes "killed", bytes "user defined signal 1",
    bytes "segmentation fault", bytes "user defined signal 2", bytes "broken pipe",
    bytes "alarm clock", bytes "terminated"]

def ProcessFailure.message : ProcessFailure → Bytes
  | .exited status => bytes "exit status " ++ Decimal.ofNat status
  | .signalled signal =>
    bytes "signal: " ++ (signalTexts[signal - 1]?.getD (bytes "signal " ++ Decimal.ofNat signal))
  | .cancelled => bytes "context canceled"
  | .notFound name =>
    bytes "exec: " ++ Text.quoted name ++ bytes ": executable file not found in $PATH"
  | .notStarted path error => bytes "fork/exec " ++ path ++ bytes ": " ++ error.message

/-- What a program leaves behind. -/
structure ProcessResult where
  files : FileTree
  /-- What it wrote on its channel for complaints. -/
  complaints : Bytes := []
  failure : Option ProcessFailure := none
deriving DecidableEq, Repr

/-- How programs are found and started. -/
structure Launcher where
  /-- The reason why there is no program of that name to start. -/
  missing? : Bytes → Option ProcessFailure
  /-- Starts a program with arguments. -/
  start : FileTree → Bytes → List Bytes → ProcessResult

namespace Launcher

def ofShell : Script.Ending × Script.Shell → ProcessResult
  | (ending, sh) =>
    let failure := match ending with
      | .killed signal => some (.signalled signal)
      | .endless => some .cancelled
      | _ => if sh.status = 0 then none else some (.exited sh.status)
    { files := sh.files, complaints := sh.buffers.getD 1 [], failure }

/-- Runs a command of a shell that starts with the given files and variables. -/
def runCommand (environment : List (Bytes × Bytes)) (files : FileTree) (name : Bytes)
    (arguments : List Bytes) :
    ProcessResult :=
  let word (text : Bytes) : Script.Word := [.text text true]
  let started : Script.Shell :=
    { files, bindings := environment, exported := environment.map Prod.fst }
  let result :=
    ofShell (Script.run Script.allowance (.simple 1 [] ((name :: arguments).map word) []) started)
  { result with files := { result.files with directory := files.directory } }

/-- Starts a file on behalf of the one that was asked for; so many interpreters may be scripts
themselves. -/
def startFileUpTo (environment : List (Bytes × Bytes)) (files : FileTree) (asked : Bytes) :
    Nat → Bytes → List Bytes → ProcessResult
  | levels, path, arguments =>
    let refuse (error : StartError) : ProcessResult :=
      { files, failure := some (.notStarted asked error) }
    match files.find path with
    | .error error => refuse (.refused error)
    | .ok (.file content) =>
      match Script.interpreter? content, levels with
      | none, _ => refuse .notAProgram
      | some _, 0 => refuse (.refused .tooManyLevels)
      | some (name, option), levels + 1 =>
        let passed := option.toList ++ path :: arguments
        if Path.isAbsolute name && (Script.program? name).isSome then
          runCommand environment files name passed
        else startFileUpTo environment files asked levels name passed
    | .ok _ => refuse (.refused .notPermitted)

/-- How many interpreters may stand between a script and a program. -/
def interpreterLevels : Nat := 5

/-- Finds and starts tools and scripts, which see the given variables.  An argument with a zero byte
cannot be passed on. -/
def standard (environment : List (Bytes × Bytes) := []) : Launcher where
  missing? name :=
    if Path.base name = name && (Script.program? name).isNone then some (.notFound name) else none
  start files name arguments :=
    if (name :: arguments).any (·.contains 0) then
      { files, failure := some (.notStarted (Script.foundPath name) (.refused .invalidArgument)) }
    else if (Script.program? name).isSome then runCommand environment files name arguments
      else startFileUpTo environment files name interpreterLevels name arguments

end Launcher

end BufferMachine
