import BufferMachine.Code.Generator
import BufferMachine.Compile.Log
import BufferMachine.Host.FileTree
import BufferMachine.Metrics.Store
import BufferMachine.Program.Parser
import BufferMachine.Token.Scanner

/-!
# Compiling

A compilation scans the source, parses the tokens and generates the code, and stops at the first
stage that refuses its input.  On its way it writes a log, counts what it does if there is a metrics
store, and dumps the tokens and the tree if there is a directory to put them in.  A dump that cannot
be written is only worth a warning.

`compile` is the three stages alone; `Compiler.run` is the same with everything that is done on the
way.
-/

namespace BufferMachine

/-- What a successful compilation produces. -/
structure Compilation where
  tokens : List Token
  program : Program
  code : Bytes
deriving DecidableEq, Repr

/-- Compiles a source under a keyword rule, for a buffer of the size asked for. -/
def compile (rule : KeywordRule) (bufferSize : Int) (source : Bytes) :
    Except Diagnostic Compilation := do
  let tokens ← scan rule source
  let program ← Program.ofTokens tokens
  let code ← (Generator.new [bufferSize]).generate program
  return { tokens, program, code }

/-- The outcome of a compilation, as it is counted and logged. -/
def outcomeLabel : Except Diagnostic Compilation → Bytes
  | .ok _ => bytes "ok"
  | .error (.scanning ..) => bytes "lex_error"
  | .error (.syntactic ..) => bytes "syntax_error"
  | .error (.generation ..) => bytes "codegen_error"

/-! ### Dumps -/

inductive DumpFailure where
  | directory (path : Bytes) (cause : FileFailure)
  | file (path : Bytes) (cause : FileFailure)
deriving DecidableEq, Repr

def DumpFailure.message : DumpFailure → Bytes
  | .directory path cause => bytes "unable to create " ++ path ++ bytes ": " ++ cause.message
  | .file path cause => bytes "unable to write " ++ path ++ bytes ": " ++ cause.message

/-- Dumps a value into a directory, which is made if it is not there.  The tree is returned in any
case: directories may have been made although the file could not be written. -/
def dump (files : FileTree) (directory name : Bytes) (value : Json) :
    Except DumpFailure Unit × FileTree :=
  match files.makeDirectories directory with
  | .error (cause, made) => (.error (.directory directory cause), made)
  | .ok made =>
    let path := Path.join directory name
    match made.writeFile path value.indented with
    | .error cause => (.error (.file path cause), made)
    | .ok written => (.ok (), written)

def tokensFile : Bytes := bytes "tokens.json"

def treeFile : Bytes := bytes "ast.json"

/-! ### Runs -/

/-- How to compile: the rule, the size asked for, and where to put dumps. -/
structure Compiler where
  rule : KeywordRule := .substring
  bufferSize : Int := defaultBufferSize
  dumps : Option Bytes := none
deriving DecidableEq, Repr

/-- What a run works on and leaves behind: the files, the metrics if there is a store, and the
log. -/
structure Workspace where
  files : FileTree := {}
  metrics : Option Metrics.Store := none
  log : List LogEntry := []
deriving DecidableEq, Repr

/-- Steps of a run: they change the workspace, and a refusal keeps the changes. -/
abbrev Run := ExceptT Diagnostic (StateM Workspace)

namespace Run

def log (entry : LogEntry) : Run Unit := modify fun w => { w with log := w.log ++ [entry] }

def count (change : Metrics.Store → Metrics.Store) : Run Unit :=
  modify fun w => { w with metrics := w.metrics.map change }

/-- Dumps a value, if there is a directory for it, and warns if that fails. -/
def dumpTo (directory : Option Bytes) (name : Bytes) (value : Json) (warning : String) : Run Unit :=
  match directory with
  | none => pure ()
  | some directory => do
    let (result, files) := dump (← get).files directory name value
    modify fun w => { w with files }
    match result with
    | .ok () => pure ()
    | .error failure => log ((LogEntry.say .warn warning).withText "error" failure.message)

/-- Carries out a stage, which counts as one observation of its time. -/
def stage {α : Type} (name : String) (result : Except Diagnostic α) : Run α := do
  count (·.observeStage (bytes name) 0)
  match result with
  | .ok value => pure value
  | .error d =>
    let label := outcomeLabel (.error d)
    log (((LogEntry.say .debug "compilation failed").withText "error" d.summary).withText
      "result" label)
    count (·.countCompilation label)
    throw d

end Run

namespace Compiler

/-- The stages of a run and what is done between them. -/
def steps (c : Compiler) (source : Bytes) : Run Compilation := do
  Run.log (.say .debug "generating tokens")
  let tokens ← Run.stage "lex" (scan c.rule source)
  Run.log ((LogEntry.say .trace "scanned").withNumber "tokens" tokens.length)
  Run.dumpTo c.dumps tokensFile
    (.list (tokens.map Token.toJson)) "unable to write token diagnostics"
  Run.log (.say .debug "generating syntax tree")
  let program ← Run.stage "parse" (Program.ofTokens tokens)
  Run.log ((LogEntry.say .trace "parsed").withNumber "statements" program.statements.length)
  Run.dumpTo c.dumps treeFile program.toJson "unable to write syntax tree diagnostics"
  Run.log (.say .debug "generating code")
  let code ← Run.stage "codegen" ((Generator.new [c.bufferSize]).generate program)
  Run.count fun s =>
    ((s.countCompilation (bytes "ok")).observeTokens tokens.length).observeStatements
      program.statements.length
  return { tokens, program, code }

def run (c : Compiler) (source : Bytes) (w : Workspace) :
    Except Diagnostic Compilation × Workspace :=
  (c.steps source).run.run w

end Compiler

end BufferMachine
