import BufferMachine.Build.Desk
import BufferMachine.Number.ByteSize

/-!
# Building executables

A file is built by compiling it, writing the code to the intermediate file, calling the native
compiler on it and removing the intermediate file again.  Files are built one after the other.  The
first failure is the failure of the whole build; the files after it are still compiled and written,
but the native compiler is not started for them.
-/

namespace BufferMachine.Build

def sizeText (size : Nat) : Bytes := ByteSize.text size

def callToolchain (toolchain : Toolchain) (launcher : Launcher) (cancelled : Bool)
    (intermediate output : Bytes) :
    Work Unit := do
  modify (·.log (toolchain.callEntry intermediate output))
  let (result, files) := toolchain.build launcher cancelled (← get).files intermediate output
  modify fun d => { d with files }
  match result with
  | .ok () => return
  | .error cause => throw (.unbuilt output cause)

/-- Removes the intermediate file, and warns if that fails. -/
def removeIntermediate (path intermediate : Bytes) : Work Unit := do
  Work.note path (.say .info "removing artifacts")
  match (← get).files.remove intermediate with
  | .ok files => modify fun d => { d with files }
  | .error cause =>
    Work.note path
      (((LogEntry.say .warn "unable to remove intermediate file").withText "error"
        cause.message).withText
      "file" intermediate)

def keepsIntermediate (settings : Settings) : Bool :=
  settings.truth "bufc.debug" || settings.truth "bufc.keep-artifacts"

def file (settings : Settings) (toolchain : Toolchain) (launcher : Launcher) (cancelled : Bool)
    (path : Bytes) :
    Work Unit := do
  Work.note path (.say .info "reading source file")
  let source ← Work.readSource path
  Work.note path (.say .info "compiling")
  let compilation ← Work.compile settings path source
  let intermediate := intermediatePath path
  let output := outputPath path
  Work.note path
    (((LogEntry.say .info "writing output").withText "file" intermediate).withText "size"
    (sizeText compilation.code.length))
  Work.writeFile intermediate compilation.code
  Work.note path (.say .info "generating binary executable")
  callToolchain toolchain launcher cancelled intermediate output
  unless keepsIntermediate settings do removeIntermediate path intermediate
  let done := (LogEntry.say .info "done").withText "output" output
  match (← get).files.size? output with
  | some size => Work.note path (done.withText "size" (sizeText size))
  | none => Work.note path done

/-- Builds files one after the other, given the failure of those before them. -/
def filesAfter (settings : Settings) (toolchain : Toolchain) (launcher : Launcher) :
    Option Failure → List Bytes → StateM Desk (Option Failure)
  | failure, [] => return failure
  | failure, path :: rest => do
    match ← (file settings toolchain launcher failure.isSome path).run with
    | .ok () => filesAfter settings toolchain launcher failure rest
    | .error e => filesAfter settings toolchain launcher (failure.or (some e)) rest

def toolchainOf (settings : Settings) : Toolchain :=
  .new (settings.text "bufc.cc") (Toolchain.splitFlags (settings.text "bufc.cflags"))

def files (settings : Settings) (launcher : Launcher) (paths : List Bytes) : Work Unit := do
  match ← filesAfter settings (toolchainOf settings) launcher none paths with
  | none => return
  | some failure => throw failure

end BufferMachine.Build
