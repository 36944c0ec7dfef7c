import BufferMachine.Compile.Log
import BufferMachine.Host.Launcher
import BufferMachine.Text.Blank

/-!
# The native compiler

Generated code becomes an executable by means of a native compiler, which is called with the code,
some flags and the name of the executable.
-/

namespace BufferMachine

/-- A native compiler: its program and its flags. -/
structure Toolchain where
  path : Bytes
  flags : List Bytes
deriving DecidableEq, Repr

structure ToolchainFailure where
  path : Bytes
  complaints : Bytes
  cause : ProcessFailure
deriving DecidableEq, Repr

/-- The wording of a failed native compiler: its complaints, if there are any, and how it ended. -/
def ToolchainFailure.message (f : ToolchainFailure) : Bytes :=
  let said := Text.trim f.complaints
  f.path ++ bytes " failed: " ++ (if said.isEmpty then [] else said ++ bytes ": ") ++
    f.cause.message

namespace Toolchain

def defaultPath : Bytes := bytes "gcc"

def new (path : Bytes) (flags : List Bytes) : Toolchain :=
  ⟨if path.isEmpty then defaultPath else path, flags⟩

def splitFlags (text : Bytes) : List Bytes := Text.fields text

def arguments (t : Toolchain) (source output : Bytes) : List Bytes :=
  source :: t.flags ++ [bytes "-o", output]

def callEntry (t : Toolchain) (source output : Bytes) : LogEntry :=
  ((LogEntry.say .debug "invoking native toolchain").withText "cc" t.path).set "args"
    (.texts (t.arguments source output))

/-- What the call leaves behind.  A compiler that cannot be found is reported in any case; one that
can be found is not started once the build is cancelled. -/
def call (t : Toolchain) (launcher : Launcher) (cancelled : Bool) (files : FileTree)
    (source output : Bytes) :
    ProcessResult :=
  match launcher.missing? t.path with
  | some failure => { files, failure := some failure }
  | none =>
    if cancelled then { files, failure := some .cancelled }
    else launcher.start files t.path (t.arguments source output)

/-- Turns a source into an executable; the files change in any case. -/
def build (t : Toolchain) (launcher : Launcher) (cancelled : Bool) (files : FileTree)
    (source output : Bytes) :
    Except ToolchainFailure Unit × FileTree :=
  let result := t.call launcher cancelled files source output
  match result.failure with
  | none => (.ok (), result.files)
  | some cause => (.error ⟨t.path, result.complaints, cause⟩, result.files)

end Toolchain

end BufferMachine
