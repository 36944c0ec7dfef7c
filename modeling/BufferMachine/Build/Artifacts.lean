import BufferMachine.Host.FileTree

/-!
# The files of a build

Which files belong to a source: the intermediate with the generated code, and the executable.
-/

namespace BufferMachine

def sourceEnding : Bytes := bytes ".none"

def intermediateEnding : Bytes := bytes ".c"

def outputEnding : Bytes := bytes ".out"

def intermediatePath (source : Bytes) : Bytes := source ++ intermediateEnding

/-- The file for the executable of a source; the ending of source files is replaced. -/
def outputPath (source : Bytes) : Bytes :=
  (Bytes.withoutEnding? sourceEnding source).getD source ++ outputEnding

structure SourceFailure where
  path : Bytes
  cause : FileFailure
deriving DecidableEq, Repr

def SourceFailure.message (f : SourceFailure) : Bytes :=
  bytes "unable to read source file " ++ f.path ++ bytes ": " ++ f.cause.message

def readSource (files : FileTree) (path : Bytes) : Except SourceFailure Bytes :=
  match files.readFile path with
  | .ok content => .ok content
  | .error cause => .error ⟨path, cause⟩

end BufferMachine
