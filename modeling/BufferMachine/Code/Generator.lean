import BufferMachine.Code.Instruction
import BufferMachine.Code.Runtime

/-!
# Generated code

The code of a program is the runtime for the chosen number of cells, followed by a main function
that makes a buffer and carries out the instructions one after the other.
-/

namespace BufferMachine

def defaultBufferSize : Int := 512

/-- A code generator for buffers of some number of cells. -/
structure Generator where
  bufferSize : Int := defaultBufferSize
deriving DecidableEq, Repr

namespace Generator

/-- Takes over a size that was asked for, if it is positive. -/
def withSize (g : Generator) (size : Int) : Generator := if 0 < size then ⟨size⟩ else g

/-- The generator for which the given sizes were asked one after the other. -/
def new (sizes : List Int) : Generator := sizes.foldl withSize {}

def preamble (g : Generator) : Bytes := Runtime.preamble g.bufferSize

def mainHead : List Bytes :=
  [bytes "int main(void)", bytes "\x7b",
    Instruction.indentation ++ bytes "buffer_t buffer = make_buffer();"]

def mainFoot : List Bytes := [Instruction.indentation ++ bytes "return 0;", bytes "\x7d"]

def statementLines (s : Statement) : Except Diagnostic (List Bytes) :=
  (Instruction.ofStatement s).map Instruction.lines

/-- The instructions of a program, or what is wrong with the first statement that has none. -/
def instructions (p : Program) : Except Diagnostic (List Instruction) :=
  p.statements.mapM Instruction.ofStatement

def bodyLines (is : List Instruction) : List Bytes := is.flatMap Instruction.lines

def text (g : Generator) (is : List Instruction) : Bytes :=
  g.preamble ++ Bytes.unlines mainHead ++
    Bytes.unlines ((bodyLines is).map (Instruction.indentation ++ ·)) ++ Bytes.unlines mainFoot

def generate (g : Generator) (p : Program) : Except Diagnostic Bytes := (instructions p).map g.text

end Generator

end BufferMachine
