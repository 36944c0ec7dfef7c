import BufferMachine.Code.Generator

/-!
# Generators in use

A generator that is used again and again writes the code of every program on one and the same sheet.
The sheet is cleared before a program is begun, and a program that is refused leaves it half
written.  Between two programs the generator may be asked for the lines of a single statement or for
the runtime, and be given another size.
-/

namespace BufferMachine

/-- A generator and the sheet that it writes on. -/
structure Scribe where
  generator : Generator := {}
  sheet : Bytes := []
deriving DecidableEq, Repr

/-- Steps of writing: they change the sheet, and a refusal keeps what has been written. -/
abbrev Writing := ExceptT Diagnostic (StateM Scribe)

namespace Writing

def clear : Writing Unit := modify fun s => { s with sheet := [] }

def add (text : Bytes) : Writing Unit := modify fun s => { s with sheet := s.sheet ++ text }

def addLines (lines : List Bytes) : Writing Unit := lines.forM fun line => add (line ++ [newline])

/-- Adds the lines of a statement, indented as the body of the main function is. -/
def addStatement (s : Statement) : Writing Unit :=
  match Generator.statementLines s with
  | .ok lines => addLines (lines.map (Instruction.indentation ++ ·))
  | .error d => throw d

def code (p : Program) : Writing Bytes := do
  clear
  add (← get).generator.preamble
  addLines Generator.mainHead
  p.statements.forM addStatement
  addLines Generator.mainFoot
  return (← get).sheet

end Writing

namespace Scribe

/-- The scribe of a generator for which the given sizes were asked, with an empty sheet. -/
def new (sizes : List Int) : Scribe := { generator := .new sizes }

inductive Request where
  | generate (p : Program)
  | statement (s : Statement)
  | preamble
  /-- Sets the size, which may be any number. -/
  | resize (size : Int)
deriving DecidableEq, Repr

inductive Answer where
  | code (result : Except Diagnostic Bytes)
  | lines (result : Except Diagnostic (List Bytes))
  | preamble (text : Bytes)
  | resized
deriving Repr

def serve (s : Scribe) : Request → Answer × Scribe
  | .generate p =>
    let (result, after) := (Writing.code p).run.run s
    (.code result, after)
  | .statement statement => (.lines (Generator.statementLines statement), s)
  | .preamble => (.preamble s.generator.preamble, s)
  | .resize size => (.resized, { s with generator := { s.generator with bufferSize := size } })

def serveAll (s : Scribe) : List Request → List Answer × Scribe
  | [] => ([], s)
  | r :: rs =>
    let (answer, next) := s.serve r
    let (answers, after) := next.serveAll rs
    (answer :: answers, after)

end Scribe

end BufferMachine
