import BufferMachine.Program.Basic

/-!
# Outlines

An outline shows the nodes of a program one a line, each indented by four spaces for every node
that is open.  It is written by visits: visiting a node shows it and opens it, visiting nothing
closes the node that was opened last.  Walking a node visits it, walks what is inside and closes it
again.

Visits may be made in any order, so more nodes can be closed than were opened; the next node then
has no place.  Nodes are put together by hand: there may be nothing behind one, and one that is no
part of a program is known by its type and its value only.
-/

namespace BufferMachine

/-- The type of a node that is no part of a program.  Such a node is called after the elements of
its type. -/
inductive NodeType where
  /-- A type without elements, by its full name. -/
  | plain (name : Bytes)
  /-- A reference or a collection, by the name of the type of its elements. -/
  | compound (element : Bytes)
deriving DecidableEq, Repr

structure ForeignNode where
  type : NodeType
  /-- What the node says of itself, if asking does not fail. -/
  value : Option Bytes
deriving DecidableEq, Repr

inductive Node where
  /-- A program, any statement of which may be missing. -/
  | program (statements : List (Option Statement))
  | statement (s : Statement)
  /-- A reference to a program or to a statement that is not there. -/
  | missing
  /-- A node that is no part of a program. -/
  | foreign (node : ForeignNode)
deriving DecidableEq, Repr

def Statement.label (s : Statement) : Bytes :=
  match s.leading? with
  | some t => bytes "line " ++ Decimal.ofInt t.location.line ++ bytes ": " ++ s.value
  | none => s.value

namespace Node

def ofProgram (p : Program) : Node := .program (p.statements.map some)

def ofStatement : Option Statement → Node
  | some s => .statement s
  | none => .missing

/-- What is shown in brackets behind the name. -/
def label : Node → Except Misuse Bytes
  | .program statements => .ok (Decimal.ofNat statements.length ++ bytes " statements")
  | .statement s => .ok s.label
  | .missing => .error .missingNode
  | .foreign node =>
    match node.value with
    | some value => .ok value
    | none => .error .missingValue

def name : Node → Except Misuse Bytes
  | .program _ => .ok (bytes "Program")
  | .statement _ => .ok (bytes "Statement")
  | .missing => .error .missingNode
  | .foreign node =>
    match node.type with
    | .compound element => .ok element
    | .plain type => .error (.noElements type)

end Node

/-- The text so far, and how many nodes are open. -/
structure Outline where
  output : Bytes := []
  depth : Int := 0
deriving DecidableEq, Repr

namespace Outline

def line (depth : Nat) (name label : Bytes) : Bytes :=
  List.replicate (4 * depth) (byte ' ') ++ name ++ [byte '['] ++ label ++ [byte ']', newline]

/-- The line of a node, which is asked for its label before it is asked for its name. -/
def entry (depth : Nat) (node : Node) : Except Misuse Bytes := do
  let label ← node.label
  let name ← node.name
  return line depth name label

/-- Closes the node that was opened last. -/
def close (o : Outline) : Outline := { o with depth := o.depth - 1 }

/-- Shows a node and opens it. -/
def visit (o : Outline) (node : Node) : Except Misuse Outline :=
  if o.depth < 0 then .error .negativeIndentation
  else do
    let shown ← entry o.depth.toNat node
    return ⟨o.output ++ shown, o.depth + 1⟩

/-- Walks a statement, which has no nodes inside. -/
def walkStatement (o : Outline) (s : Option Statement) : Except Misuse Outline := do
  return (← o.visit (.ofStatement s)).close

/-- Walks what is inside a node that has been opened.  A foreign node is refused only here, when
it has been shown. -/
def walkInside (o : Outline) : Node → Except Misuse Outline
  | .program statements => statements.foldlM walkStatement o
  | .statement _ | .missing => .ok o
  | .foreign _ => .error .foreignNode

def walk (o : Outline) (node : Node) : Except Misuse Outline := do
  let opened ← o.visit node
  let inside ← opened.walkInside node
  return inside.close

/-- What can be asked of an outline; to visit or walk nothing is to close the node that was opened
last. -/
inductive Call where
  | visit (node : Option Node)
  | walk (node : Option Node)
deriving DecidableEq, Repr

def perform (o : Outline) : Call → Except Misuse Outline
  | .visit (some node) => o.visit node
  | .walk (some node) => o.walk node
  | .visit none => .ok o.close
  | .walk none => .ok o.close

/-- Does all that is asked, up to the first refusal. -/
def performAll (o : Outline) : List Call → Except Misuse Outline
  | [] => .ok o
  | call :: calls => do (← o.perform call).performAll calls

end Outline

/-- What a walk of the node shows in a fresh outline. -/
def Node.outline (node : Node) : Except Misuse Bytes := do
  return (← ({} : Outline).walk node).output

def Statement.outline (s : Statement) : Bytes := Outline.line 0 (bytes "Statement") s.label

/-- The outline of a program: the program, and its statements one level deeper. -/
def Program.outline (p : Program) : Bytes :=
  Outline.line 0 (bytes "Program") (Decimal.ofNat p.statements.length ++ bytes " statements") ++
    p.statements.flatMap fun s => Outline.line 1 (bytes "Statement") s.label

end BufferMachine
