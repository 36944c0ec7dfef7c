import BufferMachine.Misuse
import BufferMachine.Text.Json
import BufferMachine.Token.Basic

/-!
# Programs

A program is a sequence of statements, and a statement is a sequence of tokens with the terminator
that closes it.  The terminator takes no part in the meaning; it is kept because an empty statement
is reported there.

A program put together by hand may lack its body altogether, which its dump shows.
-/

namespace BufferMachine

/-- The tokens up to a terminator, and the terminator. -/
structure Statement where
  tokens : List Token := []
  terminator : Token := {}
deriving DecidableEq, Repr

namespace Statement

/-- The lexemes, separated by single spaces. -/
def value (s : Statement) : Bytes := List.intercalate [byte ' '] (s.tokens.map Token.lexeme)

def leading? (s : Statement) : Option Token := s.tokens.head?

/-- The place that the tokens span; an empty statement lies where its terminator does. -/
def location (s : Statement) : Location :=
  if s.tokens.isEmpty then s.terminator.location else Token.span s.tokens

end Statement

/-- The statements in the order of the source, if there is a body. -/
structure Program where
  body : Option (List Statement) := none
deriving DecidableEq, Repr

namespace Program

/-- The statements; a missing body has none. -/
def statements (p : Program) : List Statement := p.body.getD []

/-- What a program is called where nodes are listed by value. -/
def value (_ : Program) : Bytes := bytes "program"

def statementAt (p : Program) (index : Int) : Except Misuse Statement :=
  if index < 0 then .error .outOfRange
  else
    match p.statements[index.toNat]? with
    | some s => .ok s
    | none => .error .outOfRange

end Program

/-! ### Dumps -/

/-- A token as a record of kind, lexeme and line; a missing kind is shown as the invalid one. -/
def Token.toJson (t : Token) : Json :=
  .record [(bytes "type", .text ((t.kind.getD .invalid).name)), (bytes "value", .text t.lexeme),
    (bytes "line", .number t.location.line)]

def Statement.toJson (s : Statement) : Json :=
  .record [(bytes "type", .text (bytes "Expression")),
    (bytes "body", .list (s.tokens.map Token.toJson))]

def Program.toJson (p : Program) : Json :=
  .record [(bytes "type", .text (bytes "Program")),
    (bytes "body", match p.body with
      | none => .null
      | some statements => .list (statements.map Statement.toJson))]

end BufferMachine
