import BufferMachine.Diagnostic.Basic
import BufferMachine.Program.Basic
import BufferMachine.Token.Keyword

/-!
# Instructions

A statement means one of three instructions: perform some operations, perform them a number of
times, or write the buffer.  `Instruction.ofStatement` reads the instruction off a statement's
tokens or says what is wrong with them; `Instruction.lines` is the C text of an instruction.

The operations are kept as the bytes of their lexeme, and a loop count as a number: leading zeros do
not matter.
-/

namespace BufferMachine

/-- What a statement tells the machine to do. -/
inductive Instruction where
  /-- Perform the operations once. -/
  | perform (operations : Bytes)
  /-- Perform the operations a number of times, then step to the next cell. -/
  | loop (count : Nat) (operations : Bytes)
  /-- Write the buffer. -/
  | write
deriving DecidableEq, Repr

/-! ### What can be wrong with a statement -/

/-- What is wrong with a statement. -/
inductive StatementFault where
  | empty
  | notAKeyword (lexeme : Bytes)
  | unsupported (keyword : Bytes)
  | argumentCount (keyword : Bytes) (expected : List TokenKind) (found : Nat)
  | argumentKind (lexeme keyword : Bytes) (expected : TokenKind)
  | countOutOfRange (lexeme : Bytes)
deriving DecidableEq, Repr

/-- How an expected argument is spoken of. -/
def TokenKind.role : TokenKind → Bytes
  | .number => bytes "a count"
  | .operator => bytes "an operation"
  | kind => kind.name

/-- How a list of expected arguments is spoken of. -/
def argumentRoles : List TokenKind → Bytes
  | [] => bytes "no arguments"
  | kinds => List.intercalate (bytes " and ") (kinds.map TokenKind.role)

def StatementFault.message : StatementFault → Bytes
  | .empty => bytes "empty statement"
  | .notAKeyword lexeme =>
    bytes "unexpected token '" ++ lexeme ++ bytes "', expected a keyword (do, for, write)"
  | .unsupported keyword => bytes "unsupported keyword '" ++ keyword ++ bytes "'"
  | .argumentCount keyword expected found =>
    bytes "'" ++ keyword ++ bytes "' expects " ++ argumentRoles expected ++ bytes ", found " ++
      Decimal.ofNat found ++ bytes " argument(s)"
  | .argumentKind lexeme keyword expected =>
    bytes "unexpected token '" ++ lexeme ++ bytes "' in '" ++ keyword ++ bytes "', expected " ++
      expected.role
  | .countOutOfRange lexeme => bytes "loop count '" ++ lexeme ++ bytes "' is out of range"

def StatementFault.at (fault : StatementFault) (location : Location) : Diagnostic :=
  .generation location fault.message

/-! ### From statements to instructions -/

/-- The largest loop count: the counter has thirty-two bits. -/
def largestCount : Nat := 4294967295

/-- A loop count: digits whose value the counter can hold. -/
def loopCount? (lexeme : Bytes) : Option Nat :=
  (Decimal.toNat? lexeme).filter (· ≤ largestCount)

namespace Instruction

def checkKind (keyword : Bytes) (argument : Token) (expected : TokenKind) :
    Except Diagnostic Unit :=
  if argument.kind = some expected then .ok ()
  else .error ((StatementFault.argumentKind argument.lexeme keyword expected).at argument.location)

/-- The complaint that a statement has more or fewer arguments than expected. -/
def wrongCount (s : Statement) (keyword : Bytes) (expected : List TokenKind) : Diagnostic :=
  (StatementFault.argumentCount keyword expected (s.tokens.length - 1)).at s.location

def ofPerform (s : Statement) (arguments : List Token) : Except Diagnostic Instruction :=
  match arguments with
  | [operations] => do
    checkKind Keyword.perform operations .operator
    return .perform operations.lexeme
  | _ => .error (wrongCount s Keyword.perform [.operator])

def ofLoop (s : Statement) (arguments : List Token) : Except Diagnostic Instruction :=
  match arguments with
  | [count, operations] => do
    checkKind Keyword.loop count .number
    checkKind Keyword.loop operations .operator
    match loopCount? count.lexeme with
    | some n => return .loop n operations.lexeme
    | none => .error ((StatementFault.countOutOfRange count.lexeme).at count.location)
  | _ => .error (wrongCount s Keyword.loop [.number, .operator])

def ofWrite (s : Statement) (arguments : List Token) : Except Diagnostic Instruction :=
  match arguments with
  | [] => .ok .write
  | _ => .error (wrongCount s Keyword.write [])

def ofStatement (s : Statement) : Except Diagnostic Instruction :=
  match s.tokens with
  | [] => .error (StatementFault.empty.at s.location)
  | leading :: arguments =>
    if leading.kind ≠ some .keyword then
      .error ((StatementFault.notAKeyword leading.lexeme).at leading.location)
    else if leading.lexeme = Keyword.perform then ofPerform s arguments
    else if leading.lexeme = Keyword.loop then ofLoop s arguments
    else if leading.lexeme = Keyword.write then ofWrite s arguments
    else .error ((StatementFault.unsupported leading.lexeme).at leading.location)

/-! ### The C text of an instruction -/

def indentation : Bytes := bytes "    "

def executeCall (operations : Bytes) : Bytes :=
  bytes "execute(&buffer, \"" ++ operations ++ bytes "\");"

def loopHead (count : Nat) : Bytes :=
  bytes "for (unsigned int i = 0; i < " ++ Decimal.ofNat count ++ bytes "u; i++)"

/-- The lines of an instruction, without the indentation of the body they stand in. -/
def lines : Instruction → List Bytes
  | .perform operations => [executeCall operations]
  | .loop count operations =>
    [loopHead count, bytes "\x7b", indentation ++ executeCall operations, bytes "\x7d",
      bytes "buffer.pointer++;"]
  | .write => [bytes "write(&buffer);"]

end Instruction

end BufferMachine
