import BufferMachine.Code.Generator
import BufferMachine.Compile.Log
import BufferMachine.Program.Outline
import BufferMachine.Program.Parser
import BufferMachine.Session.Accumulator
import BufferMachine.Session.Command
import BufferMachine.Session.Lines
import BufferMachine.Token.Scanner
import BufferMachine.Token.Table

/-!
# Sessions

In a session statements are turned into code as they are typed.  Lines that are commands are obeyed;
all other lines are collected until they hold a terminator, and then everything up to the last
terminator is compiled.
-/

namespace BufferMachine

/-- What a session remembers between lines. -/
structure Session where
  rule : KeywordRule
  showsTokens : Bool := false
  showsTree : Bool := false
  accumulator : Accumulator := {}
deriving DecidableEq, Repr

namespace Session

/-! ### Compiling -/

/-- The code lines of statements one after the other, up to the first statement that has none. -/
def codeLines : List Statement → List Bytes × Option Diagnostic
  | [] => ([], none)
  | s :: rest =>
    match Generator.statementLines s with
    | .error d => ([], some d)
    | .ok lines =>
      let (more, failure) := codeLines rest
      (lines ++ more, failure)

def tokensText (s : Session) (tokens : List Token) : Bytes :=
  if s.showsTokens then ((TokenTable.mk (some tokens)).render .text).toOption.getD [] else []

def treeText (s : Session) (program : Program) : Bytes :=
  if s.showsTree then program.outline else []

/-- Compiles a source: what is shown, and what is wrong with the source if it cannot be compiled to
its end. -/
def compile (s : Session) (source : Bytes) : Bytes × Option Diagnostic :=
  match scan s.rule source with
  | .error d => ([], some d)
  | .ok tokens =>
    match Program.ofTokens tokens with
    | .error d => (s.tokensText tokens, some d)
    | .ok program =>
      let (lines, failure) := codeLines program.statements
      (s.tokensText tokens ++ s.treeText program ++ Bytes.unlines lines, failure)

/-! ### Lines -/

/-- The words that a session knows, as they are listed to users. -/
def words : List Bytes := SessionCommand.all.map (fun c => Bytes.toLower c.name) ++ Keyword.all

def helpText : Bytes :=
  Bytes.unlines ([bytes "usage:"] ++ words.map (fun w => bytes "    " ++ w ++ bytes " ") ++
    [[], bytes "statements: do <ops>; for <count> <ops>; write;"])

/-- What comes of one event. -/
structure Reaction where
  session : Session
  output : Bytes := []
  log : List LogEntry := []
  ended : Bool := false
deriving DecidableEq, Repr

def feed (s : Session) (line : Bytes) : Reaction :=
  match s.accumulator.feed line with
  | (none, accumulator) => { session := { s with accumulator } }
  | (some source, accumulator) =>
    let session := { s with accumulator }
    match s.compile source with
    | (shown, none) => { session, output := shown ++ [newline] }
    | (shown, some d) =>
      { session, output := shown ++ d.render source ++ [newline],
        log := [({ level := .debug } : LogEntry).withText "error" d.summary] }

def react (s : Session) : SessionEvent → Reaction
  | .interrupt => { session := { s with accumulator := s.accumulator.reset } }
  | .echo text => { session := s, output := text }
  | .line text =>
    match SessionCommand.ofLine text with
    | .help => { session := s, output := helpText }
    | .exit => { session := s, ended := true }
    | .tokens => { session := { s with showsTokens := !s.showsTokens } }
    | .tree => { session := { s with showsTree := !s.showsTree } }
    | .reset => { session := { s with accumulator := s.accumulator.reset } }
    | .source => s.feed text

/-- The reactions to events one after the other, up to the one that ends the session. -/
def run (s : Session) : List SessionEvent → List Reaction
  | [] => []
  | e :: rest =>
    let reaction := s.react e
    if reaction.ended then [reaction] else reaction :: run reaction.session rest

end Session

end BufferMachine
