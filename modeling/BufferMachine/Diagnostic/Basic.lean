import BufferMachine.Token.Basic

/-!
# Diagnostics

Each stage of a compilation can refuse its input.  A diagnostic holds the place of the refusal and
what is said about it, and `render` shows it under the line of the source where it starts.

Rendering is total: a place outside the text is moved to its nearest end, and the underline stops
with the line.
-/

namespace BufferMachine

/-- A refusal by the scanner, the parser or the code generator. -/
inductive Diagnostic where
  | scanning (location : Location) (lexeme message : Bytes)
  | syntactic (location : Location) (message : Bytes)
  | generation (location : Location) (message : Bytes)
deriving DecidableEq, Repr

namespace Diagnostic

/-- The refusal of a word that the scanner does not know. -/
def lexical (location : Location) (lexeme : Bytes) : Diagnostic :=
  .scanning location lexeme (bytes "unknown identifier '" ++ lexeme ++ bytes "'")

/-- Where the refused input lies. -/
def location : Diagnostic → Location
  | .scanning location _ _ => location
  | .syntactic location _ => location
  | .generation location _ => location

def message : Diagnostic → Bytes
  | .scanning _ _ message => message
  | .syntactic _ message => message
  | .generation _ message => message

/-- The stage, as it is named in a rendering. -/
def stage : Diagnostic → Bytes
  | .scanning .. => bytes "Lexical"
  | .syntactic .. => bytes "Syntax"
  | .generation .. => bytes "Code generation"

/-- One line: the source line's number and what is wrong. -/
def summary (d : Diagnostic) : Bytes :=
  bytes "line " ++ Decimal.ofInt d.location.line ++ bytes ": " ++ d.message

/-! ### Rendering -/

/-- An offset moved into a text of the given length. -/
def clamp (offset : Int) (length : Nat) : Nat := min offset.toNat length

/-- The part of the line that lies before the end of the given text. -/
def lineBefore (before : Bytes) : Bytes := (before.reverse.takeWhile (· ≠ newline)).reverse

/-- The part of the line that lies after the start of the given text. -/
def lineAfter (after : Bytes) : Bytes := after.takeWhile (· ≠ newline)

/-- The source line with a mark under the place, and the message behind the mark. -/
def underline (location : Location) (message source : Bytes) : Bytes :=
  let start := clamp location.start source.length
  let before := lineBefore (source.take start)
  let after := lineAfter (source.drop start)
  let lineStop := start + after.length
  let stop := min location.stop lineStop
  before ++ after ++ [newline] ++ List.replicate before.length (byte ' ') ++ [byte '^'] ++
    List.replicate (stop - start - 1).toNat (byte '~') ++ [byte ' '] ++ message ++ [newline]

def render (d : Diagnostic) (source : Bytes) : Bytes :=
  d.stage ++ bytes " error found on line " ++ Decimal.ofInt d.location.line ++ bytes ":\n" ++
    underline d.location d.message source

end Diagnostic

end BufferMachine
