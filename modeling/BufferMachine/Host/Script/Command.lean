import BufferMachine.Text.Bytes

/-!
# Scripts

A native compiler may be a shell script.  This is the part of the POSIX shell language that the
library understands: words with quoting, parameters, arithmetic and substitutions, simple commands
with assignments and redirections, pipelines, lists, functions, and the compound commands `if`,
`for`, `while`, `until`, `case` and grouping.
-/

namespace BufferMachine.Script

/-- A part of a word.  What is quoted is never split into fields. -/
inductive Part where
  | text (value : Bytes) (quoted : Bool)
  /-- `$name` or `${name}` -/
  | parameter (name : Bytes) (quoted : Bool)
  /-- `${name op operand}`, the operand as it stands in the script -/
  | modified (name operator operand : Bytes) (quoted : Bool)
  /-- `$(script)`, with the line that the script starts on -/
  | substitution (line : Nat) (script : Bytes) (quoted : Bool)
  /-- `$((expression))`, the expression as it stands in the script -/
  | arithmetic (expression : Bytes) (quoted : Bool)
deriving DecidableEq, Repr

abbrev Word := List Part

inductive Redirection where
  | read (channel : Nat) (target : Word)
  | write (channel : Nat) (target : Word)
  | append (channel : Nat) (target : Word)
  /-- The channel becomes a copy of the one named by the word. -/
  | copy (channel : Nat) (target : Word)
  /-- The channel reads a text that stands in the script. -/
  | document (channel : Nat) (content : Word)
deriving DecidableEq, Repr

inductive Command where
  /-- Nothing to do. -/
  | nothing
  /-- A program or builtin with its arguments, on a line of the script. -/
  | simple (line : Nat) (assignments : List (Bytes × Word)) (words : List Word)
      (redirections : List Redirection)
  | sequence (first second : Command)
  | both (first second : Command)
  | either (first second : Command)
  | negated (command : Command)
  | pipe (first second : Command)
  | background (command : Command)
  | branch (condition consequent alternative : Command)
  /-- `while`, or `until` if the condition has to fail, with the status of its last round. -/
  | loop (expected : Bool) (condition body : Command) (last : Nat := 0)
  /-- `for`, over the given words or else over the arguments of the script. -/
  | forEach (line : Nat) (name : Bytes) (words : Option (List Word)) (body : Command)
  | select (line : Nat) (subject : Word) (arms : List (List Word × Command))
  /-- A group, in a copy of the environment if it stands in parentheses. -/
  | group (line : Nat) (isolated : Bool) (body : Command) (redirections : List Redirection)
  | define (name : Bytes) (body : Command)
deriving Repr

end BufferMachine.Script
