import BufferMachine.Text.Blank

/-!
# Session commands

A line of a session is a command if it holds nothing but one of five words, in capitals or small
letters and with blanks around it; every other line is program source.

Words are compared after each letter has been replaced by its capital.  Two letters outside ASCII
have an ASCII capital, the dotless i and the long s; the capital of every other letter outside ASCII
lies outside ASCII too and cannot occur in a command.
-/

namespace BufferMachine

/-- What a line asks for. -/
inductive SessionCommand where
  | help
  | exit
  | tokens
  | tree
  | reset
  /-- Not a command: program source. -/
  | source
deriving DecidableEq, Repr

namespace SessionCommand

def name : SessionCommand → Bytes
  | .help => bytes "HELP"
  | .exit => bytes "EXIT"
  | .tokens => bytes "TOKENS"
  | .tree => bytes "TREE"
  | .reset => bytes "RESET"
  | .source => bytes "SOURCE"

/-- The commands proper, in the order in which they are listed to users. -/
def all : List SessionCommand := [.help, .exit, .tokens, .tree, .reset]

/-- The capital of a character, as far as it lies in ASCII. -/
def capital (r : Utf8.Character) : Bytes :=
  if r.code = 0x131 then [byte 'I']
  else if r.code = 0x17F then [byte 'S']
  else Bytes.toUpper r.raw

def capitals (text : Bytes) : Bytes := (Utf8.characters text).flatMap capital

def ofLine (line : Bytes) : SessionCommand :=
  let word := capitals (Text.trim line)
  (all.find? (·.name == word)).getD .source

end SessionCommand

end BufferMachine
