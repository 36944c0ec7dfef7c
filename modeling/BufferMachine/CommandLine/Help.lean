import BufferMachine.CommandLine.Command

/-!
# Help texts

The help on a command says what the command does, how it is called, and which flags it has.  Flags
are listed by name, their purposes in one column.
-/

namespace BufferMachine

namespace Flag

/-- What a flag takes, as users are told. -/
def valueName (f : Flag) : Bytes :=
  match f.kind with
  | .truth => []
  | .number => bytes " int"
  | .text => bytes " string"
  | .count => bytes " count"

def heading (f : Flag) : Bytes :=
  let called := match f.letter with
    | some letter => bytes "  -" ++ [letter] ++ bytes ", --" ++ f.name
    | none => bytes "      --" ++ f.name
  called ++ f.valueName

/-- The value that the flag has to begin with, unless it is empty, zero or false. -/
def initialText (f : Flag) : Bytes :=
  match f.kind, f.initial with
  | .text, .text value =>
    if value.isEmpty then [] else bytes " (default " ++ Text.quoted value ++ bytes ")"
  | _, value =>
    if value.toInt = 0 then [] else bytes " (default " ++ value.toText ++ bytes ")"

def listing (flags : List Flag) : List Bytes :=
  let sorted := flags.mergeSort fun a b => Bytes.notAfter a.name b.name
  let width := (sorted.map (·.heading.length)).foldl max 0
  sorted.map fun f =>
    f.heading ++ List.replicate (width + 3 - f.heading.length) (byte ' ') ++ f.purpose ++
      f.initialText

end Flag

namespace Command

def description : Command → Bytes
  | .help =>
    bytes "Help provides help for any command in the application.\n" ++
      bytes "Simply type bufc help [path to command] for full details."
  | .completion =>
    bytes "Generate the autocompletion script for bufc for the specified shell.\n" ++
      bytes "See each sub-command's help for details on how to use the generated script."
  | c => c.summary

def callText : Command → Bytes
  | .root => bytes "bufc [command]"
  | .build => bytes "bufc build FILE... [flags]"
  | .gen => bytes "bufc gen FILE [flags]"
  | .tokens => bytes "bufc tokens FILE [flags]"
  | .repl => bytes "bufc repl [flags]"
  | .help => bytes "bufc help [command] [flags]"
  | .completion => bytes "bufc completion [command]"

def nameWidth : Nat := 11

def commandListing : List Bytes :=
  let sorted := all.mergeSort fun a b => Bytes.notAfter a.name b.name
  sorted.map fun c =>
    bytes "  " ++ c.name ++ List.replicate (nameWidth + 1 - c.name.length) (byte ' ') ++ c.summary

/-- How to use a command; the flags of the command itself are given. -/
def usageLines (own : List Flag) (c : Command) : List Bytes :=
  let titled (title : String) (lines : List Bytes) : List Bytes :=
    if lines.isEmpty then [] else [] :: bytes title :: lines
  [bytes "Usage:", bytes "  " ++ c.callText] ++
    (if c = .root then titled "Available Commands:" commandListing else []) ++
    titled "Flags:" (Flag.listing own) ++
    (if c = .root then
      [[], bytes "Use \"bufc [command] --help\" for more information about a command."]
     else titled "Global Flags:" (Flag.listing sharedFlags))

def listedFlags (processors : Nat) (c : Command) : List Flag :=
  (if c = .root then sharedFlags else []) ++ c.ownFlags processors ++ c.standardFlags

def helpText (processors : Nat) (c : Command) : Bytes :=
  Bytes.unlines ([c.description, []] ++ usageLines (c.listedFlags processors) c)

/-- What is shown for a topic on which there is no help. -/
def unknownTopicText (topics : List Bytes) : Bytes :=
  bytes "Unknown help topic [" ++ List.intercalate (bytes " ") (topics.map Text.backquoted) ++
    bytes "]\n" ++ Bytes.unlines (usageLines sharedFlags .root)

def versionText : Bytes := bytes "bufc version: develop git_commit: n/a build_time: n/a\n"

end Command

end BufferMachine
