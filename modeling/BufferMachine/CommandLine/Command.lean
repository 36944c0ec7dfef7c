import BufferMachine.CommandLine.Flag
import BufferMachine.Text.Case

/-!
# Commands

The commands of the tool with their flags, and how the command is found among the arguments.

Since flags may stand in front of the command, the search has to pass over them and over their
values.  It knows the flags that hold for all commands; any other flag is taken to have a value.
-/

namespace BufferMachine

inductive Command where
  /-- No command at all. -/
  | root
  | build
  | gen
  | tokens
  | repl
  | help
  | completion
deriving DecidableEq, Repr

namespace Command

def toolName : Bytes := bytes "bufc"

def name : Command → Bytes
  | .root => toolName
  | .build => bytes "build"
  | .gen => bytes "gen"
  | .tokens => bytes "tokens"
  | .repl => bytes "repl"
  | .help => bytes "help"
  | .completion => bytes "completion"

/-- The commands that can be called, in the order in which they are suggested. -/
def all : List Command := [.build, .gen, .tokens, .repl, .help, .completion]

def summary : Command → Bytes
  | .root => bytes "bufc compiles buffer machine programs into native executables"
  | .build => bytes "Compile source files into native executables"
  | .gen => bytes "Translate a source file to C without building it"
  | .tokens => bytes "Print the tokens scanned from a source file"
  | .repl => bytes "Translate statements interactively"
  | .help => bytes "Help about any command"
  | .completion => bytes "Generate the autocompletion script for the specified shell"

/-! ### Flags -/

def sharedFlags : List Flag :=
  [{ name := bytes "verbose", letter := some (byte 'v'), kind := .count,
     initial := .text (bytes "0"), purpose := bytes "-v for debug logs (-vv for trace)",
     setting := some (bytes "bufc.verbose") },
   { name := bytes "local", kind := .truth, initial := .truth true,
     purpose := bytes "Configures the logger to print readable logs",
     setting := some (bytes "bufc.local") },
   { name := bytes "config", letter := some (byte 'c'), kind := .text, initial := .text [],
     purpose := bytes "Path to the bufc config file (default ./config.toml)",
     setting := some (bytes "config") },
   { name := bytes "debug", letter := some (byte 'd'), kind := .truth, initial := .truth false,
     purpose := bytes "Dump tokens and syntax trees, and keep intermediate artifacts",
     setting := some (bytes "bufc.debug") },
   { name := bytes "representation", kind := .text, initial := .text (bytes "representation"),
     purpose := bytes "Directory debug dumps are written to",
     setting := some (bytes "bufc.representation") },
   { name := bytes "strict-keywords", kind := .truth, initial := .truth false,
     purpose := bytes
       "Only accept keywords spelled exactly, instead of any identifier containing one",
     setting := some (bytes "bufc.strict-keywords") },
   { name := bytes "buffer-size", kind := .number, initial := .number 512,
     purpose := bytes "Number of cells in the generated buffer",
     setting := some (bytes "bufc.buffer-size") },
   { name := bytes "metrics-file", kind := .text, initial := .text [],
     purpose := bytes "Write compilation metrics to this file in the prometheus text format",
     setting := some (bytes "bufc.metrics-file") }]

/-- The flags of a command alone.  As many files are built at the same time as there are
processors. -/
def ownFlags (processors : Nat) : Command → List Flag
  | .build =>
    [{ name := bytes "cc", kind := .text, initial := .text (bytes "gcc"),
       purpose := bytes "Native compiler used to build the generated C",
       setting := some (bytes "bufc.cc") },
     { name := bytes "cflags", kind := .text, initial := .text (bytes "-O3"),
       purpose := bytes "Flags passed to the native compiler",
       setting := some (bytes "bufc.cflags") },
     { name := bytes "keep", letter := some (byte 'k'), kind := .truth, initial := .truth false,
       purpose := bytes "Keep the intermediate C file",
       setting := some (bytes "bufc.keep-artifacts") },
     { name := bytes "jobs", letter := some (byte 'j'), kind := .number,
       initial := .number processors, purpose := bytes "Number of files to build in parallel",
       setting := some (bytes "bufc.jobs") }]
  | .gen =>
    [{ name := bytes "out", letter := some (byte 'o'), kind := .text, initial := .text [],
       purpose := bytes "Write the generated C to this file instead of stdout",
       setting := some (bytes "gen.out") }]
  | .tokens =>
    [{ name := bytes "output", letter := some (byte 'o'), kind := .text,
       initial := .text (bytes "text"), purpose := bytes "Output format [csv, json, text]",
       setting := some (bytes "bufc.output") }]
  | _ => []

def helpFlag (c : Command) : Flag :=
  { name := bytes "help", letter := some (byte 'h'), kind := .truth, initial := .truth false,
    purpose := bytes "help for " ++ c.name }

def versionFlag (c : Command) : Flag :=
  { name := bytes "version", kind := .truth, initial := .truth false,
    purpose := bytes "version for " ++ c.name }

/-- Does the command tell the version? -/
def tellsVersion (c : Command) : Bool := c != .help && c != .completion

/-- The flags that every command has of its own accord. -/
def standardFlags (c : Command) : List Flag :=
  [c.helpFlag] ++ if c.tellsVersion then [c.versionFlag] else []

def flags (processors : Nat) (c : Command) : List Flag :=
  sharedFlags ++ c.ownFlags processors ++ c.standardFlags

def initialSettings (processors : Nat) : List (Bytes × SettingValue) :=
  (sharedFlags ++ all.flatMap (ownFlags processors)).filterMap fun f => f.setting.map fun s =>
    (s, f.initial)

def givenSettings (flags : List Flag) (a : Arguments) : List (Bytes × SettingValue) :=
  flags.filterMap fun f =>
    match f.setting, a.given.lookup f.name with
    | some s, some value => some (s, value)
    | _, _ => none

/-! ### Finding the command -/

/-- Does an argument have the argument after it as its value, as far as the given flags tell? -/
def takesNext (known : List Flag) (argument : Bytes) : Bool :=
  if argument.contains (byte '=') then false
  else if (bytes "--").isPrefixOf argument then
    !((Flag.named known (argument.drop 2)).any Flag.standsAlone)
  else
    match argument with
    | [hyphen, letter] => hyphen == byte '-' && !((Flag.lettered known letter).any Flag.standsAlone)
    | _ => false

def hyphened (argument : Bytes) : Bool := argument.head? == some (byte '-')

/-- The arguments without flags and their values; a flag whose value would be the last argument ends
them. -/
def withoutFlags (known : List Flag) : List Bytes → List Bytes
  | [] => []
  | argument :: after =>
    if argument = bytes "--" then []
    else if takesNext known argument then
      match after with
      | _ :: next :: rest => withoutFlags known (next :: rest)
      | _ => []
    else if argument.isEmpty || hyphened argument then withoutFlags known after
    else argument :: withoutFlags known after

/-- The arguments without the first occurrence of a word that is neither a flag nor the value of
one. -/
def withoutWord (known : List Flag) (word : Bytes) : List Bytes → List Bytes
  | [] => []
  | argument :: after =>
    if argument = bytes "--" then argument :: after
    else if takesNext known argument then
      match after with
      | [] => [argument]
      | value :: rest => argument :: value :: withoutWord known word rest
    else if !hyphened argument && argument = word then after
    else argument :: withoutWord known word after

/-- The rest of a row of distances: from the beginnings of a text, of which the bytes are left to be
gone through, to a text that ends with `b`.  The distance just found and the row of the text without
that end are given. -/
def distancesFrom (b : UInt8) : Bytes → Nat → List Nat → List Nat
  | a :: s, found, above :: nextAbove :: row =>
    let here := if a = b then above else 1 + min found (min nextAbove above)
    here :: distancesFrom b s here (nextAbove :: row)
  | _, _, _ => []

/-- The distances from the beginnings of a text to a text that is one byte longer than that of the
given row. -/
def nextDistances (s : Bytes) (row : List Nat) (b : UInt8) : List Nat :=
  let first := row.headD 0 + 1
  first :: distancesFrom b s first row

/-- The distance between two texts: how many bytes have to be put in, left out or replaced. -/
def distance (s t : Bytes) : Nat :=
  (t.foldl (nextDistances s) (List.range (s.length + 1))).getLastD 0

/-- The largest distance at which a command is suggested. -/
def nearness : Nat := 2

def suggestions (typed : Bytes) : List Bytes :=
  let small := Text.toLower typed
  ((all.filter (· != .help)).map name).filter fun n =>
    distance small n ≤ nearness || small.isPrefixOf n

/-- The command in some arguments, and the arguments without it. -/
def find (arguments : List Bytes) : Except UsageFailure (Command × List Bytes) :=
  match withoutFlags sharedFlags arguments with
  | [] => .ok (.root, arguments)
  | word :: _ =>
    match all.find? (·.name == word) with
    | some command => .ok (command, withoutWord sharedFlags word arguments)
    | none => .error (.unknownCommand word (suggestions word))

end Command

end BufferMachine
