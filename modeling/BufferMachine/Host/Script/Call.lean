import BufferMachine.Host.Script.Interpreter
import BufferMachine.Host.Script.Runner

/-!
# Calling programs and commands

The first word of a simple command is the name of a function, of a command of the shell itself, of a
program, or the path of a file that is a script.
-/

namespace BufferMachine.Script

/-! ### Names -/

def shellNames : List Bytes := [bytes "sh", bytes "dash", bytes "bash"]

/-- The name under which programs are called with other variables. -/
def environmentTool : Bytes := bytes "env"

/-- The short name of a known program that is named alone or in one of the usual directories. -/
def program? (name : Bytes) : Option Bytes :=
  let short :=
    if !name.contains Path.separator then name
    else if (bytes "/bin/").isPrefixOf name then name.drop 5
    else if (bytes "/usr/bin/").isPrefixOf name then name.drop 9
    else []
  if short = environmentTool || shellNames.contains short || (tools.lookup short).isSome then
    some short
  else none

/-- The path under which a program is found by its name. -/
def foundPath (name : Bytes) : Bytes :=
  if name.contains Path.separator then name else bytes "/usr/bin/" ++ name

def canCall (sh : Shell) (name : Bytes) : Bool :=
  (program? name).isSome || (name.contains Path.separator && sh.files.exists? name)

/-- The programs that the shell has as commands of its own. -/
def sharedNames : List Bytes :=
  ["[", "command", "echo", "false", "kill", "printf", "test", "true", "type"].map bytes

/-- What a name stands for. -/
inductive Meaning where
  | function
  | special
  | builtin
  | program (path : Bytes)
deriving DecidableEq, Repr

def Meaning.wording : Meaning → Bytes
  | .function => bytes "a shell function"
  | .special => bytes "a special shell builtin"
  | .builtin => bytes "a shell builtin"
  | .program path => path

def meaning? (sh : Shell) (name : Bytes) : Option Meaning :=
  if (sh.functions.lookup name).isSome then some .function
  else if specialBuiltins.contains name then some .special
  else if sharedNames.contains name || (builtin? name [] sh).isSome then some .builtin
  else (program? name).map fun _ => .program (foundPath name)

/-! ### Calls of a shell -/

/-- What the arguments of a shell ask it to carry out. -/
inductive ShellTask where
  | input
  | text (script name : Bytes) (arguments : List Bytes)
  | file (path : Bytes) (arguments : List Bytes)
  | illegal (letter : UInt8)
deriving DecidableEq, Repr

def shellLetters : Bytes := bytes "abCcefIimnsuVvx"

/-- Reads the arguments of a shell: the letters of its options, and what it is to do. -/
def shellTask (name letters : Bytes) : List Bytes → Bytes × ShellTask
  | [] => (letters, .input)
  | a :: rest =>
    if a = bytes "--" || a = bytes "-" then
      match rest with
      | [] => (letters, .input)
      | path :: arguments => (letters, .file path arguments)
    else if !Tool.isOption a then (letters, .file a rest)
    else
      match (a.drop 1).find? fun letter => !shellLetters.contains letter with
      | some letter => (letters, .illegal letter)
      | none =>
        let letters := letters ++ a.drop 1
        if a.contains (byte 'c') then
          (letters, .text (rest.headD []) ((rest.drop 1).headD name) (rest.drop 2))
        else shellTask name letters rest

namespace Runner

def callShell (run : Runner) (name : Bytes) (arguments : List Bytes) (sh : Shell) :
    Ending × Shell :=
  let (letters, task) := shellTask name [] arguments
  match task with
  | .input => run.script sh.input.content name [] letters { sh with input := .text [] }
  | .text text name arguments => run.script text name arguments letters sh
  | .file path arguments => run.scriptFile path arguments letters sh
  | .illegal letter => (.done, sh.complain 2 (name ++ bytes ": 0: Illegal option -" ++ [letter]))

/-- Calls a program by words that stand for themselves. -/
def callWords (run : Runner) (words : List Bytes) (sh : Shell) : Ending × Shell :=
  run (.simple sh.line [] (words.map fun w => [.text w true]) []) sh

/-- Calls a program with variables that are given before its name, or shows the variables. -/
def callEnvironment (run : Runner) (arguments : List Bytes) (sh : Shell) : Ending × Shell :=
  let given := arguments.takeWhile fun a => a.contains (byte '=')
  let changed := declare exportName given sh
  match arguments.drop given.length with
  | [] => sh.afterIsolated (.done, Tool.printenv [] changed)
  | name :: rest =>
    if canCall sh name then sh.afterIsolated (run.callWords (name :: rest) changed)
    else
      (.done, sh.complain 127
        (Tool.told sh "" ++ Tool.inQuotes name ++ bytes ": No such file or directory"))

/-- Calls a file that is a script, by the interpreter that its first line names. -/
def callFile (run : Runner) (path content : Bytes) (arguments : List Bytes) (sh : Shell) :
    Ending × Shell :=
  match interpreter? content with
  | none => run.scriptFile path arguments [] sh
  | some (name, option) =>
    match program? name with
    | none => (.done, sh.object 127 (path ++ bytes ": not found"))
    | some _ => run.callWords (name :: option.toList ++ path :: arguments) sh

def callProgram (run : Runner) (name : Bytes) (arguments : List Bytes) (sh : Shell) :
    Ending × Shell :=
  let called := { sh with callee := name }
  match program? name with
  | some short =>
    match tools.lookup short with
    | some tool => (.done, tool arguments called)
    | none =>
      if short = environmentTool then
        run.callEnvironment arguments called
      else run.callShell name arguments called
  | none =>
    if !name.contains Path.separator then (.done, called.object 127 (name ++ bytes ": not found"))
    else
      match called.files.find name with
      | .error _ => (.done, called.object 127 (name ++ bytes ": not found"))
      | .ok (.file content) => run.callFile name content arguments called
      | .ok _ => (.done, called.object 126 (name ++ bytes ": Permission denied"))

/-! ### Commands that carry out others -/

def callFunction (run : Runner) (body : Command) (arguments : List Bytes) (sh : Shell) :
    Ending × Shell :=
  let (ending, after) := run body (sh.enter arguments)
  (if ending = .returned then .done else ending, after.leave sh)

def signalItself (run : Runner) (arguments : List Bytes) (sh : Shell) : Ending × Shell :=
  match ownSignal? arguments with
  | none => (.done, sh.ended 0)
  | some signal =>
    match sh.traps.lookup signal with
    | none => (.killed signal, sh)
    | some action =>
      match run.lines 1 action sh with
      | (.done, after) => (.done, after.ended 0)
      | ended => ended

/-- Carries out a text in the running script, on behalf of something that its messages name. -/
def within (run : Runner) (context text : Bytes) (sh : Shell) : Ending × Shell :=
  let (ending, after) := run.lines 1 text { sh with context := some context }
  (ending, { after with context := sh.context })

/-- Carries out a file in the running script. -/
def includeFile (run : Runner) (path : Bytes) (sh : Shell) : Ending × Shell :=
  let refuse (complaint : Bytes) : Ending × Shell := (.exit, sh.objectIn (bytes ".") 2 complaint)
  if !path.contains Path.separator then refuse (path ++ bytes ": not found")
  else
    match sh.files.readFile path with
    | .error failure =>
      refuse (bytes "cannot open " ++ path ++ bytes ": " ++ openReason false failure.error)
    | .ok content =>
      let (ending, after) := run.within path content sh
      (if ending = .returned then .done else ending, after)

/-- Tells what a name stands for, in full or by what to call. -/
def tell (inFull : Bool) (name : Bytes) (sh : Shell) : Shell :=
  match meaning? sh name with
  | some meaning =>
    let short := match meaning with
      | .program path => path
      | _ => name
    sh.write outputChannel
      ((if inFull then name ++ bytes " is " ++ meaning.wording else short) ++ [newline])
  | none =>
    (if inFull then sh.write outputChannel (name ++ bytes ": not found\n") else sh).ended 127

/-- Puts a program in the place of the script. -/
def replaceBy (run : Runner) (name : Bytes) (arguments : List Bytes) (sh : Shell) :
    Ending × Shell :=
  if !canCall sh name then (.exit, sh.objectIn (bytes "exec") 127 (name ++ bytes ": not found"))
  else
    match run.callProgram name arguments sh with
    | (.done, after) => (.exit, { after with traps := [] })
    | ended => ended

/-- Calls a command of the shell itself, if it has one of that name. -/
def callOwn? (run : Runner) (name : Bytes) (arguments : List Bytes) (sh : Shell) :
    Option (Ending × Shell) :=
  if name = bytes "kill" then some (run.signalItself arguments sh)
  else if name = bytes "eval" then
    some (run.within name (List.intercalate (bytes " ") arguments) sh)
  else if name = bytes "." then some (run.includeFile (arguments.headD []) sh)
  else if name = bytes "type" then
    some (.done, arguments.foldl (fun sh name => tell true name sh) (sh.ended 0))
  else if name = bytes "exec" then
    match arguments with
    | [] => some (.done, sh.ended 0)
    | program :: rest => some (run.replaceBy program rest sh)
  else if name = bytes "command" then
    match arguments with
    | [] => some (.done, sh.ended 0)
    | first :: rest =>
      if first = bytes "-v" then some (.done, tell false (rest.headD []) (sh.ended 0))
      else if Tool.isOption first then callPlain rest
      else callPlain arguments
  else builtin? name arguments sh
where
  /-- Calls a command or a program, but no function. -/
  callPlain : List Bytes → Option (Ending × Shell)
    | [] => some (.done, sh.ended 0)
    | name :: arguments =>
      some ((builtin? name arguments sh).getD (run.callProgram name arguments sh))

def call (run : Runner) (name : Bytes) (arguments : List Bytes) (sh : Shell) : Ending × Shell :=
  match sh.functions.lookup name with
  | some body => run.callFunction body arguments sh
  | none => (run.callOwn? name arguments sh).getD (run.callProgram name arguments sh)

end Runner

end BufferMachine.Script
