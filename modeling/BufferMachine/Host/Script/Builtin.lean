import BufferMachine.Host.Script.Expansion
import BufferMachine.Host.Script.Tools

/-!
# Commands of the shell itself

These commands change the state of the script and not of another program.  Some of them end the
script when they are called in the wrong way.
-/

namespace BufferMachine.Script

/-! ### Redirections -/

/-- The reason for which a shell cannot open a file. -/
def openReason (creating : Bool) (e : FileError) : Bytes :=
  match e with
  | .notFound => if creating then bytes "Directory nonexistent" else bytes "No such file"
  | .notADirectory => if creating then bytes "Directory nonexistent" else bytes "No such file"
  | e => Tool.reason e

/-- Points a channel at a file, which is emptied unless it is to be continued. -/
def openSink (sh : Shell) (path : Bytes) (continuing : Bool) : Except Bytes (Sink × Shell) :=
  match sh.files.device? path with
  | some .output => .ok ((sh.channels.lookup outputChannel).getD .nowhere, sh)
  | some .errors => .ok ((sh.channels.lookup errorChannel).getD .nowhere, sh)
  | some _ => .ok (.nowhere, sh)
  | none =>
    let before := if continuing then (sh.files.readFile path).toOption.getD [] else []
    match sh.files.writeFile path before with
    | .ok files => .ok (.file path, { sh with files })
    | .error failure =>
      .error (bytes "cannot create " ++ path ++ bytes ": " ++ openReason true failure.error)

def redirect (substitute : Substitute) (sh : Shell) (r : Redirection) : Except Bytes Shell := do
  match r with
  | .read _ target =>
    let (path, sh) := expandText substitute sh target
    match Tool.source sh path with
    | .ok input => return { sh with input }
    | .error e => .error (bytes "cannot open " ++ path ++ bytes ": " ++ openReason false e)
  | .write channel target =>
    let (path, sh) := expandText substitute sh target
    let (sink, sh) ← openSink sh path false
    return { sh with channels := sh.channels.point channel sink }
  | .append channel target =>
    let (path, sh) := expandText substitute sh target
    let (sink, sh) ← openSink sh path true
    return { sh with channels := sh.channels.point channel sink }
  | .copy channel target =>
    let (name, sh) := expandText substitute sh target
    match Decimal.toNat? name with
    | some n =>
      match sh.channels.lookup n with
      | some sink => return { sh with channels := sh.channels.point channel sink }
      | none => if n = 0 then return sh else .error (name ++ bytes ": Bad file descriptor")
    | none => return { sh with channels := sh.channels.close channel }
  | .document _ content =>
    let (text, sh) := expandText substitute sh content
    return { sh with input := .text text }

def redirectAll (substitute : Substitute) : Shell → List Redirection → Except Bytes Shell
  | sh, [] => .ok sh
  | sh, r :: rest => do redirectAll substitute (← redirect substitute sh r) rest

/-! ### Signals -/

def signalNames : List (Bytes × Nat) :=
  [(bytes "EXIT", 0), (bytes "HUP", 1), (bytes "INT", 2), (bytes "QUIT", 3), (bytes "ILL", 4),
    (bytes "TRAP", 5), (bytes "ABRT", 6), (bytes "BUS", 7), (bytes "FPE", 8), (bytes "KILL", 9),
    (bytes "USR1", 10), (bytes "SEGV", 11), (bytes "USR2", 12), (bytes "PIPE", 13),
    (bytes "ALRM", 14), (bytes "TERM", 15), (bytes "CHLD", 17), (bytes "CONT", 18)]

/-- The signals that do no harm. -/
def harmless : List Nat := [0, 17, 18, 23, 28]

def signal (text : Bytes) : Nat :=
  match Decimal.toNat? text with
  | some n => n
  | none =>
    (signalNames.lookup (if (bytes "SIG").isPrefixOf text then text.drop 3 else text)).getD 0

/-- The signal that the script sends to itself, if it does. -/
def ownSignal? (arguments : List Bytes) : Option Nat :=
  let (number, targets) := match arguments with
    | a :: b :: rest =>
      if a = bytes "-s" || a = bytes "-n" then (signal b, rest)
      else if Tool.isOption a then (signal (a.drop 1), b :: rest)
      else (15, arguments)
    | _ => (15, arguments)
  if targets.contains ownProcess && !harmless.contains number then some number else none

def trap (arguments : List Bytes) (sh : Shell) : Shell :=
  match arguments with
  | [] => sh.ended 0
  | action :: names =>
    let (action, names) := if names.isEmpty then (bytes "-", [action]) else (action, names)
    let numbers := names.map signal
    let kept := sh.traps.filter fun t => !numbers.contains t.1
    { sh with
      traps := (if action = bytes "-" then [] else numbers.map fun n => (n, action)) ++ kept
      status := 0 }

/-! ### Numbers -/

def numberOf? (argument : Bytes) : Option Nat := Decimal.toNat? argument

/-- Ends something with the status that an argument asks for. -/
def endWith (name : Bytes) (ending : Ending) (arguments : List Bytes) (sh : Shell) :
    Ending × Shell :=
  match arguments with
  | [] => (ending, sh)
  | a :: _ =>
    match numberOf? a with
    | some n => (ending, sh.ended (n % 256))
    | none => (.exit, sh.objectIn name 2 (bytes "Illegal number: " ++ a))

/-- Leaves or goes on with as many loops as an argument asks for. -/
def leaveLoops (name : Bytes) (ending : Nat → Ending) (arguments : List Bytes) (sh : Shell) :
    Ending × Shell :=
  match arguments with
  | [] => (ending 1, sh.ended 0)
  | a :: _ =>
    match numberOf? a with
    | some (n + 1) => (ending (n + 1), sh.ended 0)
    | _ => (.exit, sh.objectIn name 2 (bytes "Illegal number: " ++ a))

def shift (arguments : List Bytes) (sh : Shell) : Ending × Shell :=
  match (arguments.head?.map numberOf?).getD (some 1) with
  | none => (.exit, sh.objectIn (bytes "shift") 2 (bytes "Illegal number: " ++ arguments.headD []))
  | some n =>
    if n > sh.arguments.length then
      (.exit, sh.objectIn (bytes "shift") 2 (bytes "can't shift that many"))
    else (.done, { sh with arguments := sh.arguments.drop n, status := 0 })

/-! ### Variables -/

/-- Reads a line of the input into variables; the last one takes the rest of the line. -/
def readLine (arguments : List Bytes) (sh : Shell) : Shell :=
  let content := sh.input.content
  let line := content.takeWhile (· ≠ newline)
  let names := arguments.filter (!Tool.isOption ·)
  let words := (fieldsOf sh.separators [.divided line] none).map (·.map Prod.fst)
  let assigned := names.zipIdx.foldl (fun sh (name, i) =>
    let value :=
      if i + 1 = names.length then List.intercalate (bytes " ") (words.drop i)
      else words.getD i []
    sh.assign name value) sh
  { assigned with
    input := .text (content.drop (line.length + 1)),
    status := if content.length > line.length then 0 else 1 }

/-- Goes through names, each perhaps with a value to be assigned. -/
def declare (change : Shell → Bytes → Shell) (arguments : List Bytes) (sh : Shell) : Shell :=
  (arguments.foldl (fun sh a =>
    match Bytes.cut? (byte '=') a with
    | some (name, value) => change ((change sh name).assign name value) name
    | none => change sh a) sh).ended 0

/-- Lets programs see a variable. -/
def exportName (sh : Shell) (name : Bytes) : Shell := { sh with exported := name :: sh.exported }

def readonly (arguments : List Bytes) (sh : Shell) : Shell :=
  (arguments.foldl (fun sh a =>
    match Bytes.cut? (byte '=') a with
    | some (name, value) =>
      let assigned := sh.assign name value
      { assigned with constants := name :: assigned.constants }
    | none => { sh with constants := a :: sh.constants }) sh).ended 0

/-- Sets options or arguments. -/
def setOptions : List Bytes → Shell → Shell
  | [], sh => sh.ended 0
  | a :: rest, sh =>
    let on := a.head? == some (byte '-')
    if a = bytes "--" then { sh with arguments := rest, status := 0 }
    else if a.length > 1 && (on || a.head? == some (byte '+')) then
      let letters := a.drop 1
      let named := letters == bytes "o"
      let asks (letter name : String) : Bool :=
        letters.any (bytes letter).contains || (named && rest.head? == some (bytes name))
      let changed := { sh with
        strict := if asks "e" "errexit" then on else sh.strict,
        careful := if asks "u" "nounset" then on else sh.careful,
        traced := if asks "x" "xtrace" then on else sh.traced }
      setOptions (if named then rest.drop 1 else rest) changed
    else { sh with arguments := a :: rest, status := 0 }
termination_by arguments => arguments.length
decreasing_by
  simp only [List.length_cons]
  split
  · simp only [List.length_drop]; omega
  · omega

/-! ### Directories -/

def changeDirectory (arguments : List Bytes) (sh : Shell) : Shell :=
  let path := match arguments with
    | [] => (sh.value? (bytes "HOME")).getD []
    | a :: _ => if a = bytes "-" then (sh.value? (bytes "OLDPWD")).getD [] else a
  match sh.files.find path, sh.files.locate path with
  | .ok .directory, .ok directory =>
    let moved : FileTree := { sh.files with directory }
    let told := (sh.bind (bytes "OLDPWD") sh.files.root).bind (bytes "PWD") moved.root
    ({ told with files := moved } : Shell).ended 0
  | _, _ => sh.objectIn (bytes "cd") 2 (bytes "can't cd to " ++ path)

/-! ### All of them -/

/-- The commands whose failure ends the script. -/
def specialBuiltins : List Bytes :=
  [":", ".", "break", "continue", "eval", "exec", "exit", "export", "readonly", "return", "set",
    "shift", "times", "trap", "unset"].map bytes

def builtin? (name : Bytes) (arguments : List Bytes) (sh : Shell) : Option (Ending × Shell) :=
  if name = bytes ":" then some (.done, sh.ended 0)
  else if name = bytes "exit" then some (endWith name .exit arguments sh)
  else if name = bytes "return" then some (endWith name .returned arguments sh)
  else if name = bytes "break" then some (leaveLoops name .broken arguments sh)
  else if name = bytes "continue" then some (leaveLoops name .continued arguments sh)
  else if name = bytes "read" then some (.done, readLine arguments sh)
  else if name = bytes "shift" then some (shift arguments sh)
  else if name = bytes "set" then some (.done, setOptions arguments sh)
  else if name = bytes "export" then some (.done, declare exportName arguments sh)
  else if name = bytes "readonly" then some (.done, readonly arguments sh)
  else if name = bytes "local" then
    if sh.shadows.isEmpty then some (.exit, sh.objectIn name 2 (bytes "not in a function"))
    else some (.done, declare Shell.localize arguments sh)
  else if name = bytes "unset" then
    some (.done, { sh with
      bindings := sh.bindings.filter fun v => !arguments.contains v.1,
      functions :=
        if arguments.contains (bytes "-f") then
          sh.functions.filter fun f => !arguments.contains f.1
        else sh.functions,
      status := 0 })
  else if name = bytes "cd" then some (.done, changeDirectory arguments sh)
  else if name = bytes "pwd" then some (.done, sh.print (sh.files.root ++ [newline]))
  else if name = bytes "trap" then some (.done, trap arguments sh)
  else if name = bytes "wait" then
    some (.done, sh.ended (if arguments.isEmpty then 0 else sh.lastBackground))
  else if [bytes "umask", bytes "ulimit", bytes "times", bytes "hash", bytes "alias",
      bytes "unalias"].contains name then
    some (.done, sh.ended 0)
  else none

end BufferMachine.Script
