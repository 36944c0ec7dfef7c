import BufferMachine.Host.FileTree
import BufferMachine.Host.Script.Reader

/-!
# The state of a running script

A running script has files, variables, functions, arguments and the status of its last command.
What it writes goes through numbered channels: channel 1 is its output and channel 2 is for its
complaints.  A channel leads to a file, to nowhere, or to one of the numbered buffers, of which a
pipeline opens new ones.
-/

namespace BufferMachine.Script

/-- Where a channel leads. -/
inductive Sink where
  | buffer (index : Nat)
  | file (path : Bytes)
  | nowhere
deriving DecidableEq, Repr

abbrev Channels := List (Nat × Sink)

def outputChannel : Nat := 1

def errorChannel : Nat := 2

def standardChannels : Channels := [(outputChannel, .buffer 0), (errorChannel, .buffer 1)]

def Channels.point (channels : Channels) (channel : Nat) (sink : Sink) : Channels :=
  (channel, sink) :: channels.filter (·.1 != channel)

def Channels.close (channels : Channels) (channel : Nat) : Channels :=
  channels.filter (·.1 != channel)

/-- What a command reads. -/
inductive Source where
  | text (content : Bytes)
  /-- A text again and again without an end. -/
  | endless (content : Bytes)
deriving DecidableEq, Repr

/-- The bytes of a source, as far as they have an end. -/
def Source.content : Source → Bytes
  | .text content => content
  | .endless _ => []

def Source.take (n : Nat) : Source → Bytes
  | .text content => content.take n
  | .endless content => (Bytes.copies (n / max 1 content.length + 1) content).take n

structure Shell where
  files : FileTree
  bindings : List (Bytes × Bytes) := []
  /-- The variables that programs see. -/
  exported : List Bytes := []
  /-- The variables that cannot be changed. -/
  constants : List Bytes := []
  /-- The values that variables had outside the functions that are being called, the innermost
  first. -/
  shadows : List (List (Bytes × Option Bytes)) := []
  functions : List (Bytes × Command) := []
  /-- What to do on a signal, or at the end for the number zero. -/
  traps : List (Nat × Bytes) := []
  /-- The name that the script was started under. -/
  name : Bytes := bytes "sh"
  arguments : List Bytes := []
  /-- The name that the running program was called by. -/
  callee : Bytes := bytes "sh"
  status : Nat := 0
  /-- The status of the last command in the background. -/
  lastBackground : Nat := 0
  /-- The line that is being carried out. -/
  line : Nat := 0
  /-- The command that carries out another text, if one does. -/
  context : Option Bytes := none
  /-- Does a command that fails end the script? -/
  strict : Bool := false
  /-- Is a variable that is not set a mistake? -/
  careful : Bool := false
  /-- Are commands shown before they are carried out? -/
  traced : Bool := false
  input : Source := .text []
  buffers : List Bytes := [[], []]
  channels : Channels := standardChannels
  /-- What went wrong in a word. -/
  fault : Option Bytes := none
deriving Repr

/-- How a command ends. -/
inductive Ending where
  /-- The next command follows. -/
  | done
  /-- The script ends with the status that is set. -/
  | exit
  /-- The function that is being called ends. -/
  | returned
  | killed (signal : Nat)
  /-- So many loops are left. -/
  | broken (levels : Nat)
  /-- The loop so many levels up goes on with its next round. -/
  | continued (levels : Nat)
  /-- The command does not end within the steps allowed to it. -/
  | endless
deriving DecidableEq, Repr

/-- The number by which a script knows itself. -/
def ownProcess : Bytes := bytes "4242"

/-- The number by which a script knows its last command in the background. -/
def backgroundProcess : Bytes := bytes "4243"

namespace Shell

/-! ### Output -/

def write (sh : Shell) (channel : Nat) (text : Bytes) : Shell :=
  match sh.channels.lookup channel with
  | some (.buffer i) => { sh with buffers := sh.buffers.modify i (· ++ text) }
  | some (.file path) =>
    let before := (sh.files.readFile path).toOption.getD []
    match sh.files.writeFile path (before ++ text) with
    | .ok files => { sh with files }
    | .error _ => sh
  | _ => sh

def ended (sh : Shell) (status : Nat) : Shell := { sh with status }

/-- What becomes of a script whose last command has ended: a failure ends it if it is strict. -/
def settle : Ending × Shell → Ending × Shell
  | (.done, sh) => if sh.strict && sh.status != 0 then (.exit, sh) else (.done, sh)
  | ended => ended

def print (sh : Shell) (text : Bytes) : Shell := (sh.write outputChannel text).ended 0

def complain (sh : Shell) (status : Nat) (text : Bytes) : Shell :=
  (sh.write errorChannel (text ++ [newline])).ended status

/-- What the shell puts before a message of its own. -/
def heading (sh : Shell) : Bytes :=
  sh.name ++ bytes ": " ++ Decimal.ofNat sh.line ++ bytes ": " ++
    match sh.context with
    | some command => command ++ bytes ": "
    | none => []

def object (sh : Shell) (status : Nat) (text : Bytes) : Shell :=
  sh.complain status (sh.heading ++ text)

/-- Writes a message of a command of the shell. -/
def objectIn (sh : Shell) (command : Bytes) (status : Nat) (text : Bytes) : Shell :=
  sh.complain status
    (sh.name ++ bytes ": " ++ Decimal.ofNat sh.line ++ bytes ": " ++ command ++ bytes ": " ++ text)

/-! ### Variables -/

def value? (sh : Shell) (name : Bytes) : Option Bytes := sh.bindings.lookup name

/-- Sets a variable without further ado. -/
def bind (sh : Shell) (name value : Bytes) : Shell :=
  { sh with bindings := (name, value) :: sh.bindings.filter (·.1 != name) }

/-- Sets a variable, unless it cannot be changed. -/
def assign (sh : Shell) (name value : Bytes) : Shell :=
  if sh.constants.contains name then
    { sh with fault := sh.fault.or (some (name ++ bytes ": is read only")) }
  else sh.bind name value

def unbind (sh : Shell) (name : Bytes) : Shell :=
  { sh with bindings := sh.bindings.filter (·.1 != name) }

/-- Gives a variable the value that it had, or forgets it if it had none. -/
def restore (sh : Shell) (name : Bytes) (value : Option Bytes) : Shell :=
  match value with
  | some value => sh.bind name value
  | none => sh.unbind name

/-- The bytes that divide fields. -/
def separators (sh : Shell) : Bytes := (sh.value? (bytes "IFS")).getD [byte ' ', 9, newline]

/-- The value of a parameter that is a single text. -/
def parameter? (sh : Shell) (name : Bytes) : Option Bytes :=
  if name = bytes "#" then some (Decimal.ofNat sh.arguments.length)
  else if name = bytes "?" then some (Decimal.ofNat sh.status)
  else if name = bytes "$" then some ownProcess
  else if name = bytes "!" then some backgroundProcess
  else if name = bytes "-" then
    some ((if sh.strict then bytes "e" else []) ++ (if sh.careful then bytes "u" else []) ++
      if sh.traced then bytes "x" else [])
  else if name = bytes "0" then some sh.name
  else if name = bytes "@" || name = bytes "*" then
    if sh.arguments.isEmpty then none
    else some (List.intercalate (sh.separators.take 1) sh.arguments)
  else
    match Decimal.toNat? name with
    | some n => sh.arguments[n - 1]?
    | none => sh.value? name

/-! ### Functions and programs -/

def enter (sh : Shell) (arguments : List Bytes) : Shell :=
  { sh with arguments, shadows := [] :: sh.shadows }

/-- Leaves a function that was called from another state: its own variables give way to those
outside. -/
def leave (sh before : Shell) : Shell :=
  let restored := (sh.shadows.headD []).foldl (fun sh (name, value) => sh.restore name value) sh
  { restored with arguments := before.arguments, shadows := before.shadows }

/-- Makes a variable one of the function that is being called. -/
def localize (sh : Shell) (name : Bytes) : Shell :=
  match sh.shadows with
  | [] => sh
  | frame :: outer =>
    if frame.any (·.1 == name) then sh
    else { sh with shadows := ((name, sh.value? name) :: frame) :: outer }

/-- The state in which another script starts. -/
def fresh (sh : Shell) (name : Bytes) (arguments : List Bytes) (strict : Bool) : Shell :=
  { files := sh.files, bindings := sh.bindings.filter fun b => sh.exported.contains b.1,
    exported := sh.exported, name, arguments, strict, line := 1, input := sh.input,
    buffers := sh.buffers, channels := sh.channels }

/-- The state after a command that ran in a copy of the environment. -/
def afterIsolated (before : Shell) : Ending × Shell → Ending × Shell
  | (ending, after) =>
    let files := { after.files with directory := before.files.directory }
    let kept :=
      { before with
        files, buffers := after.buffers, status := after.status, input := after.input }
    match ending with
    | .killed n => (.killed n, kept)
    | .endless => (.endless, kept)
    | _ => (.done, kept)

end Shell

end BufferMachine.Script
