import BufferMachine.Host.Script.Builtin

/-!
# Carrying out texts

A runner carries out commands.  From one are made the ways in which a text that holds commands is
carried out: as part of the running script, as a script of its own, and inside a word for the sake
of its output.
-/

namespace BufferMachine.Script

/-- How a command is carried out. -/
abbrev Runner := Command → Shell → Ending × Shell

/-- Goes through values as long as each of them ends well. -/
def eachDone {α : Type} (act : α → Shell → Ending × Shell) : List α → Shell → Ending × Shell
  | [], sh => (.done, sh)
  | a :: rest, sh =>
    match act a sh with
    | (.done, after) => eachDone act rest after
    | ended => ended

namespace Runner

/-- Carries out the commands of a text that starts on a line; what stands before a mistake is
carried out before the mistake is told. -/
def lines (run : Runner) (line : Nat) (text : Bytes) (sh : Shell) : Ending × Shell :=
  let (commands, fault) := read line text
  match eachDone run commands (sh.ended 0), fault with
  | (.done, after), some fault =>
    (.exit, ({ after with line := fault.line } : Shell).object 2 fault.message)
  | ended, _ => ended

/-- The state in which a copy of the script writes its output into a new buffer. -/
def capturing (sh : Shell) : Shell :=
  { sh with
    buffers := sh.buffers ++ [[]],
    channels := sh.channels.point outputChannel (.buffer sh.buffers.length),
    traps := [] }

/-- What was written into the buffer that was opened last, and the state without it. -/
def captured (before after : Shell) : Bytes × Shell :=
  (after.buffers.getD before.buffers.length [],
    { after with buffers := after.buffers.take before.buffers.length })

/-- The output of a text that is carried out inside a word. -/
def substitute (run : Runner) : Substitute := fun line text sh =>
  captured sh (sh.afterIsolated (run.lines line text (capturing sh))).2

/-- Carries out what is left to do at the end of a script. -/
def atExit (run : Runner) : Ending × Shell → Ending × Shell
  | (.killed signal, sh) => (.killed signal, sh)
  | (.endless, sh) => (.endless, sh)
  | (ending, sh) =>
    match sh.traps.lookup 0 with
    | none => (ending, sh)
    | some action =>
      match run.lines 1 action { sh with traps := [] } with
      | (.done, after) => (.exit, after.ended sh.status)
      | ended => ended

/-- Carries out a text as a script of its own, under a name, with arguments and the letters of its
options. -/
def script (run : Runner) (text name : Bytes) (arguments : List Bytes) (letters : Bytes)
    (sh : Shell) : Ending × Shell :=
  let started := { sh.fresh name arguments (letters.contains (byte 'e')) with
    careful := letters.contains (byte 'u'), traced := letters.contains (byte 'x') }
  sh.afterIsolated (run.atExit (run.lines 1 text started))

def scriptFile (run : Runner) (path : Bytes) (arguments : List Bytes) (letters : Bytes)
    (sh : Shell) : Ending × Shell :=
  match sh.files.readFile path with
  | .ok content => run.script content path arguments letters sh
  | .error failure =>
    (.done, sh.complain 2
      (sh.callee ++ bytes ": 0: cannot open " ++ path ++ bytes ": " ++
        openReason false failure.error))

/-- Carries out a command whose failure does not end the script. -/
def attempt (run : Runner) (command : Command) (sh : Shell) : Ending × Shell :=
  let (ending, after) := run command { sh with strict := false }
  (ending, { after with strict := sh.strict })

end Runner

end BufferMachine.Script
