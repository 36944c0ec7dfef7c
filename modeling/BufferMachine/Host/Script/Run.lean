import BufferMachine.Host.Script.Call

/-!
# Running scripts

`step` says how a command is carried out when it is known how its parts are; `run` carries out
commands to a bound on their nesting and on the rounds of their loops.  A script that needs more is
endless as far as the library can tell.
-/

namespace BufferMachine.Script

/-! ### Words -/

/-- Ends the script if something was wrong with a word. -/
def unlessFaulty (sh : Shell) (go : Unit → Ending × Shell) : Ending × Shell :=
  match sh.fault with
  | some message => (.exit, ({ sh with fault := none } : Shell).object 2 message)
  | none => go ()

def assignAll (substitute : Substitute) (sh : Shell) (assignments : List (Bytes × Word)) : Shell :=
  assignments.foldl (fun sh (name, word) =>
    let (value, after) := expandText substitute sh word
    after.assign name value) sh

/-- Gives variables that were set for one call the values that they had before it. -/
def forget (assignments : List (Bytes × Word)) (before after : Shell) : Shell :=
  let names := assignments.map Prod.fst
  let restored := names.foldl (fun sh name => sh.restore name (before.value? name)) after
  { restored with
    exported := restored.exported.filter fun n =>
      !names.contains n || before.exported.contains n }

/-- Shows a command before it is carried out, if that is asked for. -/
def trace (sh : Shell) (assignments : List (Bytes × Word)) (fields : List Bytes) : Shell :=
  let assigned := assignments.map fun (name, _) => name ++ bytes "=" ++ (sh.value? name).getD []
  let words := assigned ++ fields
  if sh.traced && !words.isEmpty then
    sh.write errorChannel (bytes "+ " ++ List.intercalate (bytes " ") words ++ [newline])
  else sh

/-! ### Simple commands -/

/-- Gives back the channels and the input that redirections have taken away. -/
def withChannels (redirections : List Redirection) (before : Shell) :
    Ending × Shell → Ending × Shell
  | (ending, after) =>
    if redirections.isEmpty then (ending, after)
    else (ending, { after with channels := before.channels, input := before.input })

/-- Carries out a simple command whose words have been expanded and whose channels have been opened.
Its assignments last for the call alone, unless it is one of the special commands of the shell. -/
def runFields (run : Runner) (assignments : List (Bytes × Word)) (fields : List Bytes)
    (opened : Shell) :
    Ending × Shell :=
  match fields with
  | [] =>
    let assigned := assignAll run.substitute (opened.ended 0) assignments
    unlessFaulty assigned fun _ => (.done, trace assigned assignments [])
  | name :: arguments =>
    let assigned := assignAll run.substitute opened assignments
    unlessFaulty assigned fun _ =>
    let lasting := specialBuiltins.contains name
    let exported :=
      if lasting then assigned.exported else assignments.map Prod.fst ++ assigned.exported
    let (ending, after) :=
      run.call name arguments (trace { assigned with exported } assignments fields)
    unlessFaulty after fun _ => (ending, if lasting then after else forget assignments opened after)

/-- Carries out a simple command.  Only `exec` alone keeps the channels that it opens. -/
def runSimple (run : Runner) (assignments : List (Bytes × Word)) (words : List Word)
    (redirections : List Redirection) (sh : Shell) : Ending × Shell :=
  let (fields, expanded) := expandWords run.substitute sh words
  unlessFaulty expanded fun _ =>
  match redirectAll run.substitute expanded redirections with
  | .error text =>
    let complained := expanded.object 2 text
    if specialBuiltins.contains (fields.headD []) then (.exit, complained)
    else Shell.settle (.done, complained)
  | .ok opened =>
    unlessFaulty opened fun _ =>
    let result := runFields run assignments fields opened
    if fields = [bytes "exec"] then result
    else Shell.settle (withChannels redirections expanded result)

/-! ### Compound commands -/

/-- What becomes of a loop when its body has ended in some way: go on, or end so. -/
def afterRound : Ending → Option Ending
  | .done => none
  | .continued 1 => none
  | .continued (n + 1) => some (.continued n)
  | .broken 1 => some .done
  | .broken (n + 1) => some (.broken n)
  | ending => some ending

/-- Carries out a command for each of some values of a variable. -/
def runForEach (run : Runner) (name : Bytes) (body : Command) : List Bytes → Shell → Ending × Shell
  | [], sh => (.done, sh)
  | value :: rest, sh =>
    let (ended, after) := run body (sh.assign name value)
    match afterRound ended with
    | none => runForEach run name body rest after
    | some ending => (ending, after)

/-- Carries out two commands, of which the second reads what the first one writes. -/
def runPipe (run : Runner) (first second : Command) (sh : Shell) : Ending × Shell :=
  match sh.afterIsolated (run first (Runner.capturing sh)) with
  | (.done, after) =>
    let (text, closed) := Runner.captured sh after
    let fed := { closed with input := .text text, traps := [] }
    let (ending, final) := closed.afterIsolated (run second fed)
    Shell.settle (ending, { final with input := after.input })
  | ended => ended

/-- Carries out a group with its redirections, in a copy of the environment if that is asked for. -/
def runGroup (run : Runner) (isolated : Bool) (body : Command) (redirections : List Redirection)
    (sh : Shell) :
    Ending × Shell :=
  match redirectAll run.substitute sh redirections with
  | .error text => Shell.settle (.done, sh.object 2 text)
  | .ok opened =>
    withChannels redirections sh
      (if isolated then Shell.settle (opened.afterIsolated (run body { opened with traps := [] }))
        else run body opened)

/-- Carries out a command, when it is known how its parts are carried out. -/
def step (run : Runner) : Runner
  | .nothing, sh => (.done, sh.ended 0)
  | .simple line assignments words redirections, sh =>
    runSimple run assignments words redirections { sh with line }
  | .sequence first second, sh => eachDone run [first, second] sh
  | .both first second, sh =>
    match run.attempt first sh with
    | (.done, after) => if after.status = 0 then run second after else (.done, after)
    | ended => ended
  | .either first second, sh =>
    match run.attempt first sh with
    | (.done, after) => if after.status = 0 then (.done, after) else run second after
    | ended => ended
  | .negated inner, sh =>
    match run.attempt inner sh with
    | (.done, after) => (.done, after.ended (if after.status = 0 then 1 else 0))
    | ended => ended
  | .pipe first second, sh => runPipe run first second sh
  | .background inner, sh =>
    let (ending, after) := sh.afterIsolated (run inner { sh with input := .text [], traps := [] })
    (ending, { after with lastBackground := after.status, status := 0, input := sh.input })
  | .branch test consequent alternative, sh =>
    match run.attempt test sh with
    | (.done, after) => run (if after.status = 0 then consequent else alternative) after
    | ended => ended
  | .loop expected test body last, sh =>
    match run.attempt test sh with
    | (.done, after) =>
      if (after.status == 0) != expected then (.done, after.ended last)
      else
        let (ended, round) := run body after
        match afterRound ended with
        | none => run (.loop expected test body round.status) round
        | some ending => (ending, round)
    | ended => ended
  | .forEach line name words body, sh =>
    let (values, expanded) := match words with
      | some words => expandWords run.substitute { sh with line } words
      | none => (sh.arguments, sh)
    unlessFaulty expanded fun _ => runForEach run name body values (expanded.ended 0)
  | .select line subject arms, sh =>
    let (text, expanded) := expandText run.substitute { sh with line } subject
    unlessFaulty expanded fun _ =>
    let fits (pattern : Word) : Bool :=
      matchesWhole (patternOf (expandPieces run.substitute expanded pattern).1) text
    match arms.find? fun (patterns, _) => patterns.any fits with
    | some (_, body) => run body (expanded.ended 0)
    | none => (.done, expanded.ended 0)
  | .group line isolated body redirections, sh =>
    runGroup run isolated body redirections { sh with line }
  | .define name body, sh =>
    (.done, { sh with functions := (name, body) :: sh.functions, status := 0 })

def run : Nat → Runner
  | 0, _, sh => (.endless, sh)
  | fuel + 1, command, sh => step (run fuel) command sh

/-- The steps that a script is allowed. -/
def allowance : Nat := 100000

end BufferMachine.Script
