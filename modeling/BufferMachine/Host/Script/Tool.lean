import BufferMachine.Host.Script.Shell

/-!
# What tools have in common

A tool is a program that scripts can call.  It gets its arguments and the state, and leaves the
state that it makes, with its status set.
-/

namespace BufferMachine.Script

abbrev Tool := List Bytes → Shell → Shell

namespace Tool

/-- The reason of a refused file operation, as tools put it. -/
def reason (e : FileError) : Bytes :=
  match e.message with
  | b :: rest => Bytes.toUpper [b] ++ rest
  | [] => []

def inQuotes (text : Bytes) : Bytes := bytes "'" ++ text ++ bytes "'"

/-- Does the argument hold options? -/
def isOption (argument : Bytes) : Bool := argument.length > 1 && argument.head? == some (byte '-')

/-- Splits arguments into option letters and operands; two hyphens end the options. -/
def options : List Bytes → Bytes × List Bytes
  | [] => ([], [])
  | a :: rest =>
    if a = bytes "--" then ([], rest)
    else
      let (letters, operands) := options rest
      if isOption a then (a.drop 1 ++ letters, operands) else (letters, a :: operands)

/-- A message of the tool that is being called. -/
def told (sh : Shell) (message : String) : Bytes := sh.callee ++ bytes ": " ++ bytes message

/-- The line that points to the help of the tool that is being called. -/
def hint (sh : Shell) : Bytes :=
  bytes "\nTry '" ++ sh.callee ++ bytes " --help' for more information."

/-- Runs a tool that knows some option letters; another letter is refused. -/
def withOptions (allowed : String) (act : Bytes → List Bytes → Shell → Shell)
    (refusal : Nat := 1) : Tool :=
  fun arguments sh =>
    let (letters, operands) := options arguments
    match letters.find? fun letter => !(bytes allowed).contains letter with
    | some letter =>
      sh.complain refusal (told sh "invalid option -- " ++ inQuotes [letter] ++ hint sh)
    | none => act letters operands sh

/-- Goes through operands; the status is bad if one of them fails. -/
def forOperands (act : Bytes → Shell → Except Bytes Shell) (sh : Shell) (operands : List Bytes)
    (failed : Nat := 1) : Shell :=
  operands.foldl (fun sh operand =>
    match act operand sh with
    | .ok after => after.ended sh.status
    | .error complaint => sh.complain failed complaint) (sh.ended 0)

def source (sh : Shell) (path : Bytes) : Except FileError Source :=
  if path = bytes "-" then .ok sh.input
  else
    match sh.files.device? path with
    | some .input => .ok sh.input
    | some .zeros | some .full => .ok (.endless [0])
    | _ =>
      match sh.files.readFile path with
      | .ok content => .ok (.text content)
      | .error failure => .error failure.error

/-- The operands, or the input if there are none. -/
def orInput (operands : List Bytes) : List Bytes :=
  if operands.isEmpty then [bytes "-"] else operands

def linesOf (text : Bytes) : List Bytes :=
  let parts := Bytes.pieces newline text
  let whole := parts.dropLast.map (· ++ [newline])
  match parts.getLast? with
  | some [] => whole
  | some last => whole ++ [last]
  | none => whole

def bareLines (text : Bytes) : List Bytes :=
  (linesOf text).map fun l => (Bytes.withoutEnding? [newline] l).getD l

def leadingInt (text : Bytes) : Int :=
  match text with
  | b :: rest =>
    if b = byte '-' then -Decimal.value (rest.takeWhile Decimal.isDigit)
    else Decimal.value (text.takeWhile Decimal.isDigit)
  | [] => 0

/-- Is the text a number with or without a sign? -/
def isInt (text : Bytes) : Bool :=
  let digits :=
    if text.head? = some (byte '-') || text.head? = some (byte '+') then text.drop 1 else text
  !digits.isEmpty && digits.all Decimal.isDigit

end Tool

end BufferMachine.Script
