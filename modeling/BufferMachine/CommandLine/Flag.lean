import BufferMachine.Settings.Value
import BufferMachine.Text.Quoted

/-!
# Flags

A flag has a name and perhaps a letter, and takes a truth value, a number, a text, or counts how
often it is given.  Arguments are read from left to right: a flag may stand anywhere among the other
arguments, its value follows it or is attached to it with an equals sign, letters may be run
together, and two hyphens end the flags.  Letters from `test.` on are passed over.
-/

namespace BufferMachine

/-- What a flag takes. -/
inductive FlagKind where
  | truth
  | number
  | text
  | count
deriving DecidableEq, Repr

structure Flag where
  name : Bytes
  letter : Option UInt8 := none
  kind : FlagKind
  /-- The value that the flag has if it is not given. -/
  initial : SettingValue
  /-- What the flag is for, as users are told. -/
  purpose : Bytes
  /-- The setting that the flag stands for. -/
  setting : Option Bytes := none
deriving DecidableEq, Repr

inductive UsageFailure where
  | badFlag (argument : Bytes)
  | unknownFlag (name : Bytes)
  | unknownLetter (letter : UInt8) (letters : Bytes)
  | missingValue (argument : Bytes)
  | missingLetterValue (letter : UInt8) (letters : Bytes)
  | badNumber (flag : Flag) (value : Bytes) (fault : Literal.Fault)
  | badTruth (flag : Flag) (value : Bytes)
  | wrongCount (found : Nat)
  | tooFew (found : Nat)
  | unknownCommand (name : Bytes) (suggestions : List Bytes)
deriving DecidableEq, Repr

namespace Flag

def title (f : Flag) : Bytes :=
  match f.letter with
  | some letter => [byte '-', letter] ++ bytes ", --" ++ f.name
  | none => bytes "--" ++ f.name

def standsAlone (f : Flag) : Bool := f.kind == .truth || f.kind == .count

def named (flags : List Flag) (name : Bytes) : Option Flag := flags.find? (·.name == name)

def lettered (flags : List Flag) (letter : UInt8) : Option Flag :=
  flags.find? (·.letter == some letter)

end Flag

namespace UsageFailure

def quotedLetter (letter : UInt8) : Bytes :=
  let shown :=
    if letter = byte '\'' then bytes "\\'"
    else if letter = byte '"' then bytes "\""
    else Text.quotedCharacter ⟨letter.toNat, String.utf8EncodeChar (Char.ofNat letter.toNat)⟩
  bytes "'" ++ shown ++ bytes "'"

def invalid (flag : Flag) (value : Bytes) (reader : String) (fault : Bytes) : Bytes :=
  bytes "invalid argument " ++ Text.quoted value ++ bytes " for " ++ Text.quoted flag.title ++
    bytes " flag: " ++
    bytes reader ++ bytes ": parsing " ++ Text.quoted value ++ bytes ": " ++ fault

def suggestionText (names : List Bytes) : Bytes :=
  if names.isEmpty then []
  else bytes "\n\nDid you mean this?\n" ++ names.flatMap fun n => bytes "\t" ++ n ++ [newline]

def message : UsageFailure → Bytes
  | .badFlag argument => bytes "bad flag syntax: " ++ argument
  | .unknownFlag name => bytes "unknown flag: --" ++ name
  | .unknownLetter letter letters =>
    bytes "unknown shorthand flag: " ++ quotedLetter letter ++ bytes " in -" ++ letters
  | .missingValue argument => bytes "flag needs an argument: " ++ argument
  | .missingLetterValue letter letters =>
    bytes "flag needs an argument: " ++ quotedLetter letter ++ bytes " in -" ++ letters
  | .badNumber flag value fault => invalid flag value "strconv.ParseInt" fault.message
  | .badTruth flag value => invalid flag value "strconv.ParseBool" Literal.Fault.malformed.message
  | .wrongCount found => bytes "accepts 1 arg(s), received " ++ Decimal.ofNat found
  | .tooFew found => bytes "requires at least 1 arg(s), only received " ++ Decimal.ofNat found
  | .unknownCommand name suggestions =>
    bytes "unknown command " ++ Text.quoted name ++ bytes " for \"bufc\"" ++
      suggestionText suggestions

end UsageFailure

/-- The flags that were given, by their names, with their last values, and the other arguments. -/
structure Arguments where
  given : List (Bytes × SettingValue) := []
  rest : List Bytes := []
deriving DecidableEq, Repr

namespace Arguments

def set (a : Arguments) (flag : Flag) (value : SettingValue) : Arguments :=
  { a with given := (flag.name, value) :: a.given.filter (·.1 != flag.name) }

/-- Was the flag given, and not as false? -/
def asks (a : Arguments) (name : String) : Bool :=
  ((a.given.lookup (bytes name)).map SettingValue.toBool).getD false

/-- What a flag that stands alone is given as. -/
def alone : Bytes := bytes "+1"

def give (a : Arguments) (flag : Flag) (value : Bytes) : Except UsageFailure Arguments :=
  match flag.kind with
  | .text => .ok (a.set flag (.text value))
  | .truth =>
    if SettingValue.trueTexts.contains value then .ok (a.set flag (.truth true))
    else if SettingValue.falseTexts.contains value then .ok (a.set flag (.truth false))
    else .error (.badTruth flag value)
  | .number =>
    match Literal.toInt value with
    | .ok n => .ok (a.set flag (.number n))
    | .error fault => .error (.badNumber flag value fault)
  | .count =>
    if value = alone then
      let before := ((a.given.lookup flag.name).getD flag.initial).toInt
      .ok (a.set flag (.text (Decimal.ofInt (before + 1))))
    else
      match Literal.toInt value with
      | .ok n => .ok (a.set flag (.text (Decimal.ofInt n)))
      | .error fault => .error (.badNumber flag value fault)

def giveAlone (a : Arguments) (flag : Flag) : Except UsageFailure Arguments :=
  a.give flag (if flag.kind = .count then alone else bytes "true")

/-- Reads a flag given by its name; the arguments after it are returned without the value, if that
is one of them. -/
def readNamed (flags : List Flag) (a : Arguments) (argument : Bytes) (after : List Bytes) :
    Except UsageFailure (Arguments × List Bytes) :=
  let body := argument.drop 2
  match body with
  | [] => .error (.badFlag argument)
  | b :: _ =>
    if b = byte '-' || b = byte '=' then .error (.badFlag argument)
    else
      let (name, attached) := match Bytes.cut? (byte '=') body with
        | some (name, value) => (name, some value)
        | none => (body, none)
      match Flag.named flags name, attached with
      | none, _ => .error (.unknownFlag name)
      | some flag, some value => do return (← a.give flag value, after)
      | some flag, none =>
        if flag.standsAlone then do return (← a.giveAlone flag, after)
        else
          match after with
          | value :: rest => do return (← a.give flag value, rest)
          | [] => .error (.missingValue argument)

/-- How letters begin that are passed over. -/
def passedOver : Bytes := bytes "test."

/-- Reads letters that are run together. -/
def readLetters (flags : List Flag) :
    Arguments → Bytes → List Bytes → Except UsageFailure (Arguments × List Bytes)
  | a, [], after => .ok (a, after)
  | a, letter :: more, after =>
    if passedOver.isPrefixOf (letter :: more) then .ok (a, after)
    else match Flag.lettered flags letter with
    | none => .error (.unknownLetter letter (letter :: more))
    | some flag =>
      if more.length > 1 && more.head? = some (byte '=') then
        do return (← a.give flag (more.drop 1), after)
      else if flag.standsAlone then do
        let a ← a.giveAlone flag
        readLetters flags a more after
      else if !more.isEmpty then do return (← a.give flag more, after)
      else
        match after with
        | value :: rest => do return (← a.give flag value, rest)
        | [] => .error (.missingLetterValue letter (letter :: more))

def isFlag (argument : Bytes) : Bool := argument.length > 1 && argument.head? == some (byte '-')

/-- Reads arguments one after the other; every step takes at least one, so that their number bounds
the steps. -/
def readFrom (flags : List Flag) : Nat → Arguments → List Bytes → Except UsageFailure Arguments
  | 0, a, _ => .ok a
  | _, a, [] => .ok a
  | fuel + 1, a, argument :: after =>
    if !isFlag argument then readFrom flags fuel { a with rest := a.rest ++ [argument] } after
    else if argument = bytes "--" then .ok { a with rest := a.rest ++ after }
    else do
      let (a, left) ← if (bytes "--").isPrefixOf argument then readNamed flags a argument after
        else readLetters flags a (argument.drop 1) after
      readFrom flags fuel a left

def read (flags : List Flag) (arguments : List Bytes) : Except UsageFailure Arguments :=
  readFrom flags arguments.length {} arguments

end Arguments

end BufferMachine
