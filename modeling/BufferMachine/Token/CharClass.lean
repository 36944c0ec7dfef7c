import BufferMachine.Text.Blank

/-!
# Character classes

The scanner decides by the class of a character alone.  The classes are tried in order, so a digit
is a digit although it may also occur inside a word.
-/

namespace BufferMachine

/-- What a character can be part of. -/
inductive CharClass where
  | other
  | blank
  | punctuation
  | digit
  | word
  | operator
deriving DecidableEq, Repr

namespace CharClass

def isDigit (code : Nat) : Bool := 48 ≤ code && code ≤ 57

/-- The characters of identifiers: ASCII letters, digits and the underscore. -/
def isWord (code : Nat) : Bool :=
  (97 ≤ code && code ≤ 122) || (65 ≤ code && code ≤ 90) || isDigit code || code == 95

/-- The six machine operations `> < + - . ,`. -/
def isOperator (code : Nat) : Bool :=
  code == 62 || code == 60 || code == 43 || code == 45 || code == 46 || code == 44

def ofCode (code : Nat) : CharClass :=
  if Text.isBlank code then .blank
  else if code = 59 then .punctuation
  else if isDigit code then .digit
  else if isWord code then .word
  else if isOperator code then .operator
  else .other

/-- The class of any number: what is no code point is of no use to the scanner. -/
def ofInt : Int → CharClass
  | .ofNat code => ofCode code
  | .negSucc _ => .other

end CharClass

end BufferMachine
