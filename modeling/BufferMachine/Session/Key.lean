import BufferMachine.Text.Numeral
import BufferMachine.Text.Utf8

/-!
# Keys

The characters that a session reads are keys: most of them stand for themselves and are put into the
line, control characters edit the line, and an escape character changes the meaning of what follows.
After an escape character and an opening bracket or a capital O come numerals and semicolons, if
any, and one last character that names the key; an unknown name is no key at all.
-/

namespace BufferMachine

/-- What a user does to the line. -/
inductive Key where
  | insert (code : Nat)
  | lineStart
  | lineEnd
  | back
  | forward
  | wordBack
  | wordForward
  /-- Deletes the character at the cursor, or ends the input if the line is empty. -/
  | delete
  | backspace
  | deleteWord
  | eraseWord
  | killToEnd
  | killToStart
  | transpose
  | yank
  | older
  | newer
  | complete
  | search
  | clearScreen
  | cancel
  | enter
  | interrupt
  /-- The end of the input. -/
  | finish
deriving DecidableEq, Repr

namespace Key

def escapeCode : Nat := 27

/-- The code of the suspend character, which is ignored. -/
def suspendCode : Nat := 26

def deleteCode : Nat := 127

def controls : List (Nat × Key) :=
  [(0, .finish), (1, .lineStart), (2, .back), (3, .interrupt), (4, .delete), (5, .lineEnd),
    (6, .forward), (7, .cancel), (8, .backspace), (9, .complete), (10, .enter), (11, .killToEnd),
    (12, .clearScreen), (13, .enter), (14, .newer), (16, .older), (18, .search), (19, .search),
    (20, .transpose), (21, .killToStart), (23, .eraseWord), (25, .yank), (deleteCode, .backspace)]

def ofCode (code : Nat) : Key := (controls.lookup code).getD (.insert code)

/-- The keys that an escape character makes of other characters.  A transposition becomes a
character that cannot be shown. -/
def escaped : List (Nat × Key) :=
  [(98, .wordBack), (102, .wordForward), (100, .deleteWord), (20, .insert Utf8.replacement),
    (deleteCode, .eraseWord)]

def lettered : List (Nat × Key) :=
  [(65, .older), (66, .newer), (67, .forward), (68, .back), (70, .lineEnd), (72, .lineStart)]

/-- The key with a name after a bracket: a letter, or a tilde after a number. -/
def bracketed? (parameters : List Nat) (name : Nat) : Option Key :=
  if name = 126 then if parameters = [51] then some .delete else none else lettered.lookup name

def isParameter (code : Nat) : Bool := code == 59 || Text.isNumeral code

/-- What the next character belongs to. -/
inductive Mode where
  | plain
  | escape
  /-- The name of a key after a bracket; the characters before it are given from the last one. -/
  | bracket (parameters : List Nat)
  /-- The name of a key after a capital O. -/
  | letter
deriving DecidableEq, Repr

def ofCodesIn : Mode → List Nat → List Key
  | _, [] => []
  | .plain, c :: rest =>
    if c = escapeCode then ofCodesIn .escape rest
    else if c = suspendCode then ofCodesIn .plain rest
    else ofCode c :: ofCodesIn .plain rest
  | .escape, c :: rest =>
    if c = 91 then ofCodesIn (.bracket []) rest
    else if c = 79 then ofCodesIn .letter rest
    else if c = escapeCode then ofCodesIn .escape rest
    else if c = suspendCode then ofCodesIn .plain rest
    else (escaped.lookup c).getD (ofCode c) :: ofCodesIn .plain rest
  | .bracket parameters, c :: rest =>
    if isParameter c then ofCodesIn (.bracket (c :: parameters)) rest
    else (bracketed? parameters.reverse c).toList ++ ofCodesIn .plain rest
  | .letter, c :: rest =>
    if isParameter c then ofCodesIn .letter rest
    else (lettered.lookup c).toList ++ ofCodesIn .plain rest

/-- The keys in an input; what cannot be decoded is a replacement character. -/
def ofInput (input : Bytes) : List Key := ofCodesIn .plain ((Utf8.characters input).map (·.code))

end Key

end BufferMachine
