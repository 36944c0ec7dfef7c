import BufferMachine.Host.Script.Arithmetic
import BufferMachine.Host.Script.Pattern

/-!
# Expanding words

A word stands for the fields that its parts make when parameters, arithmetic and substitutions are
replaced.  What is not quoted is split at separators, and a pattern takes its special characters
only from what is not quoted.
-/

namespace BufferMachine.Script

/-- A piece of an expanded word. -/
inductive Piece where
  /-- Text that stays in one field. -/
  | fixed (text : Bytes) (quoted : Bool)
  /-- Text that is split at separators. -/
  | divided (text : Bytes)
  /-- The end of a field. -/
  | cut
deriving DecidableEq, Repr

/-! ### Pieces and fields -/

/-- The text of some pieces, put together. -/
def flatText (pieces : List Piece) : Bytes :=
  pieces.flatMap fun
    | .fixed text _ => text
    | .divided text => text
    | .cut => bytes " "

def patternOf (pieces : List Piece) : List PatternByte :=
  pieces.flatMap fun
    | .fixed text quoted => text.map fun b => (b, quoted)
    | .divided text => text.map fun b => (b, false)
    | .cut => []

/-- A field, as a pattern. -/
abbrev Field := List PatternByte

/-- Is the byte a separator that counts for nothing at the ends of fields? -/
def isBlankSeparator (b : UInt8) : Bool := b == byte ' ' || b == 9 || b == newline

/-- Adds a divided text to the field being made.  Blanks around separators belong to them, and
`after` says that a separator other than a blank may still come. -/
def divide (separators : Bytes) : Bool → Bytes → Option Field → List Field × Option Field
  | _, [], current => ([], current)
  | after, b :: rest, current =>
    if !separators.contains b then
      divide separators false rest (some (current.getD [] ++ [(b, false)]))
    else if isBlankSeparator b then
      let (fields, last) := divide separators (after || current.isSome) rest none
      (current.toList ++ fields, last)
    else
      let (fields, last) := divide separators false rest none
      (if after && current.isNone then (fields, last) else (current.getD [] :: fields, last))

/-- The fields that some pieces make, the field being made in front. -/
def fieldsOf (separators : Bytes) : List Piece → Option Field → List Field
  | [], current => current.toList
  | .fixed text quoted :: rest, current =>
    fieldsOf separators rest (some (current.getD [] ++ text.map fun b => (b, quoted)))
  | .divided text :: rest, current =>
    let (fields, last) := divide separators false text current
    fields ++ fieldsOf separators rest last
  | .cut :: rest, current => current.toList ++ fieldsOf separators rest none

/-! ### Expansion -/

/-- How the output of a script inside a word is found. -/
abbrev Substitute := Nat → Bytes → Shell → Bytes × Shell

def pieceOf (text : Bytes) (quoted : Bool) : List Piece :=
  if quoted then [.fixed text true] else [.divided text]

/-- All arguments, each a field of its own if they are quoted. -/
def argumentPieces (arguments : List Bytes) (quoted : Bool) : List Piece :=
  (arguments.map fun a => pieceOf a quoted).intersperse [.cut] |>.flatten

/-- Records that something is wrong with a word, unless something was before. -/
def blame (sh : Shell) (message : Bytes) : Shell := { sh with fault := sh.fault.or (some message) }

/-- The value of a parameter.  A careful script has to have set it. -/
def valueOf (sh : Shell) (name : Bytes) : Bytes × Shell :=
  match sh.parameter? name with
  | some value => (value, sh)
  | none =>
    if sh.careful && name != bytes "@" && name != bytes "*" then
      ([], blame sh (name ++ bytes ": parameter not set"))
    else ([], sh)

def expandWith (expand : Shell → Part → List Piece × Shell) : Shell → Word → List Piece × Shell
  | sh, [] => ([], sh)
  | sh, part :: rest =>
    let (first, after) := expand sh part
    let (more, final) := expandWith expand after rest
    (first ++ more, final)

/-- Expands a part without what a modified parameter or an expression brings in. -/
def expandPlain (substitute : Substitute) (sh : Shell) : Part → List Piece × Shell
  | .text value quoted => ([.fixed value quoted], sh)
  | .parameter name quoted =>
    if name = bytes "@" || (name = bytes "*" && !quoted) then
      (argumentPieces sh.arguments quoted, sh)
    else
      let (value, after) := valueOf sh name
      (pieceOf value quoted, after)
  | .modified name _ _ quoted => (pieceOf ((sh.parameter? name).getD []) quoted, sh)
  | .substitution line script quoted =>
    let (output, after) := substitute line script sh
    (pieceOf (output.reverse.dropWhile (· == newline)).reverse quoted, after)
  | .arithmetic expression quoted => (pieceOf expression quoted, sh)

def expandArithmetic (substitute : Substitute) (sh : Shell) (expression : Bytes) : Bytes × Shell :=
  let (made, after) := expandWith (expandPlain substitute) sh (documentWord expression)
  match Arithmetic.evaluate after (flatText made) with
  | .ok (value, final) => (Decimal.ofInt value, final)
  | .error fault => ([], blame after (fault.message (flatText made)))

def expandUnmodified (substitute : Substitute) (sh : Shell) : Part → List Piece × Shell
  | .arithmetic expression quoted =>
    let (value, after) := expandArithmetic substitute sh expression
    (pieceOf value quoted, after)
  | part => expandPlain substitute sh part

/-- Expands a modified parameter: a default, an alternative, an assignment, a complaint, or the
removal of an ending or a beginning. -/
def expandModified (substitute : Substitute) (sh : Shell) (name operator operand : Bytes)
    (quoted : Bool) :
    List Piece × Shell :=
  let value := sh.parameter? name
  let current := value.getD []
  let word := if quoted then documentWord operand else wholeWord operand
  let (made, after) := expandWith (expandUnmodified substitute) sh word
  let (pattern, afterPattern) := expandWith (expandUnmodified substitute) sh (wholeWord operand)
  let sign := operator.getLast?
  let missing := value.isNone || (operator.head? == some (byte ':') && current.isEmpty)
  if name = bytes "#" then
    (pieceOf (Decimal.ofNat ((sh.parameter? (operator ++ operand)).getD []).length) quoted, sh)
  else if sign = some (byte '-') then
    if missing then (made, after) else (pieceOf current quoted, sh)
  else if sign = some (byte '+') then if missing then (pieceOf [] quoted, sh) else (made, after)
  else if sign = some (byte '=') then
    if missing then
      (pieceOf (flatText made) quoted, after.assign name (flatText made))
    else (pieceOf current quoted, sh)
  else if sign = some (byte '?') then
    if !missing then (pieceOf current quoted, sh)
    else
      let message := if operand.isEmpty then bytes "parameter not set" else flatText made
      ([], blame after (name ++ bytes ": " ++ message))
  else if sign = some (byte '%') then
    (pieceOf (withoutEnd (patternOf pattern) (operator.length == 2) current) quoted, afterPattern)
  else if sign = some (byte '#') then
    (pieceOf (withoutStart (patternOf pattern) (operator.length == 2) current) quoted, afterPattern)
  else ([], blame sh (bytes "Bad substitution"))

def expandPart (substitute : Substitute) (sh : Shell) : Part → List Piece × Shell
  | .modified name operator operand quoted =>
    expandModified substitute sh name operator operand quoted
  | part => expandUnmodified substitute sh part

def expandPieces (substitute : Substitute) (sh : Shell) (word : Word) : List Piece × Shell :=
  expandWith (expandPart substitute) sh word

def expandText (substitute : Substitute) (sh : Shell) (word : Word) : Bytes × Shell :=
  let (pieces, after) := expandPieces substitute sh word
  (flatText pieces, after)

/-- Expands words into fields, and patterns into the paths that have their form. -/
def expandWords (substitute : Substitute) : Shell → List Word → List Bytes × Shell
  | sh, [] => ([], sh)
  | sh, word :: rest =>
    let (pieces, after) := expandPieces substitute sh word
    let fields := (fieldsOf after.separators pieces none).flatMap (pathsOf after.files)
    let (more, final) := expandWords substitute after rest
    (fields ++ more, final)

end BufferMachine.Script
