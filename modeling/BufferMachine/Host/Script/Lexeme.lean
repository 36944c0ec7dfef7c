import BufferMachine.Host.Script.Command
import BufferMachine.Number.Decimal

/-!
# Lexemes of scripts

A script is cut into words, operators and redirections, each with the line that it ends on.  The
text of a document that a redirection introduces is taken out of the lines that follow and put into
the redirection.  A quotation or bracket that is not closed ends the script at a broken lexeme.
-/

namespace BufferMachine.Script

/-- What is not closed when a script ends. -/
inductive Unclosed where
  | quotation
  | substitution
  | braces
  | backquotes
deriving DecidableEq, Repr

inductive Lexeme where
  | word (w : Word)
  | operator (name : Bytes)
  /-- The start of a redirection: its channel and its sign. -/
  | redirect (channel : Nat) (sign : Bytes)
  /-- A redirection whose text stands in the script. -/
  | document (channel : Nat) (content : Word)
  | broken (cause : Unclosed)
  | finish
deriving DecidableEq, Repr

/-- A lexeme and the line that it ends on. -/
structure Token where
  lexeme : Lexeme
  line : Nat
deriving DecidableEq, Repr

def backquote : UInt8 := 96

def endsWord (b : UInt8) : Bool :=
  b == byte ' ' || b == 9 || b == newline || b == byte ';' || b == byte '&' || b == byte '|' ||
    b == byte '<' || b == byte '>' || b == byte '(' || b == byte ')'

def isNameByte (b : UInt8) : Bool :=
  (97 ≤ b && b ≤ 122) || (65 ≤ b && b ≤ 90) || Decimal.isDigit b || b == byte '_'

def isName (text : Bytes) : Bool :=
  !text.isEmpty && text.all isNameByte && !(text.head?.any Decimal.isDigit)

/-- Is the byte the name of a special or positional parameter? -/
def isSpecialParameter (b : UInt8) : Bool :=
  Decimal.isDigit b || b == byte '@' || b == byte '*' || b == byte '#' || b == byte '?' ||
    b == byte '$' || b == byte '!' || b == byte '-'

/-! ### Brackets -/

/-- The text up to the single quotation mark that comes next, and the text after it. -/
def toQuote (text : Bytes) : Option (Bytes × Bytes) := Bytes.cut? (byte '\'') text

/-- Splits the text after an opening bracket at the bracket that closes it.  Brackets in quotations
do not count; the depth counts brackets that are open, and `inQuotes` says whether a double
quotation is. -/
def closing (opening closed : UInt8) : Nat → Bool → Nat → Bytes → Option (Bytes × Bytes)
  | 0, _, _, _ => none
  | _, _, _, [] => none
  | fuel + 1, inQuotes, depth, b :: rest =>
    let more (taken : Bytes) (inQuotes : Bool) (depth : Nat) (text : Bytes) :
      Option (Bytes × Bytes) :=
      (closing opening closed fuel inQuotes depth text).map fun (inner, after) =>
        (taken ++ inner, after)
    if b = byte '\\' then more (rest.take 1 |>.cons b) inQuotes depth (rest.drop 1)
    else if b = byte '"' then more [b] (!inQuotes) depth rest
    else if b = byte '\'' && !inQuotes then
      (toQuote rest).bind fun (inside, after) => more (b :: inside ++ [b]) inQuotes depth after
    else if b = closed && !inQuotes then
      match depth with
      | 0 => some ([], rest)
      | d + 1 => more [b] inQuotes d rest
    else more [b] inQuotes (if b = opening && !inQuotes then depth + 1 else depth) rest

/-- Splits the text after an opening bracket at the bracket that closes it. -/
def toClosing (opening closed : UInt8) (text : Bytes) : Option (Bytes × Bytes) :=
  closing opening closed text.length.succ false 0 text

/-- The text up to the next backquote, without the backslashes that protect signs in it, and the
text after it. -/
def toBackquote (inQuotes : Bool) : Bytes → Option (Bytes × Bytes)
  | [] => none
  | [b] => if b = backquote then some ([], []) else none
  | b :: c :: rest =>
    if b = backquote then some ([], c :: rest)
    else if b = byte '\\' &&
      (c = byte '$' || c = byte '\\' || c = backquote || (inQuotes && c = byte '"')) then
      (toBackquote inQuotes rest).map fun (inner, after) => (c :: inner, after)
    else (toBackquote inQuotes (c :: rest)).map fun (inner, after) => (b :: inner, after)

/-! ### Words -/

/-- The parameter in braces: its name, and what follows the name. -/
def bracedParameter (inside : Bytes) (quoted : Bool) : Part :=
  let name := match inside with
    | b :: _ => if isNameByte b && !Decimal.isDigit b then inside.takeWhile isNameByte
                else if Decimal.isDigit b then inside.takeWhile Decimal.isDigit
                else [b]
    | [] => []
  match inside.drop name.length with
  | [] => .parameter name quoted
  | op :: rest =>
    match rest with
    | second :: operand =>
      if op = byte ':' || (second = op && (op = byte '%' || op = byte '#')) then
        .modified name [op, second] operand quoted
      else .modified name [op] rest quoted
    | [] => .modified name [op] [] quoted

/-- The expression of an arithmetic substitution whose inner brackets have been taken, if it is
one. -/
def arithmetic? (inside : Bytes) : Option Bytes :=
  match inside with
  | b :: rest =>
    if b = byte '(' then
      match toClosing (byte '(') (byte ')') rest with
      | some (expression, []) => some expression
      | _ => none
    else none
  | [] => none

def dollar (line : Nat) (text : Bytes) (quoted : Bool) : Except Unclosed (Part × Bytes) :=
  match text with
  | [] => .ok (.text (bytes "$") quoted, [])
  | b :: rest =>
    if b = byte '(' then
      match toClosing (byte '(') (byte ')') rest with
      | none => .error .substitution
      | some (inside, after) =>
        match arithmetic? inside with
        | some expression => .ok (.arithmetic expression quoted, after)
        | none => .ok (.substitution line inside quoted, after)
    else if b = byte '\x7b' then
      match toClosing (byte '\x7b') (byte '\x7d') rest with
      | none => .error .braces
      | some (inside, after) => .ok (bracedParameter inside quoted, after)
    else if isSpecialParameter b then .ok (.parameter [b] quoted, rest)
    else if isNameByte b then
      .ok (.parameter (text.takeWhile isNameByte) quoted, text.dropWhile isNameByte)
    else .ok (.text (bytes "$") quoted, text)

/-- The parts up to the closing double quotation mark, which a document does not have. -/
def doubleQuoted (document : Bool) (line : Nat) : Nat → Bytes → Except Unclosed (Word × Bytes)
  | 0, _ => .error .quotation
  | _, [] => if document then .ok ([], []) else .error .quotation
  | fuel + 1, b :: rest =>
    let more (part : Part) (text : Bytes) : Except Unclosed (Word × Bytes) := do
      let (parts, after) ← doubleQuoted document line fuel text
      return (part :: parts, after)
    if b = byte '"' && !document then .ok ([], rest)
    else if b = byte '\\' then
      match rest with
      | c :: after =>
        if c = newline then doubleQuoted document line fuel after
        else if c = byte '$' || (c = byte '"' && !document) || c = byte '\\' || c = backquote then
          more (.text [c] true) after
        else more (.text [b] true) rest
      | [] => more (.text [b] true) []
    else if b = byte '$' then do
      let (part, after) ← dollar line rest true
      more part after
    else if b = backquote then
      match toBackquote true rest with
      | none => .error .backquotes
      | some (inside, after) => more (.substitution line inside true) after
    else more (.text [b] true) rest

def wordParts (stops : UInt8 → Bool) (line : Nat) : Nat → Bytes → Except Unclosed (Word × Bytes)
  | 0, text => .ok ([], text)
  | _, [] => .ok ([], [])
  | fuel + 1, b :: rest =>
    let more (first : Word) (text : Bytes) : Except Unclosed (Word × Bytes) := do
      let (parts, after) ← wordParts stops line fuel text
      return (first ++ parts, after)
    if stops b then .ok ([], b :: rest)
    else if b = byte '\\' then
      match rest with
      | c :: after =>
        if c = newline then wordParts stops line fuel after else more [.text [c] true] after
      | [] => .ok ([.text [b] true], [])
    else if b = byte '\'' then
      match toQuote rest with
      | none => .error .quotation
      | some (inside, after) => more [.text inside true] after
    else if b = byte '"' then do
      let (parts, after) ← doubleQuoted false line rest.length.succ rest
      more (if parts.isEmpty then [.text [] true] else parts) after
    else if b = byte '$' then do
      let (part, after) ← dollar line rest false
      more [part] after
    else if b = backquote then
      match toBackquote false rest with
      | none => .error .backquotes
      | some (inside, after) => more [.substitution line inside false] after
    else more [.text [b] false] rest

/-- Joins neighbouring texts that are quoted alike. -/
def joinTexts : Word → Word
  | .text a p :: rest =>
    match joinTexts rest with
    | .text b q :: more =>
      if p = q then .text (a ++ b) p :: more else .text a p :: .text b q :: more
    | more => .text a p :: more
  | part :: rest => part :: joinTexts rest
  | [] => []

/-- Reads a text that is a single word, such as the operand of a parameter. -/
def wholeWord (text : Bytes) : Word :=
  match wordParts (fun _ => false) 1 text.length.succ text with
  | .ok (parts, _) => joinTexts parts
  | .error _ => [.text text true]

/-- Reads a text in which parameters and substitutions are replaced but nothing else has a
meaning. -/
def documentWord (text : Bytes) : Word :=
  match doubleQuoted true 1 text.length.succ text with
  | .ok (parts, _) => joinTexts parts
  | .error _ => [.text text true]

/-- The word as plain text, if nothing of it is quoted or replaced. -/
def plain? : Word → Option Bytes
  | [.text value false] => some value
  | _ => none

/-- The text of a word, whether it is quoted or not. -/
def bareText (w : Word) : Bytes :=
  w.flatMap fun
    | .text value _ => value
    | _ => []

/-! ### Documents -/

/-- Takes a document out of a text whose first line goes on after the redirection: the content, the
text without it, and how many lines it took.  Without a line that ends it the document goes on to
the end of the text. -/
def takeDocument (ending : Bytes) (stripped : Bool) (text : Bytes) : Bytes × Bytes × Nat :=
  let first := text.takeWhile (· ≠ newline)
  let lines := Bytes.pieces newline (text.drop (first.length + 1))
  let content :=
    (lines.map fun line => if stripped then line.dropWhile (· == 9) else line).takeWhile
      (· ≠ ending)
  let after := lines.drop (content.length + 1)
  if content.length < lines.length then
    (Bytes.unlines content, first ++ [newline] ++ List.intercalate [newline] after,
      content.length + 1)
  else (List.intercalate [newline] content, first ++ [newline], content.length - 1)

/-! ### Lexemes -/

def redirectSigns : List Bytes :=
  [bytes "<<-", bytes "<<", bytes "<>", bytes ">>", bytes ">&", bytes "<&", bytes ">|",
    bytes ">", bytes "<"]

def operators : List Bytes :=
  [bytes "&&", bytes "||", bytes ";;", bytes ";", bytes "&", bytes "|", bytes "(", bytes ")"]

/-- A redirection sign at the head of a text, perhaps after the digit of a channel, and what follows
it. -/
def redirect? (text : Bytes) : Option (Nat × Bytes × Bytes) :=
  let digits := (text.take 1).takeWhile Decimal.isDigit
  let afterDigits := text.drop digits.length
  (redirectSigns.find? (·.isPrefixOf afterDigits)).map fun sign =>
    let standard := if sign.head? = some (byte '<') then 0 else 1
    (if digits.isEmpty then standard else Decimal.value digits, sign, afterDigits.drop sign.length)

/-- The lexemes of a script, with `extra` lines of documents to be counted at the end of the
line. -/
def lexemesUpTo : Nat → Nat → Nat → Bytes → List Token
  | 0, line, _, _ => [⟨.finish, line⟩]
  | _, line, extra, [] => [⟨.finish, line + extra⟩]
  | fuel + 1, line, extra, b :: rest =>
    let text := b :: rest
    if b = newline then ⟨.operator (bytes "\n"), line + extra + 1⟩ ::
      lexemesUpTo fuel (line + extra + 1) 0 rest
    else if b = byte ' ' || b = 9 then lexemesUpTo fuel line extra rest
    else if b = byte '#' then lexemesUpTo fuel line extra (rest.dropWhile (· ≠ newline))
    else if b = byte '\\' && rest.head? = some newline then
      lexemesUpTo fuel (line + 1) extra (rest.drop 1)
    else
      match redirect? text with
      | some (channel, sign, after) =>
        if sign = bytes "<<" || sign = bytes "<<-" then
          match wordParts endsWord line after.length.succ
            (after.dropWhile fun b => b == byte ' ' || b == 9) with
          | .error cause => [⟨.broken cause, line + text.count newline⟩]
          | .ok (ending, left) =>
            let (content, left, count) := takeDocument (bareText ending) (sign = bytes "<<-") left
            let plain := (plain? (joinTexts ending)).isSome
            let word := if plain then documentWord content else [.text content true]
            ⟨.document channel word, line⟩ :: lexemesUpTo fuel line (extra + count) left
        else ⟨.redirect channel sign, line⟩ :: lexemesUpTo fuel line extra after
      | none =>
        match operators.find? (·.isPrefixOf text) with
        | some op => ⟨.operator op, line⟩ :: lexemesUpTo fuel line extra (text.drop op.length)
        | none =>
          match wordParts endsWord line text.length.succ text with
          | .error cause => [⟨.broken cause, line + text.count newline⟩]
          | .ok (parts, after) =>
            let taken := (text.take (text.length - after.length)).count newline
            ⟨.word (joinTexts parts), line + taken⟩ :: lexemesUpTo fuel (line + taken) extra after

/-- The lexemes of a script whose first line has a number. -/
def lexemes (line : Nat) (script : Bytes) : List Token :=
  lexemesUpTo (script.length + 1) line 0 script

end BufferMachine.Script
