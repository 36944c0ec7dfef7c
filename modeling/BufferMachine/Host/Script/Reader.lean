import BufferMachine.Host.Script.Lexeme

/-!
# Reading scripts

A script is read by recursive descent, one line with all that belongs to it at a time: what stands
before a mistake is carried out.  The readers take a bound on the number of steps, which the length
of the script gives.
-/

namespace BufferMachine.Script

inductive SyntaxFault where
  | unexpected (found : Lexeme) (expected : Option String) (line : Nat)
  | badVariable (line : Nat)
  | badFunction (line : Nat)
deriving DecidableEq, Repr

/-- The words that have a meaning of their own where a command may start. -/
def reservedWords : List String :=
  ["!", "case", "do", "done", "elif", "else", "esac", "fi", "for", "if", "in", "then", "until",
    "while", "\x7b", "\x7d"]

def Lexeme.shown : Lexeme → Bytes
  | .word w =>
    match plain? w with
    | some text =>
      if reservedWords.any (bytes · == text) then bytes "\"" ++ text ++ bytes "\""
      else bytes "word"
    | none => bytes "word"
  | .operator name =>
    if name = bytes "\n" then bytes "newline" else bytes "\"" ++ name ++ bytes "\""
  | .redirect .. | .document .. => bytes "redirection"
  | .broken _ | .finish => bytes "end of file"

def SyntaxFault.line : SyntaxFault → Nat
  | .unexpected _ _ line => line
  | .badVariable line => line
  | .badFunction line => line

def SyntaxFault.message : SyntaxFault → Bytes
  | .unexpected (.broken .quotation) _ _ => bytes "Syntax error: Unterminated quoted string"
  | .unexpected (.broken .substitution) _ _ =>
    bytes "Syntax error: end of file unexpected (expecting \")\")"
  | .unexpected (.broken .braces) _ _ => bytes "Syntax error: Missing '\x7d'"
  | .unexpected (.broken .backquotes) _ _ => bytes "Syntax error: EOF in backquote substitution"
  | .unexpected found expected _ =>
    bytes "Syntax error: " ++ found.shown ++ bytes " unexpected" ++
      match expected with
      | some what => bytes " (expecting " ++
        (if what = "word" then bytes what else bytes "\"" ++ bytes what ++ bytes "\"") ++ bytes ")"
      | none => []
  | .badVariable _ => bytes "Syntax error: Bad for loop variable"
  | .badFunction _ => bytes "Syntax error: Bad function name"

abbrev Input := List Token

def next (input : Input) : Token := input.headD ⟨.finish, 1⟩

/-- The fault of finding something else than was expected. -/
def unexpected (input : Input) (expected : Option String := none) : SyntaxFault :=
  .unexpected (next input).lexeme expected (next input).line

def startsWith (word : String) (input : Input) : Bool :=
  match (next input).lexeme with
  | .word w => plain? w == some (bytes word)
  | _ => false

def startsWithOperator (op : String) (input : Input) : Bool :=
  match (next input).lexeme with
  | .operator name => name == bytes op
  | _ => false

def expectWord (word : String) (input : Input) : Except SyntaxFault Input :=
  if startsWith word input then .ok (input.drop 1) else .error (unexpected input word)

def skipLines (input : Input) : Input := input.dropWhile fun t => t.lexeme == .operator (bytes "\n")

/-- The words and operators before which a list of commands ends. -/
def endsList (input : Input) : Bool :=
  ["do", "done", "elif", "else", "esac", "fi", "then", "\x7d"].any (startsWith · input) ||
    startsWithOperator ")" input || startsWithOperator ";;" input

/-! ### Simple commands -/

/-- A redirection at the head of the input, if there is one. -/
def redirection? (input : Input) : Except SyntaxFault (Option (Redirection × Input)) :=
  match input with
  | ⟨.document channel content, _⟩ :: rest => .ok (some (.document channel content, rest))
  | ⟨.redirect channel sign, _⟩ :: rest =>
    match rest with
    | ⟨.word target, _⟩ :: after =>
      let made : Redirection :=
        if sign = bytes ">>" then .append channel target
        else if sign = bytes ">&" || sign = bytes "<&" then .copy channel target
        else if sign = bytes ">" || sign = bytes ">|" then .write channel target
        else .read channel target
      .ok (some (made, after))
    | _ => .error (unexpected rest)
  | _ => .ok none

def redirections : Nat → Input → Except SyntaxFault (List Redirection × Input)
  | 0, input => .ok ([], input)
  | fuel + 1, input => do
    match ← redirection? input with
    | none => return ([], input)
    | some (first, rest) =>
      let (more, after) ← redirections fuel rest
      return (first :: more, after)

/-- A word that assigns to a parameter. -/
def assignment? (w : Word) : Option (Bytes × Word) :=
  match w with
  | .text value false :: rest =>
    match Bytes.cut? (byte '=') value with
    | some (name, after) =>
      if isName name then some (name, if after.isEmpty then rest else .text after false :: rest)
      else none
    | none => none
  | _ => none

/-- The words and redirections of a simple command, in any order. -/
def simpleParts : Nat → Input → Except SyntaxFault (List Word × List Redirection × Input)
  | 0, input => .ok ([], [], input)
  | fuel + 1, input => do
    match (next input).lexeme with
    | .word w =>
      let (words, redirects, after) ← simpleParts fuel (input.drop 1)
      return (w :: words, redirects, after)
    | _ =>
      match ← redirection? input with
      | none => return ([], [], input)
      | some (first, rest) =>
        let (words, redirects, after) ← simpleParts fuel rest
        return (words, first :: redirects, after)

def simpleCommand (input : Input) : Except SyntaxFault (Command × Input) := do
  let (words, redirects, rest) ← simpleParts input.length.succ input
  if words.isEmpty && redirects.isEmpty then throw (unexpected input)
  let assigning := words.takeWhile fun w => (assignment? w).isSome
  return (.simple (next input).line (assigning.filterMap assignment?)
    (words.drop assigning.length) redirects, rest)

def wordsToEnd : Input → List Word × Input
  | ⟨.word w, _⟩ :: rest =>
    let (ws, after) := wordsToEnd rest
    (w :: ws, after)
  | input => ([], input)

/-- The patterns of an arm of `case`, up to the parenthesis that ends them. -/
def patterns : Nat → Input → Except SyntaxFault (List Word × Input)
  | 0, input => .error (unexpected input ")")
  | fuel + 1, input =>
    match input with
    | ⟨.word w, _⟩ :: rest =>
      if startsWithOperator "|" rest then do
        let (ws, after) ← patterns fuel (rest.drop 1)
        return (w :: ws, after)
      else if startsWithOperator ")" rest then .ok ([w], rest.drop 1)
      else .error (unexpected rest ")")
    | _ => .error (unexpected (if (next input).lexeme = .finish then input else input.drop 1) ")")

/-- The name of a function if its definition starts here. -/
def function? (input : Input) : Option (Bytes × Input) :=
  match input with
  | ⟨.word w, _⟩ :: ⟨.operator op, _⟩ :: rest =>
    if op = bytes "(" then (plain? w).map fun name => (name, rest) else none
  | _ => none

/-! ### Commands -/

/-- Where a list of commands stands. -/
inductive ListPlace where
  /-- On a line of its own, which ends it. -/
  | line
  /-- Inside a compound command. -/
  | inside
  /-- In an arm of `case`, where it may be empty. -/
  | arm
deriving DecidableEq, Repr

/-- Two commands one after the other, of which the first may be missing. -/
def follow (first : Option Command) (second : Command) : Option Command :=
  match first with
  | some first => some (.sequence first second)
  | none => some second

mutual

/-- A list of commands, after those already read. -/
def commandList :
    Nat → ListPlace → Option Command → Input → Except SyntaxFault (Option Command × Input)
  | 0, _, made, input => .ok (made, input)
  | fuel + 1, place, made, input => do
    let input := if place = .line then input else skipLines input
    if startsWithOperator "\n" input then return (made, input.drop 1)
    if (next input).lexeme = .finish then return (made, input)
    if (place = .arm || (place = .inside && made.isSome)) && endsList input then
      return (made, input)
    let (found, rest) ← andOr fuel input
    if startsWithOperator "&" rest then
      commandList fuel place (follow made (.background found)) (rest.drop 1)
    else if startsWithOperator ";" rest then
      commandList fuel place (follow made found) (rest.drop 1)
    else if startsWithOperator "\n" rest || (next rest).lexeme = .finish then
      commandList fuel place (follow made found) rest
    else if place = .line then throw (unexpected rest)
    else return (follow made found, rest)

/-- Pipelines with `&&` and `||` between them. -/
def andOr : Nat → Input → Except SyntaxFault (Command × Input)
  | 0, input => .error (unexpected input)
  | fuel + 1, input => do
    let (first, rest) ← pipeline fuel input
    andOrRest fuel first rest

def andOrRest : Nat → Command → Input → Except SyntaxFault (Command × Input)
  | 0, _, input => .error (unexpected input)
  | fuel + 1, first, input =>
    if startsWithOperator "&&" input then do
      let (second, rest) ← pipeline fuel (skipLines (input.drop 1))
      andOrRest fuel (.both first second) rest
    else if startsWithOperator "||" input then do
      let (second, rest) ← pipeline fuel (skipLines (input.drop 1))
      andOrRest fuel (.either first second) rest
    else .ok (first, input)

/-- Commands with `|` between them, negated if `!` stands in front. -/
def pipeline : Nat → Input → Except SyntaxFault (Command × Input)
  | 0, input => .error (unexpected input)
  | fuel + 1, input =>
    if startsWith "!" input then do
      let (inner, rest) ← piped fuel (input.drop 1)
      return (.negated inner, rest)
    else piped fuel input

/-- Commands with `|` between them. -/
def piped : Nat → Input → Except SyntaxFault (Command × Input)
  | 0, input => .error (unexpected input)
  | fuel + 1, input => do
    let (first, rest) ← command fuel input
    if startsWithOperator "|" rest then
      let (second, after) ← piped fuel (skipLines (rest.drop 1))
      return (.pipe first second, after)
    else return (first, rest)

/-- A list of commands inside a compound command. -/
def inner : Nat → ListPlace → Input → Except SyntaxFault (Command × Input)
  | 0, _, input => .error (unexpected input)
  | fuel + 1, place, input => do
    let (made, rest) ← commandList fuel place none input
    return (made.getD .nothing, rest)

def command : Nat → Input → Except SyntaxFault (Command × Input)
  | 0, input => .error (unexpected input)
  | fuel + 1, input => do
    let line := (next input).line
    let grouped (isolated : Bool) (body : Command) (rest : Input) :
      Except SyntaxFault (Command × Input) := do
      let (redirects, after) ← redirections rest.length.succ rest
      return (if redirects.isEmpty && !isolated then body
        else .group line isolated body redirects, after)
    if startsWith "if" input then
      let (made, rest) ← conditional fuel (input.drop 1)
      grouped false made rest
    else if startsWith "while" input || startsWith "until" input then
      let (condition, rest) ← inner fuel .inside (input.drop 1)
      let (body, after) ← inner fuel .inside (← expectWord "do" rest)
      grouped false (.loop (startsWith "while" input) condition body) (← expectWord "done" after)
    else if startsWith "for" input then
      let rest := input.drop 1
      let name := match (next rest).lexeme with
        | .word w => (plain? w).getD []
        | _ => []
      if !isName name then throw (.badVariable (next rest).line)
      let rest := skipLines (rest.drop 1)
      let (words, rest) ← if startsWith "in" rest then
          let (ws, after) := wordsToEnd (rest.drop 1)
          if startsWithOperator "\n" after || startsWithOperator ";" after then
            pure (some ws, after.drop 1)
          else throw (unexpected after)
        else pure (none, if startsWithOperator ";" rest then rest.drop 1 else rest)
      let (body, after) ← inner fuel .inside (← expectWord "do" (skipLines rest))
      grouped false (.forEach line name words body) (← expectWord "done" after)
    else if startsWith "case" input then
      match (next (input.drop 1)).lexeme with
      | .word subject =>
        let rest ← expectWord "in" (skipLines (input.drop 2))
        let (arms, after) ← caseArms fuel (skipLines rest)
        grouped false (.select line subject arms) after
      | _ => throw (unexpected (input.drop 1) "word")
    else if startsWith "\x7b" input then
      let (body, rest) ← inner fuel .inside (input.drop 1)
      grouped false body (← expectWord "\x7d" rest)
    else if startsWithOperator "(" input then
      let (body, rest) ← inner fuel .inside (input.drop 1)
      if startsWithOperator ")" rest then
        grouped true body (rest.drop 1)
      else throw (unexpected rest ")")
    else if endsList input || startsWith "in" input || startsWith "!" input then
      throw (unexpected input)
    else
      match function? input with
      | some (name, rest) =>
        if !startsWithOperator ")" rest then throw (unexpected rest ")")
        if !isName name then throw (.badFunction (next rest).line)
        let (body, after) ← command fuel (skipLines (rest.drop 1))
        return (.define name body, after)
      | none => simpleCommand input

/-- What follows `if` or `elif`. -/
def conditional : Nat → Input → Except SyntaxFault (Command × Input)
  | 0, input => .error (unexpected input)
  | fuel + 1, input => do
    let (condition, rest) ← inner fuel .inside input
    let (consequent, rest) ← inner fuel .inside (← expectWord "then" rest)
    if startsWith "elif" rest then
      let (alternative, after) ← conditional fuel (rest.drop 1)
      return (.branch condition consequent alternative, after)
    else if startsWith "else" rest then
      let (alternative, after) ← inner fuel .inside (rest.drop 1)
      return (.branch condition consequent alternative, ← expectWord "fi" after)
    else return (.branch condition consequent .nothing, ← expectWord "fi" rest)

def caseArms : Nat → Input → Except SyntaxFault (List (List Word × Command) × Input)
  | 0, input => .error (unexpected input)
  | fuel + 1, input => do
    if startsWith "esac" input then return ([], input.drop 1)
    let input := if startsWithOperator "(" input then input.drop 1 else input
    let (ps, rest) ← patterns input.length.succ input
    let (body, rest) ← inner fuel .arm rest
    let rest := skipLines rest
    if startsWith "esac" rest then return ([(ps, body)], rest.drop 1)
    if !startsWithOperator ";;" rest then throw (unexpected rest ";;")
    let (more, after) ← caseArms fuel (skipLines (rest.drop 1))
    return ((ps, body) :: more, after)

end

/-! ### Whole scripts -/

/-- The commands of a script, line by line, and what is wrong after them. -/
def linesUpTo : Nat → Input → List Command × Option SyntaxFault
  | 0, _ => ([], none)
  | fuel + 1, input =>
    match commandList (16 * input.length + 16) .line none input with
    | .error fault => ([], some fault)
    | .ok (made, rest) =>
      if (next rest).lexeme = .finish then (made.toList, none)
      else
        let (more, fault) := linesUpTo fuel rest
        (made.toList ++ more, fault)

/-- The commands of a script whose first line has a number, and what is wrong after them. -/
def read (line : Nat) (script : Bytes) : List Command × Option SyntaxFault :=
  let input := lexemes line script
  linesUpTo input.length.succ input

end BufferMachine.Script
