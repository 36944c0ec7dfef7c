import BufferMachine.Host.Script.Shell
import BufferMachine.Number.Literal

/-!
# Arithmetic in scripts

Expressions over whole numbers of 64 bits with the operators of C.  A name stands for the value of
its variable, which is zero if it is not set, and can be assigned to.
-/

namespace BufferMachine.Script.Arithmetic

inductive Fault where
  | expecting (what : String)
  | divisionByZero
  | badNumber (text : Bytes)
deriving DecidableEq, Repr

def Fault.message (expression : Bytes) : Fault → Bytes
  | .expecting what => bytes "arithmetic expression: expecting " ++ bytes what ++ bytes ": \"" ++
    expression ++ bytes "\""
  | .divisionByZero =>
    bytes "arithmetic expression: division by zero: \"" ++ expression ++ bytes "\""
  | .badNumber text => bytes "Illegal number: " ++ text

inductive Lexeme where
  | number (value : Int)
  | name (name : Bytes)
  | operator (name : Bytes)
deriving DecidableEq, Repr

/-- The operators, longer ones first. -/
def operators : List Bytes :=
  ["<<=", ">>=", "<=", ">=", "==", "!=", "&&", "||", "<<", ">>", "+=", "-=", "*=", "/=", "%=", "&=",
    "|=", "^=", "<", ">", "+", "-", "*", "/", "%", "!", "~", "&", "|", "^", "?", ":", "=", "(",
    ")"].map bytes

/-- The lexemes of an expression; reading stops at what is no lexeme. -/
def lexemes : Nat → Bytes → List Lexeme
  | 0, _ => []
  | _, [] => []
  | fuel + 1, b :: rest =>
    let text := b :: rest
    if b = byte ' ' || b = 9 || b = newline then lexemes fuel rest
    else if Decimal.isDigit b then
      let digits := text.takeWhile isNameByte
      .number ((Literal.toInt digits).toOption.getD 0) :: lexemes fuel (text.drop digits.length)
    else if isNameByte b then
      .name (text.takeWhile isNameByte) :: lexemes fuel (text.dropWhile isNameByte)
    else
      match operators.find? (·.isPrefixOf text) with
      | some op => .operator op :: lexemes fuel (text.drop op.length)
      | none => []

/-- A number of 64 bits. -/
def wrap (n : Int) : Int := Int.bmod n (Nat.pow 2 64)

def ofBool (b : Bool) : Int := if b then 1 else 0

def apply (op : Bytes) (x y : Int) : Except Fault Int :=
  let bits (f : UInt64 → UInt64 → UInt64) : Int :=
    (f (UInt64.ofInt x) (UInt64.ofInt y)).toInt64.toInt
  if op = bytes "*" then .ok (wrap (x * y))
  else if op = bytes "/" then if y = 0 then .error .divisionByZero else .ok (wrap (Int.tdiv x y))
  else if op = bytes "%" then if y = 0 then .error .divisionByZero else .ok (Int.tmod x y)
  else if op = bytes "+" then .ok (wrap (x + y))
  else if op = bytes "-" then .ok (wrap (x - y))
  else if op = bytes "<<" then .ok (wrap (x * Nat.pow 2 (y % 64).toNat))
  else if op = bytes ">>" then .ok (x / Nat.pow 2 (y % 64).toNat)
  else if op = bytes "<" then .ok (ofBool (x < y))
  else if op = bytes "<=" then .ok (ofBool (x ≤ y))
  else if op = bytes ">" then .ok (ofBool (y < x))
  else if op = bytes ">=" then .ok (ofBool (y ≤ x))
  else if op = bytes "==" then .ok (ofBool (x = y))
  else if op = bytes "!=" then .ok (ofBool (x ≠ y))
  else if op = bytes "&" then .ok (bits (· &&& ·))
  else if op = bytes "^" then .ok (bits (· ^^^ ·))
  else if op = bytes "|" then .ok (bits (· ||| ·))
  else if op = bytes "&&" then .ok (ofBool (x ≠ 0 && y ≠ 0))
  else .ok (ofBool (x ≠ 0 || y ≠ 0))

def strength? (op : Bytes) : Option Nat :=
  [(bytes "*", 10), (bytes "/", 10), (bytes "%", 10), (bytes "+", 9), (bytes "-", 9),
    (bytes "<<", 8), (bytes ">>", 8), (bytes "<", 7), (bytes "<=", 7), (bytes ">", 7),
    (bytes ">=", 7), (bytes "==", 6), (bytes "!=", 6), (bytes "&", 5), (bytes "^", 4),
    (bytes "|", 3), (bytes "&&", 2), (bytes "||", 1)].lookup op

/-- The operator that an assignment applies first, if the lexeme is one. -/
def assigning? (op : Bytes) : Option (Option Bytes) :=
  if op = bytes "=" then some none
  else if ["<<=", ">>=", "+=", "-=", "*=", "/=", "%=", "&=", "|=", "^="].any (bytes · == op) then
    some (some op.dropLast)
  else none

def valueOf (sh : Shell) (name : Bytes) : Except Fault Int :=
  let text := ((sh.value? name).getD []).dropWhile (· == byte ' ')
  if text.isEmpty then .ok 0
  else
    match Literal.toInt text with
    | .ok n => .ok n
    | .error _ => .error (.badNumber text)

mutual

/-- An expression that may assign or choose. -/
def expression : Nat → Bool → Shell → List Lexeme → Except Fault (Int × Shell × List Lexeme)
  | 0, _, _, _ => .error (.expecting "primary")
  | fuel + 1, live, sh, input => do
    match input with
    | .name name :: .operator op :: rest =>
      match assigning? op with
      | some combined =>
        let (y, sh, left) ← expression fuel live sh rest
        let value ← match combined with
          | some op => if live then do apply op (← valueOf sh name) y else pure 0
          | none => pure y
        return (value, if live then sh.assign name (Decimal.ofInt value) else sh, left)
      | none => choice fuel live sh input
    | _ => choice fuel live sh input

/-- An expression that may choose between two others. -/
def choice : Nat → Bool → Shell → List Lexeme → Except Fault (Int × Shell × List Lexeme)
  | 0, _, _, _ => .error (.expecting "primary")
  | fuel + 1, live, sh, input => do
    let (x, sh, rest) ← binary fuel live 1 sh input
    match rest with
    | .operator op :: more =>
      if op != bytes "?" then return (x, sh, rest)
      let (y, sh, rest) ← expression fuel (live && x ≠ 0) sh more
      match rest with
      | .operator colon :: more =>
        if colon != bytes ":" then throw (.expecting "':'")
        let (z, sh, rest) ← choice fuel (live && x = 0) sh more
        return (if x ≠ 0 then y else z, sh, rest)
      | _ => throw (.expecting "':'")
    | _ => return (x, sh, rest)

/-- Operators that bind at least so tightly. -/
def binary : Nat → Bool → Nat → Shell → List Lexeme → Except Fault (Int × Shell × List Lexeme)
  | 0, _, _, _, _ => .error (.expecting "primary")
  | fuel + 1, live, least, sh, input => do
    let (x, sh, rest) ← unary fuel live sh input
    binaryRest fuel live least x sh rest

def binaryRest :
    Nat → Bool → Nat → Int → Shell → List Lexeme → Except Fault (Int × Shell × List Lexeme)
  | 0, _, _, _, _, _ => .error (.expecting "primary")
  | fuel + 1, live, least, x, sh, input => do
    match input with
    | .operator op :: rest =>
      match strength? op with
      | some strength =>
        if strength < least then return (x, sh, input)
        let needed := live && !(op == bytes "&&" && x = 0) && !(op == bytes "||" && x ≠ 0)
        let (y, sh, left) ← binary fuel needed (strength + 1) sh rest
        let value ← if live then apply op x (if needed then y else x) else pure 0
        binaryRest fuel live least value sh left
      | none => return (x, sh, input)
    | _ => return (x, sh, input)

/-- A number, a name, or an expression in brackets, after signs. -/
def unary : Nat → Bool → Shell → List Lexeme → Except Fault (Int × Shell × List Lexeme)
  | 0, _, _, _ => .error (.expecting "primary")
  | fuel + 1, live, sh, input => do
    match input with
    | .number n :: rest => return (n, sh, rest)
    | .name name :: rest =>
      let value ← if live then valueOf sh name else pure 0
      return (value, sh, rest)
    | .operator op :: rest =>
      if op = bytes "(" then
        let (x, sh, left) ← expression fuel live sh rest
        match left with
        | .operator closed :: more =>
          if closed = bytes ")" then return (x, sh, more) else throw (.expecting "')'")
        | _ => throw (.expecting "')'")
      else if op = bytes "-" then
        let (x, sh, left) ← unary fuel live sh rest
        return (wrap (-x), sh, left)
      else if op = bytes "+" then unary fuel live sh rest
      else if op = bytes "!" then
        let (x, sh, left) ← unary fuel live sh rest
        return (ofBool (x = 0), sh, left)
      else if op = bytes "~" then
        let (x, sh, left) ← unary fuel live sh rest
        return (-x - 1, sh, left)
      else throw (.expecting "primary")
    | [] => throw (.expecting "primary")

end

/-- The value of an expression; the variables may change. -/
def evaluate (sh : Shell) (text : Bytes) : Except Fault (Int × Shell) := do
  let input := lexemes text.length.succ text
  if input.isEmpty then return (0, sh)
  let (value, sh, rest) ← expression (16 * input.length + 16) true sh input
  if rest.isEmpty then return (value, sh) else throw (.expecting "EOF")

end BufferMachine.Script.Arithmetic
