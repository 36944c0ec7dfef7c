import BufferMachine.Host.Script.Tool

/-!
# Conditions

A condition is about a file, a text, two texts or two numbers, and conditions can be negated, joined
and put in brackets.  The tools `test` and `[` tell by their status whether one holds.
-/

namespace BufferMachine.Script.Condition

open Tool

inductive Fault where
  | badNumber (text : Bytes)
  | unexpectedOperator (text : Bytes)
  | argumentExpected
  | closingExpected
deriving DecidableEq, Repr

def Fault.message : Fault → Bytes
  | .badNumber text => bytes "Illegal number: " ++ text
  | .unexpectedOperator text => text ++ bytes ": unexpected operator"
  | .argumentExpected => bytes "argument expected"
  | .closingExpected => bytes "closing paren expected"

/-- A condition on one text, if the first argument is the sign for one. -/
def unary? (sh : Shell) (sign operand : Bytes) : Option Bool :=
  if sign = bytes "-n" then some (!operand.isEmpty)
  else if sign = bytes "-z" then some operand.isEmpty
  else if sign = bytes "-f" then some (sh.files.isFile operand)
  else if sign = bytes "-d" then some (sh.files.isDirectory operand)
  else if sign = bytes "-s" then some ((sh.files.size? operand).any (0 < ·))
  else if sign = bytes "-c" then some (sh.files.device? operand).isSome
  else if [bytes "-e", bytes "-r", bytes "-w", bytes "-x"].contains sign then
    some (sh.files.exists? operand)
  else if [bytes "-L", bytes "-h", bytes "-b", bytes "-p", bytes "-S", bytes "-t", bytes "-u",
      bytes "-g", bytes "-k"].contains sign then
    some false
  else none

/-- A condition on two texts, if the argument between them is the sign for one. -/
def binary? (left sign right : Bytes) : Option (Except Fault Bool) :=
  let numbers (holds : Int → Int → Bool) : Option (Except Fault Bool) :=
    if !isInt left then some (.error (.badNumber left))
    else if !isInt right then some (.error (.badNumber right))
    else some (.ok (holds (leadingInt left) (leadingInt right)))
  if sign = bytes "=" then some (.ok (left == right))
  else if sign = bytes "!=" then some (.ok (left != right))
  else if sign = bytes "<" then some (.ok (left != right && Bytes.notAfter left right))
  else if sign = bytes ">" then some (.ok (left != right && Bytes.notAfter right left))
  else if sign = bytes "-eq" then numbers (· == ·)
  else if sign = bytes "-ne" then numbers (· != ·)
  else if sign = bytes "-lt" then numbers (· < ·)
  else if sign = bytes "-le" then numbers (· ≤ ·)
  else if sign = bytes "-gt" then numbers (· > ·)
  else if sign = bytes "-ge" then numbers (· ≥ ·)
  else none

mutual

/-- Conditions joined by `-o`. -/
def either : Nat → Shell → List Bytes → Except Fault (Bool × List Bytes)
  | 0, _, _ => .error .argumentExpected
  | fuel + 1, sh, arguments => do
    let (first, rest) ← both fuel sh arguments
    if rest.head? = some (bytes "-o") then
      let (second, left) ← either fuel sh (rest.drop 1)
      return (first || second, left)
    else return (first, rest)

/-- Conditions joined by `-a`. -/
def both : Nat → Shell → List Bytes → Except Fault (Bool × List Bytes)
  | 0, _, _ => .error .argumentExpected
  | fuel + 1, sh, arguments => do
    let (first, rest) ← single fuel sh arguments
    if rest.head? = some (bytes "-a") then
      let (second, left) ← both fuel sh (rest.drop 1)
      return (first && second, left)
    else return (first, rest)

def single : Nat → Shell → List Bytes → Except Fault (Bool × List Bytes)
  | 0, _, _ => .error .argumentExpected
  | fuel + 1, sh, arguments => do
    match arguments with
    | [] => throw .argumentExpected
    | a :: rest =>
      match rest with
      | sign :: right :: more =>
        match binary? a sign right with
        | some result => return (← result, more)
        | none => other fuel sh a rest
      | _ => other fuel sh a rest

/-- A condition that is not about two texts. -/
def other : Nat → Shell → Bytes → List Bytes → Except Fault (Bool × List Bytes)
  | 0, _, _, _ => .error .argumentExpected
  | fuel + 1, sh, a, rest => do
    if a = bytes "!" && !rest.isEmpty then
      let (inner, left) ← single fuel sh rest
      return (!inner, left)
    else if a = bytes "(" && !rest.isEmpty then
      let (inner, left) ← either fuel sh rest
      if left.head? = some (bytes ")") then return (inner, left.drop 1) else throw .closingExpected
    else
      match rest with
      | operand :: more =>
        match unary? sh a operand with
        | some result => return (result, more)
        | none => return (!a.isEmpty, rest)
      | [] => return (!a.isEmpty, [])

end

def holds (sh : Shell) (arguments : List Bytes) : Except Fault Bool :=
  match arguments with
  | [] => .ok false
  | [a] => .ok (!a.isEmpty)
  | [a, b] =>
    if a = bytes "!" then .ok b.isEmpty
    else
      match unary? sh a b with
      | some result => .ok result
      | none => .error (.unexpectedOperator (if isOption a then b else a))
  | _ => do
    let (result, rest) ← either (8 * arguments.length + 8) sh arguments
    match rest with
    | [] => return result
    | extra :: _ => throw (.unexpectedOperator extra)

/-- Tells by its status whether a condition holds, under the name by which it is called. -/
def decide (name : String) (arguments : List Bytes) (sh : Shell) : Shell :=
  match holds sh arguments with
  | .ok result => sh.ended (if result then 0 else 1)
  | .error fault => sh.objectIn (bytes name) 2 fault.message

def test : Tool := decide "test"

/-- The same with a closing bracket. -/
def bracket : Tool := fun arguments sh =>
  if arguments.getLast? = some (bytes "]") then decide "[" arguments.dropLast sh
  else sh.objectIn (bytes "[") 2 (bytes "missing ]")

end BufferMachine.Script.Condition
