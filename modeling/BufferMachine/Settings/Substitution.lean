import BufferMachine.Text.Bytes

/-!
# Variables in a path

A dollar sign in a path stands in front of the name of a variable, which may be put in braces.  Some
signs are names of one character.  Braces that are empty or not closed are dropped together with the
dollar sign, and a dollar sign that no name follows stands for itself.
-/

namespace BufferMachine.Substitution

def isNamePart (b : UInt8) : Bool :=
  b == byte '_' || (48 ≤ b && b ≤ 57) || (97 ≤ b && b ≤ 122) || (65 ≤ b && b ≤ 90)

/-- Is the byte a name of its own? -/
def isWholeName (b : UInt8) : Bool := (bytes "*#$@!?-").contains b || (48 ≤ b && b ≤ 57)

/-- What follows a dollar sign. -/
inductive Reference where
  | name (name : Bytes) (length : Nat)
  | broken (length : Nat)
  | none
deriving DecidableEq, Repr

/-- The length of what belongs to a reference. -/
def Reference.length : Reference → Nat
  | .name _ length => length
  | .broken length => length
  | .none => 0

/-- The reference in braces whose first brace has been passed. -/
def braced (text : Bytes) : Reference :=
  match text with
  | b :: c :: _ =>
    if isWholeName b && c == byte '\x7d' then .name [b] 3
    else
      match Bytes.cut? (byte '\x7d') text with
      | some (name, _) => if name.isEmpty then .broken 2 else .name name (name.length + 2)
      | Option.none => .broken 1
  | [b] => if b = byte '\x7d' then .broken 2 else .broken 1
  | [] => .broken 1

def reference (text : Bytes) : Reference :=
  match text with
  | [] => .none
  | b :: rest =>
    if b = byte '\x7b' then braced rest
    else if isWholeName b then .name [b] 1
    else
      let name := text.takeWhile isNamePart
      if name.isEmpty then .none else .name name name.length

/-- Replaces references, after passing over as many bytes as the first argument says. -/
def replaceAfter (value : Bytes → Bytes) : Nat → Bytes → Bytes
  | _, [] => []
  | passed + 1, _ :: rest => replaceAfter value passed rest
  | 0, b :: rest =>
    if b != byte '$' || rest.isEmpty then b :: replaceAfter value 0 rest
    else
      let r := reference rest
      let made := match r with
        | .name name _ => value name
        | .broken _ => []
        | .none => [b]
      made ++ replaceAfter value r.length rest

/-- The text with all references replaced by the values of their variables. -/
def replace (value : Bytes → Bytes) (text : Bytes) : Bytes := replaceAfter value 0 text

end BufferMachine.Substitution
