import BufferMachine.Number.Decimal

/-!
# Integer literals

A literal is a sign, a base mark and digits.  Without a mark the base is ten, `0x`, `0o` and `0b`
mark the bases sixteen, eight and two, and a leading zero marks base eight as well.  Underscores may
stand between digits and after the base mark.  Values have to fit into sixty-four bits with a sign.
-/

namespace BufferMachine.Literal

inductive Fault where
  | malformed
  | tooLarge
deriving DecidableEq, Repr

def Fault.message : Fault → Bytes
  | .malformed => bytes "invalid syntax"
  | .tooLarge => bytes "value out of range"

def lower (b : UInt8) : UInt8 := b ||| 32

def digitValue? (b : UInt8) : Option Nat :=
  if Decimal.isDigit b then some (b.toNat - 48)
  else if 97 ≤ lower b && lower b ≤ 122 then some ((lower b).toNat - 87)
  else none

def markedBase? (b : UInt8) : Option Nat :=
  if lower b = byte 'b' then some 2
  else if lower b = byte 'o' then some 8
  else if lower b = byte 'x' then some 16
  else none

/-- The base of an unsigned literal, and what follows its mark. -/
def splitBase (text : Bytes) : Nat × Bytes :=
  match text with
  | zero :: rest =>
    if zero = byte '0' then
      match rest with
      | mark :: digit :: more =>
        match markedBase? mark with
        | some base => (base, digit :: more)
        | none => (8, rest)
      | _ => (8, rest)
    else (10, text)
  | [] => (10, [])

/-- What was seen last when underscores are checked. -/
inductive Seen where
  | start
  | digit
  | underscore
  | other
deriving DecidableEq, Repr

/-- Does every underscore stand after a digit and before one? -/
def underscoresFit (hexadecimal : Bool) : Seen → Bytes → Bool
  | seen, [] => seen != .underscore
  | seen, b :: rest =>
    if Decimal.isDigit b || (hexadecimal && 97 ≤ lower b && lower b ≤ 102) then
      underscoresFit hexadecimal .digit rest
    else if b = byte '_' then seen == .digit && underscoresFit hexadecimal .underscore rest
    else seen != .underscore && underscoresFit hexadecimal .other rest

/-- Are the underscores of an unsigned literal in order?  A base mark counts as a digit. -/
def underscoresAllowed (text : Bytes) : Bool :=
  match text with
  | zero :: mark :: rest =>
    if zero = byte '0' && (markedBase? mark).isSome then
      underscoresFit (lower mark == byte 'x') .digit rest
    else underscoresFit false .start text
  | _ => underscoresFit false .start text

/-- The value of digits in a base.  A value beyond sixty-four bits is a fault as soon as it is
reached. -/
def magnitude (base : Nat) : Nat → Bytes → Except Fault Nat
  | n, [] => .ok n
  | n, b :: rest =>
    if b = byte '_' then magnitude base n rest
    else
      match digitValue? b with
      | none => .error .malformed
      | some d =>
        if base ≤ d then .error .malformed
        else if Nat.pow 2 64 ≤ n * base + d then .error .tooLarge
        else magnitude base (n * base + d) rest

def unsigned (text : Bytes) : Except Fault Nat :=
  if text.isEmpty then .error .malformed
  else do
    let (base, digits) := splitBase text
    let value ← magnitude base 0 digits
    if digits.contains (byte '_') && !underscoresAllowed text then .error .malformed
    else .ok value

/-- Reads a number with a sign in front or none, given how to read it without one. -/
def signed (read : Bytes → Except Fault Nat) (text : Bytes) : Except Fault Int :=
  match text with
  | [] => .error .malformed
  | sign :: rest =>
    if sign = byte '-' then do
      let n ← read rest
      if Nat.pow 2 63 < n then .error .tooLarge else .ok (-n)
    else do
      let n ← read (if sign = byte '+' then rest else text)
      if Nat.pow 2 63 ≤ n then .error .tooLarge else .ok n

def toInt (text : Bytes) : Except Fault Int := signed unsigned text

/-- Reads the digits of a number in a base, without a mark and without underscores. -/
def inBase (base : Nat) (text : Bytes) : Except Fault Int :=
  signed (fun digits =>
    if digits.isEmpty || digits.contains (byte '_') then .error .malformed
    else magnitude base 0 digits) text

end BufferMachine.Literal
