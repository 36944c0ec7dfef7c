import BufferMachine.Number.Floating
import BufferMachine.Toml.Fault

/-!
# Numbers in TOML

Whole numbers are written in base ten with a sign, or without one in base sixteen, eight or two
after a mark in small letters; fractions have a point, an exponent or both.  An underscore may stand
between two digits.
-/

namespace BufferMachine.Toml

def isSign (b : UInt8) : Bool := b == byte '+' || b == byte '-'

def underscore : UInt8 := byte '_'

/-! ### Whole numbers -/

/-- Takes underscores out; none may follow another one directly. -/
def dropUnderscores : Bool → Bytes → Except Fault Bytes
  | _, [] => .ok []
  | digitBefore, b :: rest =>
    if b = underscore then
      if digitBefore then dropUnderscores false rest else .error .underscoresTogether
    else do return b :: (← dropUnderscores true rest)

def integerDigits (text : Bytes) : Except Fault Bytes :=
  let digits := if (text.head?.map isSign).getD false then text.drop 1 else text
  if digits.isEmpty then .ok text
  else if digits.head? = some underscore then .error .underscoreFirst
  else if text.getLast? = some underscore then .error .underscoreLast
  else dropUnderscores true text

def markedBases : List (UInt8 × Nat × String) :=
  [(byte 'x', 16, "hexadecimal"), (byte 'b', 2, "binary"), (byte 'o', 8, "octal")]

/-- The base of a whole number that is longer than its mark. -/
def markedBase? : Bytes → Option (Nat × String)
  | zero :: mark :: _ :: _ => if zero = byte '0' then markedBases.lookup mark else none
  | _ => none

def integerIn (base : Nat) (name : String) (digits : Bytes) : Except Fault Int :=
  (Literal.inBase base digits).mapError (.badInteger name digits)

def integer (text : Bytes) : Except Fault Int :=
  match markedBase? text with
  | some (base, name) => do integerIn base name (← integerDigits (text.drop 2))
  | none => do
    let digits ← integerDigits text
    let unsigned := if (digits.head?.map isSign).getD false then digits.drop 1 else digits
    if unsigned.length > 1 && unsigned.head? = some (byte '0') then .error .leadingZero
    else integerIn 10 "decimal" digits

/-! ### Fractions -/

def dropFractionUnderscores : Bool → Option UInt8 → Bytes → Except Fault Bytes
  | _, _, [] => .ok []
  | digitBefore, previous, b :: rest =>
    let next := rest.head?
    let isExponent (c : UInt8) : Bool := c == byte 'e' || c == byte 'E'
    if b = underscore then
      if !digitBefore then .error .underscoresTogether
      else if (next.map isExponent).getD false then .error .underscoreBeforeExponent
      else dropFractionUnderscores false (some b) rest
    else if isSign b then do return b :: (← dropFractionUnderscores false (some b) rest)
    else if isExponent b then
      if next = some underscore then .error .underscoreAfterExponent
      else do return b :: (← dropFractionUnderscores digitBefore (some b) rest)
    else if b = byte '.' then
      if next = some underscore then .error .underscoreAfterPoint
      else if previous = some underscore then .error .underscoreBeforePoint
      else do return b :: (← dropFractionUnderscores digitBefore (some b) rest)
    else do return b :: (← dropFractionUnderscores true (some b) rest)

def fractionDigits (text : Bytes) : Except Fault Bytes :=
  if text.head? = some underscore then .error .underscoreFirst
  else if text.getLast? = some underscore then .error .underscoreLast
  else if text.contains underscore then dropFractionUnderscores false none text
  else .ok text

/-- Checks that a point stands between digits, and that there is only one. -/
def checkPoint : Bool → Option UInt8 → Bytes → Except Fault Unit
  | _, _, [] => .ok ()
  | seen, previous, b :: rest =>
    if b != byte '.' then checkPoint seen (some b) rest
    else if seen then .error .twoPoints
    else if !(previous.map Decimal.isDigit).getD false then .error .nothingBeforePoint
    else if !(rest.head?.map Decimal.isDigit).getD false then .error .nothingAfterPoint
    else checkPoint true (some b) rest

/-- An exponent: a sign and digits, or nothing if there is none.  What is beyond all range is cut
off. -/
def exponent? (text : Bytes) : Option Int :=
  match text with
  | [] => some 0
  | mark :: rest =>
    if mark != byte 'e' && mark != byte 'E' then none
    else
      let negative := rest.head? = some (byte '-')
      let digits := if (rest.head?.map isSign).getD false then rest.drop 1 else rest
      (Decimal.toNat? digits).map fun n =>
        let bounded : Int := min n 100000
        if negative then -bounded else bounded

/-- The number that the characters of a fraction stand for, if they are in order. -/
def fractionValue? (text : Bytes) : Option Floating :=
  let negative := text.head? = some (byte '-')
  let body := if (text.head?.map isSign).getD false then text.drop 1 else text
  if body = bytes "inf" then some (.infinite negative)
  else if text = bytes "nan" then some .undefined
  else
    let whole := body.takeWhile Decimal.isDigit
    let afterWhole := body.drop whole.length
    let fraction :=
      if afterWhole.head? = some (byte '.') then (afterWhole.drop 1).takeWhile Decimal.isDigit
      else []
    let afterFraction :=
      if afterWhole.head? = some (byte '.') then afterWhole.drop (1 + fraction.length)
      else afterWhole
    if whole.isEmpty && fraction.isEmpty then none
    else
      (exponent? afterFraction).map fun e =>
        .ofDecimal negative (Decimal.value (whole ++ fraction)) (e - fraction.length)

def fraction (text : Bytes) : Except Fault Floating :=
  if text = bytes "+nan" || text = bytes "-nan" then .ok .undefined
  else do
    let digits ← fractionDigits text
    if digits.head? = some (byte '.') then .error .pointFirst
    else if digits.getLast? = some (byte '.') then .error .pointLast
    else
      checkPoint false none digits
      let unsigned := if (digits.head?.map isSign).getD false then digits.drop 1 else digits
      let startsWithZero :=
        unsigned.head? = some (byte '0') && ((unsigned.drop 1).head?.map Decimal.isDigit).getD false
      if startsWithZero then .error .leadingZeros
      else
        match fractionValue? digits with
        | none => .error (.badFraction digits .malformed)
        | some (.infinite negative) =>
          if digits.any Decimal.isDigit then
            .error (.badFraction digits .tooLarge)
          else .ok (.infinite negative)
        | some value => .ok value

end BufferMachine.Toml
