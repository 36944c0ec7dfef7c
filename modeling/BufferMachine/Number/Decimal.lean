import BufferMachine.Text.Bytes

/-!
# Decimal numerals

Whole numbers are written with the fewest digits and a leading minus sign for the negative ones.
Reading accepts any non-empty run of ASCII digits, of any length and with leading zeros, and nothing
else: no sign, no separators.
-/

namespace BufferMachine.Decimal

def digit (d : Nat) : UInt8 := UInt8.ofNat (48 + d)

def isDigit (b : UInt8) : Bool := 48 ≤ b && b ≤ 57

def ofNat (n : Nat) : Bytes :=
  if n < 10 then [digit n] else ofNat (n / 10) ++ [digit (n % 10)]
termination_by n

def ofInt : Int → Bytes
  | .ofNat n => ofNat n
  | .negSucc n => byte '-' :: ofNat (n + 1)

def value (digits : Bytes) : Nat := digits.foldl (fun n b => n * 10 + (b.toNat - 48)) 0

/-- Reads a numeral: digits only, and at least one of them. -/
def toNat? (text : Bytes) : Option Nat :=
  if !text.isEmpty && text.all isDigit then some (value text) else none

end BufferMachine.Decimal
