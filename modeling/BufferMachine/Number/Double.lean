import BufferMachine.Number.Decimal

/-!
# Whole numbers in double precision

Metrics are kept in double precision.  All that is ever counted or added up is whole, so a value is
a whole number that has at most fifty-three significant bits; `round` gives the nearest such number
and sums are rounded after each addition.

A value is written with the fewest digits that read back as the same value, of these the nearest;
from a million on in scientific notation.
-/

namespace BufferMachine.Double

def precision : Nat := 53

/-- The nearest natural number with few enough significant bits; a number half-way between two goes
to the one with an even significand. -/
def roundNat (n : Nat) : Nat :=
  if n < Nat.pow 2 precision then n
  else
    let unit := Nat.pow 2 (Nat.log2 n + 1 - precision)
    let quotient := n / unit
    let remainder := n % unit
    if 2 * remainder > unit || (2 * remainder == unit && quotient % 2 == 1) then
      (quotient + 1) * unit
    else quotient * unit

/-- The nearest value in double precision. -/
def round : Int → Int
  | .ofNat n => roundNat n
  | .negSucc n => -(roundNat (n + 1) : Int)

def add (a b : Int) : Int := round (a + b)

/-! ### Text -/

/-- The multiple of the unit next to `m` that reads back as `m`, if there is one. -/
def gridPoint? (m unit : Nat) : Option Nat :=
  let low := m / unit * unit
  let high := low + unit
  let readsBack (n : Nat) : Bool := roundNat n == m
  if readsBack low && (!readsBack high || m - low ≤ high - m) then some low
  else if readsBack high then some high
  else none

/-- The number with the fewest digits before its trailing zeros that reads back as `m`. -/
def shortest (m : Nat) : Nat :=
  let places := (Decimal.ofNat m).length
  ((List.range places).reverse.findSome? fun place => gridPoint? m (Nat.pow 10 place)).getD m

/-- The digits with a point behind the first one, without trailing zeros. -/
def significand (digits : Bytes) : Bytes :=
  match (digits.reverse.dropWhile (· == byte '0')).reverse with
  | [] => []
  | [d] => [d]
  | d :: ds => d :: byte '.' :: ds

/-- An exponent has a sign and at least two digits. -/
def exponent (e : Nat) : Bytes :=
  bytes "e+" ++ (if e < 10 then [byte '0'] else []) ++ Decimal.ofNat e

/-- A value from a million on, in scientific notation. -/
def scientific (m : Nat) : Bytes :=
  let digits := Decimal.ofNat (shortest m)
  significand digits ++ exponent (digits.length - 1)

def text (n : Int) : Bytes :=
  if n.natAbs < 1000000 then Decimal.ofInt n
  else (if n < 0 then [byte '-'] else []) ++ scientific n.natAbs

end BufferMachine.Double
