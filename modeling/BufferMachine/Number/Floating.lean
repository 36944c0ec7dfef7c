import BufferMachine.Number.Decimal

/-!
# Numbers in double precision

A finite number in double precision is a whole significand of at most fifty-three bits times a power
of two.  `ofRatio` gives the one that is nearest to a quotient, of two equally near ones that with
the even significand.

A number is written with the fewest digits that read back as the same number, of these the nearest:
either without an exponent, or in scientific notation where the number is large or small.
-/

namespace BufferMachine

inductive Floating where
  /-- The significand times a power of two. -/
  | finite (negative : Bool) (significand : Nat) (exponent : Int)
  | infinite (negative : Bool)
  | undefined
deriving DecidableEq, Repr

namespace Floating

def precision : Nat := 53

def leastExponent : Int := -1074

def largestExponent : Int := 971

/-! ### Rounding -/

/-- The quotient of two numbers, the second of which is multiplied with a power of two. -/
def scaled (n d : Nat) (e : Int) : Nat × Nat :=
  match e with
  | .ofNat k => (n, d * Nat.pow 2 k)
  | .negSucc k => (n * Nat.pow 2 (k + 1), d)

/-- The nearest whole number to a quotient; a half goes to the even neighbour. -/
def nearest (n d : Nat) : Nat :=
  let quotient := n / d
  let remainder := n % d
  if 2 * remainder > d || (2 * remainder == d && quotient % 2 == 1) then quotient + 1 else quotient

/-- The power of two at which a quotient has as many bits as a significand. -/
def exponentOf (n d : Nat) : Int :=
  let guess : Int := (Nat.log2 n : Int) - Nat.log2 d - (precision - 1 : Nat)
  let (top, bottom) := scaled n d guess
  max leastExponent (if top / bottom < Nat.pow 2 (precision - 1) then guess - 1 else guess)

/-- The magnitude nearest to a quotient: significand and exponent, or nothing if it is too large. -/
def magnitude? (n d : Nat) : Option (Nat × Int) :=
  if n = 0 then some (0, leastExponent)
  else
    let e := exponentOf n d
    let (top, bottom) := scaled n d e
    let m := nearest top bottom
    let (m, e) := if m = Nat.pow 2 precision then (Nat.pow 2 (precision - 1), e + 1) else (m, e)
    if e > largestExponent then none else some (m, e)

/-- The number nearest to a quotient. -/
def ofRatio (negative : Bool) (n d : Nat) : Floating :=
  match magnitude? n d with
  | some (m, e) => .finite negative m e
  | none => .infinite negative

/-- The number nearest to some digits times a power of ten.  What is far beyond the range is not
computed. -/
def ofDecimal (negative : Bool) (digits : Nat) (power : Int) : Floating :=
  let places : Int := (Decimal.ofNat digits).length + power
  if digits = 0 || places < -330 then .finite negative 0 leastExponent
  else if places > 330 then .infinite negative
  else
    match power with
    | .ofNat k => ofRatio negative (digits * Nat.pow 10 k) 1
    | .negSucc k => ofRatio negative digits (Nat.pow 10 (k + 1))

/-! ### Other views -/

def ratio (m : Nat) (e : Int) : Nat × Nat :=
  match e with
  | .ofNat k => (m * Nat.pow 2 k, 1)
  | .negSucc k => (m, Nat.pow 2 (k + 1))

/-- The number without its fraction; what is outside the range of sixty-four bits with a sign
becomes the least number in it. -/
def toInt : Floating → Int
  | .finite negative m e =>
    let (top, bottom) := ratio m e
    let whole : Int := (top / bottom : Nat)
    if Nat.pow 2 63 ≤ whole then -Nat.pow 2 63 else if negative then -whole else whole
  | _ => -Nat.pow 2 63

def isNonzero : Floating → Bool
  | .finite _ m _ => m != 0
  | _ => true

/-! ### Text -/

def decimalRatio (n : Nat) (power : Int) : Nat × Nat :=
  match power with
  | .ofNat k => (n * Nat.pow 10 k, 1)
  | .negSucc k => (n, Nat.pow 10 (k + 1))

/-- The multiple of a power of ten next to a magnitude that reads back as the magnitude, if there is
one. -/
def gridPoint? (m : Nat) (e : Int) (power : Int) : Option Nat :=
  let (top, bottom) := ratio m e
  let (unitTop, unitBottom) := decimalRatio 1 power
  let low := top * unitBottom / (bottom * unitTop)
  let readsBack (n : Nat) : Bool :=
    let (a, b) := decimalRatio n power
    magnitude? a b == some (m, e)
  let lowIsNearer : Bool := 2 * (top * unitBottom - low * (bottom * unitTop)) ≤ bottom * unitTop
  if readsBack low && (lowIsNearer || !readsBack (low + 1)) then some low
  else if readsBack (low + 1) then some (low + 1)
  else none

/-- How many places a magnitude has before the point; if it is below one, zero or less. -/
def placesOf (m : Nat) (e : Int) : Int :=
  let (top, bottom) := ratio m e
  if bottom ≤ top then (Decimal.ofNat (top / bottom)).length
  else 1 - ((Decimal.ofNat (bottom / top)).length : Int)

/-- The fewest digits of a magnitude, without zeros at the end, and how many of them stand before
the point. -/
def shortest (m : Nat) (e : Int) : Bytes × Int :=
  if m = 0 then ([byte '0'], 1)
  else
    let places := placesOf m e
    let found := (List.range 18).findSome? fun count =>
      let power := places - (count + 1 : Nat) + 1
      (gridPoint? m e power).bind fun n => if n = 0 then none else some (n, power)
    let (n, power) := found.getD (m, 0)
    let digits := Decimal.ofNat n
    ((digits.reverse.dropWhile (· == byte '0')).reverse, digits.length + power)

def zeros (count : Nat) : Bytes := List.replicate count (byte '0')

/-- Digits with a point among them or beside them. -/
def positional (digits : Bytes) (point : Int) : Bytes :=
  if point ≤ 0 then bytes "0." ++ zeros (-point).toNat ++ digits
  else
    let before := digits.take point.toNat
    let after := digits.drop point.toNat
    before ++ zeros (point.toNat - digits.length) ++
      (if after.isEmpty then [] else byte '.' :: after)

/-- Digits with a point after the first one, and an exponent of at least two digits. -/
def scientific (digits : Bytes) (point : Int) : Bytes :=
  let power := point - 1
  let fraction := digits.drop 1
  digits.take 1 ++ (if fraction.isEmpty then [] else byte '.' :: fraction) ++
    (if power < 0 then bytes "e-" else bytes "e+") ++
      (if power.natAbs < 10 then [byte '0'] else []) ++
    Decimal.ofNat power.natAbs

def sign (negative : Bool) : Bytes := if negative then [byte '-'] else []

/-- The text of a number that is not finite. -/
def endless (negative : Bool) : Bytes := if negative then bytes "-Inf" else bytes "+Inf"

def plainText : Floating → Bytes
  | .finite negative m e =>
    let (digits, point) := shortest m e
    sign negative ++ positional digits point
  | .infinite negative => endless negative
  | .undefined => bytes "NaN"

/-- The number as it is shown: with an exponent from a million on and below a ten-thousandth. -/
def text : Floating → Bytes
  | .finite negative m e =>
    let (digits, point) := shortest m e
    sign negative ++
      (if point < -3 || 6 < point then scientific digits point else positional digits point)
  | .infinite negative => endless negative
  | .undefined => bytes "NaN"

end Floating

end BufferMachine
