import BufferMachine.Number.Decimal

/-!
# Sizes for people

A number of bytes is shown in the largest unit that it fills, units being powers of a thousand, with
two digits of precision: one decimal below ten, whole numbers from there on.
-/

namespace BufferMachine.ByteSize

/-- The units, each a thousand times the one before. -/
def units : List Bytes :=
  [bytes "B", bytes "kB", bytes "MB", bytes "GB", bytes "TB", bytes "PB", bytes "EB"]

/-- A tenth part rounded to a whole number, a half going to the even neighbour. -/
def roundTenths (tenths : Nat) : Nat :=
  let whole := tenths / 10
  let rest := tenths % 10
  if rest < 5 || (rest = 5 && whole % 2 = 0) then whole else whole + 1

/-- A size in a unit: tenths are rounded half up, and shown only below ten. -/
def inUnit (size unit : Nat) (name : Bytes) : Bytes :=
  let tenths := (size * 20 + unit) / (2 * unit)
  let shown :=
    if tenths < 100 then Decimal.ofNat (tenths / 10) ++ bytes "." ++ Decimal.ofNat (tenths % 10)
    else Decimal.ofNat (roundTenths tenths)
  shown ++ bytes " " ++ name

/-- Shows a size in the first unit of the list whose successor it does not fill. -/
def inUnits (size : Nat) : Nat → List Bytes → Bytes
  | _, [] => []
  | unit, [name] => inUnit size unit name
  | unit, name :: more =>
    if size < unit * 1000 then inUnit size unit name else inUnits size (unit * 1000) more

def text (size : Nat) : Bytes :=
  if size < 10 then Decimal.ofNat size ++ bytes " B" else inUnits size 1 units

end BufferMachine.ByteSize
