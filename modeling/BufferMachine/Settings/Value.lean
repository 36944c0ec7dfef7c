import BufferMachine.Number.Floating
import BufferMachine.Number.Literal

/-!
# Values of settings

A setting is a number, a truth value or a text, depending on where it was made; a configuration file
can also give it a fraction, a date or a time, a list or a table.  Whoever asks for a setting says
as what the value is wanted, and a value that cannot be read so counts as zero, false or empty.
-/

namespace BufferMachine

inductive SettingValue where
  | number (value : Int)
  | truth (value : Bool)
  | text (value : Bytes)
  | fraction (value : Floating)
  /-- A date or a time, as it is written. -/
  | moment (written : Bytes)
  /-- A list or a table, which can only be shown. -/
  | composite (shown : Bytes)
deriving DecidableEq, Repr

namespace SettingValue

/-- What is left of a numeral given from its end when a point and the zeros after it are taken
away. -/
def dropZeroDecimals : Bytes → Bool → Option Bytes
  | [], _ => none
  | b :: rest, zeroSeen =>
    if b = byte '.' then if zeroSeen then some rest else dropZeroDecimals rest false
    else if b = byte '0' then dropZeroDecimals rest true
    else none

/-- A numeral without decimals that are all zero. -/
def withoutZeroDecimals (text : Bytes) : Bytes :=
  match dropZeroDecimals text.reverse false with
  | some rest => rest.reverse
  | none => text

def trueTexts : List Bytes :=
  [bytes "1", bytes "t", bytes "T", bytes "TRUE", bytes "true", bytes "True"]

def falseTexts : List Bytes :=
  [bytes "0", bytes "f", bytes "F", bytes "FALSE", bytes "false", bytes "False"]

def toInt : SettingValue → Int
  | .number value => value
  | .truth value => if value then 1 else 0
  | .text value => (Literal.toInt (withoutZeroDecimals value)).toOption.getD 0
  | .fraction value => value.toInt
  | .moment _ | .composite _ => 0

def toBool : SettingValue → Bool
  | .number value => value != 0
  | .truth value => value
  | .text value => trueTexts.contains value
  | .fraction value => value.isNonzero
  | .moment _ | .composite _ => false

def toText : SettingValue → Bytes
  | .number value => Decimal.ofInt value
  | .truth value => if value then bytes "true" else bytes "false"
  | .text value => value
  | .fraction value => value.plainText
  | .moment written => written
  | .composite _ => []

def shown : SettingValue → Bytes
  | .fraction value => value.text
  | .composite shown => shown
  | value => value.toText

end SettingValue

end BufferMachine
