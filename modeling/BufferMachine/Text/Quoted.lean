import BufferMachine.Text.Shown
import BufferMachine.Text.Utf8

/-!
# Quoted texts

A text in double quotation marks, in which everything that cannot be seen is written as an escape:
bytes that are no character in two hexadecimal digits, characters in four or eight.  A text that
needs no escapes can also be put between backquotes, as it is.
-/

namespace BufferMachine.Text

def hexadecimal : Nat → Nat → Bytes
  | 0, _ => []
  | width + 1, n => hexadecimal width (n / 16) ++ [UInt8.ofNat (Nat.digitChar (n % 16)).toNat]

def shortEscapes : List (Nat × Char) :=
  [(7, 'a'), (8, 'b'), (12, 'f'), (10, 'n'), (13, 'r'), (9, 't'), (11, 'v'), (34, '"'), (92, '\\')]

def quotedCharacter (r : Utf8.Character) : Bytes :=
  match shortEscapes.lookup r.code with
  | some letter => [92, byte letter]
  | none =>
    if r.code = 0xFFFD && r.raw.length = 1 then bytes "\\x" ++ r.raw.flatMap fun b =>
      hexadecimal 2 b.toNat
    else if isShown r.code then r.raw
    else if r.code < 0x80 then bytes "\\x" ++ hexadecimal 2 r.code
    else if r.code < 0x10000 then bytes "\\u" ++ hexadecimal 4 r.code
    else bytes "\\U" ++ hexadecimal 8 r.code

def quoted (text : Bytes) : Bytes :=
  bytes "\"" ++ (Utf8.characters text).flatMap quotedCharacter ++ bytes "\""

/-- May the character stand between backquotes? -/
def standsInBackquotes (r : Utf8.Character) : Bool :=
  !r.isUndecodable && r.code != 0xFEFF && r.code != 0x60 && r.code != 0x7F &&
    (0x20 ≤ r.code || r.code == 9)

/-- A text in backquotes if that is possible, or else in quotation marks. -/
def backquoted (text : Bytes) : Bytes :=
  if (Utf8.characters text).all standsInBackquotes then
    bytes "`" ++ text ++ bytes "`"
  else quoted text

end BufferMachine.Text
