import BufferMachine.Number.Decimal
import BufferMachine.Text.Utf8

/-!
# JSON values and their text

Dumps, tables and log lines are JSON.  A value is written compactly or indented by two spaces a
level; both forms stand for the same value.

Inside a string the quotation mark, the backslash and the control characters are escaped, and so are
`<`, `>`, `&` and the two Unicode line separators, so that the text may be put into a web page.  All
other characters stand for themselves, and a byte that is no part of a character is replaced by
U+FFFD.
-/

namespace BufferMachine

/-- A JSON value; the members of a record keep their order. -/
inductive Json where
  | null
  | number (value : Int)
  | text (value : Bytes)
  | list (items : List Json)
  | record (members : List (Bytes × Json))
deriving Repr

namespace Json

/-! ### Strings -/

/-- A hexadecimal digit, small letters after nine. -/
def hexDigit (d : Nat) : UInt8 := UInt8.ofNat (if d < 10 then 48 + d else 87 + d)

def hexEscape (code : Nat) : Bytes :=
  bytes "\\u" ++
    [hexDigit (code / 4096 % 16), hexDigit (code / 256 % 16), hexDigit (code / 16 % 16),
      hexDigit (code % 16)]

/-- The escape of an ASCII character that has one of two characters. -/
def shortEscape? (code : Nat) : Option Bytes :=
  if code = 0x22 then some (bytes "\\\"")
  else if code = 0x5C then some (bytes "\\\\")
  else if code = 0x08 then some (bytes "\\b")
  else if code = 0x0C then some (bytes "\\f")
  else if code = 0x0A then some (bytes "\\n")
  else if code = 0x0D then some (bytes "\\r")
  else if code = 0x09 then some (bytes "\\t")
  else none

/-- Is the character written as a hexadecimal escape, if it has no short one? -/
def needsHex (code : Nat) : Bool :=
  code < 0x20 || code == 0x3C || code == 0x3E || code == 0x26 || code == 0x2028 || code == 0x2029

def escape (r : Utf8.Character) : Bytes :=
  match shortEscape? r.code with
  | some short => short
  | none =>
    if needsHex r.code then hexEscape r.code
    else if r.isUndecodable then Utf8.replacementBytes
    else r.raw

def quoted (text : Bytes) : Bytes :=
  [byte '"'] ++ (Utf8.characters text).flatMap escape ++ [byte '"']

/-! ### The compact form -/

mutual

def compact : Json → Bytes
  | .null => bytes "null"
  | .number n => Decimal.ofInt n
  | .text t => quoted t
  | .list items => [byte '['] ++ compactItems items ++ [byte ']']
  | .record members => [byte '\x7b'] ++ compactMembers members ++ [byte '\x7d']

def compactItems : List Json → Bytes
  | [] => []
  | [item] => compact item
  | item :: items => compact item ++ [byte ','] ++ compactItems items

def compactMembers : List (Bytes × Json) → Bytes
  | [] => []
  | [(name, value)] => quoted name ++ [byte ':'] ++ compact value
  | (name, value) :: members =>
    quoted name ++ [byte ':'] ++ compact value ++ [byte ','] ++ compactMembers members

end

/-! ### The indented form -/

def lineAt (depth : Nat) : Bytes := newline :: List.replicate (2 * depth) (byte ' ')

mutual

/-- The value with every item and member on a line of its own. -/
def indentedAt (depth : Nat) : Json → Bytes
  | .null => bytes "null"
  | .number n => Decimal.ofInt n
  | .text t => quoted t
  | .list [] => bytes "[]"
  | .list (item :: items) =>
    [byte '['] ++ indentedItems (depth + 1) (item :: items) ++ lineAt depth ++ [byte ']']
  | .record [] => bytes "\x7b\x7d"
  | .record (member :: members) =>
    [byte '\x7b'] ++ indentedMembers (depth + 1) (member :: members) ++ lineAt depth ++
      [byte '\x7d']

/-- The items of a list, each on a line of its own. -/
def indentedItems (depth : Nat) : List Json → Bytes
  | [] => []
  | [item] => lineAt depth ++ indentedAt depth item
  | item :: items =>
    lineAt depth ++ indentedAt depth item ++ [byte ','] ++ indentedItems depth items

/-- The members of a record, each on a line of its own. -/
def indentedMembers (depth : Nat) : List (Bytes × Json) → Bytes
  | [] => []
  | [(name, value)] => lineAt depth ++ quoted name ++ bytes ": " ++ indentedAt depth value
  | (name, value) :: members =>
    lineAt depth ++ quoted name ++ bytes ": " ++ indentedAt depth value ++ [byte ','] ++
      indentedMembers depth members

end

def indented (value : Json) : Bytes := indentedAt 0 value

end Json

end BufferMachine
