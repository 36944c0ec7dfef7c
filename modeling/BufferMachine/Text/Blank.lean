import BufferMachine.Text.Utf8

/-!
# Blank characters

Which code points count as blank, and the operations that go by them: trimming a text on both sides
and splitting it into the fields between blanks.  A byte that is part of no well-formed character is
not blank, whatever its value.
-/

namespace BufferMachine.Text

/-- Is the code point white space, by the Unicode property? -/
def isBlank (code : Nat) : Bool :=
  (9 ≤ code && code ≤ 13) || code == 0x20 || code == 0x85 || code == 0xA0 || code == 0x1680 ||
    (0x2000 ≤ code && code ≤ 0x200A) || code == 0x2028 || code == 0x2029 || code == 0x202F ||
    code == 0x205F || code == 0x3000

def isBlankCharacter (r : Utf8.Character) : Bool := isBlank r.code

def trim (text : Bytes) : Bytes :=
  let kept := (Utf8.characters text).dropWhile isBlankCharacter
  Utf8.ofCharacters (kept.reverse.dropWhile isBlankCharacter).reverse

/-- The fields among some characters, the bytes of the field being read in front. -/
def fieldsOf : List Utf8.Character → Bytes → List Bytes
  | [], field => if field.isEmpty then [] else [field]
  | r :: rs, field =>
    if isBlankCharacter r then
      if field.isEmpty then fieldsOf rs [] else field :: fieldsOf rs []
    else fieldsOf rs (field ++ r.raw)

/-- The maximal runs of characters that are not blank. -/
def fields (text : Bytes) : List Bytes := fieldsOf (Utf8.characters text) []

def startsBlank (text : Bytes) : Bool :=
  match text with
  | [] => false
  | _ => isBlank (Utf8.decode text).code

end BufferMachine.Text
