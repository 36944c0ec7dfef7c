/-!
# Byte strings

Source texts are arbitrary bytes: a program may hold text in any encoding, or in none, and every
offset that the library reports counts bytes.  A byte string is therefore a list of bytes, so that
offsets are list positions and the list library applies to it.

The few operations below are the ones that the list library does not have under a name of their own.
-/

namespace BufferMachine

/-- A text as the bytes it is made of. -/
abbrev Bytes := List UInt8

/-- The UTF-8 bytes of a string; used for the fixed texts that the library writes. -/
def bytes (text : String) : Bytes := text.toList.flatMap String.utf8EncodeChar

/-- The byte of an ASCII character. -/
def byte (c : Char) : UInt8 := UInt8.ofNat c.toNat

def newline : UInt8 := 10

namespace Bytes

def occursIn (needle : Bytes) : Bytes → Bool
  | [] => needle.isEmpty
  | b :: rest => needle.isPrefixOf (b :: rest) || occursIn needle rest

/-- The text without its given ending, or nothing if it does not end so. -/
def withoutEnding? (ending text : Bytes) : Option Bytes :=
  if ending.isSuffixOf text then some (text.take (text.length - ending.length)) else none

/-- The pieces between the occurrences of a separating byte: one more than there are occurrences. -/
def pieces (separator : UInt8) : Bytes → List Bytes
  | [] => [[]]
  | b :: rest =>
    if b = separator then [] :: pieces separator rest
    else
      match pieces separator rest with
      | [] => [[b]]
      | piece :: more => (b :: piece) :: more

theorem pieces_of_not_mem {separator : UInt8} {text : Bytes} (h : separator ∉ text) :
    pieces separator text = [text] := by
  induction text with
  | nil => rfl
  | cons b text ih =>
    rw [List.mem_cons, not_or] at h
    rw [pieces, if_neg (Ne.symm h.1), ih h.2]

/-- Cuts at the first occurrence of a byte, which belongs to neither part. -/
def cut? (separator : UInt8) : Bytes → Option (Bytes × Bytes)
  | [] => none
  | b :: rest =>
    if b = separator then some ([], rest)
    else (cut? separator rest).map fun (before, after) => (b :: before, after)

/-- Cuts just after the last occurrence of a byte, which ends the first part. -/
def cutAfterLast? (mark : UInt8) : Bytes → Option (Bytes × Bytes)
  | [] => none
  | b :: rest =>
    match cutAfterLast? mark rest with
    | some (before, after) => some (b :: before, after)
    | none => if b = mark then some ([b], rest) else none

/-- As many copies of a text as asked for, one after the other. -/
def copies (count : Nat) (text : Bytes) : Bytes := (List.replicate count text).flatten

/-- Every line of a text with the line feed that ends it. -/
def unlines (lines : List Bytes) : Bytes := lines.flatMap (· ++ [newline])

/-- The ASCII capitals turned into small letters, all else unchanged. -/
def toLower (text : Bytes) : Bytes :=
  text.map fun b => if 65 ≤ b ∧ b ≤ 90 then b + 32 else b

/-- The ASCII small letters turned into capitals, all else unchanged. -/
def toUpper (text : Bytes) : Bytes :=
  text.map fun b => if 97 ≤ b ∧ b ≤ 122 then b - 32 else b

/-- Byte-wise lexicographic order: is the first text not after the second one? -/
def notAfter : Bytes → Bytes → Bool
  | [], _ => true
  | _ :: _, [] => false
  | a :: as, b :: bs => if a = b then notAfter as bs else a < b

end Bytes

end BufferMachine
