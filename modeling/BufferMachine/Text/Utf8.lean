import BufferMachine.Text.Bytes

/-!
# Reading bytes as UTF-8

A text that should be UTF-8 need not be.  Decoding is therefore total: a byte that starts no
well-formed sequence stands for the replacement character and is one byte wide, so that decoding
goes on right after it.  Overlong forms, surrogates and values above U+10FFFF are not well formed.

`decode` reads one character; `characters` cuts a whole text into characters, each with the bytes it
was read from, so that nothing of the text is lost.
-/

namespace BufferMachine.Utf8

/-- The code point that stands for what cannot be decoded. -/
def replacement : Nat := 0xFFFD

def replacementBytes : Bytes := [0xEF, 0xBF, 0xBD]

/-- A decoded character: its code point and how many bytes it took. -/
structure Decoded where
  code : Nat
  width : Nat
deriving DecidableEq, Repr

/-- What an undecodable byte counts as. -/
def undecodable : Decoded := ⟨replacement, 1⟩

/-- Is the byte a continuation byte, no smaller and no larger than asked for? -/
def isTail (low high b : UInt8) : Bool := low ≤ b && b ≤ high

/-- The six payload bits of a continuation byte. -/
def payload (b : UInt8) : Nat := b.toNat % 64

/-- May `c` follow `b` in a three-byte form?  No shorter form and no surrogate is accepted. -/
def secondOfThree (b c : UInt8) : Bool :=
  isTail (if b = 0xE0 then 0xA0 else 0x80) (if b = 0xED then 0x9F else 0xBF) c

/-- May `c` follow `b` in a four-byte form?  No shorter form and nothing above U+10FFFF is
accepted. -/
def secondOfFour (b c : UInt8) : Bool :=
  isTail (if b = 0xF0 then 0x90 else 0x80) (if b = 0xF4 then 0x8F else 0xBF) c

/-- Two bytes, the first one between C2 and DF. -/
def decodeTwo (b : UInt8) : Bytes → Decoded
  | c :: _ => if isTail 0x80 0xBF c then ⟨b.toNat % 32 * 64 + payload c, 2⟩ else undecodable
  | [] => undecodable

/-- Three bytes, the first one between E0 and EF. -/
def decodeThree (b : UInt8) : Bytes → Decoded
  | c :: d :: _ =>
    if secondOfThree b c && isTail 0x80 0xBF d then
      ⟨(b.toNat % 16 * 64 + payload c) * 64 + payload d, 3⟩
    else undecodable
  | _ => undecodable

/-- Four bytes, the first one between F0 and F4. -/
def decodeFour (b : UInt8) : Bytes → Decoded
  | c :: d :: e :: _ =>
    if secondOfFour b c && isTail 0x80 0xBF d && isTail 0x80 0xBF e then
      ⟨((b.toNat % 8 * 64 + payload c) * 64 + payload d) * 64 + payload e, 4⟩
    else undecodable
  | _ => undecodable

/-- The character that starts with byte `b` and goes on with some of the bytes after it. -/
def decodeAt (b : UInt8) (rest : Bytes) : Decoded :=
  if b < 0x80 then ⟨b.toNat, 1⟩
  else if b < 0xC2 then undecodable
  else if b < 0xE0 then decodeTwo b rest
  else if b < 0xF0 then decodeThree b rest
  else if b < 0xF5 then decodeFour b rest
  else undecodable

/-- The first character of a text; the end of the text is a replacement character of no width. -/
def decode : Bytes → Decoded
  | [] => ⟨replacement, 0⟩
  | b :: rest => decodeAt b rest

theorem decodeTwo_width_pos (b : UInt8) (rest : Bytes) : 0 < (decodeTwo b rest).width := by
  unfold decodeTwo undecodable
  split
  · split <;> simp
  · simp

theorem decodeThree_width_pos (b : UInt8) (rest : Bytes) : 0 < (decodeThree b rest).width := by
  unfold decodeThree undecodable
  split
  · split <;> simp
  · simp

theorem decodeFour_width_pos (b : UInt8) (rest : Bytes) : 0 < (decodeFour b rest).width := by
  unfold decodeFour undecodable
  split
  · split <;> simp
  · simp

/-- A character takes at least one byte. -/
theorem decodeAt_width_pos (b : UInt8) (rest : Bytes) : 0 < (decodeAt b rest).width := by
  unfold decodeAt
  split
  · simp
  split
  · simp [undecodable]
  split
  · exact decodeTwo_width_pos b rest
  split
  · exact decodeThree_width_pos b rest
  split
  · exact decodeFour_width_pos b rest
  · simp [undecodable]

def encode (code : Nat) : Bytes := String.utf8EncodeChar (Char.ofNat code)

/-! ### Whole texts -/

/-- A character of a text: its code point and the bytes it was read from. -/
structure Character where
  code : Nat
  raw : Bytes
deriving DecidableEq, Repr

/-- Does the character stand for a byte that could not be decoded? -/
def Character.isUndecodable (r : Character) : Bool := r.code == replacement && r.raw.length == 1

def characters : Bytes → List Character
  | [] => []
  | b :: rest =>
    let d := decodeAt b rest
    ⟨d.code, (b :: rest).take d.width⟩ :: characters ((b :: rest).drop d.width)
termination_by text => text.length
decreasing_by
  have := decodeAt_width_pos b rest
  simp only [List.length_drop, List.length_cons]
  omega

/-- The bytes that some characters were read from. -/
def ofCharacters (rs : List Character) : Bytes := rs.flatMap Character.raw

def isValid (text : Bytes) : Bool := (characters text).all fun r => !r.isUndecodable

def repair (text : Bytes) : Bytes :=
  (characters text).flatMap fun r => if r.isUndecodable then replacementBytes else r.raw

end BufferMachine.Utf8
