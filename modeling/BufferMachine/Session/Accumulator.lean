import BufferMachine.Text.Bytes

/-!
# Pending source

A session compiles source as soon as statements are complete.  The accumulator keeps what has been
typed since the last terminator; feeding it a line hands out everything up to the last terminator,
if there is one by now.
-/

namespace BufferMachine

/-- The source that has been typed but not handed out. -/
structure Accumulator where
  pending : Bytes := []
deriving DecidableEq, Repr

namespace Accumulator

def terminator : UInt8 := byte ';'

/-- Is the byte dropped from the front of what stays pending? -/
def isMargin (b : UInt8) : Bool := b == byte ' ' || b == 9 || b == newline

/-- The pending text with another line after it. -/
def extended (a : Accumulator) (line : Bytes) : Bytes :=
  if a.pending.isEmpty then line else a.pending ++ [newline] ++ line

/-- Adds a line, and hands out what is complete. -/
def feed (a : Accumulator) (line : Bytes) : Option Bytes × Accumulator :=
  match Bytes.cutAfterLast? terminator (a.extended line) with
  | some (complete, rest) => (some complete, ⟨rest.dropWhile isMargin⟩)
  | none => (none, ⟨a.extended line⟩)

def reset (_ : Accumulator) : Accumulator := {}

end Accumulator

end BufferMachine
