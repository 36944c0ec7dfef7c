import BufferMachine.Diagnostic.Basic
import BufferMachine.Misuse

/-!
# Reports by offsets

A report can be put together from offsets alone: the place is moved into the source, the line breaks
on both sides of it are looked up, and the line, the blanks and the mark are cut out and counted
from there.  Nothing is taken for granted on the way: a piece that does not lie in the source and a
count below zero are refused.
-/

namespace BufferMachine

namespace Bytes

/-- The piece of a text between two offsets, provided that they lie in the text and stand in this
order. -/
def slice (text : Bytes) (start stop : Int) : Except Misuse Bytes :=
  if 0 ≤ start ∧ start ≤ stop ∧ stop ≤ text.length then .ok (text.extract start.toNat stop.toNat)
  else .error .outOfRange

/-- As many copies of a byte as asked for, provided that they are not fewer than none. -/
def repeated (count : Int) (b : UInt8) : Except Misuse Bytes :=
  if 0 ≤ count then .ok (List.replicate count.toNat b) else .error .outOfRange

end Bytes

namespace Diagnostic

def lastLineStart (text : Bytes) : Int :=
  match Bytes.cutAfterLast? newline text with
  | some (before, _) => before.length
  | none => 0

def firstLineLength (text : Bytes) : Int :=
  match Bytes.cut? newline text with
  | some (line, _) => line.length
  | none => text.length

/-- A report on any place, put together by offsets. -/
def reportAt (stage : Bytes) (location : Location) (message source : Bytes) :
    Except Misuse Bytes := do
  let start : Int := max 0 (min location.start source.length)
  let lineStart := lastLineStart (← source.slice 0 start)
  let lineStop := start + firstLineLength (← source.slice start source.length)
  let stop := min location.stop lineStop
  let line ← source.slice lineStart lineStop
  let blanks ← Bytes.repeated (start - lineStart) (byte ' ')
  let tildes ← Bytes.repeated (max 0 (stop - start - 1)) (byte '~')
  return stage ++ bytes " error found on line " ++ Decimal.ofInt location.line ++ bytes ":\n" ++
    line ++ [newline] ++ blanks ++ [byte '^'] ++ tildes ++ [byte ' '] ++ message ++ [newline]

def report (d : Diagnostic) (source : Bytes) : Except Misuse Bytes :=
  reportAt d.stage d.location d.message source

end Diagnostic

end BufferMachine
