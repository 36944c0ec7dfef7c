import BufferMachine.Text.Bytes

/-!
# Interpreters of scripts

A file that starts with a number sign and an exclamation mark names the program that carries it out
on its first line.  What follows on the line is one argument for that program, blanks and all.
-/

namespace BufferMachine.Script

def isGap (b : UInt8) : Bool := b == byte ' ' || b == 9

/-- How much of a file is looked at to find its interpreter. -/
def headLength : Nat := 255

/-- The interpreter that the first line of a script names, and the rest of the line as an argument
for it. -/
def interpreter? (content : Bytes) : Option (Bytes × Option Bytes) :=
  if !(bytes "#!").isPrefixOf content then none
  else
    let line := (((content.take headLength).drop 2).takeWhile (· ≠ newline)).dropWhile isGap
    let name := line.takeWhile fun b => !isGap b
    let option := (((line.drop name.length).dropWhile isGap).reverse.dropWhile isGap).reverse
    if name.isEmpty then none else some (name, if option.isEmpty then none else some option)

end BufferMachine.Script
