import BufferMachine.Text.Utf8

/-!
# Lines being edited

A line is held as the characters before the cursor, nearest first, and those after it, so that every
edit is an edit at the heads of two lists.  Words are runs of ASCII letters and digits.

A transposition in a line of one character only moves the cursor forward, even past the end of the
line; how far it is past the end is kept, because as many steps back are needed to return.
-/

namespace BufferMachine

/-- A line with a cursor in it. -/
structure EditLine where
  /-- The characters before the cursor, nearest first. -/
  before : List Nat := []
  /-- The characters after the cursor. -/
  after : List Nat := []
  /-- How far the cursor is past the end of the line. -/
  beyond : Nat := 0
deriving DecidableEq, Repr

namespace EditLine

/-! ### Whole lines -/

def codes (l : EditLine) : List Nat := l.before.reverse ++ l.after

/-- The line of some characters, with the cursor at its end. -/
def ofCodes (codes : List Nat) : EditLine := { before := codes.reverse }

def isEmpty (l : EditLine) : Bool := l.before.isEmpty && l.after.isEmpty

def text (l : EditLine) : Bytes := l.codes.flatMap Utf8.encode

/-! ### Moving the cursor -/

def toStart (l : EditLine) : EditLine := { after := l.codes }

def toEnd (l : EditLine) : EditLine :=
  match l.after with
  | [] => { before := l.before }
  | _ => .ofCodes l.codes

def backBy (l : EditLine) (count : Nat) : EditLine :=
  { before := l.before.drop count, after := (l.before.take count).reverse ++ l.after }

def forwardBy (l : EditLine) (count : Nat) : EditLine :=
  { before := (l.after.take count).reverse ++ l.before, after := l.after.drop count }

def back (l : EditLine) : EditLine :=
  if l.beyond = 0 then l.backBy 1 else { l with beyond := l.beyond - 1 }

def forward (l : EditLine) : EditLine :=
  if l.beyond = 0 then l.forwardBy 1 else { l with beyond := l.beyond + 1 }

/-! ### Words -/

def isWord (code : Nat) : Bool :=
  (97 ≤ code && code ≤ 122) || (65 ≤ code && code ≤ 90) || (48 ≤ code && code ≤ 57)

/-- How far back the nearest word starts that has something before it. -/
def wordStartBefore? : List Nat → Option Nat
  | c :: d :: rest =>
    if isWord c && !isWord d then some 1 else (wordStartBefore? (d :: rest)).map (· + 1)
  | _ => none

/-- How far ahead the next word starts that has something before it. -/
def wordStartAfter? : List Nat → Option Nat
  | c :: d :: rest =>
    if !isWord c && isWord d then some 1 else (wordStartAfter? (d :: rest)).map (· + 1)
  | _ => none

def wordBack (l : EditLine) : EditLine :=
  match wordStartBefore? l.before with
  | some count => l.backBy count
  | none => l.toStart

def wordForward (l : EditLine) : EditLine :=
  match wordStartAfter? l.after with
  | some count => l.forwardBy count
  | none => l.toEnd

/-! ### Changing the line -/

def insert (l : EditLine) (codes : List Nat) : EditLine :=
  { before := codes.reverse ++ l.before, after := l.after }

def backspace (l : EditLine) : EditLine := { l with before := l.before.drop 1 }

/-- Exchanges the characters on the two sides of the cursor and moves it past them; at an end of the
line the two characters next to that end are exchanged. -/
def transpose (l : EditLine) : EditLine :=
  match l.before, l.after with
  | [], a :: b :: rest => { before := [a, b], after := rest }
  | [], [a] => { before := [a] }
  | [], [] => l
  | x :: before, y :: after => { before := x :: y :: before, after }
  | y :: x :: before, [] => { before := x :: y :: before }
  | [_], [] => { l with beyond := l.beyond + 1 }

/-- A change that takes something out of the line: the line that is left, and what was taken if it
is kept. -/
abbrev Cut := EditLine × Option (List Nat)

def cutAfter (l : EditLine) (count : Nat) : Cut :=
  ({ l with after := l.after.drop count }, some (l.after.take count))

def killToEnd (l : EditLine) : Cut := ({ l with after := [] }, some l.after)

def killToStart (l : EditLine) : Cut :=
  if l.before.isEmpty then (l, none) else ({ after := l.after }, some l.before.reverse)

/-- Takes away what is left of the word at or after the cursor, but for the last character before
the next word. -/
def deleteWord (l : EditLine) : Cut :=
  if l.after.isEmpty then (l, none)
  else
    let gap := (l.after.takeWhile (!isWord ·)).length
    match wordStartAfter? (l.after.drop gap) with
    | some count => l.cutAfter (gap + count - 1)
    | none => l.killToEnd

/-- Takes away the word before the cursor.  If no word with something before it starts there, the
whole line goes, and is not kept. -/
def eraseWord (l : EditLine) : Cut :=
  if l.before.isEmpty then (l, none)
  else
    match wordStartBefore? l.before with
    | some count => ({ l with before := l.before.drop count }, some (l.before.take count).reverse)
    | none => ({}, none)

end EditLine

end BufferMachine
