import BufferMachine.Metrics.Histogram
import BufferMachine.Misuse
import BufferMachine.Text.Utf8

/-!
# The metrics store

The store counts compilations by their outcome, and keeps histograms of tokens and statements per
successful compilation and of the time that each stage took.  Where there is one series for every
value of a label, a series comes into being with its first event, and the series are kept in the
order of their labels.
-/

namespace BufferMachine.Metrics

/-- One series for every value of a label, in the order of the values. -/
abbrev Family (α : Type) := List (Bytes × α)

namespace Family

/-- Changes the series of a label, which starts from the given value. -/
def update {α : Type} (start : α) (change : α → α) (label : Bytes) : Family α → Family α
  | [] => [(label, change start)]
  | (l, a) :: rest =>
    if l = label then (l, change a) :: rest
    else if label.notAfter l then (label, change start) :: (l, a) :: rest
    else (l, a) :: update start change label rest

def get? {α : Type} (label : Bytes) (family : Family α) : Option α := List.lookup label family

end Family

/-- The bounds of the histograms of tokens and statements: the first powers of four. -/
def sizeBounds : List Nat := (List.range 10).map (Nat.pow 4)

/-- The bounds of the histograms of times: multiples of two microseconds, in nanoseconds. -/
def timeBounds : List Nat := (List.range 19).map fun i => 2000 * (i + 1)

structure Store where
  compilations : Family Nat := []
  tokens : Histogram := .empty sizeBounds
  statements : Histogram := .empty sizeBounds
  stages : Family Histogram := []
deriving DecidableEq, Repr

namespace Store

/-- Refuses a label that is not well-formed text. -/
def checkLabel (label : Bytes) : Except Misuse Unit :=
  if Utf8.isValid label then .ok () else .error .malformedLabel

def countCompilation (s : Store) (outcome : Bytes) : Store :=
  { s with compilations := Family.update 0 (· + 1) outcome s.compilations }

def observeTokens (s : Store) (n : Int) : Store := { s with tokens := s.tokens.observe n }

def observeStatements (s : Store) (n : Int) : Store :=
  { s with statements := s.statements.observe n }

def observeStage (s : Store) (stage : Bytes) (nanoseconds : Int) : Store :=
  { s with stages := Family.update (.empty timeBounds) (·.observe nanoseconds) stage s.stages }

end Store

/-- Something to be counted. -/
inductive Event where
  | compilation (outcome : Bytes)
  | tokens (n : Int)
  | statements (n : Int)
  | stage (name : Bytes) (nanoseconds : Int)
deriving DecidableEq, Repr

/-- Counts an event; a label has to be well-formed text. -/
def Store.record (s : Store) : Event → Except Misuse Store
  | .compilation outcome => do Store.checkLabel outcome; return s.countCompilation outcome
  | .tokens n => .ok (s.observeTokens n)
  | .statements n => .ok (s.observeStatements n)
  | .stage name nanoseconds => do Store.checkLabel name; return s.observeStage name nanoseconds

end BufferMachine.Metrics
