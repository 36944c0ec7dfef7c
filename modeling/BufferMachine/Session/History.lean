import BufferMachine.Session.EditLine

/-!
# The history of a session

The lines that were entered can be called back.  The history is a row of items, the last of which
belongs to the line being typed, with a place in it.  An item has the line that was entered and a
draft, the form in which the line was last seen while this line is being typed; drafts lapse when
the line is entered or given up.
-/

namespace BufferMachine

structure HistoryItem where
  /-- The line as it was entered. -/
  entered : List Nat := []
  /-- The line as it was edited since. -/
  draft : EditLine := {}
  /-- When the draft was made. -/
  era : Nat := 0
deriving DecidableEq, Repr

/-- The lines of a session with a place among them; there is no place as long as there are no
lines. -/
structure History where
  /-- The lines before the place, nearest first. -/
  older : List HistoryItem := []
  item : Option HistoryItem := none
  /-- The lines after the place. -/
  newer : List HistoryItem := []
  /-- The number of lines entered or given up so far. -/
  era : Nat := 0
deriving DecidableEq, Repr

namespace History

def limit : Nat := 500

def toLast (h : History) : History :=
  match h.newer.reverse, h.item with
  | last :: between, some item =>
    { h with older := between ++ item :: h.older, item := some last, newer := [] }
  | _, _ => h

/-- An item as it is shown now. -/
def shown (h : History) (item : HistoryItem) : List Nat :=
  if item.era = h.era then item.draft.codes else item.entered

/-- Moves to the line before, which is given too. -/
def previous? (h : History) : Option (History × List Nat) :=
  match h.older, h.item with
  | item :: older, some passed =>
    some ({ h with older, item := some item, newer := passed :: h.newer }, h.shown item)
  | _, _ => none

/-- Moves to the line after, which is given too. -/
def next? (h : History) : Option (History × List Nat) :=
  match h.newer, h.item with
  | item :: newer, some passed =>
    some ({ h with older := passed :: h.older, item := some item, newer }, h.shown item)
  | _, _ => none

def keepDraft (h : History) (line : EditLine) : History :=
  match h.item with
  | some item => { h with item := some { item with draft := line, era := h.era } }
  | none => { h with item := some { entered := line.codes } }

def giveUp (h : History) : History := { h.toLast with era := h.era + 1 }

/-- Clears the last item, for a line that adds nothing to the history. -/
def clearLast (h : History) : History :=
  { h.toLast with item := h.item.map fun _ => {}, era := h.era + 1 }

/-- Adds a line: it becomes the last item, and an empty item follows it. -/
def append (h : History) (codes : List Nat) : History :=
  let entered := ((h.item.getD {}) : HistoryItem)
  { older := ({ entered with entered := codes, era := h.era } :: h.older).take (limit - 1),
    item := some {}, era := h.era + 1 }

/-- Takes in a line that was entered.  A line that repeats the one before it and an empty line add
nothing. -/
def enter (h : History) (codes : List Nat) : History :=
  let last := h.toLast
  if (last.older.head?.map (·.entered)) = some codes then last.clearLast
  else if codes.isEmpty && h.item.isSome then last.clearLast
  else last.append (if h.newer.isEmpty then codes else (h.item.map (·.draft.codes)).getD codes)

end History

end BufferMachine
