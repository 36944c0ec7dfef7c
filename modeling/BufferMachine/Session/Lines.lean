import BufferMachine.Session.History
import BufferMachine.Session.Key
import BufferMachine.Text.Blank

/-!
# The lines of a session

What a user types is edited before it becomes a line: the cursor can be moved, text taken away and
put back, earlier lines called back, and a word that the session knows completed.  A key that can do
nothing rings a bell.  A line is entered by its own key, and also by the end of the input if it is
not empty; an interrupt drops it.

A list of several completions and a search are shown below the line, which takes a screen.  There is
none when the input is not typed, and the session ends where one of them is asked for.
-/

namespace BufferMachine

/-- What a session gets from its input. -/
inductive SessionEvent where
  | line (text : Bytes)
  | interrupt
  /-- Something to be written at once. -/
  | echo (text : Bytes)
deriving DecidableEq, Repr

/-- A line being edited, with what was last taken out of a line and the lines before it. -/
structure Editor where
  line : EditLine := {}
  taken : List Nat := []
  history : History := {}
deriving DecidableEq, Repr

namespace Editor

/-- What a key does. -/
inductive Effect where
  /-- Goes on with the next key, after writing something. -/
  | proceed (editor : Editor) (echoed : Bytes)
  /-- Gives the line to the session. -/
  | entered (editor : Editor) (text : Bytes)
  | interrupted (editor : Editor)
  | ended
deriving DecidableEq, Repr

/-- What is written when a key can do nothing. -/
def bell : Bytes := [7]

/-- What is written to go to the top of the screen. -/
def top : Bytes := bytes "\x1b[H"

/-! ### Completion -/

/-- The text of the line up to the cursor, without blanks in front. -/
def beginning (e : Editor) : List Nat := e.line.before.reverse.dropWhile Text.isBlank

/-- What is missing of the words that go on from a beginning; every word has a space after it. -/
def extensions (words : List Bytes) (beginning : List Nat) : List (List Nat) :=
  words.filterMap fun word =>
    let codes := word.map UInt8.toNat ++ [32]
    if beginning.isPrefixOf codes && beginning.length < codes.length then
      some (codes.drop beginning.length)
    else none

/-! ### Keys -/

def moved (e : Editor) (line : EditLine) : Effect :=
  .proceed { e with line, history := e.history.keepDraft line } []

def echoing (e : Editor) (text : Bytes) : Effect :=
  .proceed { e with history := e.history.keepDraft e.line } text

def cut (e : Editor) (change : EditLine.Cut) : Effect :=
  moved { e with taken := change.2.getD e.taken } change.1

def remember (e : Editor) : Option (History × List Nat) → Effect
  | some (history, codes) => moved { e with history } (.ofCodes codes)
  | none => e.echoing bell

def enter (e : Editor) : Effect :=
  let history := (e.history.enter e.line.codes).keepDraft {}
  .entered { e with line := {}, history } e.line.text

/-- What a key does; `words` are completed. -/
def press (words : List Bytes) (e : Editor) : Key → Effect
  | .insert code => e.moved (e.line.insert [code])
  | .lineStart => e.moved e.line.toStart
  | .lineEnd => e.moved e.line.toEnd
  | .back => e.moved e.line.back
  | .forward => e.moved e.line.forward
  | .wordBack => e.moved e.line.wordBack
  | .wordForward => e.moved e.line.wordForward
  | .delete =>
    if e.line.isEmpty then .ended
    else if e.line.after.isEmpty then e.echoing bell
    else e.cut (e.line.cutAfter 1)
  | .backspace => if e.line.isEmpty then e.echoing bell else e.moved e.line.backspace
  | .deleteWord => e.cut e.line.deleteWord
  | .eraseWord => e.cut e.line.eraseWord
  | .killToEnd => e.cut e.line.killToEnd
  | .killToStart => e.cut e.line.killToStart
  | .transpose => e.moved e.line.transpose
  | .yank => if e.taken.isEmpty then e.moved e.line else e.moved (e.line.insert e.taken)
  | .older => e.remember e.history.previous?
  | .newer => e.remember e.history.next?
  | .complete =>
    match extensions words e.beginning with
    | [] => e.moved e.line
    | [rest] => e.moved (e.line.insert rest)
    | _ => .ended
  | .search => .ended
  | .clearScreen => e.echoing top
  | .cancel => e.moved e.line
  | .enter => e.enter
  | .interrupt => .interrupted { e with line := {}, history := e.history.giveUp }
  | .finish => if e.line.isEmpty then .ended else e.enter

/-- The events that keys make; at the end of the keys the line is entered if it is not empty. -/
def events (words : List Bytes) : Editor → List Key → List SessionEvent
  | e, [] => if e.line.isEmpty then [] else [.line e.line.text]
  | e, key :: rest =>
    match e.press words key with
    | .proceed e echoed => (if echoed.isEmpty then [] else [.echo echoed]) ++ events words e rest
    | .entered e text => .line text :: events words e rest
    | .interrupted e => .interrupt :: events words e rest
    | .ended => []

end Editor

def SessionEvent.ofInput (words : List Bytes) (input : Bytes) : List SessionEvent :=
  Editor.events words {} (Key.ofInput input)

end BufferMachine
