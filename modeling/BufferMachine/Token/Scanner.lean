import BufferMachine.Diagnostic.Basic
import BufferMachine.Misuse
import BufferMachine.Token.CharClass
import BufferMachine.Token.Keyword

/-!
# Scanning

The scanner cuts a text into tokens.  At every place it looks at one character: blanks and
characters without a meaning are skipped, and every other character starts a token that takes in as
many characters of its class as follow.  An identifier that the keyword rule does not accept is
refused.

`step` says what stands at the head of a text, `Cursor` is a place in a text, and `Cursor.scan` runs
`step` to the end.  Each step takes at least one byte, so both recursions end.  `Scanner` is the
same machinery as a value that is moved by hand, token by token.
-/

namespace BufferMachine

/-- What stands at the head of a text, with its width in bytes. -/
inductive Step where
  /-- Nothing: the text is at its end. -/
  | done
  /-- A character without a meaning; a line feed also ends a line. -/
  | skip (width : Nat) (newlines : Nat)
  /-- A token of the given kind. -/
  | token (kind : TokenKind) (width : Nat)
  /-- An identifier that is not accepted. -/
  | reject (width : Nat)
deriving DecidableEq, Repr

/-- How many bytes the longest run of accepted characters at the head of a text takes. -/
def runWidth (accept : Nat → Bool) : Bytes → Nat
  | [] => 0
  | b :: rest =>
    let d := Utf8.decodeAt b rest
    if accept d.code then d.width + runWidth accept ((b :: rest).drop d.width) else 0
termination_by text => text.length
decreasing_by
  have := Utf8.decodeAt_width_pos b rest
  simp only [List.length_drop, List.length_cons]
  omega

/-- What an identifier of the given width at the head of a text is. -/
def identifierStep (rule : KeywordRule) (text : Bytes) (width : Nat) : Step :=
  if rule.accepts (text.take width) then .token .keyword width else .reject width

/-- What stands at the head of a text. -/
def step (rule : KeywordRule) : Bytes → Step
  | [] => .done
  | b :: rest =>
    let d := Utf8.decodeAt b rest
    match CharClass.ofCode d.code with
    | .blank => .skip d.width (if d.code = 10 then 1 else 0)
    | .other => .skip d.width 0
    | .punctuation => .token .punctuation d.width
    | .digit => .token .number (runWidth CharClass.isDigit (b :: rest))
    | .word => identifierStep rule (b :: rest) (runWidth CharClass.isWord (b :: rest))
    | .operator => .token .operator (runWidth CharClass.isOperator (b :: rest))

/-! ### Every step takes at least one byte -/

def Step.width : Step → Nat
  | .done => 0
  | .skip width _ => width
  | .token _ width => width
  | .reject width => width

/-- A run whose first character is accepted is not empty. -/
theorem runWidth_pos {accept : Nat → Bool} {b : UInt8} {rest : Bytes}
    (h : accept (Utf8.decodeAt b rest).code = true) : 0 < runWidth accept (b :: rest) := by
  have := Utf8.decodeAt_width_pos b rest
  rw [runWidth, if_pos h]
  omega

theorem CharClass.isDigit_of_ofCode {code : Nat} (h : ofCode code = .digit) :
    isDigit code = true := by
  grind [ofCode]

theorem CharClass.isWord_of_ofCode {code : Nat} (h : ofCode code = .word) : isWord code = true := by
  grind [ofCode]

theorem CharClass.isOperator_of_ofCode {code : Nat} (h : ofCode code = .operator) :
    isOperator code = true := by
  grind [ofCode]

theorem identifierStep_width (rule : KeywordRule) (text : Bytes) (width : Nat) :
    (identifierStep rule text width).width = width := by
  unfold identifierStep
  split <;> rfl

/-- Only the end of the text takes no bytes. -/
theorem step_width_pos (rule : KeywordRule) (b : UInt8) (rest : Bytes) :
    0 < (step rule (b :: rest)).width := by
  have hd := Utf8.decodeAt_width_pos b rest
  unfold step
  dsimp only
  split
  · exact hd
  · exact hd
  · exact hd
  · next h => exact runWidth_pos (CharClass.isDigit_of_ofCode h)
  · next h => rw [identifierStep_width]; exact runWidth_pos (CharClass.isWord_of_ofCode h)
  · next h => exact runWidth_pos (CharClass.isOperator_of_ofCode h)

/-! ### Places in a text -/

/-- A place in a text: what is left of it, and how many bytes and line feeds come before. -/
structure Cursor where
  rest : Bytes
  offset : Nat := 0
  newlines : Nat := 0
deriving DecidableEq, Repr

namespace Cursor

/-- The place some bytes further on. -/
def advance (c : Cursor) (width newlines : Nat) : Cursor :=
  ⟨c.rest.drop width, c.offset + width, c.newlines + newlines⟩

def location (c : Cursor) (width : Nat) : Location :=
  ⟨c.newlines + 1, c.offset, c.offset + width⟩

def token (c : Cursor) (kind : TokenKind) (width : Nat) : Token :=
  ⟨some kind, c.rest.take width, c.location width⟩

def rejection (c : Cursor) (width : Nat) : Diagnostic :=
  .lexical (c.location width) (c.rest.take width)

/-- A step that is not the last one leaves less text. -/
theorem length_advance_lt (rule : KeywordRule) (c : Cursor) (newlines : Nat)
    (h : step rule c.rest ≠ .done) :
    (c.advance (step rule c.rest).width newlines).rest.length < c.rest.length := by
  obtain ⟨rest, offset, lines⟩ := c
  cases rest with
  | nil => exact absurd rfl h
  | cons b rest =>
    have := step_width_pos rule b rest
    simp only [advance, List.length_drop, List.length_cons]
    omega

/-- What a scan came to: the tokens or the refusal, where the last lexeme began and where scanning
stopped. -/
structure Scanned where
  result : Except Diagnostic (List Token)
  start : Cursor
  stop : Cursor

def Scanned.cons (t : Token) (s : Scanned) : Scanned := { s with result := s.result.map (t :: ·) }

/-- Scans to the end of the text, or to the first identifier that is not accepted. -/
def scan (rule : KeywordRule) (c : Cursor) : Scanned :=
  match _hs : step rule c.rest with
  | .done => ⟨.ok [], c, c⟩
  | .skip width newlines => scan rule (c.advance width newlines)
  | .token kind width => (scan rule (c.advance width 0)).cons (c.token kind width)
  | .reject width => ⟨.error (c.rejection width), c, c.advance width 0⟩
termination_by c.rest.length
decreasing_by
  · simpa [_hs, Step.width] using length_advance_lt rule c newlines (by simp [_hs])
  · simpa [_hs, Step.width] using length_advance_lt rule c 0 (by simp [_hs])

/-- The next lexeme: a token (at the end of the text an empty one that says so) or a refusal, where
it begins and where it stops. -/
def next (rule : KeywordRule) (c : Cursor) : Except Diagnostic Token × Cursor × Cursor :=
  match _hs : step rule c.rest with
  | .done => (.ok (c.token .endOfText 0), c, c)
  | .skip width newlines => next rule (c.advance width newlines)
  | .token kind width => (.ok (c.token kind width), c, c.advance width 0)
  | .reject width => (.error (c.rejection width), c, c.advance width 0)
termination_by c.rest.length
decreasing_by
  simpa [_hs, Step.width] using length_advance_lt rule c newlines (by simp [_hs])

end Cursor

/-- The tokens of a text under a keyword rule. -/
def scan (rule : KeywordRule) (source : Bytes) : Except Diagnostic (List Token) :=
  ((⟨source, 0, 0⟩ : Cursor).scan rule).result

/-! ### A scanner moved by hand -/

/-- A scanner on its way through a text.  The positions may be set to anything; the number of line
feeds met so far counts the lines. -/
structure Scanner where
  input : Bytes := []
  rule : KeywordRule := .substring
  start : Int := 0
  pos : Int := 0
  newlines : Nat := 0
deriving DecidableEq, Repr

namespace Scanner

def line (s : Scanner) : Int := s.newlines + 1

/-- The place in the text where the scanner stands, if it stands inside the text. -/
def cursor (s : Scanner) : Except Misuse Cursor :=
  if 0 ≤ s.pos ∧ s.pos ≤ s.input.length then
    .ok ⟨s.input.drop s.pos.toNat, s.pos.toNat, s.newlines⟩
  else .error .outOfRange

/-- The scanner after a lexeme that was taken in: it stands behind it. -/
def after (s : Scanner) (c : Cursor) : Scanner :=
  { s with start := c.offset, pos := c.offset, newlines := c.newlines }

/-- The scanner after a refusal: it stands behind the lexeme and remembers where that began. -/
def afterRefusal (s : Scanner) (start stop : Cursor) : Scanner :=
  { s with start := start.offset, pos := stop.offset, newlines := stop.newlines }

def emit (s : Scanner) : Except Misuse (Except Diagnostic Token × Scanner) := do
  match (← s.cursor).next s.rule with
  | (.ok t, _, stop) => return (.ok t, s.after stop)
  | (.error d, start, stop) => return (.error d, s.afterRefusal start stop)

def scan (s : Scanner) : Except Misuse (Except Diagnostic (List Token) × Scanner) := do
  let scanned := (← s.cursor).scan s.rule
  match scanned.result with
  | .ok ts => return (.ok ts, s.after scanned.stop)
  | .error d => return (.error d, s.afterRefusal scanned.start scanned.stop)

/-- How wide the run of accepted characters is at which the scanner stands. -/
def matchRun (accept : Nat → Bool) (s : Scanner) : Except Misuse Nat := do
  return runWidth accept (← s.cursor).rest

def matchNumber : Scanner → Except Misuse Nat := matchRun CharClass.isDigit

def matchIdentifier : Scanner → Except Misuse Nat := matchRun CharClass.isWord

def matchOperator : Scanner → Except Misuse Nat := matchRun CharClass.isOperator

end Scanner

end BufferMachine
