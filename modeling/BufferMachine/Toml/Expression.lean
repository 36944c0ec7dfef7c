import BufferMachine.Toml.Moment
import BufferMachine.Toml.Quotation

/-!
# Expressions of TOML

A text consists of expressions, one a line: the heading of a table, the heading of one more table of
a list, or a name with a value.  Numbers, dates and times are kept as they are written, since what
is wrong with them shows only after the names have been checked.

Readers take the input and give what they read together with the input after it.
-/

namespace BufferMachine.Toml

/-- A value as it is written. -/
inductive Written where
  | text (value : Bytes)
  | truth (value : Bool)
  | integer (characters : Bytes)
  | fraction (characters : Bytes)
  | moment (kind : MomentKind) (characters : Bytes)
  | list (items : List Written)
  | table (entries : List (List Bytes × Written))
deriving Repr

inductive Expression where
  | table (names : List Bytes)
  | tableOfList (names : List Bytes)
  | entry (names : List Bytes) (value : Written)
deriving Repr

/-! ### Between the parts -/

def numberSign : Nat := 35

def skipSpaces (input : Input) : Input := input.dropWhile isSpace

def startsWith (c : Char) (input : Input) : Bool := (input.head?.map (·.code)) == some c.toNat

def startsWithAll (text : String) (input : Input) : Bool :=
  text.toList.map Char.toNat == (input.take text.length).map (·.code)

def expect (c : Char) (input : Input) : Except Fault Input :=
  if input.isEmpty then .error (.neededAtEnd c)
  else if startsWith c input then .ok (input.drop 1)
  else .error (.needed c)

/-- The input after the rest of a comment, which ends before the end of the line. -/
def comment : Input → Except Fault Input
  | [] => .ok []
  | c :: rest =>
    if c.code = 10 then .ok (c :: rest)
    else if c.code = 13 then if startsWith '\n' rest then .ok (c :: rest) else .error .badComment
    else if isPlain c then comment rest
    else .error .badComment

def lineEnd : Input → Except Fault Input
  | [] => .ok []
  | c :: rest =>
    if c.code = 10 then .ok rest
    else if c.code != 13 then .error (.neededLineEnd (leadByte c))
    else if rest.isEmpty then .error .lineEndCutOff
    else if startsWith '\n' rest then .ok (rest.drop 1)
    else .error .lineEndBroken

def skipLines : Nat → Input → Except Fault Input
  | 0, input => .ok input
  | fuel + 1, input =>
    match skipSpaces input with
    | [] => .ok []
    | c :: rest =>
      if c.code = numberSign then do skipLines fuel (← comment rest)
      else if isLineEnd c then do skipLines fuel (← lineEnd (c :: rest))
      else .ok (c :: rest)

/-! ### Names -/

/-- May the character stand in a name without marks? -/
def isBare (c : Utf8.Character) : Bool :=
  (97 ≤ c.code && c.code ≤ 122) || (65 ≤ c.code && c.code ≤ 90) || (48 ≤ c.code && c.code ≤ 57) ||
    c.code == 95 ||
    c.code == 45

def namePart (input : Input) : Except Fault (Bytes × Input) :=
  match input with
  | [] => .error .noKey
  | c :: rest =>
    if c.code = apostrophe || c.code = quotationMark then quotation c rest
    else if isBare c then .ok (Utf8.ofCharacters (input.takeWhile isBare), input.dropWhile isBare)
    else .error (.badKeyStart (leadByte c))

/-- Reads a name: parts with points between them.  The spaces after it are passed over. -/
def namesUpTo : Nat → Input → Except Fault (List Bytes × Input)
  | 0, _ => .error .noKey
  | fuel + 1, input => do
    let (part, rest) ← namePart input
    let rest := skipSpaces rest
    if startsWith '.' rest then
      let (more, left) ← namesUpTo fuel (skipSpaces (rest.drop 1))
      return (part :: more, left)
    else return ([part], rest)

def names (input : Input) : Except Fault (List Bytes × Input) := namesUpTo (input.length + 1) input

/-! ### Numbers, dates and times -/

def isDigit (c : Utf8.Character) : Bool := 48 ≤ c.code && c.code ≤ 57

/-- May the character stand in a number in the base with this mark? -/
def isDigitAfter (mark : Nat) (c : Utf8.Character) : Bool :=
  c.code == 95 ||
    if mark = 'x'.toNat then isDigit c || (97 ≤ c.code && c.code ≤ 102) ||
      (65 ≤ c.code && c.code ≤ 70)
    else if mark = 'o'.toNat then 48 ≤ c.code && c.code ≤ 55
    else c.code == 48 || c.code == 49

/-- The characters of a number, whether it is a fraction, and what follows it. -/
def numberCharacters : Bool → Input → Except Fault (Input × Bool × Input)
  | fractional, [] => .ok ([], fractional, [])
  | fractional, c :: rest =>
    let more (fractional : Bool) : Except Fault (Input × Bool × Input) := do
      let (taken, kind, left) ← numberCharacters fractional rest
      return (c :: taken, kind, left)
    if isDigit c || c.code = '+'.toNat || c.code = '-'.toNat || c.code = '_'.toNat then
      more fractional
    else if c.code = '.'.toNat || c.code = 'e'.toNat || c.code = 'E'.toNat then more true
    else if c.code = 'i'.toNat then
      if startsWithAll "inf" (c :: rest) then
        .ok (c :: rest.take 2, true, rest.drop 2)
      else .error (.strayLetter 'i')
    else if c.code = 'n'.toNat then
      if startsWithAll "nan" (c :: rest) then
        .ok (c :: rest.take 2, true, rest.drop 2)
      else .error (.strayLetter 'n')
    else .ok ([], fractional, c :: rest)

/-- Reads a number that starts with a zero and is neither a fraction nor the zero at the end of the
input. -/
def afterZero (zero mark : Utf8.Character) (rest : Input) : Written × Input :=
  if mark.code = 'x'.toNat || mark.code = 'o'.toNat || mark.code = 'b'.toNat then
    let digits := rest.takeWhile (isDigitAfter mark.code)
    (.integer (Utf8.ofCharacters (zero :: mark :: digits)), rest.drop digits.length)
  else (.integer zero.raw, mark :: rest)

def number (input : Input) : Except Fault (Written × Input) :=
  let plain : Except Fault (Written × Input) := do
    let (taken, fractional, left) ← numberCharacters false input
    let text := Utf8.ofCharacters taken
    if taken.isEmpty then throw .noNumber
    return (if fractional then .fraction text else .integer text, left)
  match input with
  | zero :: mark :: c :: rest =>
    let isFraction := mark.code = '.'.toNat || mark.code = 'e'.toNat || mark.code = 'E'.toNat
    if zero.code = '0'.toNat && !isFraction then .ok (afterZero zero mark (c :: rest)) else plain
  | _ => plain

/-- What has been seen of a date and a time. -/
structure MomentParts where
  date : Bool := false
  time : Bool := false
  zone : Bool := false
  space : Bool := false
deriving DecidableEq, Repr

def MomentParts.kind (p : MomentParts) : MomentKind :=
  if !p.time then .date else if !p.date then .time else if p.zone then .zonedDateTime else .dateTime

/-- How far into a date a hyphen belongs to a zone. -/
def zoneOffset : Nat := 8

/-- The characters of a date or a time, counted by the first argument, with what has been seen in
them.  The first space belongs to them if a digit follows, and the two characters after it belong to
them in any case. -/
def momentCharacters : Nat → MomentParts → Input → Input × MomentParts × Input
  | _, parts, [] => ([], parts, [])
  | offset, parts, c :: rest =>
    let more (parts : MomentParts) : Input × MomentParts × Input :=
      let (taken, parts, left) := momentCharacters (offset + 1) parts rest
      (c :: taken, parts, left)
    let isOf (letters : String) : Bool := letters.toList.any fun l => l.toNat == c.code
    if isDigit c then more parts
    else if isOf "-" then
      more { parts with date := true, zone := parts.zone || zoneOffset ≤ offset }
    else if isOf "Tt:." then more { parts with time := true }
    else if isOf "+Zz" then more { parts with zone := true }
    else
      match rest with
      | d :: e :: after =>
        if isOf " " && !parts.space && isDigit d then
          let (taken, parts, left) :=
            momentCharacters (offset + 3) { parts with time := true, space := true } after
          (c :: d :: e :: taken, parts, left)
        else ([], parts, c :: rest)
      | [d] =>
        if isOf " " && !parts.space && isDigit d then
          ([c, d], { parts with time := true, space := true }, [])
        else ([], parts, c :: rest)
      | [] => ([], parts, c :: rest)

/-- Does a date or a time stand at the head, as far as its first digits tell? -/
def startsMoment (input : Input) : Bool :=
  let digits := (input.take 5).takeWhile isDigit
  (digits.length == 2 && startsWith ':' (input.drop 2)) ||
    (digits.length == 4 && startsWith '-' (input.drop 4))

def numberOrMoment (input : Input) : Except Fault (Written × Input) :=
  if startsWith 'i' input then
    if startsWithAll "inf" input then
      .ok (.fraction (bytes "inf"), input.drop 3)
    else .error (.notWord "inf")
  else if startsWith 'n' input then
    if startsWithAll "nan" input then
      .ok (.fraction (bytes "nan"), input.drop 3)
    else .error (.notWord "nan")
  else if startsMoment input then
    let (taken, parts, left) := momentCharacters 0 {} input
    .ok (.moment parts.kind (Utf8.ofCharacters taken), left)
  else number input

/-! ### Values -/

/-- Reads one of the words for a truth value. -/
def word (text : String) (value : Bool) (input : Input) : Except Fault (Written × Input) :=
  if startsWithAll text input then
    .ok (.truth value, input.drop text.length)
  else .error (.notWord text)

mutual

def valueUpTo : Nat → Input → Except Fault (Written × Input)
  | _, [] => .error .noValue
  | 0, _ => .error .noValue
  | fuel + 1, c :: rest =>
    if c.code = quotationMark || c.code = apostrophe then do
      let (text, left) ← anyQuotation c rest
      return (.text text, left)
    else if c.code = 't'.toNat then word "true" true (c :: rest)
    else if c.code = 'f'.toNat then word "false" false (c :: rest)
    else if c.code = '['.toNat then do
      let (items, left) ← itemsUpTo fuel true rest
      return (.list items, left)
    else if c.code = '\x7b'.toNat then do
      let (entries, left) ← entriesUpTo fuel true rest
      return (.table entries, left)
    else numberOrMoment (c :: rest)

/-- Reads the rest of a list.  Lines, comments and a comma before the end do not matter. -/
def itemsUpTo : Nat → Bool → Input → Except Fault (List Written × Input)
  | 0, _, _ => .error .listCutOff
  | fuel + 1, first, input => do
    let rest ← skipLines input.length input
    if rest.isEmpty then throw (if first && !input.isEmpty then .listCutOff else .neededAtEnd ']')
    if startsWith ']' rest then return ([], rest.drop 1)
    let next ←
      if startsWith ',' rest then
        if first then throw .commaFirst else skipLines rest.length (rest.drop 1)
      else if first then pure rest
      else throw .noComma
    if startsWith ']' next then return ([], next.drop 1)
    let (item, left) ← valueUpTo fuel next
    let (more, left) ← itemsUpTo fuel false left
    return (item :: more, left)

/-- Reads the rest of a table on one line. -/
def entriesUpTo : Nat → Bool → Input → Except Fault (List (List Bytes × Written) × Input)
  | 0, _, _ => .error .tableCutOff
  | fuel + 1, first, input => do
    let rest := skipSpaces input
    if rest.isEmpty then throw (if input.isEmpty then .neededAtEnd '\x7d' else .tableCutOff)
    if startsWith '\x7d' rest then return ([], rest.drop 1)
    let next ← if first then pure rest else do pure (skipSpaces (← expect ',' rest))
    let (entry, left) ← entryUpTo fuel next
    let (more, left) ← entriesUpTo fuel false left
    return (entry :: more, left)

def entryUpTo : Nat → Input → Except Fault ((List Bytes × Written) × Input)
  | 0, _ => .error .noValue
  | fuel + 1, input => do
    let (name, rest) ← names input
    if rest.isEmpty then throw .noEquals
    let (value, left) ← valueUpTo fuel (skipSpaces (← expect '=' rest))
    return ((name, value), left)

end

/-- Reads a name with a value.  Each character is reached by at most three readers, one inside the
other. -/
def entry (input : Input) : Except Fault ((List Bytes × Written) × Input) :=
  entryUpTo (3 * input.length + 3) input

/-! ### Lines -/

/-- Reads what a line says, if it says something. -/
def statement (input : Input) : Except Fault (Option Expression × Input) :=
  if startsWithAll "[[" input then do
    let (name, rest) ← names (skipSpaces (input.drop 2))
    let left ← expect ']' (← expect ']' rest)
    return (some (.tableOfList name), left)
  else if startsWith '[' input then do
    let (name, rest) ← names (skipSpaces (input.drop 1))
    return (some (.table name), ← expect ']' rest)
  else do
    let ((name, value), left) ← entry input
    return (some (.entry name value), left)

def line (input : Input) : Except Fault (Option Expression × Input) :=
  match skipSpaces input with
  | [] => .ok (none, [])
  | c :: rest =>
    if c.code = numberSign then do return (none, ← comment rest)
    else if isLineEnd c then .ok (none, c :: rest)
    else do
      let (said, left) ← statement (c :: rest)
      let left := skipSpaces left
      if startsWith '#' left then return (said, ← comment (left.drop 1)) else return (said, left)

end BufferMachine.Toml
