import BufferMachine.Toml.Fault

/-!
# Quoted texts in TOML

A text stands in apostrophes, where every character stands for itself, or in quotation marks, where
a backslash introduces an escape.  With three marks on either side it may go over several lines: a
line end right after the opening marks does not belong to it, up to two more marks may stand before
the closing ones, and a backslash at the end of a line takes away all blanks and line ends that
follow.
-/

namespace BufferMachine.Toml

abbrev Input := List Utf8.Character

def leadByte (c : Utf8.Character) : Nat := (c.raw.headD 0).toNat

/-- May the character stand in a text?  Of the controls only the tab and those of line ends may. -/
def isPlain (c : Utf8.Character) : Bool :=
  !c.isUndecodable && (0x20 ≤ c.code || c.code == 9 || c.code == 10 || c.code == 13) &&
    c.code != 0x7F

def isSpace (c : Utf8.Character) : Bool := c.code == 0x20 || c.code == 9

/-- Does the character end a line, or begin the end of one? -/
def isLineEnd (c : Utf8.Character) : Bool := c.code == 10 || c.code == 13

def dropLineEnd : Input → Input
  | c :: d :: rest =>
    if c.code = 10 then d :: rest else if c.code = 13 && d.code = 10 then rest
    else c :: d :: rest
  | [c] => if c.code = 10 then [] else [c]
  | [] => []

/-! ### Apostrophes -/

def apostrophe : Nat := 39

def literal : Input → Except Fault (Input × Input)
  | [] => .error .openLiteral
  | c :: rest =>
    if c.code = apostrophe then .ok ([], rest)
    else if isLineEnd c then .error .newlineInLiteral
    else if !isPlain c then .error .badCharacter
    else do
      let (more, left) ← literal rest
      return (c :: more, left)

def startsWithThree (mark : Nat) : Input → Bool
  | a :: b :: c :: _ => a.code == mark && b.code == mark && c.code == mark
  | _ => false

/-- The marks that still belong to a text which ends with three marks, and what follows the text. -/
def closing (mark : Nat) (tooMany : Fault) (input : Input) : Except Fault (Input × Input) :=
  let marks := input.takeWhile (·.code == mark)
  if marks.length > 5 then .error tooMany else .ok (marks.drop 3, input.drop marks.length)

def longLiteral : Input → Except Fault (Input × Input)
  | [] => .error .openLongLiteral
  | c :: rest =>
    if startsWithThree apostrophe (c :: rest) then
      closing apostrophe .quotesInLongLiteral (c :: rest)
    else if c.code = 13 && (rest.head?.map (·.code)) != some 10 then .error .returnAlone
    else if !isPlain c then .error .badCharacter
    else do
      let (more, left) ← longLiteral rest
      return (c :: more, left)

/-! ### Quotation marks -/

def quotationMark : Nat := 34

def backslash : Nat := 92

/-- The rest of a text in quotation marks, with its escapes as they stand. -/
def basic : Input → Except Fault (Input × Input)
  | [] => .error .openBasic
  | [c] =>
    if c.code = quotationMark then .ok ([], [])
    else if isLineEnd c then .error .newlineInBasic
    else if c.code = backslash then .error .nothingEscaped
    else .error .openBasic
  | c :: d :: rest =>
    if c.code = quotationMark then .ok ([], d :: rest)
    else if isLineEnd c then .error .newlineInBasic
    else if c.code = backslash then do
      let (more, left) ← basic rest
      return (c :: d :: more, left)
    else do
      let (more, left) ← basic (d :: rest)
      return (c :: more, left)

/-- The rest of a text in three quotation marks, with its escapes as they stand. -/
def longBasic : Input → Except Fault (Input × Input)
  | [] => .error .openLongBasic
  | [c] =>
    if c.code = backslash then .error .nothingEscaped
    else if c.code = 13 then .error .returnAlone
    else .error .openLongBasic
  | c :: d :: rest =>
    if startsWithThree quotationMark (c :: d :: rest) then
      closing quotationMark .quotesInLongBasic (c :: d :: rest)
    else if c.code = backslash then do
      let (more, left) ← longBasic rest
      return (c :: d :: more, left)
    else if c.code = 13 && d.code != 10 then .error .returnAlone
    else do
      let (more, left) ← longBasic (d :: rest)
      return (c :: more, left)

/-! ### Escapes -/

def escapes : List (Nat × UInt8) :=
  [(quotationMark, 34), (backslash, 92), (98, 8), (102, 12), (110, 10), (114, 13),
    (116, 9), (101, 27)]

/-- The character with a code of so many hexadecimal digits. -/
def escapedCodePoint (width : Nat) (input : Input) : Except Fault Bytes :=
  let available := (Utf8.ofCharacters input).length
  if available < width then .error (.fewDigits width available)
  else
    match (input.take width).mapM fun c =>
      (Literal.digitValue? (c.raw.headD 0)).filter (· < 16) with
    | none => .error .notHexadecimal
    | some digits =>
      let code := digits.foldl (fun n d => n * 16 + d) 0
      if code.isValidChar then .ok (Utf8.encode code) else .error .noCodePoint

/-- What is left after a backslash at the end of a line, if the backslash stands there. -/
def afterFoldedLine? : Input → Option Input
  | [] => none
  | c :: rest =>
    if isSpace c || (c.code == 13 && (rest.head?.map (·.code)) == some 10) then
      afterFoldedLine? rest
    else if c.code = 10 then some (rest.dropWhile fun c => isSpace c || isLineEnd c)
    else none

/-- Replaces escapes by what they stand for.  In a long text lines can be folded, and an escape can
run into the closing marks. -/
def unescapeUpTo (long : Bool) : Nat → Input → Except Fault Bytes
  | 0, _ => .ok []
  | _, [] => .ok []
  | fuel + 1, c :: rest =>
    if c.code != backslash then
      if isPlain c then do return c.raw ++ (← unescapeUpTo long fuel rest)
      else .error (.hiddenCharacter (leadByte c))
    else
      match if long then afterFoldedLine? rest else none with
      | some left => unescapeUpTo long fuel left
      | none =>
        match rest with
        | [] => .ok []
        | letter :: after =>
          let seen := if long then after ++ List.replicate 3 ⟨quotationMark, [34]⟩ else after
          let coded (width : Nat) : Except Fault Bytes := do
            let made ← escapedCodePoint width (if long then seen.take width else seen)
            return made ++ (← unescapeUpTo long fuel (after.drop width))
          if letter.code = 117 then coded 4
          else if letter.code = 85 then coded 8
          else
            match escapes.lookup letter.code with
            | some made => do return made :: (← unescapeUpTo long fuel after)
            | none => .error (.unknownEscape (leadByte letter))

def unescape (long : Bool) (content : Input) : Except Fault Bytes :=
  if content.any (·.code == backslash) then unescapeUpTo long content.length content
  else if content.all isPlain then .ok (Utf8.ofCharacters content)
  else .error .badEncoding

/-! ### Texts -/

/-- A text in single marks; the opening mark is given first. -/
def quotation (mark : Utf8.Character) (input : Input) : Except Fault (Bytes × Input) :=
  if mark.code = apostrophe then do
    let (content, left) ← literal input
    return (Utf8.ofCharacters content, left)
  else do
    let (content, left) ← basic input
    return (← unescape false content, left)

/-- A text in single or triple marks; the opening mark is given first. -/
def anyQuotation (mark : Utf8.Character) (input : Input) : Except Fault (Bytes × Input) :=
  if !startsWithThree mark.code (mark :: input) then quotation mark input
  else if mark.code = apostrophe then do
    let (content, left) ← longLiteral (input.drop 2)
    return (Utf8.ofCharacters (dropLineEnd content), left)
  else do
    let (content, left) ← longBasic (input.drop 2)
    return (← unescape true (dropLineEnd content), left)

end BufferMachine.Toml
