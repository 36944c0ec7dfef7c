import BufferMachine.Host.Script.Pattern
import BufferMachine.Host.Script.Tool

/-!
# Tools for texts

Tools that write texts, and tools that read files or their input and write a part of it or something
about it.
-/

namespace BufferMachine.Script.TextTools

open Tool

/-! ### Escapes -/

def octal (digits : Bytes) : UInt8 := digits.foldl (fun n d => n * 8 + (d - 48)) 0

def isOctal (b : UInt8) : Bool := 48 ≤ b && b ≤ 55

/-- The byte that a letter after a backslash stands for. -/
def escape? (letter : UInt8) : Option UInt8 :=
  [(byte 'a', 7), (byte 'b', 8), (byte 'f', 12), (byte 'n', 10), (byte 'r', 13), (byte 't', 9),
    (byte 'v', 11), (byte '\\', 92)].lookup letter

/-- Replaces escapes, and tells whether an escape ended the text.  An octal escape has up to three
digits; if `extended` is set a leading zero does not count among them, and the letter `c` ends the
text. -/
def unescape (extended : Bool) : Nat → Bytes → Bytes × Bool
  | 0, text => (text, false)
  | _, [] => ([], false)
  | fuel + 1, b :: rest =>
    let more (made text : Bytes) : Bytes × Bool :=
      let (after, stopped) := unescape extended fuel text
      (made ++ after, stopped)
    if b = byte '\\' then
      match rest with
      | [] => ([b], false)
      | c :: after =>
        match escape? c with
        | some made => more [made] after
        | none =>
          let numeral := if extended && c == byte '0' then after else rest
          let digits := (numeral.take 3).takeWhile isOctal
          if extended && c = byte 'c' then ([], true)
          else if (extended && c == byte '0') || !digits.isEmpty then
            more [octal digits] (numeral.drop digits.length)
          else more [b, c] after
    else more [b] rest

/-! ### Writing -/

def echo : Tool := fun arguments sh =>
  let (ending, shown) := match arguments with
    | first :: rest => if first = bytes "-n" then ([], rest) else ([newline], arguments)
    | [] => ([newline], [])
  let line := List.intercalate (bytes " ") shown
  let (text, stopped) := unescape true line.length.succ line
  sh.print (text ++ if stopped then [] else ending)

/-- How a directive of a format shows its argument. -/
structure Directive where
  letter : UInt8
  width : Nat := 0
  leftward : Bool := false
  fill : UInt8 := 32
  precision : Option Nat := none
deriving DecidableEq, Repr

def Directive.pad (d : Directive) (text : Bytes) : Bytes :=
  let missing := d.width - text.length
  if d.leftward then
    text ++ List.replicate missing (byte ' ')
  else List.replicate missing d.fill ++ text

def inBase (base : Nat) (n : Int) : Bytes := bytes (String.ofList (Nat.toDigits base n.natAbs))

def Directive.isNumeric (d : Directive) : Bool := (bytes "diuxXo").contains d.letter

/-- One directive of a format applied to an argument. -/
def Directive.apply (d : Directive) (argument : Bytes) : Bytes :=
  let number := leadingInt argument
  if d.isNumeric then
    let shown :=
      if d.letter = byte 'x' then inBase 16 number
      else if d.letter = byte 'X' then Bytes.toUpper (inBase 16 number)
      else if d.letter = byte 'o' then inBase 8 number
      else Decimal.ofInt number
    d.pad shown
  else
    let text :=
      if d.letter = byte 'c' then argument.take 1
      else if d.letter = byte 'b' then (unescape true argument.length.succ argument).1
      else argument
    ({ d with fill := byte ' ' } : Directive).pad (text.take (d.precision.getD text.length))

def Directive.read (text : Bytes) : Directive × Bytes :=
  let flags := text.takeWhile fun b =>
    b == byte '-' || b == byte '0' || b == byte '+' || b == byte ' '
  let text := text.drop flags.length
  let width := text.takeWhile Decimal.isDigit
  let text := text.drop width.length
  let (precision, text) := match text with
    | b :: rest =>
      if b = byte '.' then
        let digits := rest.takeWhile Decimal.isDigit
        (some (Decimal.value digits), rest.drop digits.length)
      else (none, text)
    | [] => (none, text)
  ({ letter := text.headD (byte 's'), width := Decimal.value width,
     leftward := flags.contains (byte '-'),
     fill := if flags.contains (byte '0') then byte '0' else byte ' ', precision }, text.drop 1)

/-- Applies a format once: what is written, the arguments that are left, and those that should have
been numbers. -/
def applyFormat : Nat → Bytes → List Bytes → Bytes × List Bytes × List Bytes
  | 0, _, arguments => ([], arguments, [])
  | _, [], arguments => ([], arguments, [])
  | fuel + 1, b :: rest, arguments =>
    if b = byte '%' then
      if rest.head? = some (byte '%') then
        let (more, left, bad) := applyFormat fuel (rest.drop 1) arguments
        (b :: more, left, bad)
      else
        let (d, after) := Directive.read rest
        let argument := arguments.headD []
        let wrong := d.isNumeric && !argument.isEmpty && !isInt argument
        let (more, left, bad) := applyFormat fuel after (arguments.drop 1)
        (d.apply argument ++ more, left, if wrong then argument :: bad else bad)
    else
      let (more, left, bad) := applyFormat fuel rest arguments
      (b :: more, left, bad)

/-- Applies a format as often as it takes to use all arguments. -/
def formatAll (format : Bytes) : Nat → List Bytes → Bytes × List Bytes
  | 0, _ => ([], [])
  | rounds + 1, arguments =>
    let (made, left, bad) := applyFormat format.length.succ format arguments
    if left.isEmpty || left.length = arguments.length then (made, bad)
    else
      let (more, worse) := formatAll format rounds left
      (made ++ more, bad ++ worse)

def printf : Tool := fun arguments sh =>
  let name := bytes "printf"
  match arguments with
  | [] => sh.objectIn name 2 (bytes "usage: printf format [arg ...]")
  | format :: rest =>
    let (text, bad) := formatAll (unescape false format.length.succ format).1 (rest.length + 1) rest
    let warned :=
      bad.foldl (fun sh argument =>
        sh.objectIn name 1 (argument ++ bytes ": expected numeric value")) (sh.ended 0)
    (warned.write outputChannel text).ended (if bad.isEmpty then 0 else 1)

def seq : Tool := fun arguments sh =>
  let numbers := arguments.map leadingInt
  let (first, step, last) : Int × Int × Int := match numbers with
    | [last] => (1, 1, last)
    | [first, last] => (first, 1, last)
    | first :: step :: last :: _ => (first, step, last)
    | [] => (1, 1, 0)
  let count := if step = 0 then 0 else ((last - first) / step + 1).toNat
  sh.print (Bytes.unlines ((List.range count).map fun (i : Nat) =>
    Decimal.ofInt (first + step * i)))

/-! ### Reading -/

def cat : Tool := withOptions "uenstv" fun _ operands sh =>
  forOperands (fun path sh =>
    match source sh path with
    | .ok content => .ok (sh.write outputChannel content.content)
    | .error e => .error (told sh "" ++ path ++ bytes ": " ++ reason e)) sh (orInput operands)

/-- How much of a text is taken: a number of bytes or of lines. -/
structure Extent where
  inBytes : Bool
  count : Nat
deriving DecidableEq, Repr

/-- Reads how much is asked for, and the operands. -/
def extent (arguments : List Bytes) : Extent × List Bytes :=
  match arguments with
  | [] => (⟨false, 10⟩, [])
  | a :: rest =>
    let value := Decimal.value (a.drop 2)
    if a = bytes "-c" then (⟨true, Decimal.value (rest.headD [])⟩, rest.drop 1)
    else if a = bytes "-n" then (⟨false, Decimal.value (rest.headD [])⟩, rest.drop 1)
    else if (bytes "-c").isPrefixOf a then (⟨true, value⟩, rest)
    else if (bytes "-n").isPrefixOf a then (⟨false, value⟩, rest)
    else if isOption a && (a.drop 1).all Decimal.isDigit then
      (⟨false, Decimal.value (a.drop 1)⟩, rest)
    else (⟨false, 10⟩, arguments)

/-- Writes a part of each file. -/
def partly (take : Extent → Source → Bytes) : Tool := fun arguments sh =>
  let (asked, operands) := extent arguments
  forOperands (fun path sh =>
    match source sh path with
    | .ok content => .ok (sh.write outputChannel (take asked content))
    | .error e =>
      .error (told sh "cannot open " ++ inQuotes path ++ bytes " for reading: " ++ reason e))
    sh (orInput operands)

def head : Tool := partly fun asked content =>
  match content with
  | .endless t =>
    if asked.inBytes then content.take asked.count
    else Bytes.copies (asked.count * t.count newline) t
  | .text t => if asked.inBytes then t.take asked.count else ((linesOf t).take asked.count).flatten

def tail : Tool := partly fun asked content =>
  let t := content.content
  if asked.inBytes then t.drop (t.length - asked.count)
  else
    let lines := linesOf t
    (lines.drop (lines.length - asked.count)).flatten

/-- The bytes of a set given by ranges. -/
def ranges : Bytes → Bytes
  | a :: dash :: b :: rest =>
    if dash = byte '-' && a ≤ b then
      ((List.range (b.toNat - a.toNat + 1)).map fun i => a + UInt8.ofNat i) ++ ranges rest
    else a :: ranges (dash :: b :: rest)
  | short => short
termination_by set => set.length

/-- The bytes of a set as it is written. -/
def byteSet (text : Bytes) : Bytes := ranges (unescape false text.length.succ text).1

def tr : Tool := withOptions "d" fun letters operands sh =>
  let content := sh.input.content
  match operands with
  | [] => sh.complain 1 (told sh "missing operand" ++ hint sh)
  | first :: rest =>
    let replaced := byteSet first
    if letters.contains (byte 'd') then sh.print (content.filter fun b => !replaced.contains b)
    else
      let made := byteSet (rest.headD [])
      let table := replaced.zip
        (made ++ List.replicate (replaced.length - made.length) (made.getLastD 0))
      sh.print (content.map fun b => (table.lookup b).getD b)

def wordCount (text : Bytes) : Nat :=
  (text.splitBy fun a b => isBlank a == isBlank b).countP fun run =>
    !(run.headD (byte ' ') |> isBlank)
where
  /-- Does the byte stand between words? -/
  isBlank (b : UInt8) : Bool := b == byte ' ' || (9 ≤ b && b ≤ 13)

def counts (letters : Bytes) (width : Nat) (content : Bytes) : Bytes :=
  let asks (letter : Char) : Bool := letters.isEmpty || letters.contains (byte letter)
  let numbers := (if asks 'l' then [content.count newline] else []) ++
    (if asks 'w' then [wordCount content] else []) ++
    if asks 'c' then [content.length] else []
  List.intercalate (bytes " ")
    (numbers.map fun n => ({ letter := byte 'd', width } : Directive).pad (Decimal.ofNat n))

def wc : Tool := withOptions "lwc" fun letters operands sh =>
  if operands.isEmpty then
    sh.print (counts letters (if letters.length = 1 then 0 else 7) sh.input.content ++ [newline])
  else
    let sizes := operands.map fun path => ((sh.files.size? path).getD 0)
    let width :=
      if letters.length = 1 && operands.length = 1 then 0
      else (Decimal.ofNat (sizes.foldl (· + ·) 0)).length
    forOperands (fun path sh =>
      match source sh path with
      | .ok content =>
        .ok (sh.write outputChannel
          (counts letters width content.content ++ bytes " " ++ path ++ [newline]))
      | .error e => .error (told sh "" ++ path ++ bytes ": " ++ reason e)) sh operands

def sort : Tool := withOptions "rnu" (fun letters operands sh =>
  let text := (orInput operands).flatMap fun path =>
    ((source sh path).toOption.getD (.text [])).content
  let before (a b : Bytes) : Bool :=
    if letters.contains (byte 'n') && leadingInt a != leadingInt b then
      leadingInt a < leadingInt b
    else Bytes.notAfter a b
  let sorted := (bareLines text).mergeSort before
  let kept := if letters.contains (byte 'u') then sorted.eraseDups else sorted
  sh.print (Bytes.unlines (if letters.contains (byte 'r') then kept.reverse else kept))) 2

def tee : Tool := withOptions "ai" fun letters operands sh =>
  let content := sh.input.content
  forOperands (fun path sh =>
    let before :=
      if letters.contains (byte 'a') then (sh.files.readFile path).toOption.getD [] else []
    match sh.files.writeFile path (before ++ content) with
    | .ok files => .ok { sh with files }
    | .error failure => .error (told sh "" ++ path ++ bytes ": " ++ reason failure.error))
    (sh.write outputChannel content) operands

/-- Writes the lines that match an expression; the status tells whether there are any. -/
def grep : Tool := withOptions "qvcinsF" (fun letters operands sh =>
  match operands with
  | [] =>
    sh.complain 2
      (bytes "Usage: " ++ sh.callee ++ bytes " [OPTION]... PATTERNS [FILE]..." ++ hint sh)
  | expression :: paths =>
    let holds (line : Bytes) : Bool :=
      let (e, l) :=
        if letters.contains (byte 'i') then (Bytes.toLower expression, Bytes.toLower line)
        else (expression, line)
      (if letters.contains (byte 'F') then Bytes.occursIn e l else matchesLine e l) !=
        letters.contains (byte 'v')
    let several := 1 < paths.length
    let (after, found) := (orInput paths).foldl (fun ((sh : Shell), found) path =>
      match source sh path with
      | .error e =>
        (if letters.contains (byte 's') then sh
          else sh.complain 2 (told sh "" ++ path ++ bytes ": " ++ reason e), found)
      | .ok content =>
        let lines := ((bareLines content.content).zipIdx 1).filter fun (line, _) => holds line
        let label := if several then path ++ bytes ":" else []
        let shown :=
          if letters.contains (byte 'q') then []
          else if letters.contains (byte 'c') then label ++ Decimal.ofNat lines.length ++ [newline]
          else lines.flatMap fun (line, n) =>
            label ++ (if letters.contains (byte 'n') then Decimal.ofNat n ++ bytes ":" else []) ++
              line ++ [newline]
        (sh.write outputChannel shown, found || !lines.isEmpty)) (sh.ended 0, false)
    after.ended (if after.status = 2 then 2 else if found then 0 else 1)) 2

/-! ### Paths -/

def basename : Tool := fun arguments sh =>
  let name := Path.base (arguments.headD [])
  let short := (Bytes.withoutEnding? ((arguments.drop 1).headD []) name).getD name
  sh.print ((if short.isEmpty then name else short) ++ [newline])

def dirname : Tool := fun arguments sh =>
  sh.print ((FileTree.parentPath? (arguments.headD [])).getD Path.here ++ [newline])

end BufferMachine.Script.TextTools
