import BufferMachine.Host.FileTree

/-!
# Patterns

A pattern has special characters for any text, any byte and any byte of a set; what is quoted stands
for itself.  Patterns are matched against whole texts, against the beginning or the end of one, or
against the names of files.
-/

namespace BufferMachine.Script

/-- A byte of a pattern, and whether it stands only for itself. -/
abbrev PatternByte := UInt8 × Bool

def inSet (b : UInt8) : List PatternByte → Bool
  | (low, _) :: (dash, false) :: (high, _) :: rest =>
    if dash = byte '-' then (low ≤ b && b ≤ high) || inSet b rest
    else low == b || inSet b ((dash, false) :: (high, false) :: rest)
  | (c, _) :: rest => c == b || inSet b rest
  | [] => false
termination_by set => set.length

/-- Does a text have the form of a pattern?  The bound has to exceed the lengths of both
together. -/
def matchesPattern : Nat → List PatternByte → Bytes → Bool
  | 0, _, _ => false
  | _, [], text => text.isEmpty
  | fuel + 1, (p, literal) :: ps, text =>
    if literal then text.head? == some p && matchesPattern fuel ps (text.drop 1)
    else if p = byte '*' then
      matchesPattern fuel ps text ||
        (!text.isEmpty && matchesPattern fuel ((p, literal) :: ps) (text.drop 1))
    else if p = byte '?' then !text.isEmpty && matchesPattern fuel ps (text.drop 1)
    else if p = byte '[' && ps.any (·.1 == byte ']') then
      let inside := ps.takeWhile (·.1 != byte ']')
      let rest := ps.drop (inside.length + 1)
      match text with
      | [] => false
      | b :: more =>
        let within := match inside with
          | (c, _) :: others => if c = byte '!' then !inSet b others else inSet b inside
          | [] => false
        within && matchesPattern fuel rest more
    else text.head? == some p && matchesPattern fuel ps (text.drop 1)

def matchesWhole (pattern : List PatternByte) (text : Bytes) : Bool :=
  matchesPattern (pattern.length + text.length + 1) pattern text

/-- The text without its shortest or longest beginning of that form. -/
def withoutStart (pattern : List PatternByte) (longest : Bool) (text : Bytes) : Bytes :=
  let lengths := List.range (text.length + 1)
  let candidates := if longest then lengths.reverse else lengths
  match candidates.find? fun n => matchesWhole pattern (text.take n) with
  | some n => text.drop n
  | none => text

/-- The text without its shortest or longest ending of that form. -/
def withoutEnd (pattern : List PatternByte) (longest : Bool) (text : Bytes) : Bytes :=
  let lengths := List.range (text.length + 1)
  let candidates := if longest then lengths else lengths.reverse
  match candidates.find? fun n => matchesWhole pattern (text.drop n) with
  | some n => text.take n
  | none => text

/-! ### Names of files -/

def isSpecial (pattern : List PatternByte) : Bool :=
  pattern.any fun (b, literal) => !literal && (b == byte '*' || b == byte '?' || b == byte '[')

def namesIn (files : FileTree) (path : Bytes) : List Bytes :=
  match files.locate (if path.isEmpty then Path.here else path) with
  | .error _ => []
  | .ok place =>
    (files.entries.filterMap fun (names, _) =>
      if place.isPrefixOf names && names.length = place.length + 1 then names.getLast?
      else none).mergeSort Bytes.notAfter

def patternComponents (pattern : List PatternByte) : List (List PatternByte) :=
  pattern.foldr (fun c parts =>
    if c.1 = Path.separator then [] :: parts
    else
      match parts with
      | first :: rest => (c :: first) :: rest
      | [] => [[c]]) [[]]

/-- The paths that start in a directory and have the form of some components. -/
def pathsFrom (files : FileTree) (front : Bytes) : List (List PatternByte) → List Bytes
  | [] => []
  | [pattern] => step pattern
  | pattern :: rest => (step pattern).flatMap fun path =>
    pathsFrom files (path ++ [Path.separator]) rest
where
  /-- The paths one component further on. -/
  step (pattern : List PatternByte) : List Bytes :=
    let plain := pattern.map Prod.fst
    if !isSpecial pattern then
      if plain.isEmpty || files.exists? (front ++ plain) then [front ++ plain] else []
    else
      let hidden := plain.head? == some (byte '.')
      let names := (if hidden then [Path.here, Path.up] else []) ++ namesIn files front
      (names.filter fun name =>
        (hidden || name.head? != some (byte '.')) && matchesWhole pattern name).map (front ++ ·)

/-- The fields that a pattern stands for: the paths that have its form, or itself if there are
none. -/
def pathsOf (files : FileTree) (pattern : List PatternByte) : List Bytes :=
  let plain := pattern.map Prod.fst
  if !isSpecial pattern then [plain]
  else
    match pathsFrom files [] (patternComponents pattern) with
    | [] => [plain]
    | found => found

/-! ### Lines -/

/-- Does a text match an expression from its start?  A dot stands for any byte, a set in brackets
for its bytes, an asterisk for any number of what is before it, and a dollar sign for the end. -/
def matchesHere : Nat → Bytes → Bytes → Bool
  | 0, _, _ => false
  | _, [], _ => true
  | fuel + 1, p :: ps, text =>
    if p = byte '$' && ps.isEmpty then text.isEmpty
    else
      let inside := ps.takeWhile (· ≠ byte ']')
      let (unit, rest) : (UInt8 → Bool) × Bytes :=
        if p = byte '[' && inside.length < ps.length then
          let set := inside.map fun b => (b, false)
          let negated := inside.head? == some (byte '^')
          (fun b => if negated then !inSet b (set.drop 1) else inSet b set,
            ps.drop (inside.length + 1))
        else if p = byte '\\' then (fun b => some b == ps.head?, ps.drop 1)
        else if p = byte '.' then (fun _ => true, ps)
        else (fun b => b == p, ps)
      if rest.head? = some (byte '*') then
        let longest := (text.takeWhile unit).length
        (List.range (longest + 1)).any fun n => matchesHere fuel (rest.drop 1) (text.drop n)
      else
        match text with
        | [] => false
        | b :: more => unit b && matchesHere fuel rest more

/-- Does a line hold a text that matches an expression? -/
def matchesLine (expression line : Bytes) : Bool :=
  let fuel := expression.length + line.length + 1
  if expression.head? = some (byte '^') then matchesHere fuel (expression.drop 1) line
  else (List.range (line.length + 1)).any fun n => matchesHere fuel expression (line.drop n)

end BufferMachine.Script
