import BufferMachine.Program.Basic
import BufferMachine.Text.Box
import BufferMachine.Text.Csv

/-!
# Token tables

Tokens are shown as rows of kind, lexeme and line, in one of three formats.  The JSON form shows a
token without a kind as an invalid one; the other two have no name to show for it and refuse such a
token.
-/

namespace BufferMachine

inductive TableFormat where
  | text
  | csv
  | json
deriving DecidableEq, Repr

namespace TableFormat

def names : List Bytes := [bytes "text", bytes "csv", bytes "json"]

/-- The format with a given name; every unknown name means the text form. -/
def ofName (name : Bytes) : TableFormat :=
  if name = bytes "csv" then .csv else if name = bytes "json" then .json else .text

end TableFormat

/-- Tokens to be shown; the list itself may be missing. -/
structure TokenTable where
  tokens : Option (List Token)
deriving DecidableEq, Repr

namespace TokenTable

def headings : List Bytes := [bytes "type", bytes "value", bytes "line"]

def row (t : Token) : Except Misuse (List Bytes) :=
  match t.kind with
  | some kind => .ok [kind.name, t.lexeme, Decimal.ofInt t.location.line]
  | none => .error .missingKind

def rows (table : TokenTable) : Except Misuse (List (List Bytes)) := (table.tokens.getD []).mapM row

def toJson (table : TokenTable) : Json :=
  match table.tokens with
  | none => .null
  | some tokens => .list (tokens.map Token.toJson)

def render (table : TokenTable) : TableFormat → Except Misuse Bytes
  | .json => .ok (table.toJson.compact ++ [newline])
  | .csv => do return Csv.render (headings :: (← table.rows))
  | .text => do return Box.render (headings.map Bytes.toUpper) (← table.rows)

end TokenTable

end BufferMachine
