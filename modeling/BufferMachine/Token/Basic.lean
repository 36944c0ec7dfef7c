import BufferMachine.Number.Decimal

/-!
# Tokens

A token is a piece of source text with its kind and its place.  The scanner gives every token a kind
and a place inside the text; tokens that are put together by hand may lack a kind, carry a kind
outside the language's own, and lie anywhere, so kinds are optional and places are whole numbers.
-/

namespace BufferMachine

/-- A place in a source text: the line, counted from one, and the byte offsets where it starts and
just after which it stops. -/
structure Location where
  line : Int := 0
  start : Int := 0
  stop : Int := 0
deriving DecidableEq, Repr

/-- What a token is.  Codes outside the language's own six kinds are kept as they are. -/
inductive TokenKind where
  | invalid
  | endOfText
  | punctuation
  | number
  | keyword
  | operator
  | unknown (code : Int)
deriving DecidableEq, Repr

namespace TokenKind

def ofCode (code : Int) : TokenKind :=
  if code = 0 then .invalid
  else if code = 1 then .endOfText
  else if code = 2 then .punctuation
  else if code = 3 then .number
  else if code = 4 then .keyword
  else if code = 5 then .operator
  else .unknown code

/-- The name that tables and dumps show. -/
def name : TokenKind → Bytes
  | .invalid => bytes "TOK_INVALID"
  | .endOfText => bytes "TOK_EOF"
  | .punctuation => bytes "TOK_PUNCTUATION"
  | .number => bytes "TOK_NUMBER"
  | .keyword => bytes "TOK_KEYWORD"
  | .operator => bytes "TOK_OPERATOR"
  | .unknown _ => bytes "TOK_UNKNOWN"

end TokenKind

/-- A piece of source text with its kind and its place. -/
structure Token where
  kind : Option TokenKind := none
  lexeme : Bytes := []
  location : Location := {}
deriving DecidableEq, Repr

namespace Token

def isTerminator (t : Token) : Bool := t.kind == some .punctuation

/-- The place from the start of the first token to the stop of the last one. -/
def span : List Token → Location
  | [] => {}
  | t :: ts => { t.location with stop := ((t :: ts).getLast (List.cons_ne_nil t ts)).location.stop }

end Token

end BufferMachine
