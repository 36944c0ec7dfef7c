import BufferMachine.Diagnostic.Basic
import BufferMachine.Program.Basic

/-!
# Parsing

Parsing cuts a token list into statements: every terminator closes one.  Nothing else is asked of
the tokens, so the only failure is that some tokens are left over after the last terminator.

`segment` does the cutting and keeps what is left over; `Parser` is the same as a value with a
position that can be moved by hand.
-/

namespace BufferMachine

/-- The statements of a token list, and the tokens after the last terminator. -/
def segment : List Token → List Statement × List Token
  | [] => ([], [])
  | t :: ts =>
    let (statements, dangling) := segment ts
    if t.isTerminator then (⟨[], t⟩ :: statements, dangling)
    else
      match statements with
      | [] => ([], t :: dangling)
      | s :: more => ({ s with tokens := t :: s.tokens } :: more, dangling)

/-- The complaint about tokens that no terminator follows. -/
def missingTerminator (dangling : List Token) : Diagnostic :=
  .syntactic (Token.span dangling) (bytes "missing statement terminator ';'")

def Program.ofTokens (tokens : List Token) : Except Diagnostic Program :=
  match segment tokens with
  | (statements, []) => .ok ⟨some statements⟩
  | (_, dangling) => .error (missingTerminator dangling)

/-- A parser on its way through a token list. -/
structure Parser where
  tokens : List Token := []
  pos : Int := 0
deriving DecidableEq, Repr

/-- Parses the tokens from the position on.  The position moves behind the last terminator; it stays
where it is if it lies behind all tokens already. -/
def Parser.parse (p : Parser) : Except Misuse (Except Diagnostic Program × Parser) :=
  if p.pos < 0 then .error .outOfRange
  else
    let rest := p.tokens.drop p.pos.toNat
    .ok (Program.ofTokens rest, { p with pos := p.pos + (rest.length - (segment rest).2.length) })

end BufferMachine
