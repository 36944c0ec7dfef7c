import BufferMachine.Text.Bytes

/-!
# Misuse

Operations on values put together by hand can be asked for something that has no answer: a position
outside the text, a node that is no part of a program.  Such a request is refused with the reason,
and the value that was asked is of no further use.
-/

namespace BufferMachine

/-- Why a request has no answer. -/
inductive Misuse where
  /-- A position or an index outside its range. -/
  | outOfRange
  /-- More levels were closed than opened before a node was shown. -/
  | negativeIndentation
  /-- A node that is neither a program nor a statement was walked. -/
  | foreignNode
  /-- There is nothing behind a reference to a program or a statement. -/
  | missingNode
  /-- A foreign node was asked for its value and failed. -/
  | missingValue
  /-- A foreign node is of a type without elements, of which it could take its name. -/
  | noElements (type : Bytes)
  /-- A token without a kind was put into a table. -/
  | missingKind
  /-- A label that is not well-formed text. -/
  | malformedLabel
deriving DecidableEq, Repr

/-- The wording of the reasons that have one. -/
def Misuse.message? : Misuse → Option Bytes
  | .negativeIndentation => some (bytes "strings: negative Repeat count")
  | .foreignNode => some (bytes "Unexpected ASTNode passed to Walk")
  | .noElements type => some (bytes "reflect: Elem of invalid type " ++ type)
  | _ => none

end BufferMachine
