import BufferMachine.Diagnostic.Basic

/-!
# Error trees

On its way to the user a diagnostic may be wrapped in context and joined with other errors.
`describe` looks through all of that: it renders the diagnostic of the earliest stage that the tree
holds, the first one from the left, and falls back to the message of the whole tree.
-/

namespace BufferMachine

/-- An error with everything that was put around it. -/
inductive ErrorTree where
  | diagnostic (d : Diagnostic)
  | plain (message : Bytes)
  /-- The inner error with some context in front. -/
  | wrapped (context : Bytes) (inner : ErrorTree)
  /-- Several errors at once. -/
  | joined (parts : List ErrorTree)
deriving Inhabited, Repr

namespace ErrorTree

/-- Puts context in front of an error; where there is no error, the message says so. -/
def wrap (context : Bytes) : Option ErrorTree → ErrorTree
  | some inner => .wrapped context inner
  | none => .plain (context ++ bytes ": %!w(<nil>)")

mutual

/-- The message: context is set off by a colon, joined errors stand on lines of their own. -/
def message : ErrorTree → Bytes
  | .diagnostic d => d.summary
  | .plain text => text
  | .wrapped context inner => context ++ bytes ": " ++ message inner
  | .joined parts => joinedMessage parts

def joinedMessage : List ErrorTree → Bytes
  | [] => []
  | [part] => message part
  | part :: parts => message part ++ [newline] ++ joinedMessage parts

end

mutual

/-- The diagnostics in the tree, from left to right. -/
def diagnostics : ErrorTree → List Diagnostic
  | .diagnostic d => [d]
  | .plain _ => []
  | .wrapped _ inner => diagnostics inner
  | .joined parts => joinedDiagnostics parts

/-- The diagnostics in joined errors. -/
def joinedDiagnostics : List ErrorTree → List Diagnostic
  | [] => []
  | part :: parts => diagnostics part ++ joinedDiagnostics parts

end

end ErrorTree

def Diagnostic.isLexical : Diagnostic → Bool
  | .scanning .. => true
  | _ => false

def Diagnostic.isSyntactic : Diagnostic → Bool
  | .syntactic .. => true
  | _ => false

namespace ErrorTree

/-- The diagnostic to be shown: the first one of the earliest stage. -/
def foremost? (e : ErrorTree) : Option Diagnostic :=
  e.diagnostics.find? Diagnostic.isLexical
    <|> e.diagnostics.find? Diagnostic.isSyntactic
    <|> e.diagnostics.head?

/-- The report on an error against the source text. -/
def describe (e : ErrorTree) (source : Bytes) : Bytes :=
  match e.foremost? with
  | some d => d.render source
  | none => e.message

end ErrorTree

end BufferMachine
