import BufferMachine.Proofs.Lexeme
import BufferMachine.Proofs.Relocation

/-!
# Texts behind other texts

What becomes of a text does not depend on where it stands.  Behind another text every place is moved
by the lines and the bytes of that text, and nothing else changes: neither the tokens, statements
and instructions, nor which complaint is made and in which words.

The scanner goes along with a displacement (`Cursor.scan_displace`), and so do the stages behind it,
for a displacement is a relocation.
-/

namespace BufferMachine

/-- How far places are moved. -/
structure Displacement where
  lines : Nat
  offset : Nat
deriving DecidableEq, Repr

/-- How far the places of a text are moved by a text in front of it. -/
def Displacement.behind (text : Bytes) : Displacement := ⟨text.count newline, text.length⟩

/-- A place that is moved. -/
def Location.displace (d : Displacement) (place : Location) : Location :=
  ⟨place.line + d.lines, place.start + d.offset, place.stop + d.offset⟩

/-- A token that is moved. -/
def Token.displace (d : Displacement) (t : Token) : Token :=
  { t with location := t.location.displace d }

/-- The same complaint about another place. -/
def Diagnostic.displace (d : Displacement) : Diagnostic → Diagnostic
  | .scanning place lexeme message => .scanning (place.displace d) lexeme message
  | .syntactic place message => .syntactic (place.displace d) message
  | .generation place message => .generation (place.displace d) message

variable (d : Displacement)

/-! ### Scanning -/

theorem Cursor.lexemeAt_displace (offset newlines : Nat) (kind : TokenKind) (lexeme : Bytes) :
    lexemeAt (offset + d.offset) (newlines + d.lines) kind lexeme =
      (lexemeAt offset newlines kind lexeme).displace d := by
  simp only [lexemeAt, Token.displace, Location.displace, Token.mk.injEq,
    Location.mk.injEq, true_and]
  omega

/-- **The scanner goes along with a displacement.** -/
theorem Cursor.scan_displace (rule : KeywordRule) (text : Bytes) (offset newlines : Nat) :
    (scan rule ⟨text, offset + d.offset, newlines + d.lines⟩).result =
      ((scan rule ⟨text, offset, newlines⟩).result.mapError (Diagnostic.displace d)).map
        (List.map (Token.displace d)) := by
  induction text using lexicalInduction rule generalizing offset newlines with
  | nil =>
    rw [scan_nil, scan_nil]
    rfl
  | gap b rest hgap ih =>
    rw [scan_gap_cons rule _ _ _ hgap, scan_gap_cons rule _ _ _ hgap, Nat.add_right_comm offset,
      Nat.add_right_comm newlines]
    exact ih _ _
  | lexeme kind lexeme rest hspelled hend ih =>
    rw [scan_spelled _ _ hspelled hend, scan_spelled _ _ hspelled hend, Scanned.result_cons,
      Scanned.result_cons, Nat.add_right_comm, ih, lexemeAt_displace]
    cases (scan rule ⟨rest, offset + lexeme.length, newlines⟩).result with
    | error e => rfl
    | ok tokens => rfl
  | refused word rest hrefused hend =>
    rw [scan_refused _ _ hrefused hend, scan_refused _ _ hrefused hend]
    simp only [Except.mapError, Except.map, Diagnostic.lexical, Diagnostic.displace,
      Location.displace, Except.error.injEq, Diagnostic.scanning.injEq, Location.mk.injEq, and_true]
    omega

/-! ### Statements and instructions -/

def Displacement.relocation : Relocation where
  place := Location.displace d
  span := fun _ _ => rfl

theorem Diagnostic.relocate_displacement :
    Diagnostic.relocate d.relocation = Diagnostic.displace d := by
  funext e
  cases e with
  | scanning place lexeme message => rfl
  | syntactic place message => rfl
  | generation place message => rfl

theorem Instruction.ofTokens_displace (ts : List Token) :
    ofTokens (ts.map (Token.displace d)) = (ofTokens ts).mapError (Diagnostic.displace d) := by
  rw [← Diagnostic.relocate_displacement]
  exact ofTokens_relocate d.relocation ts

end BufferMachine
