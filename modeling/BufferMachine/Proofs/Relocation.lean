import BufferMachine.Proofs.Stages

/-!
# Tokens at other places

The stages behind the scanner decide by the kinds and the lexemes of tokens alone; a place is only
handed on, into a complaint.  So whatever is done to all places of a token list is done to the
places of its statements and of the complaint about them, and nothing else changes.  All that is
asked of such a `Relocation` is that it goes along with the span of several tokens, which is the one
way in which places are put together.

Two relocations are used: moving all places by some lines and bytes, and forgetting them.
-/

namespace BufferMachine

/-- A change of places that goes along with spans. -/
structure Relocation where
  place : Location → Location
  span : ∀ first last : Location,
    place { first with stop := last.stop } = { place first with stop := (place last).stop }

variable (r : Relocation)

def Token.relocate (t : Token) : Token := { t with location := r.place t.location }

def Statement.relocate (s : Statement) : Statement :=
  ⟨s.tokens.map (Token.relocate r), s.terminator.relocate r⟩

def Diagnostic.relocate : Diagnostic → Diagnostic
  | .scanning place lexeme message => .scanning (r.place place) lexeme message
  | .syntactic place message => .syntactic (r.place place) message
  | .generation place message => .generation (r.place place) message

@[simp] theorem Token.kind_relocate (t : Token) : (t.relocate r).kind = t.kind := rfl

@[simp] theorem Token.lexeme_relocate (t : Token) : (t.relocate r).lexeme = t.lexeme := rfl

@[simp] theorem Token.isTerminator_relocate (t : Token) :
    (t.relocate r).isTerminator = t.isTerminator := rfl

@[simp] theorem Statement.tokens_relocate (s : Statement) :
    (s.relocate r).tokens = s.tokens.map (Token.relocate r) := rfl

/-! ### Parsing -/

theorem Token.span_relocate {ts : List Token} (hne : ts ≠ []) :
    Token.span (ts.map (Token.relocate r)) = r.place (Token.span ts) := by
  obtain ⟨t, ts, rfl⟩ := List.exists_cons_of_ne_nil hne
  have hlast : (List.map (Token.relocate r) (t :: ts)).getLast (by simp) =
      ((t :: ts).getLast (by simp)).relocate r := List.getLast_map _
  simp only [List.map_cons] at hlast
  simp only [Token.span, List.map_cons, hlast]
  exact (r.span t.location _).symm

/-- **The parser goes along with a relocation.** -/
theorem segment_relocate (ts : List Token) :
    segment (ts.map (Token.relocate r)) =
      ((segment ts).1.map (Statement.relocate r), (segment ts).2.map (Token.relocate r)) := by
  induction ts with
  | nil => rfl
  | cons t ts ih =>
    rcases hsegment : segment ts with ⟨statements, dangling⟩
    rw [hsegment] at ih
    by_cases ht : t.isTerminator = true
    · simp [segment, ih, hsegment, ht, Statement.relocate]
    · cases statements with
      | nil => simp [segment, ih, hsegment, ht]
      | cons s more => simp [segment, ih, hsegment, ht, Statement.relocate]

/-! ### Instructions -/

theorem Statement.location_relocate (s : Statement) :
    (s.relocate r).location = r.place s.location := by
  rcases htokens : s.tokens with _ | ⟨t, ts⟩
  · simp [Statement.location, htokens, Statement.relocate, Token.relocate]
  · have hspan := Token.span_relocate r (List.cons_ne_nil t ts)
    simpa [Statement.location, htokens] using hspan

namespace Instruction

theorem checkKind_relocate (keyword : Bytes) (argument : Token) (expected : TokenKind) :
    checkKind keyword (argument.relocate r) expected =
      (checkKind keyword argument expected).mapError (Diagnostic.relocate r) := by
  unfold checkKind
  rw [Token.kind_relocate]
  split
  · rfl
  · rfl

theorem wrongCount_relocate (s : Statement) (keyword : Bytes) (expected : List TokenKind) :
    wrongCount (s.relocate r) keyword expected = (wrongCount s keyword expected).relocate r := by
  simp [wrongCount, StatementFault.at, Diagnostic.relocate, Statement.location_relocate]

theorem ofPerform_relocate (s : Statement) (arguments : List Token) :
    ofPerform (s.relocate r) (arguments.map (Token.relocate r)) =
      (ofPerform s arguments).mapError (Diagnostic.relocate r) := by
  rcases arguments with _ | ⟨operations, _ | ⟨more, rest⟩⟩
  · exact congrArg Except.error (wrongCount_relocate r s _ _)
  · simp only [ofPerform, List.map_cons, List.map_nil, checkKind_relocate, Outcome.mapError_bind]
    rfl
  · exact congrArg Except.error (wrongCount_relocate r s _ _)

theorem ofLoop_relocate (s : Statement) (arguments : List Token) :
    ofLoop (s.relocate r) (arguments.map (Token.relocate r)) =
      (ofLoop s arguments).mapError (Diagnostic.relocate r) := by
  rcases arguments with _ | ⟨number, _ | ⟨operations, _ | ⟨more, rest⟩⟩⟩
  · exact congrArg Except.error (wrongCount_relocate r s _ _)
  · exact congrArg Except.error (wrongCount_relocate r s _ _)
  · simp only [ofLoop, List.map_cons, List.map_nil, checkKind_relocate, Outcome.mapError_bind,
      Token.lexeme_relocate]
    cases loopCount? number.lexeme with
    | none => rfl
    | some count => rfl
  · exact congrArg Except.error (wrongCount_relocate r s _ _)

theorem ofWrite_relocate (s : Statement) (arguments : List Token) :
    ofWrite (s.relocate r) (arguments.map (Token.relocate r)) =
      (ofWrite s arguments).mapError (Diagnostic.relocate r) := by
  cases arguments with
  | nil => rfl
  | cons more rest => exact congrArg Except.error (wrongCount_relocate r s _ _)

/-- **The step to instructions goes along with a relocation.**  An instruction has no place, so only
complaints change. -/
theorem ofStatement_relocate (s : Statement) :
    ofStatement (s.relocate r) = (ofStatement s).mapError (Diagnostic.relocate r) := by
  unfold ofStatement
  rw [Statement.tokens_relocate]
  cases s.tokens with
  | nil =>
    rw [Statement.location_relocate]
    rfl
  | cons leading arguments =>
    simp only [List.map_cons, Token.kind_relocate, Token.lexeme_relocate, ofPerform_relocate,
      ofLoop_relocate, ofWrite_relocate]
    split_ifs
    · rfl
    · rfl
    · rfl
    · rfl
    · rfl

theorem ofTokens_relocate (ts : List Token) :
    ofTokens (ts.map (Token.relocate r)) = (ofTokens ts).mapError (Diagnostic.relocate r) := by
  have hmoved := segment_relocate r ts
  rcases hsegment : segment ts with ⟨statements, dangling⟩
  rw [hsegment] at hmoved
  rcases eq_or_ne dangling [] with rfl | hne
  · rw [ofTokens_of_segment hmoved, ofTokens_of_segment hsegment]
    exact Outcome.mapM_mapError (ofStatement_relocate r) statements
  · rw [ofTokens_of_dangling hmoved (by simpa using hne), ofTokens_of_dangling hsegment hne]
    simp only [missingTerminator, Token.span_relocate r hne]
    rfl

end Instruction

end BufferMachine
