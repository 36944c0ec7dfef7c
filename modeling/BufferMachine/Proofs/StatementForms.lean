import BufferMachine.Proofs.Grammar

/-!
# The forms of statements

A statement has code in three forms, whatever tokens it is put together from, and every other
statement is complained about.  `HasLines` gives the forms with the lines that they stand for, in
full.  In the lines of a loop the count is written without the zeros that may stand in front of it
in the statement, of which there may be any number.
-/

namespace BufferMachine

/-- The lines that the tokens of a statement stand for. -/
inductive HasLines : List Token → List Bytes → Prop where
  | write {keyword : Token} (hkind : keyword.kind = some .keyword)
      (hlexeme : keyword.lexeme = bytes "write") :
      HasLines [keyword] [bytes "write(&buffer);"]
  | perform {keyword operations : Token} (hkind : keyword.kind = some .keyword)
      (hlexeme : keyword.lexeme = bytes "do") (hoperations : operations.kind = some .operator) :
      HasLines [keyword, operations]
        [bytes "execute(&buffer, \"" ++ operations.lexeme ++ bytes "\");"]
  | loop {keyword number operations : Token} {bound : Bytes} (hkind : keyword.kind = some .keyword)
      (hlexeme : keyword.lexeme = bytes "for") (hnumber : number.kind = some .number)
      (hoperations : operations.kind = some .operator)
      (hdigits : IsRun Decimal.isDigit number.lexeme)
      (hrange : Decimal.value number.lexeme ≤ 4294967295) (hbound : Decimal.IsCanonical bound)
      (hvalue : Decimal.value bound = Decimal.value number.lexeme) :
      HasLines [keyword, number, operations]
        [bytes "for (unsigned int i = 0; i < " ++ bound ++ bytes "u; i++)", bytes "\x7b",
          bytes "    execute(&buffer, \"" ++ operations.lexeme ++ bytes "\");", bytes "\x7d",
          bytes "buffer.pointer++;"]

theorem indented_executeCall (operations : Bytes) :
    Instruction.indentation ++ Instruction.executeCall operations =
      bytes "    execute(&buffer, \"" ++ operations ++ bytes "\");" := by
  have htext : Instruction.indentation ++ bytes "execute(&buffer, \"" =
    bytes "    execute(&buffer, \"" := by decide
  rw [Instruction.executeCall, ← List.append_assoc, ← List.append_assoc, htext]

theorem hasLines_iff_instructionForm {tokens : List Token} {lines : List Bytes} :
    HasLines tokens lines ↔ ∃ i, InstructionForm i tokens ∧ i.lines = lines := by
  constructor
  · intro h
    cases h with
    | write hkind hlexeme => exact ⟨.write, .write hkind hlexeme, rfl⟩
    | @perform _ operations hkind hlexeme hoperations =>
      exact ⟨.perform operations.lexeme, .perform hkind hlexeme hoperations, rfl⟩
    | @loop _ number operations bound hkind hlexeme hnumber hoperations hdigits hrange hbound
        hvalue =>
      refine ⟨.loop (Decimal.value number.lexeme) operations.lexeme,
        .loop hkind hlexeme hnumber hoperations ?_, ?_⟩
      · exact loopCount?_eq_some.mpr ⟨hdigits, Nat.lt_succ_of_le hrange, rfl⟩
      · rw [Instruction.lines, Instruction.loopHead, Decimal.ofNat_eq_iff.mpr ⟨hbound, hvalue⟩,
          indented_executeCall]
  · rintro ⟨i, hform, rfl⟩
    cases hform with
    | write hkind hlexeme => exact .write hkind hlexeme
    | perform hkind hlexeme hoperations => exact .perform hkind hlexeme hoperations
    | loop hkind hlexeme hnumber hoperations hcount =>
      obtain ⟨hdigits, hrange, rfl⟩ := loopCount?_eq_some.mp hcount
      rw [Instruction.lines, Instruction.loopHead, indented_executeCall]
      exact .loop hkind hlexeme hnumber hoperations hdigits (Nat.le_of_lt_succ hrange)
        (Decimal.isCanonical_ofNat _)
        (Decimal.value_ofNat _)

/-- **The three forms of statements.**  Whatever tokens a statement is put together from, lines come
of it exactly if they are of one of the three forms, and then they are the lines of the form.
Otherwise the code generator complains, and the complaint lies at the terminator of an empty
statement, at one of the tokens, or at all of them. -/
theorem statement_translates_iff_form (s : Statement) :
    (∀ lines, Generator.statementLines s = .ok lines ↔ HasLines s.tokens lines) ∧
    ((¬ ∃ lines, HasLines s.tokens lines) →
      ∃ place message, Generator.statementLines s = .error (.generation place message) ∧
        Instruction.FaultPlace s place) := by
  have hlines : ∀ lines, Generator.statementLines s = .ok lines ↔ HasLines s.tokens lines := by
    intro lines
    simp only [Generator.statementLines, Outcome.map_eq_ok, Instruction.ofStatement_eq_ok,
      hasLines_iff_instructionForm]
  refine ⟨hlines, ?_⟩
  intro hnone
  cases hresult : Instruction.ofStatement s with
  | ok i =>
    have hok : Generator.statementLines s = .ok i.lines := Outcome.map_eq_ok.mpr ⟨i, hresult, rfl⟩
    exact absurd ⟨i.lines, (hlines i.lines).mp hok⟩ hnone
  | error e =>
    obtain ⟨fault, place, hplace, rfl⟩ := Instruction.ofStatement_blames hresult
    exact ⟨place, fault.message, Outcome.map_eq_error.mpr hresult, hplace⟩

end BufferMachine
