import BufferMachine.Proofs.Decoder
import BufferMachine.Proofs.Displacement

/-!
# Compiling in pieces

A source that compiles can be compiled together with whatever follows it, or on its own: the outcome
is the same, but for the places in the text behind it.

Nothing of the first source may be pending at its end, in any stage.  For the scanner this means
that no lexeme can be made longer by the text that follows (`Closed`), for the parser that no tokens
are left over (`segment_append`), and the step to instructions looks at one statement at a time.
-/

namespace BufferMachine

/-! ### Texts that end between lexemes -/

/-- The text is empty or its last byte is no part of a lexeme that could go on. -/
def Closed (text : Bytes) : Prop :=
  ∀ b, text.getLast? = some b → isWordByte b = false ∧ isOperatorByte b = false

theorem Closed.append {a b : Bytes} (ha : Closed a) (hb : Closed b) : Closed (a ++ b) := by
  intro last hlast
  rw [List.getLast?_append] at hlast
  rcases Option.or_eq_some_iff.mp hlast with hlast | ⟨-, hlast⟩
  · exact hb last hlast
  · exact ha last hlast

theorem Closed.of_append {a b : Bytes} (h : Closed (a ++ b)) : Closed b := by
  intro last hlast
  apply h last
  rw [List.getLast?_append, hlast]
  rfl

theorem IsGap.closed {gap : Bytes} (h : IsGap gap) : Closed gap := by
  intro last hlast
  obtain ⟨hword, hoperator, -⟩ := isGapByte_iff.mp (h last (List.mem_of_getLast? hlast))
  exact ⟨hword, hoperator⟩

theorem closed_terminator (text : Bytes) : Closed (text ++ [terminator]) := by
  intro last hlast
  obtain rfl : terminator = last := by simpa using hlast
  decide

theorem ProgramText.closed {is : List Instruction} {text : Bytes} (h : ProgramText is text) :
    Closed text := by
  induction h with
  | nil hgap => exact hgap.closed
  | cons hgap hstatement _ ih =>
    refine Closed.append (hgap.closed.append ?_) ih
    cases hstatement with
    | write _ => exact closed_terminator _
    | perform _ _ _ => exact closed_terminator _
    | loop _ _ _ _ _ _ => exact closed_terminator _

theorem TokenKind.continues_cases {kind : TokenKind} {b : UInt8} (h : kind.continues b = true) :
    isWordByte b = true ∨ isOperatorByte b = true := by
  cases kind with
  | number => exact Or.inl (isWordByte_of_isDigit h)
  | keyword => exact Or.inl h
  | operator => exact Or.inr h
  | _ => cases h

/-- The last lexeme of a closed text ends there, whatever comes behind the text. -/
theorem Closed.endsBefore_append {lexeme rest : Bytes} (h : Closed (lexeme ++ rest))
    (kind : TokenKind) (hne : lexeme ≠ []) (hlexeme : ∀ b ∈ lexeme, kind.continues b = true)
    (hend : EndsBefore kind rest) (after : Bytes) : EndsBefore kind (rest ++ after) := by
  cases rest with
  | nil =>
    have hlast := List.getLast?_eq_some_getLast hne
    rw [List.append_nil] at h
    obtain ⟨hword, hoperator⟩ := h _ hlast
    rcases TokenKind.continues_cases (hlexeme _ (List.getLast_mem hne)) with hcontinues | hcontinues
    · exact absurd hcontinues (by simp [hword])
    · exact absurd hcontinues (by simp [hoperator])
  | cons b rest => exact endsBefore_cons (hend b rfl) _

theorem Spelled.endsBefore_append {rule : KeywordRule} {kind : TokenKind} {lexeme rest : Bytes}
    (h : Spelled rule kind lexeme) (hend : EndsBefore kind rest) (hclosed : Closed (lexeme ++ rest))
    (after : Bytes) :
    EndsBefore kind (rest ++ after) := by
  cases h with
  | punctuation => exact fun _ _ => rfl
  | number run => exact hclosed.endsBefore_append .number run.ne_nil run.all hend after
  | keyword identifier _ =>
    exact hclosed.endsBefore_append .keyword identifier.ne_nil identifier.all_word hend after
  | operator run => exact hclosed.endsBefore_append .operator run.ne_nil run.all hend after

/-- **A closed text is scanned on its own**, and then the text behind it from the place where it
stands. -/
theorem Cursor.scan_append (rule : KeywordRule) {a : Bytes} (ha : Closed a) (b : Bytes)
    (offset newlines : Nat) :
    (scan rule ⟨a ++ b, offset, newlines⟩).result =
      (scan rule ⟨a, offset, newlines⟩).result >>= fun tokens =>
        (scan rule ⟨b, offset + a.length, newlines + a.count newline⟩).result.map
          (tokens ++ ·) := by
  induction a using lexicalInduction rule generalizing offset newlines with
  | nil =>
    rw [scan_nil, List.nil_append]
    exact (congrFun Except.map_id _).symm
  | gap c rest hgap ih =>
    have hrest : Closed rest := Closed.of_append (a := [c]) ha
    rw [List.cons_append, scan_gap_cons rule _ _ _ hgap, scan_gap_cons rule _ _ _ hgap, ih hrest,
      List.length_cons, List.count_cons]
    simp only [beq_iff_eq, Nat.add_assoc, Nat.add_comm 1, Nat.add_comm (ite _ _ _)]
  | lexeme kind lexeme rest hspelled hend ih =>
    have hrest : Closed rest := ha.of_append
    -- the lexeme does not run on into `b`, even if nothing of `a` is left behind it
    rw [List.append_assoc, scan_spelled _ _ hspelled (hspelled.endsBefore_append hend ha b),
      scan_spelled _ _ hspelled hend, Scanned.result_cons, Scanned.result_cons, ih hrest,
      List.length_append, List.count_append, hspelled.count_newline, Nat.zero_add, Nat.add_assoc]
    cases (scan rule ⟨rest, offset + lexeme.length, newlines⟩).result with
    | error e => rfl
    | ok tokens => exact Outcome.map_map _ _ _
  | refused word rest hrefused hend =>
    have hafter : EndsBefore .keyword (rest ++ b) :=
      ha.endsBefore_append .keyword hrefused.identifier.ne_nil hrefused.identifier.all_word hend b
    rw [List.append_assoc, scan_refused _ _ hrefused hafter, scan_refused _ _ hrefused hend]
    rfl

/-- What is scanned behind a closed text is what would have been scanned without it, at another
place. -/
theorem scan_append (rule : KeywordRule) {a : Bytes} {tokens : List Token} (ha : Closed a)
    (htokens : scan rule a = .ok tokens) (b : Bytes) :
    scan rule (a ++ b) =
      ((scan rule b).mapError (Diagnostic.displace (.behind a))).map
        (tokens ++ List.map (Token.displace (.behind a)) ·) := by
  have hbehind := Cursor.scan_displace (.behind a) rule b 0 0
  simp only [scan] at htokens ⊢
  rw [Cursor.scan_append rule ha b 0 0, htokens]
  simp only [Displacement.behind] at hbehind
  change Except.map _ _ = _
  rw [hbehind, Outcome.map_map]
  rfl

/-! ### Statements and instructions -/

/-- Tokens that a terminator ends are cut into statements on their own. -/
theorem segment_append {ts : List Token} {ss : List Statement} (h : segment ts = (ss, []))
    (us : List Token) :
    segment (ts ++ us) = (ss ++ (segment us).1, (segment us).2) := by
  induction ts generalizing ss with
  | nil =>
    cases h
    rfl
  | cons t ts ih =>
    rcases hsegment : segment ts with ⟨statements, dangling⟩
    by_cases ht : t.isTerminator = true
    · simp only [segment, hsegment, ht, if_true, Prod.mk.injEq] at h
      obtain ⟨rfl, rfl⟩ := h
      simp [segment, ht, ih hsegment]
    · cases statements with
      -- without a statement behind it the token would be left over
      | nil => simp [segment, hsegment, ht] at h
      | cons s more =>
        simp only [segment, hsegment, ht, Bool.false_eq_true, if_false, Prod.mk.injEq] at h
        obtain ⟨rfl, rfl⟩ := h
        simp [segment, ht, ih hsegment]

theorem Instruction.ofTokens_append {ts : List Token} {ss : List Statement} {is : List Instruction}
    (h : Compiles ts ss is) (us : List Token) :
    ofTokens (ts ++ us) = (ofTokens us).map (is ++ ·) := by
  have happend := segment_append h.segment_eq us
  rcases hsegment : segment us with ⟨statements, dangling⟩
  rw [hsegment] at happend
  rcases eq_or_ne dangling [] with rfl | hne
  · have his : ss.mapM ofStatement = .ok is := by
      rw [← ofTokens_of_segment h.segment_eq]
      exact ofTokens_eq_ok.mpr ⟨ss, h⟩
    rw [ofTokens_of_segment happend, ofTokens_of_segment hsegment, List.mapM_append, his]
    rfl
  · rw [ofTokens_of_dangling happend hne, ofTokens_of_dangling hsegment hne]
    rfl

/-! ### The lines of the main function -/

/-- The code is the text of a main function with the given lines between its head and its foot. -/
structure MainBody (g : Generator) (code : Bytes) (lines : List Bytes) : Prop where
  newline_free : ∀ line ∈ lines, newline ∉ line
  code_eq : code = g.preamble ++ Bytes.unlines Generator.mainHead ++ Bytes.unlines lines ++
    Bytes.unlines Generator.mainFoot

theorem append_newline_inj {line line' rest rest' : Bytes} (h : newline ∉ line)
    (h' : newline ∉ line') (heq : line ++ newline :: rest = line' ++ newline :: rest') :
    line = line' ∧ rest = rest' := by
  induction line generalizing line' with
  | nil =>
    cases line' with
    | nil => exact ⟨rfl, List.tail_eq_of_cons_eq heq⟩
    | cons b' line' => exact absurd (by simp [List.head_eq_of_cons_eq heq]) h'
  | cons b line ih =>
    cases line' with
    | nil => exact absurd (by simp [← List.head_eq_of_cons_eq heq]) h
    | cons b' line' =>
      rw [List.mem_cons, not_or] at h h'
      obtain ⟨rfl, hrest⟩ := ih h.2 h'.2 (List.tail_eq_of_cons_eq heq)
      exact ⟨by rw [List.head_eq_of_cons_eq heq], hrest⟩

/-- Lines can be told apart in a text. -/
theorem Bytes.unlines_inj {lines lines' : List Bytes} (h : ∀ line ∈ lines, newline ∉ line)
    (h' : ∀ line ∈ lines', newline ∉ line) (heq : unlines lines = unlines lines') :
    lines = lines' := by
  induction lines generalizing lines' with
  | nil =>
    cases lines' with
    | nil => rfl
    | cons line' lines' => simp [unlines] at heq
  | cons line lines ih =>
    cases lines' with
    | nil => simp [unlines] at heq
    | cons line' lines' =>
      simp only [List.forall_mem_cons] at h h'
      simp only [unlines, List.flatMap_cons, List.append_assoc, List.singleton_append] at heq
      obtain ⟨rfl, hrest⟩ := append_newline_inj h.1 h'.1 heq
      rw [ih h.2 h'.2 hrest]

theorem Instruction.newline_not_mem_lines {i : Instruction}
    (hi : ∀ b ∈ i.operations, isOperatorByte b = true) :
    ∀ line ∈ i.lines, newline ∉ indentation ++ line := by
  have hoperations : newline ∉ i.operations := not_mem_of_forall hi (by decide)
  have hcall : newline ∉ executeCall i.operations := by
    simp only [executeCall, List.mem_append, not_or]
    exact ⟨⟨by decide, hoperations⟩, by decide⟩
  have hindentation : newline ∉ indentation := by decide
  intro line hline
  rw [List.mem_append, not_or]
  refine ⟨hindentation, ?_⟩
  cases i with
  | write =>
    obtain rfl := List.mem_singleton.mp hline
    decide
  | perform operations =>
    obtain rfl := List.mem_singleton.mp hline
    exact hcall
  | loop count operations =>
    have hcount : newline ∉ Decimal.ofNat count :=
      not_mem_of_forall (Decimal.isRun_ofNat count).all (by decide)
    simp only [lines, List.mem_cons, List.not_mem_nil, or_false] at hline
    rcases hline with rfl | rfl | rfl | rfl | rfl
    · simp only [loopHead, List.mem_append, not_or]
      exact ⟨⟨by decide, hcount⟩, by decide⟩
    · decide
    · rw [List.mem_append, not_or]
      exact ⟨hindentation, hcall⟩
    · decide
    · decide

/-- The main function of generated code has the lines of the instructions and no others. -/
theorem mainBody_text_iff (g : Generator) {is : List Instruction}
    (his : ∀ i ∈ is, ∀ b ∈ i.operations, isOperatorByte b = true) (lines : List Bytes) :
    MainBody g (g.text is) lines ↔
      lines = (Generator.bodyLines is).map (Instruction.indentation ++ ·) := by
  have hfree : ∀ line ∈ (Generator.bodyLines is).map (Instruction.indentation ++ ·),
      newline ∉ line := by
    intro line hline
    obtain ⟨line, hmem, rfl⟩ := List.mem_map.mp hline
    obtain ⟨i, hi, hmem⟩ := List.mem_flatMap.mp hmem
    exact Instruction.newline_not_mem_lines (his i hi) line hmem
  constructor
  · rintro ⟨hnewline, hcode⟩
    rw [Generator.text, List.append_cancel_right_eq, List.append_cancel_left_eq] at hcode
    exact (Bytes.unlines_inj hfree hnewline hcode).symm
  · rintro rfl
    exact ⟨hfree, rfl⟩

/-! ### Compiling in pieces -/

section

variable {rule : KeywordRule} {size : Int} {a b : Bytes} {ra : Compilation}

theorem compile_append_error (ha : compile rule size a = .ok ra) {e : Diagnostic}
    (hb : compile rule size b = .error e) :
    compile rule size (a ++ b) = .error (e.displace (.behind a)) := by
  obtain ⟨tokens, statements, is, hscan, hcompiles, rfl⟩ := compile_eq_ok.mp ha
  have happend := scan_append rule (programText_of_compiles hscan hcompiles).closed hscan b
  rw [compile_eq_error] at hb ⊢
  rcases hb with hb | ⟨tokens', hb, he⟩
  · left
    rw [happend, hb]
    rfl
  · right
    refine ⟨tokens ++ tokens'.map (Token.displace (.behind a)), ?_, ?_⟩
    · rw [happend, hb]
      rfl
    · rw [Instruction.ofTokens_append hcompiles, Instruction.ofTokens_displace, he]
      rfl

theorem compile_append_ok (ha : compile rule size a = .ok ra) {rb : Compilation}
    (hb : compile rule size b = .ok rb) :
    ∃ r, compile rule size (a ++ b) = .ok r ∧
      r.tokens = ra.tokens ++ rb.tokens.map (Token.displace (.behind a)) ∧
      ∃ is is', ProgramText is a ∧ ProgramText is' b ∧ ra.code = (Generator.new [size]).text is ∧
        rb.code = (Generator.new [size]).text is' ∧
          r.code = (Generator.new [size]).text (is ++ is') := by
  obtain ⟨tokens, statements, is, hscan, hcompiles, rfl⟩ := compile_eq_ok.mp ha
  obtain ⟨tokens', statements', is', hscan', hcompiles', rfl⟩ := compile_eq_ok.mp hb
  have htext := programText_of_compiles hscan hcompiles
  have hscanAppend :
      scan rule (a ++ b) = .ok (tokens ++ tokens'.map (Token.displace (.behind a))) := by
    rw [scan_append rule htext.closed hscan b, hscan']
    rfl
  have hofTokens : Instruction.ofTokens (tokens ++ tokens'.map (Token.displace (.behind a))) =
      .ok (is ++ is') := by
    rw [Instruction.ofTokens_append hcompiles, Instruction.ofTokens_displace,
      Instruction.ofTokens_eq_ok.mpr ⟨statements', hcompiles'⟩]
    rfl
  obtain ⟨statements'', hcompiles''⟩ := Instruction.ofTokens_eq_ok.mp hofTokens
  exact ⟨_, compile_eq_ok.mpr ⟨_, _, _, hscanAppend, hcompiles'', rfl⟩, rfl, is, is', htext,
    programText_of_compiles hscan' hcompiles', rfl, rfl, rfl⟩

end

/-- **Compiling in pieces agrees with compiling at once.**  Behind a source that compiles, a text
compiles exactly if it does so on its own.  The tokens and the lines of the main function are then
those of the two pieces one after the other, and a complaint is the complaint about the second
piece; all places in it are moved by the lines and bytes of the first. -/
theorem run_append (c : Compiler) (a b : Bytes) (w wa wb : Workspace) (ra : Compilation)
    (ha : (c.run a wa).1 = .ok ra) :
    ((∃ r, (c.run (a ++ b) w).1 = .ok r) ↔ ∃ rb, (c.run b wb).1 = .ok rb) ∧
    (∀ rb r, (c.run b wb).1 = .ok rb → (c.run (a ++ b) w).1 = .ok r →
      r.tokens = ra.tokens ++ rb.tokens.map (Token.displace (.behind a)) ∧
      ∃ linesA linesB, (∀ lines, MainBody (.new [c.bufferSize]) ra.code lines ↔ lines = linesA) ∧
        (∀ lines, MainBody (.new [c.bufferSize]) rb.code lines ↔ lines = linesB) ∧
        ∀ lines, MainBody (.new [c.bufferSize]) r.code lines ↔ lines = linesA ++ linesB) ∧
    ∀ e, (c.run b wb).1 = .error e → (c.run (a ++ b) w).1 = .error (e.displace (.behind a)) := by
  simp only [c.run_fst] at ha ⊢
  refine ⟨⟨?_, ?_⟩, ?_, ?_⟩
  · rintro ⟨r, hr⟩
    cases hb : compile c.rule c.bufferSize b with
    | ok rb => exact ⟨rb, rfl⟩
    | error e =>
      rw [compile_append_error ha hb] at hr
      cases hr
  · rintro ⟨rb, hb⟩
    obtain ⟨r, hr, -⟩ := compile_append_ok ha hb
    exact ⟨r, hr⟩
  · intro rb r hb hr
    obtain ⟨r', hr', htokens, is, is', htext, htext', hcode, hcode', hcodeAppend⟩ :=
      compile_append_ok ha hb
    rw [hr, Except.ok.injEq] at hr'
    subst hr'
    have his := htext.operations_all
    have his' := htext'.operations_all
    refine ⟨htokens, (Generator.bodyLines is).map (Instruction.indentation ++ ·),
      (Generator.bodyLines is').map (Instruction.indentation ++ ·), ?_, ?_, ?_⟩
    · rw [hcode]
      exact mainBody_text_iff _ his
    · rw [hcode']
      exact mainBody_text_iff _ his'
    · have hlines : Generator.bodyLines (is ++ is') = Generator.bodyLines is ++
        Generator.bodyLines is' :=
        List.flatMap_append
      rw [hcodeAppend, ← List.map_append, ← hlines]
      exact mainBody_text_iff _ (List.forall_mem_append.mpr ⟨his, his'⟩)
  · intro e hb
    exact compile_append_error ha hb

/-- Behind `write;` and a line break, another `write;` compiles and an unknown word is found in the
second line. -/
theorem run_append_write :
    ∃ ra r, (({} : Compiler).run (bytes "write;\n") {}).1 = .ok ra ∧
      (({} : Compiler).run (bytes "write;\n" ++ bytes "write;\n") {}).1 = .ok r ∧
      r.tokens = ra.tokens ++ ra.tokens.map (Token.displace ⟨1, 7⟩) ∧
      (({} : Compiler).run (bytes "write;\n" ++ bytes "x") {}).1 =
        .error (.lexical ⟨2, 7, 8⟩ (bytes "x")) := by
  have htext : ProgramText [.write] (bytes "write;\n") := by
    have hsource : bytes "write;\n" = [] ++ (Keyword.write ++ [] ++ [terminator]) ++
      bytes "\n" := by decide
    rw [hsource]
    exact .cons isGap_nil (.write isGap_nil) (.nil (by decide))
  have hbehind : Displacement.behind (bytes "write;\n") = ⟨1, 7⟩ := by decide
  have hunknown :
      (({} : Compiler).run (bytes "x") {}).1 = .error (.lexical ⟨1, 0, 1⟩ (bytes "x")) := by
    have hrefused : Refused .substring (bytes "x") := ⟨by decide, by decide⟩
    have hscan :=
      Cursor.scan_refused 0 0 hrefused (fun _ hb => absurd hb (by simp) : EndsBefore .keyword [])
    rw [Compiler.run_fst, compile_eq_error]
    left
    rw [List.append_nil] at hscan
    rw [scan, hscan]
    rfl
  obtain ⟨ra, ha⟩ := htext.exists_run {} {}
  have hsuccess := run_append {} (bytes "write;\n") (bytes "write;\n") {} {} {} ra ha
  have hfailure := run_append {} (bytes "write;\n") (bytes "x") {} {} {} ra ha
  rw [hbehind] at hsuccess hfailure
  obtain ⟨r, hr⟩ := hsuccess.1.mpr ⟨ra, ha⟩
  exact ⟨ra, r, ha, hr, (hsuccess.2.1 ra r ha hr).1, hfailure.2.2 _ hunknown⟩

end BufferMachine
