import BufferMachine.Proofs.Numerals
import BufferMachine.Proofs.Stages

/-!
# The source language

The grammar of programs, over bytes:

    program    = gap (statement gap)*
    statement  = "write" gap ";" | "do" gap op+ gap ";" | "for" gap+ digit+ gap op+ gap ";"

A gap holds any bytes but those of words and operations and the terminator, and the value of the
digits has to fit into thirty-two bits.  `ProgramText` is this grammar, and it also says which
instructions a program text stands for.

A compilation accepts exactly this language, under both keyword rules and for every buffer size.
Each stage refuses something else, so neither direction can be seen from one stage: a text of the
grammar is scanned, cut into statements and turned into instructions from its head on
(`StatementText.scan_append`), and a successful compilation is read back token by token into a
derivation (`programText_of_compiles`).
-/

namespace BufferMachine

/-- The text of a statement, up to and with its terminator. -/
inductive StatementText : Instruction → Bytes → Prop where
  | write {gap : Bytes} (hgap : IsGap gap) :
    StatementText .write (Keyword.write ++ gap ++ [terminator])
  | perform {gap₁ operations gap₂ : Bytes} (hgap₁ : IsGap gap₁)
      (hoperations : IsRun isOperatorByte operations) (hgap₂ : IsGap gap₂) :
      StatementText (.perform operations)
        (Keyword.perform ++ gap₁ ++ operations ++ gap₂ ++ [terminator])
  | loop {gap₁ digits gap₂ operations gap₃ : Bytes} (hgap₁ : IsRun isGapByte gap₁)
      (hdigits : IsRun Decimal.isDigit digits) (hrange : Decimal.value digits < UInt32.size)
      (hgap₂ : IsGap gap₂) (hoperations : IsRun isOperatorByte operations) (hgap₃ : IsGap gap₃) :
      StatementText (.loop (Decimal.value digits) operations)
        (Keyword.loop ++ gap₁ ++ digits ++ gap₂ ++ operations ++ gap₃ ++ [terminator])

/-- The text of a program: statements with gaps before, between and behind them. -/
inductive ProgramText : List Instruction → Bytes → Prop where
  | nil {gap : Bytes} (hgap : IsGap gap) : ProgramText [] gap
  | cons {gap statement rest : Bytes} {i : Instruction} {is : List Instruction} (hgap : IsGap gap)
      (hstatement : StatementText i statement) (hrest : ProgramText is rest) :
      ProgramText (i :: is) (gap ++ statement ++ rest)

/-! ### What may stand behind a lexeme -/

theorem endsBefore_cons {kind : TokenKind} {b : UInt8} (h : kind.continues b = false)
    (rest : Bytes) :
    EndsBefore kind (b :: rest) := by
  intro c hc
  obtain rfl : b = c := by simpa using hc
  exact h

theorem continues_of_isGapByte (kind : TokenKind) {b : UInt8} (h : isGapByte b = true) :
    kind.continues b = false := by
  obtain ⟨hword, hoperator, -⟩ := isGapByte_iff.mp h
  cases kind with
  | keyword => exact hword
  | operator => exact hoperator
  | number =>
    rw [← Bool.not_eq_true]
    exact fun hdigit => absurd (isWordByte_of_isDigit hdigit) (by simp [hword])
  | _ => rfl

theorem continues_terminator (kind : TokenKind) : kind.continues terminator = false := by
  cases kind <;> rfl

theorem endsBefore_gap_append {kind : TokenKind} {gap rest : Bytes} (hgap : IsGap gap)
    (hrest : EndsBefore kind rest) : EndsBefore kind (gap ++ rest) := by
  cases gap with
  | nil => exact hrest
  | cons b gap => exact endsBefore_cons (continues_of_isGapByte kind (isGap_cons.mp hgap).1) _

theorem endsBefore_run_append {kind : TokenKind} {p : UInt8 → Bool} {run : Bytes} (h : IsRun p run)
    (hp : ∀ b, p b = true → kind.continues b = false) (rest : Bytes) :
    EndsBefore kind (run ++ rest) := by
  obtain ⟨b, tail, rfl⟩ := List.exists_cons_of_ne_nil h.ne_nil
  exact endsBefore_cons (hp b (h.all b List.mem_cons_self)) _

theorem not_isWordByte_of_isOperatorByte {b : UInt8} (h : isOperatorByte b = true) :
    isWordByte b = false := by
  rw [← Bool.not_eq_true]
  exact fun hword => absurd h (by simp [isOperatorByte_of_isWordByte hword])

theorem not_isDigit_of_isOperatorByte {b : UInt8} (h : isOperatorByte b = true) :
    Decimal.isDigit b = false := by
  rw [← Bool.not_eq_true]
  exact fun hdigit =>
    absurd (not_isWordByte_of_isOperatorByte h) (by simp [isWordByte_of_isDigit hdigit])

/-- Both rules take the keywords for keywords. -/
theorem spelled_keyword (rule : KeywordRule) {keyword : Bytes} (h : keyword ∈ Keyword.all) :
    Spelled rule .keyword keyword := by
  simp only [Keyword.all, List.mem_cons, List.not_mem_nil, or_false] at h
  rcases h with rfl | rfl | rfl
  · exact .keyword (by decide) (by cases rule <;> decide)
  · exact .keyword (by decide) (by cases rule <;> decide)
  · exact .keyword (by decide) (by cases rule <;> decide)

theorem loopCount?_eq_some {digits : Bytes} {count : Nat} :
    loopCount? digits = some count ↔
      IsRun Decimal.isDigit digits ∧ Decimal.value digits < UInt32.size ∧
        count = Decimal.value digits := by
  have hlargest : ∀ n, n ≤ largestCount ↔ n < UInt32.size := fun _ => Nat.lt_succ_iff.symm
  rw [loopCount?, Option.filter_eq_some_iff, Decimal.toNat?_eq_some, decide_eq_true_eq, hlargest]
  constructor
  · rintro ⟨⟨hdigits, rfl⟩, hrange⟩
    exact ⟨hdigits, hrange, rfl⟩
  · rintro ⟨hdigits, hrange, rfl⟩
    exact ⟨⟨hdigits, rfl⟩, hrange⟩

/-! ### From program texts to instructions -/

theorem InstructionForm.not_terminator {i : Instruction} {tokens : List Token}
    (h : InstructionForm i tokens) :
    ∀ t ∈ tokens, t.isTerminator = false := by
  cases h with
  | write hkind _ => simp [Token.isTerminator, hkind]
  | perform hkind _ hoperations => simp [Token.isTerminator, hkind, hoperations]
  | loop hkind _ hnumber hoperations _ => simp [Token.isTerminator, hkind, hnumber, hoperations]

/-- A lexeme behind a gap is the next token; where it lies does not matter here. -/
theorem Cursor.scan_lexeme (rule : KeywordRule) {gap lexeme rest : Bytes} {kind : TokenKind}
    (hgap : IsGap gap) (hspelled : Spelled rule kind lexeme) (hend : EndsBefore kind rest)
    (offset newlines : Nat) :
    ∃ t offset' newlines', t.kind = some kind ∧ t.lexeme = lexeme ∧
      (scan rule ⟨gap ++ (lexeme ++ rest), offset, newlines⟩).result =
        (scan rule ⟨rest, offset', newlines'⟩).result.map (t :: ·) := by
  refine ⟨lexemeAt (offset + gap.length) (newlines + gap.count newline) kind lexeme,
    offset + gap.length + lexeme.length, newlines + gap.count newline, rfl, rfl, ?_⟩
  rw [scan_gap rule _ _ _ hgap, scan_spelled _ _ hspelled hend, Scanned.result_cons]

theorem isTerminator_of_kind {t : Token} (h : t.kind = some .punctuation) :
    t.isTerminator = true := by
  simp [Token.isTerminator, h]

/-- **A statement at the head of a text is scanned as such**, into tokens that spell its instruction
and a terminator, whatever stands behind it. -/
theorem StatementText.scan_append {i : Instruction} {gap statement : Bytes} (hgap : IsGap gap)
    (h : StatementText i statement) (rule : KeywordRule) (rest : Bytes) (offset newlines : Nat) :
    ∃ tokens t offset' newlines', InstructionForm i tokens ∧ t.isTerminator = true ∧
      (Cursor.scan rule ⟨gap ++ (statement ++ rest), offset, newlines⟩).result =
        (Cursor.scan rule ⟨rest, offset', newlines'⟩).result.map (tokens ++ t :: ·) := by
  have hfinal : ∀ {kind}, EndsBefore kind ([terminator] ++ rest) :=
    fun {kind} => endsBefore_cons (continues_terminator kind) rest
  have hafter : EndsBefore .punctuation rest := fun _ _ => rfl
  cases h with
  | @write gap₁ hgap₁ =>
    obtain ⟨t₁, offset₁, newlines₁, hkind₁, hlexeme₁, h₁⟩ := Cursor.scan_lexeme rule hgap
      (spelled_keyword rule (by decide : Keyword.write ∈ Keyword.all))
        (endsBefore_gap_append hgap₁ hfinal)
      offset newlines
    obtain ⟨t₂, offset₂, newlines₂, hkind₂, -, h₂⟩ :=
      Cursor.scan_lexeme rule hgap₁ .punctuation hafter offset₁ newlines₁
    refine ⟨[t₁], t₂, offset₂, newlines₂, .write hkind₁ hlexeme₁, isTerminator_of_kind hkind₂, ?_⟩
    simp only [List.append_assoc]
    rw [h₁, h₂, Outcome.map_map]
    rfl
  | @perform gap₁ operations gap₂ hgap₁ hoperations hgap₂ =>
    have hoperator : ∀ b, isOperatorByte b = true → TokenKind.keyword.continues b = false :=
      fun b => not_isWordByte_of_isOperatorByte
    obtain ⟨t₁, offset₁, newlines₁, hkind₁, hlexeme₁, h₁⟩ := Cursor.scan_lexeme rule hgap
      (spelled_keyword rule (by decide : Keyword.perform ∈ Keyword.all))
      (endsBefore_gap_append hgap₁ (endsBefore_run_append hoperations hoperator _)) offset newlines
    obtain ⟨t₂, offset₂, newlines₂, hkind₂, hlexeme₂, h₂⟩ := Cursor.scan_lexeme rule hgap₁
      (.operator hoperations) (endsBefore_gap_append hgap₂ hfinal) offset₁ newlines₁
    obtain ⟨t₃, offset₃, newlines₃, hkind₃, -, h₃⟩ :=
      Cursor.scan_lexeme rule hgap₂ .punctuation hafter offset₂ newlines₂
    have hform := InstructionForm.perform hkind₁ hlexeme₁ hkind₂
    rw [hlexeme₂] at hform
    refine ⟨[t₁, t₂], t₃, offset₃, newlines₃, hform, isTerminator_of_kind hkind₃, ?_⟩
    simp only [List.append_assoc]
    rw [h₁, h₂, h₃, Outcome.map_map, Outcome.map_map]
    rfl
  | @loop gap₁ digits gap₂ operations gap₃ hgap₁ hdigits hrange hgap₂ hoperations hgap₃ =>
    have hoperator : ∀ b, isOperatorByte b = true → TokenKind.number.continues b = false :=
      fun b => not_isDigit_of_isOperatorByte
    -- the gap behind the keyword keeps the digits from being taken for a part of it
    obtain ⟨t₁, offset₁, newlines₁, hkind₁, hlexeme₁, h₁⟩ := Cursor.scan_lexeme rule hgap
      (spelled_keyword rule (by decide : Keyword.loop ∈ Keyword.all))
      (endsBefore_run_append hgap₁ (fun b => continues_of_isGapByte .keyword) _) offset newlines
    obtain ⟨t₂, offset₂, newlines₂, hkind₂, hlexeme₂, h₂⟩ := Cursor.scan_lexeme rule hgap₁.all
      (.number hdigits)
      (endsBefore_gap_append hgap₂ (endsBefore_run_append hoperations hoperator _))
        offset₁ newlines₁
    obtain ⟨t₃, offset₃, newlines₃, hkind₃, hlexeme₃, h₃⟩ := Cursor.scan_lexeme rule hgap₂
      (.operator hoperations) (endsBefore_gap_append hgap₃ hfinal) offset₂ newlines₂
    obtain ⟨t₄, offset₄, newlines₄, hkind₄, -, h₄⟩ :=
      Cursor.scan_lexeme rule hgap₃ .punctuation hafter offset₃ newlines₃
    have hcount : loopCount? t₂.lexeme = some (Decimal.value digits) := by
      rw [hlexeme₂]
      exact loopCount?_eq_some.mpr ⟨hdigits, hrange, rfl⟩
    have hform := InstructionForm.loop hkind₁ hlexeme₁ hkind₂ hkind₃ hcount
    rw [hlexeme₃] at hform
    refine ⟨[t₁, t₂, t₃], t₄, offset₄, newlines₄, hform, isTerminator_of_kind hkind₄, ?_⟩
    simp only [List.append_assoc]
    rw [h₁, h₂, h₃, h₄, Outcome.map_map, Outcome.map_map, Outcome.map_map]
    rfl

/-- A program text is compiled to the instructions that it stands for, wherever it lies. -/
theorem compiles_of_programText {is : List Instruction} {text : Bytes} (h : ProgramText is text)
    (rule : KeywordRule) (offset newlines : Nat) :
    ∃ tokens statements, (Cursor.scan rule ⟨text, offset, newlines⟩).result = .ok tokens ∧
      Compiles tokens statements is := by
  induction h generalizing offset newlines with
  | nil hgap => exact ⟨[], [], Cursor.scan_eq_ok_nil.mpr hgap, rfl, .nil⟩
  | cons hgap hstatement hrest ih =>
    obtain ⟨tokens, t, offset', newlines', hform, ht, hscan⟩ :=
      hstatement.scan_append hgap rule _ offset newlines
    obtain ⟨ts, statements, hts, hsegment, hforms⟩ := ih offset' newlines'
    refine ⟨tokens ++ t :: ts, ⟨tokens, t⟩ :: statements, ?_, ?_, .cons hform hforms⟩
    · rw [List.append_assoc, hscan, hts]
      rfl
    · rw [segment_append_terminator hform.not_terminator ht, hsegment]

/-! ### From tokens back to program texts -/

/-- The lexeme of the first token stands behind a gap at the head of the text. -/
theorem Cursor.exists_lexeme {rule : KeywordRule} {text : Bytes} {offset newlines : Nat} {t : Token}
    {ts : List Token} (h : (scan rule ⟨text, offset, newlines⟩).result = .ok (t :: ts))
    {kind : TokenKind} (hkind : t.kind = some kind) :
    ∃ gap rest offset' newlines', text = gap ++ (t.lexeme ++ rest) ∧ IsGap gap ∧
      Spelled rule kind t.lexeme ∧
      EndsBefore kind rest ∧ (scan rule ⟨rest, offset', newlines'⟩).result = .ok ts := by
  obtain ⟨gap, kind', lexeme, rest, htext, hgap, hspelled, hend, rfl, hrest⟩ := scan_eq_ok_cons.mp h
  obtain rfl : kind' = kind := Option.some.inj hkind
  exact ⟨gap, rest, _, _, htext, hgap, hspelled, hend, hrest⟩

theorem Spelled.isRun_of_operator {rule : KeywordRule} {lexeme : Bytes}
    (h : Spelled rule .operator lexeme) :
    IsRun isOperatorByte lexeme := by
  cases h with
  | operator run => exact run

/-- The terminator of a statement stands behind a gap at the head of the text. -/
theorem Cursor.exists_terminator {rule : KeywordRule} {text : Bytes}
    {offset newlines : Nat} {t : Token} {ts : List Token}
    (h : (scan rule ⟨text, offset, newlines⟩).result = .ok (t :: ts)) (ht : t.isTerminator = true) :
    ∃ gap rest offset' newlines', text = gap ++ ([terminator] ++ rest) ∧ IsGap gap ∧
      (scan rule ⟨rest, offset', newlines'⟩).result = .ok ts := by
  have hkind : t.kind = some .punctuation := by simpa [Token.isTerminator] using ht
  obtain ⟨gap, rest, offset', newlines', htext, hgap, hspelled, -, hrest⟩ := exists_lexeme h hkind
  generalize t.lexeme = lexeme at htext hspelled
  cases hspelled
  exact ⟨gap, rest, offset', newlines', htext, hgap, hrest⟩

/-- **Tokens that spell an instruction come from a statement** at the head of the text. -/
theorem exists_statementText {rule : KeywordRule} {text : Bytes} {offset newlines : Nat}
    {i : Instruction} {tokens ts : List Token} {t : Token} (hform : InstructionForm i tokens)
    (ht : t.isTerminator = true)
    (h : (Cursor.scan rule ⟨text, offset, newlines⟩).result = .ok (tokens ++ t :: ts)) :
    ∃ gap statement rest offset' newlines', text = gap ++ statement ++ rest ∧ IsGap gap ∧
      StatementText i statement ∧
        (Cursor.scan rule ⟨rest, offset', newlines'⟩).result = .ok ts := by
  cases hform with
  | write hkind hlexeme =>
    obtain ⟨gap, _, _, _, rfl, hgap, -, -, h⟩ := Cursor.exists_lexeme h hkind
    obtain ⟨gap₁, rest, _, _, rfl, hgap₁, hrest⟩ := Cursor.exists_terminator h ht
    refine ⟨gap, _, rest, _, _, ?_, hgap, .write hgap₁, hrest⟩
    simp only [hlexeme, List.append_assoc]
  | perform hkind hlexeme hoperations =>
    obtain ⟨gap, _, _, _, rfl, hgap, -, -, h⟩ := Cursor.exists_lexeme h hkind
    obtain ⟨gap₁, _, _, _, rfl, hgap₁, hspelled, -, h⟩ := Cursor.exists_lexeme h hoperations
    obtain ⟨gap₂, rest, _, _, rfl, hgap₂, hrest⟩ := Cursor.exists_terminator h ht
    refine ⟨gap, _, rest, _, _, ?_, hgap, .perform hgap₁ hspelled.isRun_of_operator hgap₂, hrest⟩
    simp only [hlexeme, List.append_assoc]
  | loop hkind hlexeme hnumber hoperations hcount =>
    obtain ⟨gap, _, _, _, rfl, hgap, -, hend, h⟩ := Cursor.exists_lexeme h hkind
    obtain ⟨gap₁, _, _, _, rfl, hgap₁, -, -, h⟩ := Cursor.exists_lexeme h hnumber
    obtain ⟨gap₂, _, _, _, rfl, hgap₂, hspelled, -, h⟩ := Cursor.exists_lexeme h hoperations
    obtain ⟨gap₃, rest, _, _, rfl, hgap₃, hrest⟩ := Cursor.exists_terminator h ht
    obtain ⟨hdigits, hrange, rfl⟩ := loopCount?_eq_some.mp hcount
    -- digits right behind the keyword would have been taken for a part of it
    have hne : gap₁ ≠ [] := by
      rintro rfl
      obtain ⟨b, tail, hcons⟩ := List.exists_cons_of_ne_nil hdigits.ne_nil
      have hdigit : Decimal.isDigit b = true := hdigits.all b (by simp [hcons])
      have hcontinues : isWordByte b = false := hend b (by simp [hcons])
      exact absurd (isWordByte_of_isDigit hdigit) (by simp [hcontinues])
    refine ⟨gap, _, rest, _, _, ?_, hgap, .loop ⟨hne, hgap₁⟩ hdigits hrange hgap₂
      hspelled.isRun_of_operator hgap₃, hrest⟩
    simp only [hlexeme, List.append_assoc]

/-- A text whose tokens compile is a program text of its instructions. -/
theorem programText_of_compiles {rule : KeywordRule} {text : Bytes} {offset newlines : Nat}
    {tokens : List Token} {statements : List Statement} {is : List Instruction}
    (hscan : (Cursor.scan rule ⟨text, offset, newlines⟩).result = .ok tokens)
    (h : Compiles tokens statements is) : ProgramText is text := by
  obtain ⟨hsegment, hforms⟩ := h
  induction hforms generalizing text offset newlines tokens with
  | nil =>
    obtain rfl := segment_eq_nil hsegment
    exact .nil (Cursor.scan_eq_ok_nil.mp hscan)
  | cons hform hforms ih =>
    obtain ⟨ts, rfl, ht, hrest⟩ := segment_eq_cons hsegment
    obtain ⟨gap, statement, rest, _, _, rfl, hgap, hstatement, hscanRest⟩ :=
      exists_statementText hform ht hscan
    exact .cons hgap hstatement (ih hscanRest hrest)

/-! ### The language of the compiler -/

/-- A source compiles to the code of some instructions exactly if it is a program text of them. -/
theorem compile_eq_ok_iff_programText {rule : KeywordRule} {size : Int} {source : Bytes}
    {code : Bytes} :
    (∃ r, compile rule size source = .ok r ∧ r.code = code) ↔
      ∃ is, ProgramText is source ∧ code = (Generator.new [size]).text is := by
  constructor
  · rintro ⟨r, hr, rfl⟩
    obtain ⟨tokens, statements, is, hscan, hcompiles, rfl⟩ := compile_eq_ok.mp hr
    exact ⟨is, programText_of_compiles hscan hcompiles, rfl⟩
  · rintro ⟨is, htext, rfl⟩
    obtain ⟨tokens, statements, hscan, hcompiles⟩ := compiles_of_programText htext rule 0 0
    exact ⟨_, compile_eq_ok.mpr ⟨tokens, statements, is, hscan, hcompiles, rfl⟩, rfl⟩

theorem ProgramText.exists_run {is : List Instruction} {source : Bytes} (h : ProgramText is source)
    (c : Compiler) (w : Workspace) : ∃ r, (c.run source w).1 = .ok r := by
  obtain ⟨r, hr, -⟩ := compile_eq_ok_iff_programText.mpr ⟨is, h, rfl⟩
  exact ⟨r, c.run_fst source w ▸ hr⟩

/-- **The compiler accepts exactly the source language.**  A run succeeds if and only if its source
is a program text. -/
theorem run_succeeds_iff_programText (c : Compiler) (source : Bytes) (w : Workspace) :
    (∃ r, (c.run source w).1 = .ok r) ↔ ∃ is, ProgramText is source := by
  constructor
  · rintro ⟨r, hr⟩
    rw [c.run_fst] at hr
    obtain ⟨is, htext, -⟩ := compile_eq_ok_iff_programText.mp ⟨r, hr, rfl⟩
    exact ⟨is, htext⟩
  · rintro ⟨is, htext⟩
    exact htext.exists_run c w

end BufferMachine
