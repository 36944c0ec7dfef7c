import BufferMachine.Proofs.Identifiers
import BufferMachine.Proofs.MaximalMunch

/-!
# The two keyword rules

The lenient rule lets identifiers through that the strict one refuses: every identifier in which a
keyword occurs becomes a keyword token, wherever it stands.  No such token gets any further, for an
instruction is spelled with keywords proper only; the lenient rule merely leaves it to a later
stage, or to a later identifier, to say what is wrong.

Two facts carry this.  Where all identifiers are keywords, the two rules find the same tokens,
because a text has only one maximal-munch tokenisation under either of them.  And which sources
compile is settled by the grammar, which does not mention the rule.
-/

namespace BufferMachine

theorem accepts_exact {word : Bytes} :
    KeywordRule.accepts .exact word = true ↔ word ∈ Keyword.all := by
  simp [KeywordRule.accepts]

theorem accepts_of_mem_all (rule : KeywordRule) {word : Bytes} (h : word ∈ Keyword.all) :
    rule.accepts word = true := by
  cases spelled_keyword rule h with
  | keyword _ accepted => exact accepted

/-- What the strict rule takes for a keyword is one under every rule. -/
theorem Spelled.of_exact {kind : TokenKind} {lexeme : Bytes} (h : Spelled .exact kind lexeme)
    (rule : KeywordRule) :
    Spelled rule kind lexeme := by
  cases h with
  | punctuation => exact .punctuation
  | number run => exact .number run
  | keyword identifier accepted =>
    exact .keyword identifier (accepts_of_mem_all rule (accepts_exact.mp accepted))
  | operator run => exact .operator run

theorem MaximalMunch.of_exact {source : Bytes} {tokens : List Token}
    (h : MaximalMunch .exact source tokens) (rule : KeywordRule) :
    MaximalMunch rule source tokens where
  tokens_at := by
    intro t ht
    obtain ⟨start, stop, htoken⟩ := h.tokens_at t ht
    obtain ⟨kind, hkind, hspelled, hend⟩ := htoken.spelled
    exact ⟨start, stop, htoken.nonempty, htoken.within, htoken.location_eq, htoken.lexeme_eq,
      kind, hkind, hspelled.of_exact rule, hend⟩
  ordered := h.ordered
  gap_outside := h.gap_outside

/-- Where all identifiers are keywords, the scanner cannot tell the rules apart. -/
theorem scan_eq_of_all_keywords {source : Bytes} (h : ∀ i : Identifier source, i.word ∈ Keyword.all)
    (rule : KeywordRule) : scan rule source = scan .exact source := by
  rcases scan_cases .exact source with ⟨tokens, hscan, -⟩ | ⟨i, hi, -⟩
  · rw [hscan, scan_eq_ok_iff]
    exact (scan_eq_ok_iff.mp hscan).of_exact rule
  · rw [accepts_exact.mpr (h i)] at hi
    cases hi

theorem compile_eq_of_scan_eq {rule rule' : KeywordRule} {source : Bytes}
    (h : scan rule source = scan rule' source) (size : Int) :
    compile rule size source = compile rule' size source := by
  unfold compile
  rw [h]

/-- A source compiles under one rule if it compiles under any. -/
theorem exists_compile_of_compile {rule : KeywordRule} {size : Int} {source : Bytes}
    {r : Compilation} (h : compile rule size source = .ok r) (rule' : KeywordRule) :
    ∃ r', compile rule' size source = .ok r' := by
  obtain ⟨is, htext, hcode⟩ := compile_eq_ok_iff_programText.mp ⟨r, h, rfl⟩
  obtain ⟨r', hr', -⟩ := compile_eq_ok_iff_programText.mpr ⟨is, htext, hcode⟩
  exact ⟨r', hr'⟩

/-- In a source that compiles, all identifiers are keywords, so that the outcome is the same under
both rules. -/
theorem compile_eq_of_compile {rule : KeywordRule} {size : Int} {source : Bytes} {r : Compilation}
    (h : compile rule size source = .ok r) (rule' : KeywordRule) :
    compile rule' size source = .ok r := by
  obtain ⟨r', hr'⟩ := exists_compile_of_compile h .exact
  obtain ⟨tokens, -, -, hscan, -⟩ := compile_eq_ok.mp hr'
  have hall : ∀ i : Identifier source, i.word ∈ Keyword.all :=
    fun i => accepts_exact.mp (accepts_of_scan_ok hscan i)
  have hsame : scan rule' source = scan rule source :=
    (scan_eq_of_all_keywords hall rule').trans (scan_eq_of_all_keywords hall rule).symm
  rw [compile_eq_of_scan_eq hsame, h]

/-- **The keyword rule changes only which error is reported.**  If all identifiers of a source are
keywords, the outcome of compiling it is the same under both rules.  If not, the strict rule
complains about the first one that is none, and under the lenient rule the source does not compile
either.  So a source compiles under one rule exactly if it does under the other, to the same tokens,
program and code. -/
theorem keywordRule_changes_errors_only (c : Compiler) (source : Bytes) (w w' : Workspace) :
    ((∀ i : Identifier source, i.word ∈ Keyword.all) →
      (({ c with rule := .exact } : Compiler).run source w).1 =
        (({ c with rule := .substring } : Compiler).run source w').1) ∧
    ((∃ i : Identifier source, i.word ∉ Keyword.all) →
      (∃ i : Identifier source, i.word ∉ Keyword.all ∧
        (∀ j : Identifier source, j.start < i.start → j.word ∈ Keyword.all) ∧
        (({ c with rule := .exact } : Compiler).run source w).1 =
          .error (.lexical i.location i.word)) ∧
      ∃ e, (({ c with rule := .substring } : Compiler).run source w').1 = .error e) ∧
    ∀ r, (({ c with rule := .exact } : Compiler).run source w).1 = .ok r ↔
      (({ c with rule := .substring } : Compiler).run source w').1 = .ok r := by
  simp only [Compiler.run_fst]
  refine ⟨?_, ?_, ?_⟩
  · intro hall
    exact compile_eq_of_scan_eq (scan_eq_of_all_keywords hall .substring).symm _
  · rintro ⟨k, hk⟩
    rcases scan_cases .exact source with ⟨tokens, -, hall⟩ | ⟨i, hi, hfirst, hscan⟩
    · exact absurd (accepts_exact.mp (hall k)) hk
    · have hexact : compile .exact c.bufferSize source = .error (.lexical i.location i.word) :=
        compile_eq_error.mpr (Or.inl hscan)
      have hword : i.word ∉ Keyword.all := by
        rw [← accepts_exact, hi]
        exact Bool.false_ne_true
      refine ⟨⟨i, hword, fun j hj => accepts_exact.mp (hfirst j hj), hexact⟩, ?_⟩
      cases hsubstring : compile .substring c.bufferSize source with
      | error e => exact ⟨e, rfl⟩
      | ok r =>
        rw [compile_eq_of_compile hsubstring .exact] at hexact
        cases hexact
  · intro r
    exact ⟨fun h => compile_eq_of_compile h _, fun h => compile_eq_of_compile h _⟩

/-- The strict rule refuses `todo` at once, where the lenient one sees a keyword without code; `do`
without operations is the same mistake under both. -/
theorem keywordRule_changes_errors_only_todo :
    (({ rule := .exact } : Compiler).run (bytes "todo;") {}).1 =
      .error (.lexical ⟨1, 0, 4⟩ (bytes "todo")) ∧
      (∃ e, (({ rule := .substring } : Compiler).run (bytes "todo;") {}).1 = .error e) ∧
      (({ rule := .exact } : Compiler).run (bytes "do;") {}).1 =
        (({ rule := .substring } : Compiler).run (bytes "do;") {}).1 := by
  have hterminator : EndsBefore .keyword (bytes ";") := endsBefore_cons (by decide) []
  let todo : Identifier (bytes "todo;") :=
    { before := [], digits := [], word := bytes "todo", after := bytes ";",
      source_eq := by decide, before_end := by simp,
      all_digits := by simp, isIdentifier := by decide, after_begin := hterminator }
  have htodo : todo.word ∉ Keyword.all := (by decide : bytes "todo" ∉ Keyword.all)
  have hdo : ∀ i : Identifier (bytes "do;"), i.word ∈ Keyword.all := by
    intro i
    have hpiece : ∀ b ∈ [terminator], isWordByte b = true → Decimal.isDigit b = true := by
      intro b hb hword
      rw [List.mem_singleton.mp hb] at hword
      exact absurd hword (by decide)
    have hstart : i.start < (bytes "do").length :=
      i.start_lt_of_no_letter
        (by decide : bytes "do;" = bytes "do" ++ ([terminator] ++ [])) hpiece i.start_lt
    rw [i.word_eq_of_start (by decide : bytes "do;" = [] ++ (bytes "do" ++ bytes ";"))
        (by decide) hterminator
      (Nat.zero_le _) hstart]
    decide
  obtain ⟨⟨i, hi, hfirst, hrun⟩, hlenient⟩ :=
    (keywordRule_changes_errors_only {} (bytes "todo;") {} {}).2.1 ⟨todo, htodo⟩
  -- an identifier behind `todo` would not be the first one
  have hstart : i.start = 0 := by
    by_contra hne
    exact htodo (hfirst todo (Nat.pos_of_ne_zero hne))
  have hword : i.word = bytes "todo" :=
    i.word_eq_of_start (by decide : bytes "todo;" = [] ++ (bytes "todo" ++ bytes ";"))
      (by decide) hterminator
      (Nat.zero_le _) (by rw [hstart]; decide)
  refine ⟨?_, hlenient, (keywordRule_changes_errors_only {} (bytes "do;") {} {}).1 hdo⟩
  rw [hrun, Identifier.location, hstart, hword]
  rfl

end BufferMachine
