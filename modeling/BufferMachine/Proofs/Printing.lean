import BufferMachine.Proofs.ByteReading
import BufferMachine.Proofs.Places
import BufferMachine.Proofs.Relocation
import BufferMachine.Proofs.Segmentation

/-!
# Printed programs

A program is printed one statement a line, with single spaces between the lexemes.  Where lexemes
stood side by side in the source, or with other text between them, the printed text differs from it,
and yet it is the same program: it is scanned and parsed into the same statements, and the same
code, or the same complaint, comes of it.

Only the places of the tokens change, so all is said up to places, which a relocation forgets.
`ReadsAs` says that a text in front of any other is scanned as some tokens.  A printed text is put
together from its end: a line break, the terminator, and lexeme by lexeme what stands before them.
-/

namespace BufferMachine

/-- The statements, each with its terminator on a line of its own. -/
def Program.print (p : Program) : Bytes :=
  Bytes.unlines (p.statements.map fun s => s.value ++ [terminator])

/-- The kinds and the lexemes of a statement's tokens. -/
def Statement.spelling (s : Statement) : List (Option TokenKind × Bytes) :=
  s.tokens.map fun t => (t.kind, t.lexeme)

def Relocation.forget : Relocation where
  place := fun _ => {}
  span := fun _ _ => rfl

def Token.unplaced : Token → Token := Token.relocate .forget

def Statement.unplaced : Statement → Statement := Statement.relocate .forget

def Diagnostic.unplaced : Diagnostic → Diagnostic := Diagnostic.relocate .forget

/-! ### What does not depend on places -/

theorem Statement.spelling_of_unplaced {ss ss' : List Statement}
    (h : ss'.map unplaced = ss.map unplaced) :
    ss'.map spelling = ss.map spelling := by
  have hspelling : ∀ s : Statement, s.unplaced.spelling = s.spelling := by
    intro s
    simp [spelling, unplaced, Function.comp_def]
  have hmap := congrArg (List.map spelling) h
  simpa [Function.comp_def, hspelling] using hmap

theorem Statement.value_eq (s : Statement) :
    s.value = List.intercalate [byte ' '] (s.spelling.map Prod.snd) := by
  simp [value, spelling, Function.comp_def]

theorem Program.print_of_spelling {p p' : Program}
    (h : p'.statements.map Statement.spelling = p.statements.map Statement.spelling) :
    p'.print = p.print := by
  have hvalue : ∀ q : Program, q.statements.map (fun s => s.value ++ [terminator]) =
      (q.statements.map Statement.spelling).map
        fun spelling => List.intercalate [byte ' '] (spelling.map Prod.snd) ++ [terminator] := by
    intro q
    simp [Function.comp_def, Statement.value_eq]
  rw [print, print, hvalue, hvalue, h]

theorem mapM_ofStatement_of_unplaced {ss ss' : List Statement}
    (h : ss'.map Statement.unplaced = ss.map Statement.unplaced) :
    (ss'.mapM Instruction.ofStatement).mapError Diagnostic.unplaced =
      (ss.mapM Instruction.ofStatement).mapError Diagnostic.unplaced := by
  have hforget := Outcome.mapM_mapError (Instruction.ofStatement_relocate .forget)
  calc (ss'.mapM Instruction.ofStatement).mapError Diagnostic.unplaced
      = (ss'.map Statement.unplaced).mapM Instruction.ofStatement := (hforget ss').symm
    _ = (ss.map Statement.unplaced).mapM Instruction.ofStatement := by rw [h]
    _ = (ss.mapM Instruction.ofStatement).mapError Diagnostic.unplaced := hforget ss

/-- Statements that differ in places only have the same code, or are complained about in the same
words. -/
theorem Generator.generate_of_unplaced (g : Generator) {ss ss' : List Statement}
    (h : ss'.map Statement.unplaced = ss.map Statement.unplaced) :
    (∃ code, g.generate ⟨some ss⟩ = .ok code ∧ g.generate ⟨some ss'⟩ = .ok code) ∨
      ∃ place place' message, g.generate ⟨some ss⟩ = .error (.generation place message) ∧
        g.generate ⟨some ss'⟩ = .error (.generation place' message) := by
  have heq := mapM_ofStatement_of_unplaced h
  have hgenerate : ∀ ts : List Statement,
    g.generate ⟨some ts⟩ = (ts.mapM Instruction.ofStatement).map g.text :=
    fun _ => rfl
  rw [hgenerate, hgenerate]
  rcases hss : ss.mapM Instruction.ofStatement with e | is
  · rcases hss' : ss'.mapM Instruction.ofStatement with e' | is'
    · right
      obtain ⟨place, message, rfl⟩ := Instruction.exists_generation_of_mapM hss
      obtain ⟨place', message', rfl⟩ := Instruction.exists_generation_of_mapM hss'
      rw [hss, hss'] at heq
      obtain ⟨-, rfl⟩ := Diagnostic.generation.inj (Except.error.inj heq)
      exact ⟨place, place', message', rfl, rfl⟩
    · rw [hss, hss'] at heq
      cases heq
  · rcases hss' : ss'.mapM Instruction.ofStatement with e' | is'
    · rw [hss, hss'] at heq
      cases heq
    · left
      rw [hss, hss'] at heq
      obtain rfl : is' = is := Except.ok.inj heq
      exact ⟨g.text is', rfl, rfl⟩

/-! ### Texts that are scanned as some tokens -/

/-- In front of any other text, the text is scanned as the tokens, wherever it stands. -/
def ReadsAs (rule : KeywordRule) (text : Bytes) (tokens : List Token) : Prop :=
  ∀ rest offset newlines, ∃ tokens' offset' newlines',
    tokens'.map Token.unplaced = tokens.map Token.unplaced ∧
    (Cursor.scan rule ⟨text ++ rest, offset, newlines⟩).result =
      (Cursor.scan rule ⟨rest, offset', newlines'⟩).result.map (tokens' ++ ·)

/-- The token has a kind, and its lexeme is one of that kind. -/
def Token.WellSpelled (rule : KeywordRule) (t : Token) : Prop :=
  ∃ kind, t.kind = some kind ∧ Spelled rule kind t.lexeme

theorem MaximalMunch.wellSpelled {rule : KeywordRule} {source : Bytes} {tokens : List Token}
    (h : MaximalMunch rule source tokens) : ∀ t ∈ tokens, t.WellSpelled rule := by
  intro t ht
  obtain ⟨start, stop, htoken⟩ := h.tokens_at t ht
  obtain ⟨kind, hkind, hspelled, -⟩ := htoken.spelled
  exact ⟨kind, hkind, hspelled⟩

namespace ReadsAs

variable {rule : KeywordRule}

theorem nil : ReadsAs rule [] [] := by
  intro rest offset newlines
  exact ⟨[], offset, newlines, rfl, (congrFun Except.map_id _).symm⟩

theorem append {a b : Bytes} {ts us : List Token} (ha : ReadsAs rule a ts)
    (hb : ReadsAs rule b us) :
    ReadsAs rule (a ++ b) (ts ++ us) := by
  intro rest offset newlines
  obtain ⟨ts', offset', newlines', hts, hscan⟩ := ha (b ++ rest) offset newlines
  obtain ⟨us', offset'', newlines'', hus, hscan'⟩ := hb rest offset' newlines'
  refine ⟨ts' ++ us', offset'', newlines'', by simp [hts, hus], ?_⟩
  rw [List.append_assoc, hscan, hscan', Outcome.map_map]
  simp only [List.append_assoc]

theorem gap {b : UInt8} {text : Bytes} {tokens : List Token} (hb : isGapByte b = true)
    (h : ReadsAs rule text tokens) : ReadsAs rule (b :: text) tokens := by
  intro rest offset newlines
  rw [List.cons_append, Cursor.scan_gap_cons rule _ _ _ hb]
  exact h rest _ _

/-- A lexeme in front is one more token, if the text behind it does not go on with it. -/
theorem lexeme {t : Token} {text : Bytes} {b : UInt8} {tokens : List Token}
    (ht : t.WellSpelled rule) (hb : ∀ kind : TokenKind, kind.continues b = false)
    (h : ReadsAs rule (b :: text) tokens) :
    ReadsAs rule (t.lexeme ++ b :: text) (t :: tokens) := by
  obtain ⟨kind, hkind, hspelled⟩ := ht
  intro rest offset newlines
  obtain ⟨u, offset', newlines', hukind, hulexeme, hscan⟩ :=
    Cursor.scan_lexeme rule isGap_nil hspelled
      (endsBefore_cons (hb kind) (text ++ rest)) offset newlines
  obtain ⟨tokens', offset'', newlines'', htokens, hscan'⟩ := h rest offset' newlines'
  refine ⟨u :: tokens', offset'', newlines'', ?_, ?_⟩
  · have hu : u.unplaced = t.unplaced := by
      simp [Token.unplaced, Token.relocate, Relocation.forget, hukind, hulexeme, hkind]
    simp [hu, htokens]
  · rw [List.append_assoc, List.cons_append]
    rw [List.nil_append] at hscan
    rw [hscan, ← List.cons_append, hscan', Outcome.map_map]
    rfl

end ReadsAs

theorem Token.WellSpelled.lexeme_eq {rule : KeywordRule} {t : Token} (h : t.WellSpelled rule)
    (ht : t.isTerminator = true) : t.lexeme = [terminator] := by
  obtain ⟨kind, hkind, hspelled⟩ := h
  obtain rfl : kind = .punctuation := by simpa [Token.isTerminator, hkind] using ht
  generalize t.lexeme = lexeme at hspelled ⊢
  cases hspelled with
  | punctuation => rfl

/-- A printed statement is read as its tokens and its terminator. -/
theorem readsAs_statement {rule : KeywordRule} {s : Statement}
    (htokens : ∀ t ∈ s.tokens, t.WellSpelled rule) (hterminator : s.terminator.WellSpelled rule)
    (hs : s.terminator.isTerminator = true) :
    ReadsAs rule (s.value ++ [terminator, newline]) (s.tokens ++ [s.terminator]) := by
  have hfoot : ReadsAs rule [terminator, newline] [s.terminator] := by
    have hbreak : ReadsAs rule [newline] [] := .gap (by decide) .nil
    have hread :=
      ReadsAs.lexeme hterminator (fun kind => continues_of_isGapByte kind (by decide)) hbreak
    rwa [hterminator.lexeme_eq hs] at hread
  unfold Statement.value
  generalize s.tokens = tokens at htokens ⊢
  induction tokens with
  | nil => exact hfoot
  | cons t ts ih =>
    have ht : t.WellSpelled rule := htokens t List.mem_cons_self
    have hread := ih fun u hu => htokens u (List.mem_cons_of_mem t hu)
    cases ts with
    | nil =>
      have hlast := ReadsAs.lexeme (b := terminator) ht continues_terminator hfoot
      simpa [List.intercalate] using hlast
    | cons u ts =>
      have hspace : isGapByte (byte ' ') = true := by decide
      have hnext :=
        ReadsAs.lexeme ht (fun kind => continues_of_isGapByte kind hspace) (.gap hspace hread)
      simpa [List.intercalate] using hnext

theorem readsAs_program {rule : KeywordRule} {ss : List Statement}
    (hspelled : ∀ t ∈ ss.flatMap (fun s => s.tokens ++ [s.terminator]), t.WellSpelled rule)
    (hterminators : ∀ s ∈ ss, s.terminator.isTerminator = true) :
    ReadsAs rule (Program.print ⟨some ss⟩) (ss.flatMap fun s => s.tokens ++ [s.terminator]) := by
  induction ss with
  | nil => exact ReadsAs.nil
  | cons s ss ih =>
    rw [List.flatMap_cons, List.forall_mem_append, List.forall_mem_append,
      List.forall_mem_singleton] at hspelled
    rw [List.forall_mem_cons] at hterminators
    have hhead := readsAs_statement hspelled.1.1 hspelled.1.2 hterminators.1
    have happend := hhead.append (ih hspelled.2 hterminators.2)
    simpa [Program.print, Program.statements, Bytes.unlines] using happend

/-! ### Printing and reading back -/

/-- What is scanned from a printed program is the tokens it was parsed from, up to places. -/
theorem exists_scan_print {rule : KeywordRule} {source : Bytes} {tokens : List Token}
    {ss : List Statement} (hscan : scan rule source = .ok tokens)
    (hsegment : segment tokens = (ss, [])) :
    ∃ tokens', scan rule (Program.print ⟨some ss⟩) = .ok tokens' ∧
      tokens'.map Token.unplaced = tokens.map Token.unplaced := by
  have hflatten : tokens = ss.flatMap fun s => s.tokens ++ [s.terminator] := by
    rw [segment_flatten hsegment, List.append_nil]
  have hspelled := (scan_eq_ok_iff.mp hscan).wellSpelled
  rw [hflatten] at hspelled ⊢
  have hterminators : ∀ s ∈ ss, s.terminator.isTerminator = true :=
    fun s hs => ((segment_eq_iff.mp hsegment).2.1 s hs).terminator
  obtain ⟨tokens', offset, newlines, htokens, hread⟩ := readsAs_program hspelled hterminators [] 0 0
  refine ⟨tokens', ?_, htokens⟩
  rw [List.append_nil, Cursor.scan_nil] at hread
  rw [scan, hread]
  exact congrArg Except.ok (List.append_nil tokens')

/-- **Printing a program loses nothing.**  The printed text of a program that was scanned and parsed
is scanned and parsed again, into statements with the same kinds and lexemes; printing these gives
the same text, and from both programs comes the same code, or a complaint of the code generator in
the same words. -/
theorem printed_program_reads_back (rule : KeywordRule) (source : Bytes) (tokens : List Token)
    (p : Program) (hscan : scan rule source = .ok tokens)
    (hparse : Program.ofTokens tokens = .ok p) :
    ∃ tokens' p', scan rule p.print = .ok tokens' ∧ Program.ofTokens tokens' = .ok p' ∧
      p'.statements.map Statement.spelling = p.statements.map Statement.spelling ∧
      p'.print = p.print ∧ ∀ g : Generator,
        (∃ code, g.generate p = .ok code ∧ g.generate p' = .ok code) ∨
        ∃ place place' message, g.generate p = .error (.generation place message) ∧
          g.generate p' = .error (.generation place' message) := by
  obtain ⟨ss, hsegment, rfl⟩ := Program.ofTokens_eq_ok.mp hparse
  obtain ⟨tokens', hscan', htokens⟩ := exists_scan_print hscan hsegment
  -- the two token lists agree once places are forgotten, and so do their statements
  have hforget := segment_relocate .forget tokens
  have hforget' := segment_relocate .forget tokens'
  rw [show tokens'.map (Token.relocate .forget) =
      tokens.map (Token.relocate .forget) from htokens, hforget,
    hsegment, Prod.mk.injEq] at hforget'
  obtain ⟨hss, hdangling⟩ := hforget'
  have hsegment' : segment tokens' = ((segment tokens').1, []) :=
    Prod.ext rfl (List.map_eq_nil_iff.mp hdangling.symm)
  have hspelling : (segment tokens').1.map Statement.spelling = ss.map Statement.spelling :=
    Statement.spelling_of_unplaced hss.symm
  exact ⟨tokens', ⟨some (segment tokens').1⟩, hscan',
    Program.ofTokens_eq_ok.mpr ⟨_, hsegment', rfl⟩, hspelling, Program.print_of_spelling hspelling,
      fun g => g.generate_of_unplaced hss.symm⟩

/-- Lexemes that stand side by side in the source are printed apart, and an empty statement keeps
its line. -/
theorem printed_program_reads_back_side_by_side :
    ∃ tokens p tokens' p', scan .substring (bytes "12redo+#+;;") = .ok tokens ∧
      Program.ofTokens tokens = .ok p ∧
      p.print = bytes "12 redo + +;\n;\n" ∧
      scan .substring (bytes "12 redo + +;\n;\n") = .ok tokens' ∧
      Program.ofTokens tokens' = .ok p' ∧
      p'.statements.map Statement.spelling = p.statements.map Statement.spelling := by
  let tokens : List Token :=
    [Cursor.lexemeAt 0 0 .number (bytes "12"), Cursor.lexemeAt 2 0 .keyword (bytes "redo"),
      Cursor.lexemeAt 6 0 .operator (bytes "+"), Cursor.lexemeAt 8 0 .operator (bytes "+"),
      Cursor.lexemeAt 9 0 .punctuation (bytes ";"), Cursor.lexemeAt 10 0 .punctuation (bytes ";")]
  let p : Program := ⟨some (segment tokens).1⟩
  have hscan : scan .substring (bytes "12redo+#+;;") = .ok tokens := by
    rw [scan, ByteReader.scan_eq_read]
    decide
  have hparse : Program.ofTokens tokens = .ok p := by decide
  have hprint : p.print = bytes "12 redo + +;\n;\n" := by decide
  obtain ⟨tokens', p', hscan', hparse', hspelling, -⟩ :=
    printed_program_reads_back _ _ tokens p hscan hparse
  exact ⟨tokens, p, tokens', p', hscan, hparse, hprint, hprint ▸ hscan', hparse', hspelling⟩

end BufferMachine
