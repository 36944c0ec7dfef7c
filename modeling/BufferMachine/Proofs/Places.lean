import BufferMachine.Diagnostic.ErrorTree
import BufferMachine.Proofs.Identifiers
import BufferMachine.Proofs.MaximalMunch
import BufferMachine.Proofs.Stages
import Mathlib.Data.List.Infix

/-!
# Where complaints lie and how they are shown

Every complaint of a compilation points at bytes of the source: at a refused identifier, or from the
start of one token to the stop of the same or a later one.  Its line is the one that its first byte
stands on.  The scanner counts lines as it goes, while a report looks for the line breaks around the
place on its own; the two agree, so what is shown is the line of that number with the mark under the
place.

A complaint about a statement is about some adjacent tokens of it, or about its terminator
(`Instruction.exists_span_of_error`), and no statement before it could have been complained about.
-/

namespace BufferMachine

/-! ### Lines of a text -/

/-- Where a line of a text starts: behind all lines before it and the line feeds that end them. -/
def lineStart (source : Bytes) (index : Nat) : Nat :=
  (Bytes.unlines ((source.splitOn newline).take index)).length

theorem Diagnostic.lineBefore_concat (text : Bytes) (b : UInt8) :
    lineBefore (text ++ [b]) = if b = newline then [] else lineBefore text ++ [b] := by
  by_cases hb : b = newline <;> simp [lineBefore, hb]

theorem Bytes.splitOn_line {line : Bytes} (h : newline ∉ line) : line.splitOn newline = [line] := by
  apply List.splitOnP_eq_singleton
  intro b hb
  rw [beq_eq_false_iff_ne]
  rintro rfl
  exact h hb

theorem Bytes.splitOn_append {line : Bytes} (h : newline ∉ line) (rest : Bytes) :
    (line ++ newline :: rest).splitOn newline = line :: rest.splitOn newline := by
  have happend : (line ++ newline :: rest).splitOn newline = line.splitOn newline ++
    rest.splitOn newline :=
    List.splitOnP_append_cons line rest (beq_self_eq_true newline)
  rw [happend, splitOn_line h, List.singleton_append]

theorem Bytes.splitOn_unlines_append {lines : List Bytes} (h : ∀ line ∈ lines, newline ∉ line)
    (rest : Bytes) :
    (unlines lines ++ rest).splitOn newline = lines ++ rest.splitOn newline := by
  induction lines with
  | nil => rfl
  | cons line lines ih =>
    rw [List.forall_mem_cons] at h
    have hcons : unlines (line :: lines) ++ rest = line ++ newline :: (unlines lines ++ rest) := by
      simp [unlines]
    rw [hcons, splitOn_append h.1, ih h.2, List.cons_append]

/-- A text is made of as many whole lines as it has line feeds, and the part of a line behind
them. -/
theorem Diagnostic.exists_lines (text : Bytes) :
    ∃ lines, (∀ line ∈ lines, newline ∉ line) ∧ lines.length = text.count newline ∧
      newline ∉ lineBefore text ∧ text = Bytes.unlines lines ++ lineBefore text := by
  induction text using List.reverseRecOn with
  | nil => exact ⟨[], by simp, rfl, by simp [lineBefore], rfl⟩
  | append_singleton text b ih =>
    obtain ⟨lines, hlines, hlength, hlast, htext⟩ := ih
    rw [lineBefore_concat]
    by_cases hb : b = newline
    · refine ⟨lines ++ [lineBefore text], ?_, ?_, by simp [hb], ?_⟩
      · intro line hline
        rcases List.mem_append.mp hline with hline | hline
        · exact hlines line hline
        · rw [List.mem_singleton.mp hline]
          exact hlast
      · simp [hlength, hb]
      · conv => lhs; rw [htext, hb]
        simp [Bytes.unlines, hb]
    · refine ⟨lines, hlines, by simp [hlength, hb], by simp [hlast, hb, Ne.symm hb], ?_⟩
      conv => lhs; rw [htext]
      simp [hb]

theorem Diagnostic.exists_lineAfter (text : Bytes) :
    ∃ rest, newline ∉ lineAfter text ∧ text = lineAfter text ++ rest ∧
      (rest = [] ∨ ∃ more, rest = newline :: more) := by
  refine ⟨text.dropWhile (· ≠ newline), ?_, List.takeWhile_append_dropWhile.symm, ?_⟩
  · intro hmem
    have := List.all_eq_true.mp List.all_takeWhile newline hmem
    simp at this
  · have hstop := List.head?_dropWhile_not (fun b => decide (b ≠ newline)) text
    cases hrest : text.dropWhile (· ≠ newline) with
    | nil => exact Or.inl rfl
    | cons b more =>
      rw [hrest] at hstop
      simp at hstop
      exact Or.inr ⟨more, by rw [hstop]⟩

/-- The parts of a line that lie before a place and behind it are one of the lines of the text, and
the number of line feeds before the place says which one. -/
theorem Diagnostic.exists_lines_around (source : Bytes) (start : Nat) :
    ∃ lines later,
      source.splitOn newline =
        lines ++ (lineBefore (source.take start) ++ lineAfter (source.drop start)) :: later ∧
      lines.length = (source.take start).count newline ∧
      source.take start = Bytes.unlines lines ++ lineBefore (source.take start) := by
  obtain ⟨lines, hlines, hlength, hbefore, htake⟩ := exists_lines (source.take start)
  obtain ⟨rest, hafter, hdrop, hrest⟩ := exists_lineAfter (source.drop start)
  have hfree : newline ∉ lineBefore (source.take start) ++ lineAfter (source.drop start) := by
    rw [List.mem_append, not_or]
    exact ⟨hbefore, hafter⟩
  have hsource : source = Bytes.unlines lines ++
      (lineBefore (source.take start) ++ lineAfter (source.drop start) ++ rest) := by
    conv => lhs; rw [← List.take_append_drop start source, htake, hdrop]
    simp only [List.append_assoc]
  have hsplit := Bytes.splitOn_unlines_append hlines
    (lineBefore (source.take start) ++ lineAfter (source.drop start) ++ rest)
  rw [← hsource] at hsplit
  rcases hrest with rfl | ⟨more, rfl⟩
  · rw [List.append_nil, Bytes.splitOn_line hfree] at hsplit
    exact ⟨lines, [], hsplit, hlength, htake⟩
  · rw [Bytes.splitOn_append hfree] at hsplit
    exact ⟨lines, more.splitOn newline, hsplit, hlength, htake⟩

/-! ### Reports -/

/-- How a place is marked: under its line, behind as many blanks as there are bytes before the place
on the line, and up to the end of the place or of the line, whichever comes first. -/
structure Marked (source : Bytes) (start stop : Nat) (line : Bytes)
    (column tildes : Nat) : Prop where
  line_eq : (source.splitOn newline)[(source.take start).count newline]? = some line
  column_eq : lineStart source ((source.take start).count newline) + column = start
  tildes_eq : start + 1 + tildes =
    min stop (lineStart source ((source.take start).count newline) + line.length)

theorem Diagnostic.exists_marked {source : Bytes} {start stop : Nat} {b : UInt8}
    (hb : source[start]? = some b) (hnewline : b ≠ newline) (hstop : start < stop) (line : Int)
    (message : Bytes) :
    ∃ shown column tildes, Marked source start stop shown column tildes ∧
      underline ⟨line, start, stop⟩ message source =
        shown ++ [newline] ++ List.replicate column (byte ' ') ++ [byte '^'] ++
          List.replicate tildes (byte '~') ++ [byte ' '] ++ message ++ [newline] := by
  have hlt : start < source.length := (List.getElem?_eq_some_iff.mp hb).1
  obtain ⟨lines, later, hsplit, hlength, htake⟩ := exists_lines_around source start
  have hclamp : clamp start source.length = start := by
    simp only [clamp, Int.toNat_natCast]
    omega
  -- the place has a byte on its line, so that there is room for the mark
  have hpos : 0 < (lineAfter (source.drop start)).length := by
    have hhead : (source.drop start).head? = some b := by rw [List.head?_drop, hb]
    obtain ⟨tail, htail⟩ := List.head?_eq_some_iff.mp hhead
    rw [htail, lineAfter, List.takeWhile_cons_of_pos (by simpa using hnewline)]
    exact Nat.zero_lt_succ _
  have hstart :
      lineStart source ((source.take start).count newline) = (Bytes.unlines lines).length := by
    rw [lineStart, hsplit, ← hlength, List.take_left]
  have hoffset :
      (Bytes.unlines lines).length + (lineBefore (source.take start)).length = start := by
    have hcount := congrArg List.length htake
    rw [List.length_append, List.length_take_of_le (Nat.le_of_lt hlt)] at hcount
    exact hcount.symm
  refine ⟨lineBefore (source.take start) ++ lineAfter (source.drop start),
    (lineBefore (source.take start)).length,
      (min (stop : Int) (start + (lineAfter (source.drop start)).length : Nat) - start - 1).toNat,
        ⟨?_, ?_, ?_⟩, ?_⟩
  · rw [hsplit, ← hlength, List.getElem?_append_right (Nat.le_refl _), Nat.sub_self,
      List.getElem?_cons_zero]
  · rw [hstart, hoffset]
  · rw [hstart, List.length_append]
    omega
  · simp only [underline, hclamp]

theorem ErrorTree.describe_diagnostic (e : Diagnostic) (source : Bytes) :
    (ErrorTree.diagnostic e).describe source = e.render source := by
  cases e with
  | scanning => rfl
  | syntactic => rfl
  | generation => rfl

/-! ### Tokens one behind the other -/

section

variable {rule : KeywordRule} {source : Bytes} {tokens us vs : List Token}

/-- The one token neither starts nor stops behind the other. -/
def Token.NotBehind (t u : Token) : Prop :=
  t.location.start ≤ u.location.start ∧ t.location.stop ≤ u.location.stop

instance : Std.Refl Token.NotBehind := ⟨fun _ => ⟨Int.le_refl _, Int.le_refl _⟩⟩

instance : Trans Token.NotBehind Token.NotBehind Token.NotBehind where
  trans h h' := ⟨Int.le_trans h.1 h'.1, Int.le_trans h.2 h'.2⟩

theorem MaximalMunch.pairwise (h : MaximalMunch rule source tokens) :
    tokens.Pairwise Token.NotBehind := by
  rw [← List.isChain_iff_pairwise]
  refine h.ordered.imp_of_mem_imp fun t u ht hu hle => ?_
  obtain ⟨start, stop, htoken⟩ := h.tokens_at t ht
  obtain ⟨start', stop', hnext⟩ := h.tokens_at u hu
  have hnonempty := htoken.nonempty
  have hnonempty' := hnext.nonempty
  rw [htoken.location_eq, hnext.location_eq] at hle
  rw [Token.NotBehind, htoken.location_eq, hnext.location_eq]
  dsimp only at hle ⊢
  omega

theorem Token.span_eq (hne : us ≠ []) :
    span us = ⟨(us.head hne).location.line, (us.head hne).location.start,
      (us.getLast hne).location.stop⟩ := by
  cases us with
  | nil => exact absurd rfl hne
  | cons t us => rfl

/-- Adjacent tokens lie inside any adjacent tokens that they are among. -/
theorem MaximalMunch.span_within (h : MaximalMunch rule source tokens) (hvs : vs <:+: tokens)
    (hus : us <:+: vs) (hne : us ≠ []) :
    (Token.span vs).start ≤ (Token.span us).start ∧
      (Token.span us).stop ≤ (Token.span vs).stop := by
  have hpairwise : vs.Pairwise Token.NotBehind := h.pairwise.sublist hvs.sublist
  have hhead : us.head hne ∈ vs := hus.subset (List.head_mem hne)
  have hlast : us.getLast hne ∈ vs := hus.subset (List.getLast_mem hne)
  rw [Token.span_eq hne, Token.span_eq (List.ne_nil_of_mem hhead)]
  exact ⟨(hpairwise.rel_head hhead).1, (hpairwise.rel_getLast hlast).2⟩

/-- Adjacent tokens lie in the text from the start of a token on. -/
theorem MaximalMunch.exists_span (h : MaximalMunch rule source tokens) (hus : us <:+: tokens)
    (hne : us ≠ []) :
    ∃ start stop, start < stop ∧ stop ≤ source.length ∧
      Token.span us = ⟨1 + (source.take start).count newline, start, stop⟩ ∧
      ∃ t ∈ tokens, ∃ stop', IsTokenAt rule source t start stop' := by
  have hhead : us.head hne ∈ tokens := hus.subset (List.head_mem hne)
  obtain ⟨start, stop', hfirst⟩ := h.tokens_at _ hhead
  obtain ⟨start', stop, hlast⟩ := h.tokens_at _ (hus.subset (List.getLast_mem hne))
  have horder : Token.NotBehind (us.head hne) (us.getLast hne) :=
    (h.pairwise.sublist hus.sublist).rel_head (List.getLast_mem hne)
  rw [Token.NotBehind, hfirst.location_eq, hlast.location_eq] at horder
  have hnonempty := hlast.nonempty
  refine ⟨start, stop, ?_, hlast.within, ?_, _, hhead, stop', hfirst⟩
  · dsimp only at horder
    omega
  · rw [Token.span_eq hne, hfirst.location_eq, hlast.location_eq]

/-- A token starts with a byte that ends no line. -/
theorem IsTokenAt.exists_byte {t : Token} {start stop : Nat}
    (h : IsTokenAt rule source t start stop) :
    ∃ b, source[start]? = some b ∧ b ≠ newline := by
  obtain ⟨kind, -, hspelled, -⟩ := h.spelled
  have hlt : start < source.length := Nat.lt_of_lt_of_le h.nonempty h.within
  refine ⟨source[start], List.getElem?_eq_getElem hlt, ?_⟩
  intro heq
  have hmem : newline ∈ t.lexeme := by
    rw [h.lexeme_eq, Bytes.mem_extract_iff]
    exact ⟨start, Nat.le_refl _, h.nonempty, by rw [List.getElem?_eq_getElem hlt, heq]⟩
  exact absurd (List.count_eq_zero.mp hspelled.count_newline) (not_not_intro hmem)

end

theorem Identifier.exists_byte {source : Bytes} (i : Identifier source) :
    ∃ b, source[i.start]? = some b ∧ b ≠ newline := by
  obtain ⟨b, tail, hword, hletter, -⟩ := i.exists_head
  refine ⟨b, ?_, ?_⟩
  · rw [← List.head?_drop, i.drop_start, hword]
    rfl
  · rintro rfl
    exact absurd hletter (by decide)

/-! ### Complaints about statements -/

theorem isInfix_of_segment {ts dangling : List Token} {done rest : List Statement} {s : Statement}
    (h : segment ts = (done ++ s :: rest, dangling)) : s.tokens ++ [s.terminator] <:+: ts := by
  rw [segment_flatten h, List.flatMap_append, List.flatMap_cons, ← List.append_assoc,
    List.append_assoc _ _ dangling]
  exact List.infix_append _ _ _

namespace Instruction

/-- A complaint of the code generator about some adjacent tokens of a list. -/
def ComplainsAbout (tokens : List Token) (e : Diagnostic) : Prop :=
  ∃ us message, us ≠ [] ∧ us <:+: tokens ∧ e = .generation (Token.span us) message

theorem complainsAbout_token {tokens : List Token} {t : Token} (ht : t ∈ tokens)
    (fault : StatementFault) :
    ComplainsAbout tokens (fault.at t.location) :=
  ⟨[t], fault.message, List.cons_ne_nil _ _, (List.singleton_infix_iff _ _).mpr ht, rfl⟩

/-- Whatever is wrong with a statement, the complaint is about adjacent tokens of it, its terminator
counted in. -/
theorem complainsAbout_of_error {s : Statement} {e : Diagnostic} (h : ofStatement s = .error e) :
    ComplainsAbout (s.tokens ++ [s.terminator]) e := by
  obtain ⟨fault, place, hplace, rfl⟩ := ofStatement_blames h
  cases hplace with
  | terminator _ => exact complainsAbout_token (by simp) fault
  | token hmem => exact complainsAbout_token (List.mem_append_left _ hmem) fault
  | tokens hne => exact ⟨s.tokens, fault.message, hne, (List.prefix_append _ _).isInfix, rfl⟩

theorem exists_generation_of_mapM {ss : List Statement} {e : Diagnostic}
    (h : ss.mapM ofStatement = .error e) : ∃ place message, e = .generation place message := by
  obtain ⟨_, s, _, _, _, hs⟩ := Outcome.exists_of_mapM_eq_error h
  obtain ⟨us, message, _, _, rfl⟩ := complainsAbout_of_error hs
  exact ⟨Token.span us, message, rfl⟩

/-- What can be wrong with a token list: tokens are left over, or the first of its statements that
has no instruction. -/
theorem ofTokens_eq_error {ts : List Token} {e : Diagnostic} (h : ofTokens ts = .error e) :
    (∃ dangling, dangling ≠ [] ∧ dangling <:+: ts ∧ e = missingTerminator dangling) ∨
      ∃ done s rest, segment ts = (done ++ s :: rest, []) ∧
        (∀ d ∈ done, ∃ i, ofStatement d = .ok i) ∧ ofStatement s = .error e := by
  rcases hsegment : segment ts with ⟨ss, dangling⟩
  by_cases hne : dangling = []
  · subst hne
    rw [ofTokens_of_segment hsegment] at h
    obtain ⟨done, s, rest, rfl, hdone, hs⟩ := Outcome.exists_of_mapM_eq_error h
    exact Or.inr ⟨done, s, rest, rfl, hdone, hs⟩
  · rw [ofTokens_of_dangling hsegment hne] at h
    refine Or.inl ⟨dangling, hne, ?_, (Except.error.inj h).symm⟩
    rw [segment_flatten hsegment]
    exact (List.suffix_append _ _).isInfix

end Instruction

/-! ### Complaints about a source -/

/-- Where something starts that the scanner takes up: a token, or the identifier that it refuses. -/
inductive LexemeStart (rule : KeywordRule) (source : Bytes) (start : Nat) : Prop where
  | token {tokens : List Token} {t : Token} {stop : Nat} (hscan : scan rule source = .ok tokens)
      (hmem : t ∈ tokens) (htoken : IsTokenAt rule source t start stop)
  | refused (i : Identifier source) (hscan : scan rule source = .error (.lexical i.location i.word))
      (hstart : i.start = start)

theorem LexemeStart.exists_byte {rule : KeywordRule} {source : Bytes} {start : Nat}
    (h : LexemeStart rule source start) :
    ∃ b, source[start]? = some b ∧ b ≠ newline := by
  cases h with
  | token _ _ htoken => exact htoken.exists_byte
  | refused i _ hstart => exact hstart ▸ i.exists_byte

theorem exists_place_of_compile_error {rule : KeywordRule} {size : Int} {source : Bytes}
    {e : Diagnostic} (h : compile rule size source = .error e) :
    ∃ start stop, start < stop ∧ stop ≤ source.length ∧
      e.location = ⟨1 + (source.take start).count newline, start, stop⟩ ∧
        LexemeStart rule source start := by
  rcases compile_eq_error.mp h with hscan | ⟨tokens, hscan, htokens⟩
  · obtain ⟨i, -, -, rfl⟩ := exists_refused_of_scan_error hscan
    have hlength := congrArg List.length i.drop_start
    have hstart := i.start_lt
    obtain ⟨b, tail, hword, -⟩ := i.exists_head
    rw [List.length_drop, List.length_append] at hlength
    refine ⟨i.start, i.start + i.word.length, ?_, ?_, rfl, .refused i hscan rfl⟩
    · simp [hword]
    · omega
  · have hmunch := scan_eq_ok_iff.mp hscan
    obtain ⟨us, hne, hus, hlocation⟩ :
        ∃ us, us ≠ [] ∧ us <:+: tokens ∧ e.location = Token.span us := by
      rcases Instruction.ofTokens_eq_error htokens with
        ⟨dangling, hne, hus, rfl⟩ | ⟨done, s, rest, hsegment, -, hs⟩
      · exact ⟨dangling, hne, hus, rfl⟩
      · obtain ⟨us, message, hne, hus, rfl⟩ := Instruction.complainsAbout_of_error hs
        exact ⟨us, hne, hus.trans (isInfix_of_segment hsegment), rfl⟩
    obtain ⟨start, stop, hlt, hle, hspan, t, ht, stop', htoken⟩ := hmunch.exists_span hus hne
    exact ⟨start, stop, hlt, hle, hlocation.trans hspan, .token hscan ht htoken⟩

/-- A complaint of the code generator lies inside the first statement that has no code. -/
theorem exists_statement_of_compile_error {rule : KeywordRule} {size : Int} {source : Bytes}
    {place : Location} {message : Bytes}
    (h : compile rule size source = .error (.generation place message)) :
    ∃ tokens done s rest, scan rule source = .ok tokens ∧
      Program.ofTokens tokens = .ok ⟨some (done ++ s :: rest)⟩ ∧
      (∀ d ∈ done, ∃ lines, Generator.statementLines d = .ok lines) ∧
      Generator.statementLines s = .error (.generation place message) ∧
      (Token.span (s.tokens ++ [s.terminator])).start ≤ place.start ∧
      place.stop ≤ (Token.span (s.tokens ++ [s.terminator])).stop := by
  rcases compile_eq_error.mp h with hscan | ⟨tokens, hscan, htokens⟩
  · obtain ⟨i, -, -, heq⟩ := exists_refused_of_scan_error hscan
    cases heq
  · rcases Instruction.ofTokens_eq_error htokens with
      ⟨dangling, -, -, heq⟩ | ⟨done, s, rest, hsegment, hdone, hs⟩
    · cases heq
    · obtain ⟨us, message', hne, hus, heq⟩ := Instruction.complainsAbout_of_error hs
      obtain ⟨rfl, rfl⟩ := Diagnostic.generation.inj heq
      refine ⟨tokens, done, s, rest, hscan, Program.ofTokens_eq_ok.mpr ⟨_, hsegment, rfl⟩, ?_, ?_,
        (scan_eq_ok_iff.mp hscan).span_within (isInfix_of_segment hsegment) hus hne⟩
      · intro d hd
        obtain ⟨i, hi⟩ := hdone d hd
        exact ⟨i.lines, Outcome.map_eq_ok.mpr ⟨i, hi, rfl⟩⟩
      · exact Outcome.map_eq_error.mpr hs

/-- **Complaints are shown where they arise.**  A complaint of a compilation lies in the source,
starts where a token or the refused identifier starts, and has the number of that line.  Its report
names the line, shows it, and marks the bytes from the start of the place to its stop or to the end
of the line.  A complaint of the code generator lies inside the first statement that has no code. -/
theorem complaint_shown_where_it_arises (c : Compiler) {source : Bytes} {w : Workspace}
    {e : Diagnostic} (h : (c.run source w).1 = .error e) :
    (∃ start stop, start < stop ∧ stop ≤ source.length ∧
      e.location = ⟨1 + (source.take start).count newline, start, stop⟩ ∧
      LexemeStart c.rule source start ∧
      ∃ line column tildes, Marked source start stop line column tildes ∧
        (ErrorTree.diagnostic e).describe source =
          e.stage ++ bytes " error found on line " ++
            Decimal.ofNat (1 + (source.take start).count newline) ++
            bytes ":\n" ++ (line ++ [newline] ++ List.replicate column (byte ' ') ++ [byte '^'] ++
              List.replicate tildes (byte '~') ++ [byte ' '] ++ e.message ++ [newline])) ∧
    ∀ place message, e = .generation place message →
      ∃ tokens done s rest, scan c.rule source = .ok tokens ∧
        Program.ofTokens tokens = .ok ⟨some (done ++ s :: rest)⟩ ∧
        (∀ d ∈ done, ∃ lines, Generator.statementLines d = .ok lines) ∧
        Generator.statementLines s = .error e ∧
        (Token.span (s.tokens ++ [s.terminator])).start ≤ place.start ∧
        place.stop ≤ (Token.span (s.tokens ++ [s.terminator])).stop := by
  rw [Compiler.run_fst] at h
  constructor
  · obtain ⟨start, stop, hlt, hle, hlocation, hstart⟩ := exists_place_of_compile_error h
    obtain ⟨b, hb, hnewline⟩ := hstart.exists_byte
    obtain ⟨line, column, tildes, hmarked, hunderline⟩ :=
      Diagnostic.exists_marked hb hnewline hlt (1 + (source.take start).count newline) e.message
    refine ⟨start, stop, hlt, hle, hlocation, hstart, line, column, tildes, hmarked, ?_⟩
    rw [ErrorTree.describe_diagnostic, Diagnostic.render, hlocation, hunderline]
    rfl
  · rintro place message rfl
    exact exists_statement_of_compile_error h

/-- The argument of a statement over three lines is marked in the third one, behind the blank
there. -/
theorem complaint_shown_where_it_arises_third_line :
    (({} : Compiler).run (bytes "\n do\n 3;") {}).1 =
        .error ((StatementFault.argumentKind (bytes "3") Keyword.perform .operator).at ⟨3, 6, 7⟩) ∧
      Marked (bytes "\n do\n 3;") 6 7 (bytes " 3;") 1 0 := by
  have hscan : scan .substring (bytes "\n do\n 3;") =
      .ok [⟨some .keyword, bytes "do", ⟨2, 2, 4⟩⟩, ⟨some .number, bytes "3", ⟨3, 6, 7⟩⟩,
        ⟨some .punctuation, bytes ";", ⟨3, 7, 8⟩⟩] := by
    rw [scan_eq_ok_iff, maximalMunch_iff_munchFrom]
    refine ⟨2, 4, by decide, by decide, ?_, 6, 7, by decide, by decide, ?_,
      7, 8, by decide, by decide, ?_, isGap_nil⟩
    · exact ⟨by decide, by decide, by decide, by decide, _, rfl, spelled_keyword _ (by decide),
        endsBefore_cons (by decide) _⟩
    · exact ⟨by decide, by decide, by decide, by decide, _, rfl, .number (by decide),
        endsBefore_cons (by decide) _⟩
    · exact ⟨by decide, by decide, by decide, by decide, _, rfl, .punctuation, fun _ _ => rfl⟩
  have hrun : (({} : Compiler).run (bytes "\n do\n 3;") {}).1 =
      .error ((StatementFault.argumentKind (bytes "3") Keyword.perform .operator).at
        ⟨3, 6, 7⟩) := by
    rw [Compiler.run_fst, compile_eq_error]
    exact Or.inr ⟨_, hscan, by decide⟩
  obtain ⟨⟨start, stop, -, -, hlocation, -, line, column, tildes, hmarked, -⟩, -⟩ :=
    complaint_shown_where_it_arises {} hrun
  obtain ⟨-, hstart, hstop⟩ := Location.mk.inj hlocation
  obtain rfl : start = 6 := (Int.ofNat.inj hstart).symm
  obtain rfl : stop = 7 := (Int.ofNat.inj hstop).symm
  have hline : ((bytes "\n do\n 3;").splitOn
    newline)[((bytes "\n do\n 3;").take 6).count newline]? =
      some (bytes " 3;") := by decide
  obtain rfl : line = bytes " 3;" := Option.some.inj (hmarked.line_eq.symm.trans hline)
  have hlineStart : lineStart (bytes "\n do\n 3;") (((bytes "\n do\n 3;").take 6).count newline) =
    5 := by decide
  have hcolumn := hmarked.column_eq
  have htildes := hmarked.tildes_eq
  have hlength : (bytes " 3;").length = 3 := by decide
  rw [hlineStart] at hcolumn htildes
  obtain rfl : column = 1 := by omega
  obtain rfl : tildes = 0 := by omega
  exact ⟨hrun, hmarked⟩

end BufferMachine
