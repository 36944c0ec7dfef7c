import BufferMachine.Proofs.Chunks
import BufferMachine.Proofs.Places
import BufferMachine.Session.Session

/-!
# Sessions and compilations

A session compiles its source in chunks, and obeys commands between the lines.  What it shows as
code is what a compilation of all source lines at once puts into the main function.

A translation is one chunk that a session compiles.  It shows the code of the chunk or has the
complaint of a compilation of the chunk (`Session.Translation.prints_or_fails`), whatever else the
session is to show.  The translations of a session are told from its events one by one
(`Session.translations`), and their sources are the chunks that the accumulator hands out: the
commands leave it alone (`Session.react_line`).
-/

namespace BufferMachine

/-! ### Translations -/

namespace Session

/-- The lines of statements go up to the first one without an instruction, if there is such a
one. -/
theorem codeLines_cases (ss : List Statement) :
    (∃ is, ss.mapM Instruction.ofStatement = .ok is ∧
      codeLines ss = (Generator.bodyLines is, none)) ∨
      ∃ d, ss.mapM Instruction.ofStatement = .error d ∧ (codeLines ss).2 = some d := by
  induction ss with
  | nil => exact Or.inl ⟨[], rfl, rfl⟩
  | cons s ss ih =>
    rw [List.mapM_cons, codeLines, Generator.statementLines]
    cases Instruction.ofStatement s with
    | error d => exact Or.inr ⟨d, rfl, rfl⟩
    | ok i =>
      rcases ih with ⟨is, his, hlines⟩ | ⟨d, hd, hfailure⟩
      · rw [his]
        simp only [Except.map, hlines]
        exact Or.inl ⟨i :: is, rfl, rfl⟩
      · rw [hd]
        exact Or.inr ⟨d, rfl, hfailure⟩

/-- A source that a session compiles, with the session as it is then. -/
structure Translation where
  session : Session
  source : Bytes

namespace Translation

/-- What is wrong with the source. -/
def failure? (t : Translation) : Option Diagnostic := (t.session.compile t.source).2

/-- All that is shown: what has been made of the source, the report of a failure, and an empty
line. -/
def output (t : Translation) : Bytes :=
  (t.session.compile t.source).1 ++ (t.failure?.elim [] fun d => d.render t.source) ++ [newline]

/-- The source is compiled to its end, and behind the tokens and the tree that the session is to
show stand the lines. -/
def Prints (t : Translation) (lines : List Bytes) : Prop :=
  ∃ tokens program, scan t.session.rule t.source = .ok tokens ∧
    Program.ofTokens tokens = .ok program ∧ t.session.compile t.source =
      (t.session.tokensText tokens ++ t.session.treeText program ++ Bytes.unlines lines, none)

/-- A translation shows the code of the source, or fails with the complaint that a compilation has
about it. -/
theorem prints_or_fails (t : Translation) (size : Int) :
    (∃ is, ProgramText is t.source ∧ t.Prints (Generator.bodyLines is)) ∨
      ∃ d, BufferMachine.compile t.session.rule size t.source = .error d ∧ t.failure? = some d := by
  cases hscan : scan t.session.rule t.source with
  | error d =>
    refine Or.inr ⟨d, compile_eq_error.mpr (Or.inl hscan), ?_⟩
    simp only [failure?, Session.compile, hscan]
  | ok tokens =>
    cases hparse : Program.ofTokens tokens with
    | error d =>
      have herror : Instruction.ofTokens tokens = .error d := by
        rw [Instruction.ofTokens, hparse]
        rfl
      refine Or.inr ⟨d, compile_eq_error.mpr (Or.inr ⟨tokens, hscan, herror⟩), ?_⟩
      simp only [failure?, Session.compile, hscan, hparse]
    | ok program =>
      obtain ⟨ss, hsegment, rfl⟩ := Program.ofTokens_eq_ok.mp hparse
      have hinstructions := Instruction.ofTokens_of_segment hsegment
      have hcompile :
        t.session.compile t.source = (t.session.tokensText tokens ++ t.session.treeText ⟨some ss⟩ ++
          Bytes.unlines (codeLines ss).1, (codeLines ss).2) := by
        simp only [Session.compile, hscan, hparse]
        rfl
      rcases codeLines_cases ss with ⟨is, his, hlines⟩ | ⟨d, hd, hfailure⟩
      · obtain ⟨ss', hcompiles⟩ := Instruction.ofTokens_eq_ok.mp (hinstructions.trans his)
        rw [hlines] at hcompile
        exact Or.inl ⟨is, programText_of_compiles hscan hcompiles, tokens, ⟨some ss⟩, hscan,
          hparse, hcompile⟩
      · refine Or.inr ⟨d, compile_eq_error.mpr (Or.inr ⟨tokens, hscan, hinstructions.trans hd⟩), ?_⟩
        rw [failure?, hcompile, hfailure]

theorem prints_of_programText (t : Translation) {is : List Instruction}
    (h : ProgramText is t.source) :
    t.Prints (Generator.bodyLines is) := by
  rcases t.prints_or_fails 0 with ⟨is', htext, hprints⟩ | ⟨d, herror, -⟩
  · rwa [h.unique htext]
  · obtain ⟨r, hr, -⟩ := compile_eq_ok_iff_programText.mpr ⟨is, h, rfl⟩
    rw [hr] at herror
    cases herror

theorem failure?_eq_none_iff {t : Translation} :
    t.failure? = none ↔ ∃ is, ProgramText is t.source := by
  constructor
  · intro h
    rcases t.prints_or_fails 0 with ⟨is, htext, -⟩ | ⟨d, -, hfailure⟩
    · exact ⟨is, htext⟩
    · rw [h] at hfailure
      cases hfailure
  · rintro ⟨is, htext⟩
    obtain ⟨tokens, program, -, -, hcompile⟩ := t.prints_of_programText htext
    rw [failure?, hcompile]

/-- What ends with a terminator can be refused by the scanner and by the code generator, but not by
the parser. -/
theorem failure?_ne_syntactic {t : Translation} (hlast : t.source.getLast? = some terminator)
    (place : Location) (message : Bytes) : t.failure? ≠ some (.syntactic place message) := by
  intro h
  rcases t.prints_or_fails 0 with ⟨is, htext, -⟩ | ⟨d, herror, hfailure⟩
  · rw [failure?_eq_none_iff.mpr ⟨is, htext⟩] at h
    cases h
  · rw [hfailure] at h
    obtain rfl := Option.some.inj h
    rcases compile_eq_error.mp herror with hscan | ⟨tokens, hscan, htokens⟩
    · obtain ⟨i, -, -, heq⟩ := exists_refused_of_scan_error hscan
      cases heq
    · obtain ⟨ss, hsegment, -⟩ := Cursor.exists_segment_of_scan hlast hscan
      rw [Instruction.ofTokens_of_segment hsegment] at htokens
      obtain ⟨-, s, -, -, -, hs⟩ := Outcome.exists_of_mapM_eq_error htokens
      obtain ⟨us, message', -, -, heq⟩ := Instruction.complainsAbout_of_error hs
      cases heq

end Translation

/-! ### Sessions -/

/-- What an event makes a session compile. -/
def translation? (s : Session) : SessionEvent → Option Translation
  | .line text =>
    if SessionCommand.ofLine text = .source then
      (s.accumulator.feed text).1.map fun chunk => ⟨s, chunk⟩
    else none
  | .interrupt => none
  | .echo _ => none

/-- What is shown for an event that makes a session compile nothing. -/
def answer : SessionEvent → Bytes
  | .line text => if SessionCommand.ofLine text = .help then helpText else []
  | .interrupt => []
  | .echo text => text

/-- All that comes of a line of source. -/
theorem feed_spec (s : Session) (line : Bytes) :
    (s.feed line).ended = false ∧
      (s.feed line).session = { s with accumulator := (s.accumulator.feed line).2 } ∧
      (s.feed line).output =
        ((s.accumulator.feed line).1.map fun chunk => Translation.output ⟨s, chunk⟩).getD [] := by
  unfold feed
  rcases s.accumulator.feed line with ⟨chunk, accumulator⟩
  cases chunk with
  | none => exact ⟨rfl, rfl, rfl⟩
  | some chunk =>
    simp only [Option.map_some, Option.getD_some, Translation.output, Translation.failure?]
    rcases s.compile chunk with ⟨shown, failure⟩
    cases failure with
    | none => exact ⟨rfl, rfl, by simp⟩
    | some d => exact ⟨rfl, rfl, rfl⟩

theorem react_output (s : Session) (e : SessionEvent) :
    (s.react e).output = ((s.translation? e).map Translation.output).getD (answer e) := by
  cases e with
  | interrupt => rfl
  | echo text => rfl
  | line text =>
    simp only [react, translation?, answer]
    cases SessionCommand.ofLine text with
    | source =>
      rw [if_pos rfl, Option.map_map]
      exact (s.feed_spec text).2.2
    | _ => rfl

/-- The events of a session, each with the session that it meets. -/
def meetings (s : Session) : List SessionEvent → List (Session × SessionEvent)
  | [] => []
  | e :: rest => (s, e) :: if (s.react e).ended then [] else meetings (s.react e).session rest

theorem run_eq_map_meetings (s : Session) (events : List SessionEvent) :
    s.run events = (s.meetings events).map fun m => m.1.react m.2 := by
  induction events generalizing s with
  | nil => rfl
  | cons e rest ih =>
    simp only [run, meetings, List.map_cons]
    split
    · rfl
    · rw [ih]

/-- All that a session compiles, in order. -/
def translations (s : Session) (events : List SessionEvent) : List Translation :=
  (s.meetings events).filterMap fun m => m.1.translation? m.2

theorem react_rule (s : Session) (e : SessionEvent) : (s.react e).session.rule = s.rule := by
  cases e with
  | interrupt => rfl
  | echo text => rfl
  | line text =>
    simp only [react]
    cases SessionCommand.ofLine text with
    | source =>
      have hrule := congrArg Session.rule (s.feed_spec text).2.1
      exact hrule
    | _ => rfl

theorem rule_of_mem_meetings {s : Session} {events : List SessionEvent} {m : Session × SessionEvent}
    (hm : m ∈ s.meetings events) : m.1.rule = s.rule := by
  induction events generalizing s with
  | nil => cases hm
  | cons e rest ih =>
    rcases List.mem_cons.mp hm with rfl | hm
    · rfl
    · split at hm
      · cases hm
      · rw [ih hm, react_rule]

theorem rule_of_mem_translations {s : Session} {events : List SessionEvent} {t : Translation}
    (ht : t ∈ s.translations events) : t.session.rule = s.rule := by
  obtain ⟨⟨s', e⟩, hm, htranslation⟩ := List.mem_filterMap.mp ht
  have hsession : t.session = s' := by
    cases e with
    | interrupt => cases htranslation
    | echo text => cases htranslation
    | line text =>
      simp only [translation?] at htranslation
      split at htranslation
      · obtain ⟨chunk, -, rfl⟩ := Option.map_eq_some_iff.mp htranslation
        rfl
      · cases htranslation
  rw [hsession, rule_of_mem_meetings hm]

/-- Of the lines that neither end a session nor make it forget, only source changes what is
pending. -/
theorem react_line (s : Session) {text : Bytes} (hexit : SessionCommand.ofLine text ≠ .exit)
    (hreset : SessionCommand.ofLine text ≠ .reset) :
    (s.react (.line text)).ended = false ∧
      (s.react (.line text)).session.accumulator =
        if SessionCommand.ofLine text = .source then
          (s.accumulator.feed text).2
        else s.accumulator := by
  simp only [react]
  cases hcommand : SessionCommand.ofLine text with
  | exit => exact absurd hcommand hexit
  | reset => exact absurd hcommand hreset
  | source =>
    obtain ⟨hended, hsession, -⟩ := s.feed_spec text
    exact ⟨hended, congrArg Session.accumulator hsession⟩
  | _ => exact ⟨rfl, rfl⟩

/-- A session compiles what its accumulator hands out for the lines of source. -/
theorem translations_source (s : Session) {texts : List Bytes}
    (h : ∀ text ∈ texts, SessionCommand.ofLine text ≠ .exit ∧ SessionCommand.ofLine text ≠ .reset) :
    (s.translations (texts.map .line)).map Translation.source =
      s.accumulator.chunks (texts.filter (SessionCommand.ofLine · = .source)) := by
  induction texts generalizing s with
  | nil => rfl
  | cons text texts ih =>
    rw [List.forall_mem_cons] at h
    obtain ⟨hended, haccumulator⟩ := s.react_line h.1.1 h.1.2
    have hrest := ih (s.react (.line text)).session h.2
    rw [haccumulator] at hrest
    have hmeetings : s.meetings ((text :: texts).map .line) =
        (s, .line text) :: (s.react (.line text)).session.meetings (texts.map .line) := by
      rw [List.map_cons, meetings, hended]
      rfl
    simp only [translations] at hrest ⊢
    rw [hmeetings]
    by_cases hsource : SessionCommand.ofLine text = .source
    · rw [if_pos hsource] at hrest
      rw [List.filter_cons_of_pos (by simpa using hsource), Accumulator.chunks, ← hrest,
        List.filterMap_cons]
      cases hchunk : (s.accumulator.feed text).1 with
      | none => simp [translation?, hsource, hchunk]
      | some chunk => simp [translation?, hsource, hchunk]
    · rw [if_neg hsource] at hrest
      rw [List.filter_cons_of_neg (by simpa using hsource), ← hrest, List.filterMap_cons]
      simp [translation?, hsource]

end Session

theorem exists_forall₂_iff {α β : Type} {R : β → α → Prop} {xs : List α} :
    (∃ ys, List.Forall₂ R ys xs) ↔ ∀ x ∈ xs, ∃ y, R y x := by
  induction xs with
  | nil => simp
  | cons x xs ih =>
    rw [List.forall_mem_cons, ← ih]
    simp only [List.forall₂_cons_right_iff]
    constructor
    · rintro ⟨-, y, ys, hy, hys, rfl⟩
      exact ⟨⟨y, hy⟩, ys, hys⟩
    · rintro ⟨⟨y, hy⟩, ys, hys⟩
      exact ⟨y :: ys, y, ys, hy, hys, rfl⟩

theorem Generator.bodyLines_flatten (iss : List (List Instruction)) :
    bodyLines iss.flatten = (iss.map bodyLines).flatten := by
  induction iss with
  | nil => rfl
  | cons is iss ih =>
    rw [List.flatten_cons, List.map_cons, List.flatten_cons, ← ih]
    exact List.flatMap_append

/-- The lines of source among the lines of a session, joined and cut behind the last terminator. -/
def sessionSource (texts : List Bytes) : Bytes :=
  complete (List.intercalate [newline] (texts.filter (SessionCommand.ofLine · = .source)))

/-- What the lines of a fresh session are read as, in the pieces that it compiles and as a whole. -/
theorem programText_sessionSource_iff {s : Session} (hs : s.accumulator = {}) {texts : List Bytes}
    (h : ∀ text ∈ texts, SessionCommand.ofLine text ≠ .exit ∧ SessionCommand.ofLine text ≠ .reset)
    (is : List Instruction) :
    ProgramText is (sessionSource texts) ↔
      ∃ iss, List.Forall₂ (fun is t => ProgramText is t.source) iss
        (s.translations (texts.map .line)) ∧ is = iss.flatten := by
  rw [sessionSource, programText_intercalate_iff, ← hs, ← s.translations_source h]
  simp only [List.forall₂_map_right_iff]

/-- **A session translates what a compilation does.**  Take lines of source with commands between
them that neither end the session nor make it forget.  All that the session compiles on its way is
compiled without a complaint exactly if the source lines as a whole are, up to their last
terminator; the lines of code that are shown are then, one translation behind the other, the lines
of the main function without their indentation.  In any session, what is handed out for compiling
falls into as many statements as it has terminators, so that the parser never complains. -/
theorem session_translates_as_compiler (c : Compiler) (w : Workspace) (s : Session)
    (hrule : s.rule = c.rule) (hfresh : s.accumulator = {}) (texts : List Bytes)
    (htexts : ∀ text ∈ texts, SessionCommand.ofLine text ≠ .exit ∧
      SessionCommand.ofLine text ≠ .reset) :
    ((s.run (texts.map .line)).map Session.Reaction.output =
      (s.meetings (texts.map .line)).map fun m =>
        ((m.1.translation? m.2).map Session.Translation.output).getD (Session.answer m.2)) ∧
    (∀ t ∈ s.translations (texts.map .line), t.session.rule = c.rule) ∧
    ((∀ t ∈ s.translations (texts.map .line), t.failure? = none) ↔
      ∃ r, (c.run (sessionSource texts) w).1 = .ok r) ∧
    (∀ r, (c.run (sessionSource texts) w).1 = .ok r →
      ∃ lines, List.Forall₂ Session.Translation.Prints (s.translations (texts.map .line)) lines ∧
        MainBody (.new [c.bufferSize]) r.code (lines.flatten.map (Instruction.indentation ++ ·))) ∧
    ∀ (s' : Session) (line chunk : Bytes), (s'.accumulator.feed line).1 = some chunk →
      (∀ tokens, scan s'.rule chunk = .ok tokens →
        ∃ p, Program.ofTokens tokens = .ok p ∧ p.statements.length = chunk.count terminator) ∧
      ∀ place message, (s'.compile chunk).2 ≠ some (.syntactic place message) := by
  have hpieces := programText_sessionSource_iff hfresh htexts
  simp only [c.run_fst]
  refine ⟨?_, ?_, ⟨?_, ?_⟩, ?_, ?_⟩
  · rw [s.run_eq_map_meetings, List.map_map]
    exact List.map_congr_left fun m _ => m.1.react_output m.2
  · intro t ht
    rw [Session.rule_of_mem_translations ht, hrule]
  · intro hall
    obtain ⟨iss, hiss⟩ :=
      exists_forall₂_iff.mpr fun t ht => Session.Translation.failure?_eq_none_iff.mp (hall t ht)
    obtain ⟨r, hr, -⟩ :=
      compile_eq_ok_iff_programText.mpr ⟨_, (hpieces _).mpr ⟨iss, hiss, rfl⟩, rfl⟩
    exact ⟨r, hr⟩
  · rintro ⟨r, hr⟩ t ht
    obtain ⟨is, htext, -⟩ := compile_eq_ok_iff_programText.mp ⟨r, hr, rfl⟩
    obtain ⟨iss, hiss, -⟩ := (hpieces is).mp htext
    exact Session.Translation.failure?_eq_none_iff.mpr (exists_forall₂_iff.mp ⟨iss, hiss⟩ t ht)
  · intro r hr
    obtain ⟨is, htext, hcode⟩ := compile_eq_ok_iff_programText.mp ⟨r, hr, rfl⟩
    obtain ⟨iss, hiss, rfl⟩ := (hpieces is).mp htext
    refine ⟨iss.map Generator.bodyLines, ?_, ?_⟩
    · rw [List.forall₂_map_right_iff]
      exact hiss.flip.imp fun t is h => t.prints_of_programText h
    · rw [hcode, ← Generator.bodyLines_flatten, mainBody_text_iff _ htext.operations_all]
  · intro s' line chunk hchunk
    have hlast := Accumulator.getLast?_of_feed hchunk
    refine ⟨?_, Session.Translation.failure?_ne_syntactic (t := ⟨s', chunk⟩) hlast⟩
    intro tokens hscan
    obtain ⟨ss, hsegment, hlength⟩ := Cursor.exists_segment_of_scan hlast hscan
    exact ⟨_, Program.ofTokens_eq_ok.mpr ⟨ss, hsegment, rfl⟩, hlength⟩

/-- A statement over two lines with a command between them, and another one that ends on a third
line. -/
theorem session_translates_as_compiler_split_statements :
    ∃ r lines, (({} : Compiler).run (bytes "do\n+;write\n;") {}).1 = .ok r ∧
      List.Forall₂ Session.Translation.Prints (({ rule := .substring } : Session).translations
        ([bytes "do", bytes " Tokens", bytes "+;write", bytes ";"].map .line)) lines ∧
      MainBody (.new [512]) r.code (lines.flatten.map (Instruction.indentation ++ ·)) ∧
      lines.flatten.map (Instruction.indentation ++ ·) =
        [bytes "    execute(&buffer, \"+\");", bytes "    write(&buffer);"] := by
  have htext : ProgramText [.perform (bytes "+"), .write] (bytes "do\n+;write\n;") := by
    have hsource : bytes "do\n+;write\n;" = [] ++
      (Keyword.perform ++ bytes "\n" ++ bytes "+" ++ [] ++ [terminator]) ++
        ([] ++ (Keyword.write ++ bytes "\n" ++ [terminator]) ++ []) := by decide
    rw [hsource]
    exact .cons isGap_nil (.perform (by decide) (by decide) isGap_nil)
      (.cons isGap_nil (.write (by decide)) (.nil isGap_nil))
  have hsource : sessionSource [bytes "do", bytes " Tokens", bytes "+;write", bytes ";"] =
      bytes "do\n+;write\n;" := by
    decide +kernel
  have hcommands :
    [bytes "do", bytes " Tokens", bytes "+;write", bytes ";"].map SessionCommand.ofLine =
      [.source, .tokens, .source, .source] := by decide +kernel
  have htexts : ∀ text ∈ [bytes "do", bytes " Tokens", bytes "+;write", bytes ";"],
      SessionCommand.ofLine text ≠ .exit ∧ SessionCommand.ofLine text ≠ .reset := by
    intro text hmem
    have hmem := List.mem_map_of_mem (f := SessionCommand.ofLine) hmem
    rw [hcommands] at hmem
    constructor <;> intro heq <;> simp [heq] at hmem
  obtain ⟨r, hr⟩ := htext.exists_run {} {}
  obtain ⟨-, -, -, hcode, -⟩ :=
    session_translates_as_compiler {} {} { rule := .substring } rfl rfl _ htexts
  rw [hsource] at hcode
  obtain ⟨lines, hprints, hbody⟩ := hcode r hr
  refine ⟨r, lines, hr, hprints, hbody, ?_⟩
  rw [Compiler.run_fst] at hr
  rw [code_of_programText hr htext] at hbody
  rw [(mainBody_text_iff _ htext.operations_all _).mp hbody]
  decide

end BufferMachine
