import BufferMachine.Compile.Compiler
import BufferMachine.Proofs.Outcome
import Mathlib.Data.List.Forall2

/-!
# What each stage makes of its input

The inversion lemmas of the stages behind the scanner: what the statements of a token list say about
the list, which tokens a statement with an instruction has, and what a successful compilation went
through.  They say everything that a stage can do, so later proofs cite them and open no stage
again.

The last part ties a compiler's run to the three stages alone: the log, the metrics and the dumps
leave no trace in the result.
-/

namespace BufferMachine

/-! ### Statements of a token list -/

theorem segment_terminator {t : Token} (ht : t.isTerminator = true) (ts : List Token) :
    segment (t :: ts) = (⟨[], t⟩ :: (segment ts).1, (segment ts).2) := by
  simp [segment, ht]

/-- Tokens up to a terminator are one statement, whatever follows. -/
theorem segment_append_terminator {us : List Token} {t : Token}
    (hus : ∀ u ∈ us, u.isTerminator = false) (ht : t.isTerminator = true) (ts : List Token) :
    segment (us ++ t :: ts) = (⟨us, t⟩ :: (segment ts).1, (segment ts).2) := by
  induction us with
  | nil => exact segment_terminator ht ts
  | cons u us ih =>
    have hu : u.isTerminator = false := hus u List.mem_cons_self
    have htail := ih fun v hv => hus v (List.mem_cons_of_mem u hv)
    simp [segment, hu, htail]

/-- Tokens without a terminator are left over. -/
theorem segment_no_terminator {ts : List Token} (h : ∀ t ∈ ts, t.isTerminator = false) :
    segment ts = ([], ts) := by
  induction ts with
  | nil => rfl
  | cons t ts ih =>
    have ht : t.isTerminator = false := h t List.mem_cons_self
    have htail := ih fun u hu => h u (List.mem_cons_of_mem t hu)
    simp [segment, ht, htail]

/-- A token list has a first statement or no terminator at all. -/
theorem terminator_cases (ts : List Token) :
    (∀ t ∈ ts, t.isTerminator = false) ∨
      ∃ us t rest, ts = us ++ t :: rest ∧ (∀ u ∈ us, u.isTerminator = false) ∧
        t.isTerminator = true := by
  induction ts with
  | nil => exact Or.inl (by simp)
  | cons t ts ih =>
    by_cases ht : t.isTerminator = true
    · exact Or.inr ⟨[], t, ts, rfl, by simp, ht⟩
    · rw [Bool.not_eq_true] at ht
      rcases ih with hnone | ⟨us, u, rest, rfl, hus, hu⟩
      · left
        intro v hv
        rcases List.mem_cons.mp hv with rfl | hv
        · exact ht
        · exact hnone v hv
      · refine Or.inr ⟨t :: us, u, rest, rfl, ?_, hu⟩
        intro v hv
        rcases List.mem_cons.mp hv with rfl | hv
        · exact ht
        · exact hus v hv

theorem segment_eq_nil {ts dangling : List Token} (h : segment ts = ([], dangling)) :
    ts = dangling := by
  rcases terminator_cases ts with hnone | ⟨us, t, rest, rfl, hus, ht⟩
  · rw [segment_no_terminator hnone] at h
    exact congrArg Prod.snd h
  · rw [segment_append_terminator hus ht] at h
    cases h

/-- The first statement of a token list is what stands before its first terminator. -/
theorem segment_eq_cons {ts dangling : List Token} {s : Statement} {ss : List Statement}
    (h : segment ts = (s :: ss, dangling)) :
    ∃ rest, ts = s.tokens ++ s.terminator :: rest ∧ s.terminator.isTerminator = true ∧
      segment rest = (ss, dangling) := by
  rcases terminator_cases ts with hnone | ⟨us, t, rest, rfl, hus, ht⟩
  · rw [segment_no_terminator hnone] at h
    cases h
  · rw [segment_append_terminator hus ht, Prod.mk.injEq, List.cons.injEq] at h
    obtain ⟨⟨rfl, hss⟩, hdangling⟩ := h
    exact ⟨rest, rfl, ht, Prod.ext hss hdangling⟩

/-- Statements with their terminators and what is left over are the token list again. -/
theorem segment_flatten {ts dangling : List Token} {ss : List Statement}
    (h : segment ts = (ss, dangling)) :
    ts = (ss.flatMap fun s => s.tokens ++ [s.terminator]) ++ dangling := by
  induction ss generalizing ts with
  | nil => exact segment_eq_nil h
  | cons s ss ih =>
    obtain ⟨rest, rfl, -, hrest⟩ := segment_eq_cons h
    rw [ih hrest]
    simp

theorem Program.ofTokens_eq_ok {ts : List Token} {p : Program} :
    Program.ofTokens ts = .ok p ↔ ∃ ss, segment ts = (ss, []) ∧ p = ⟨some ss⟩ := by
  unfold Program.ofTokens
  rcases hsegment : segment ts with ⟨ss, dangling⟩
  cases dangling with
  | nil =>
    simp only [Except.ok.injEq, Prod.mk.injEq, and_true, exists_eq_left']
    exact eq_comm
  | cons t dangling => simp

theorem Program.ofTokens_eq_error {ts : List Token} {e : Diagnostic}
    (h : Program.ofTokens ts = .error e) :
    ∃ dangling, e = missingTerminator dangling := by
  unfold Program.ofTokens at h
  split at h
  · cases h
  · next dangling _ _ => exact ⟨dangling, (Except.error.inj h).symm⟩

theorem Program.ofTokens_of_dangling {ts dangling : List Token} {ss : List Statement}
    (h : segment ts = (ss, dangling)) (hne : dangling ≠ []) :
    Program.ofTokens ts = .error (missingTerminator dangling) := by
  obtain ⟨t, dangling, rfl⟩ := List.exists_cons_of_ne_nil hne
  simp only [Program.ofTokens, h]

/-! ### Instructions of a statement -/

/-- The tokens that spell an instruction. -/
inductive InstructionForm : Instruction → List Token → Prop where
  | write {keyword : Token} (hkind : keyword.kind = some .keyword)
      (hlexeme : keyword.lexeme = Keyword.write) :
      InstructionForm .write [keyword]
  | perform {keyword operations : Token} (hkind : keyword.kind = some .keyword)
      (hlexeme : keyword.lexeme = Keyword.perform)
      (hoperations : operations.kind = some .operator) :
      InstructionForm (.perform operations.lexeme) [keyword, operations]
  | loop {keyword number operations : Token} {count : Nat} (hkind : keyword.kind = some .keyword)
      (hlexeme : keyword.lexeme = Keyword.loop) (hnumber : number.kind = some .number)
      (hoperations : operations.kind = some .operator)
      (hcount : loopCount? number.lexeme = some count) :
      InstructionForm (.loop count operations.lexeme) [keyword, number, operations]

namespace Instruction

theorem checkKind_eq_ok {keyword : Bytes} {argument : Token} {expected : TokenKind} {u : Unit} :
    checkKind keyword argument expected = .ok u ↔ argument.kind = some expected := by
  unfold checkKind
  split
  · next h => simp [h]
  · next h => simp [h]

theorem ofPerform_eq_ok {s : Statement} {arguments : List Token} {i : Instruction} :
    ofPerform s arguments = .ok i ↔
      ∃ operations, arguments = [operations] ∧ operations.kind = some .operator ∧
        i = .perform operations.lexeme := by
  unfold ofPerform
  split
  · next operations =>
    simp only [Outcome.bind_eq_ok, checkKind_eq_ok, pure, Except.pure, Except.ok.injEq]
    constructor
    · rintro ⟨-, hoperations, rfl⟩
      exact ⟨operations, rfl, hoperations, rfl⟩
    · rintro ⟨operations', harguments, hoperations, rfl⟩
      obtain rfl : operations = operations' := by simpa using harguments
      exact ⟨(), hoperations, rfl⟩
  · next hother =>
    simp only [reduceCtorEq, false_iff, not_exists, not_and]
    intro operations harguments
    exact absurd harguments (hother operations)

theorem ofLoop_eq_ok {s : Statement} {arguments : List Token} {i : Instruction} :
    ofLoop s arguments = .ok i ↔
      ∃ number operations count, arguments = [number, operations] ∧ number.kind = some .number ∧
        operations.kind = some .operator ∧ loopCount? number.lexeme = some count ∧
        i = .loop count operations.lexeme := by
  unfold ofLoop
  split
  · next number operations =>
    simp only [Outcome.bind_eq_ok, checkKind_eq_ok]
    constructor
    · rintro ⟨-, hnumber, -, hoperations, h⟩
      split at h
      · next count hcount =>
        cases h
        exact ⟨number, operations, count, rfl, hnumber, hoperations, hcount, rfl⟩
      · cases h
    · rintro ⟨number', operations', count, harguments, hnumber, hoperations, hcount, rfl⟩
      obtain ⟨rfl, rfl⟩ : number = number' ∧ operations = operations' := by simpa using harguments
      exact ⟨(), hnumber, (), hoperations, by rw [hcount]; rfl⟩
  · next hother =>
    simp only [reduceCtorEq, false_iff, not_exists, not_and]
    intro number operations count harguments
    exact absurd harguments (hother number operations)

theorem ofWrite_eq_ok {s : Statement} {arguments : List Token} {i : Instruction} :
    ofWrite s arguments = .ok i ↔ arguments = [] ∧ i = .write := by
  unfold ofWrite
  split
  · simp [eq_comm]
  · next hother => simpa using fun h => absurd h hother

/-- **The instruction of a statement.**  A statement has an instruction exactly if its tokens spell
it. -/
theorem ofStatement_eq_ok {s : Statement} {i : Instruction} :
    ofStatement s = .ok i ↔ InstructionForm i s.tokens := by
  unfold ofStatement
  constructor
  · intro h
    split at h
    · cases h
    · next leading arguments htokens =>
      rw [htokens]
      split at h
      · cases h
      · next hkind =>
        rw [ne_eq, not_not] at hkind
        split at h
        · next hlexeme =>
          obtain ⟨operations, rfl, hoperations, rfl⟩ := ofPerform_eq_ok.mp h
          exact .perform hkind hlexeme hoperations
        · split at h
          · next hlexeme =>
            obtain ⟨number, operations, count, rfl, hnumber, hoperations, hcount, rfl⟩ :=
              ofLoop_eq_ok.mp h
            exact .loop hkind hlexeme hnumber hoperations hcount
          · split at h
            · next hlexeme =>
              obtain ⟨rfl, rfl⟩ := ofWrite_eq_ok.mp h
              exact .write hkind hlexeme
            · cases h
  · intro h
    generalize htokens : s.tokens = tokens at h
    cases h with
    | write hkind hlexeme =>
      simp only [hkind, hlexeme, ne_eq, not_true, if_false]
      rw [if_neg (by decide), if_neg (by decide), if_pos trivial, ofWrite_eq_ok]
      exact ⟨rfl, rfl⟩
    | @perform keyword operations hkind hlexeme hoperations =>
      simp only [hkind, hlexeme, ne_eq, not_true, if_false, if_true]
      exact ofPerform_eq_ok.mpr ⟨operations, rfl, hoperations, rfl⟩
    | @loop keyword number operations count hkind hlexeme hnumber hoperations hcount =>
      simp only [hkind, hlexeme, ne_eq, not_true, if_false]
      rw [if_neg (by decide), if_pos trivial, ofLoop_eq_ok]
      exact ⟨number, operations, count, rfl, hnumber, hoperations, hcount, rfl⟩

/-! ### Complaints about a statement -/

/-- Where a complaint about a statement can lie: at the terminator if there is nothing before it, at
one of the tokens, or at all of them. -/
inductive FaultPlace (s : Statement) : Location → Prop where
  | terminator (hempty : s.tokens = []) : FaultPlace s s.terminator.location
  | token {t : Token} (hmem : t ∈ s.tokens) : FaultPlace s t.location
  | tokens (hne : s.tokens ≠ []) : FaultPlace s (Token.span s.tokens)

theorem faultPlace_location (s : Statement) : FaultPlace s s.location := by
  unfold Statement.location
  split
  · next hempty => exact .terminator (List.isEmpty_iff.mp hempty)
  · next hne => exact .tokens (mt List.isEmpty_iff.mpr hne)

/-- A complaint of the code generator about a statement. -/
def Blames (s : Statement) (e : Diagnostic) : Prop :=
  ∃ (fault : StatementFault) (place : Location), FaultPlace s place ∧ e = fault.at place

theorem blames_token {s : Statement} {t : Token} (hmem : t ∈ s.tokens) (fault : StatementFault) :
    Blames s (fault.at t.location) :=
  ⟨fault, t.location, .token hmem, rfl⟩

theorem blames_statement (s : Statement) (fault : StatementFault) :
    Blames s (fault.at s.location) :=
  ⟨fault, s.location, faultPlace_location s, rfl⟩

theorem checkKind_blames {s : Statement} {keyword : Bytes} {argument : Token} {expected : TokenKind}
    {e : Diagnostic} (hmem : argument ∈ s.tokens)
    (h : checkKind keyword argument expected = .error e) : Blames s e := by
  unfold checkKind at h
  split at h
  · cases h
  · obtain rfl := Except.error.inj h
    exact blames_token hmem _

theorem ofPerform_blames {s : Statement} {arguments : List Token} {e : Diagnostic}
    (hmem : ∀ t ∈ arguments, t ∈ s.tokens) (h : ofPerform s arguments = .error e) : Blames s e := by
  unfold ofPerform at h
  split at h
  · next operations =>
    rcases Outcome.bind_eq_error.mp h with hkind | ⟨-, -, hpure⟩
    · exact checkKind_blames (hmem operations (by simp)) hkind
    · cases hpure
  · obtain rfl := Except.error.inj h
    exact blames_statement s _

theorem ofLoop_blames {s : Statement} {arguments : List Token} {e : Diagnostic}
    (hmem : ∀ t ∈ arguments, t ∈ s.tokens) (h : ofLoop s arguments = .error e) : Blames s e := by
  unfold ofLoop at h
  split at h
  · next count operations =>
    rcases Outcome.bind_eq_error.mp h with hkind | ⟨-, -, h⟩
    · exact checkKind_blames (hmem count (by simp)) hkind
    rcases Outcome.bind_eq_error.mp h with hkind | ⟨-, -, h⟩
    · exact checkKind_blames (hmem operations (by simp)) hkind
    split at h
    · cases h
    · obtain rfl := Except.error.inj h
      exact blames_token (hmem count (by simp)) _
  · obtain rfl := Except.error.inj h
    exact blames_statement s _

theorem ofWrite_blames {s : Statement} {arguments : List Token} {e : Diagnostic}
    (h : ofWrite s arguments = .error e) :
    Blames s e := by
  unfold ofWrite at h
  split at h
  · cases h
  · obtain rfl := Except.error.inj h
    exact blames_statement s _

/-- Whatever is wrong with a statement, the complaint is about it. -/
theorem ofStatement_blames {s : Statement} {e : Diagnostic} (h : ofStatement s = .error e) :
    Blames s e := by
  unfold ofStatement at h
  split at h
  · obtain rfl := Except.error.inj h
    exact blames_statement s _
  · next leading arguments htokens =>
    have hleading : leading ∈ s.tokens := htokens ▸ List.mem_cons_self
    have harguments : ∀ t ∈ arguments, t ∈ s.tokens :=
      fun t ht => htokens ▸ List.mem_cons_of_mem leading ht
    split at h
    · obtain rfl := Except.error.inj h
      exact blames_token hleading _
    split at h
    · exact ofPerform_blames harguments h
    split at h
    · exact ofLoop_blames harguments h
    split at h
    · exact ofWrite_blames h
    · obtain rfl := Except.error.inj h
      exact blames_token hleading _

end Instruction

/-! ### Whole compilations -/

theorem Outcome.mapM_eq_ok {ε α β : Type} {f : α → Except ε β} {xs : List α} {ys : List β} :
    xs.mapM f = .ok ys ↔ List.Forall₂ (fun x y => f x = .ok y) xs ys := by
  induction xs generalizing ys with
  | nil => simp [pure, Except.pure, eq_comm]
  | cons x xs ih =>
    rw [List.mapM_cons, Outcome.bind_eq_ok]
    simp only [Outcome.bind_eq_ok, ih, List.forall₂_cons_left_iff, pure, Except.pure,
      Except.ok.injEq]
    constructor
    · rintro ⟨y, hy, ys', hys', rfl⟩
      exact ⟨y, ys', hy, hys', rfl⟩
    · rintro ⟨y, ys', hy, hys', rfl⟩
      exact ⟨y, hy, ys', hys', rfl⟩

/-- The statements of a token list, all of them with an instruction and nothing left over. -/
structure Compiles (tokens : List Token) (statements : List Statement)
    (instructions : List Instruction) : Prop where
  segment_eq : segment tokens = (statements, [])
  forms : List.Forall₂ (fun s i => InstructionForm i s.tokens) statements instructions

/-- The instructions that a token list spells, which is all that is left to do behind the
scanner. -/
def Instruction.ofTokens (ts : List Token) : Except Diagnostic (List Instruction) :=
  Program.ofTokens ts >>= Generator.instructions

theorem Instruction.ofTokens_of_segment {ts : List Token} {ss : List Statement}
    (h : segment ts = (ss, [])) :
    ofTokens ts = ss.mapM ofStatement := by
  rw [ofTokens, Program.ofTokens_eq_ok.mpr ⟨ss, h, rfl⟩]
  rfl

theorem Instruction.ofTokens_of_dangling {ts dangling : List Token} {ss : List Statement}
    (h : segment ts = (ss, dangling)) (hne : dangling ≠ []) :
    ofTokens ts = .error (missingTerminator dangling) := by
  rw [ofTokens, Program.ofTokens_of_dangling h hne]
  rfl

theorem Instruction.ofTokens_eq_ok {ts : List Token} {is : List Instruction} :
    ofTokens ts = .ok is ↔ ∃ ss, Compiles ts ss is := by
  simp only [ofTokens, Outcome.bind_eq_ok, Program.ofTokens_eq_ok, Generator.instructions,
    Outcome.mapM_eq_ok, ofStatement_eq_ok]
  constructor
  · rintro ⟨-, ⟨ss, hsegment, rfl⟩, hforms⟩
    exact ⟨ss, hsegment, hforms⟩
  · rintro ⟨ss, hsegment, hforms⟩
    exact ⟨_, ⟨ss, hsegment, rfl⟩, hforms⟩

/-- What a successful compilation went through. -/
theorem compile_eq_ok {rule : KeywordRule} {size : Int} {source : Bytes} {r : Compilation} :
    compile rule size source = .ok r ↔
      ∃ tokens statements is, scan rule source = .ok tokens ∧ Compiles tokens statements is ∧
        r = ⟨tokens, ⟨some statements⟩, (Generator.new [size]).text is⟩ := by
  unfold compile
  simp only [Outcome.bind_eq_ok, Program.ofTokens_eq_ok, Generator.generate, Outcome.map_eq_ok,
    Generator.instructions, Outcome.mapM_eq_ok, Instruction.ofStatement_eq_ok, pure, Except.pure,
    Except.ok.injEq]
  constructor
  · rintro ⟨tokens, hscan, -, ⟨statements, hsegment, rfl⟩, -, ⟨is, hforms, rfl⟩, rfl⟩
    exact ⟨tokens, statements, is, hscan, ⟨hsegment, hforms⟩, rfl⟩
  · rintro ⟨tokens, statements, is, hscan, ⟨hsegment, hforms⟩, rfl⟩
    exact ⟨tokens, hscan, _, ⟨statements, hsegment, rfl⟩, _, ⟨is, hforms, rfl⟩, rfl⟩

/-- What a failed compilation came to. -/
theorem compile_eq_error {rule : KeywordRule} {size : Int} {source : Bytes} {e : Diagnostic} :
    compile rule size source = .error e ↔
      scan rule source = .error e ∨ ∃ tokens, scan rule source = .ok tokens ∧
        Instruction.ofTokens tokens = .error e := by
  unfold compile
  simp only [Instruction.ofTokens, Outcome.bind_eq_error, Generator.generate, Outcome.map_eq_error,
    pure, Except.pure, reduceCtorEq, and_false, exists_false, or_false]

/-! ### Runs of a compiler -/

namespace Run

variable {α β : Type}

/-- The steps come to an outcome that does not depend on the workspace. -/
def Gives (m : Run α) (outcome : Except Diagnostic α) : Prop := ∀ w, (m.run.run w).1 = outcome

theorem gives_pure (x : α) : Gives (pure x) (.ok x) := fun _ => rfl

theorem gives_bind {m : Run α} {f : α → Run β} {outcome : Except Diagnostic α}
    {g : α → Except Diagnostic β} (hm : Gives m outcome)
    (hf : ∀ x, outcome = .ok x → Gives (f x) (g x)) :
    Gives (m >>= f) (outcome >>= g) := by
  intro w
  have hfirst := hm w
  rcases hrun : m.run.run w with ⟨result, w'⟩
  rw [hrun] at hfirst
  subst hfirst
  cases result with
  | ok x =>
    rw [Outcome.run_bind_ok hrun]
    exact hf x rfl w'
  | error d =>
    rw [Outcome.run_bind_error hrun]
    rfl

/-- A step that always succeeds does not change what comes of the steps behind it. -/
theorem gives_then {m : Run α} {f : α → Run β} {x : α} {outcome : Except Diagnostic β}
    (hm : Gives m (.ok x)) (hf : Gives (f x) outcome) : Gives (m >>= f) outcome :=
  gives_bind (g := fun _ => outcome) hm fun y hy => by
    cases hy
    exact hf

theorem gives_log (entry : LogEntry) : Gives (log entry) (.ok ()) := fun _ => rfl

theorem gives_count (change : Metrics.Store → Metrics.Store) : Gives (count change) (.ok ()) :=
  fun _ => rfl

/-- A dump never stops a run, whether or not it could be written. -/
theorem gives_dumpTo (directory : Option Bytes) (name : Bytes) (value : Json) (warning : String) :
    Gives (dumpTo directory name value warning) (.ok ()) := by
  cases directory with
  | none => exact gives_pure ()
  | some directory =>
    intro w
    simp only [dumpTo]
    rw [Outcome.run_get_bind]
    rcases dump w.files directory name value with ⟨result, files⟩
    cases result with
    | ok u => rfl
    | error failure => rfl

theorem gives_stage (name : String) (result : Except Diagnostic α) :
    Gives (stage name result) result := by
  intro w
  cases result with
  | ok value => rfl
  | error d => rfl

end Run

/-- **A run compiles.**  What a compiler's run comes to is what the three stages alone come to. -/
theorem Compiler.run_fst (c : Compiler) (source : Bytes) (w : Workspace) :
    (c.run source w).1 = compile c.rule c.bufferSize source := by
  have hsteps : Run.Gives (c.steps source) (compile c.rule c.bufferSize source) := by
    unfold steps compile
    refine Run.gives_then (Run.gives_log _)
      (Run.gives_bind (Run.gives_stage _ _) fun tokens _ => ?_)
    refine Run.gives_then (Run.gives_log _) (Run.gives_then (Run.gives_dumpTo _ _ _ _) ?_)
    refine Run.gives_then (Run.gives_log _)
      (Run.gives_bind (Run.gives_stage _ _) fun program _ => ?_)
    refine Run.gives_then (Run.gives_log _) (Run.gives_then (Run.gives_dumpTo _ _ _ _) ?_)
    refine Run.gives_then (Run.gives_log _) (Run.gives_bind (Run.gives_stage _ _) fun code _ => ?_)
    exact Run.gives_then (Run.gives_count _) (Run.gives_pure _)
  exact hsteps w

end BufferMachine
