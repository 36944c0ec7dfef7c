import BufferMachine.Proofs.Places

/-!
# What runs leave behind

A run of the compiler comes to an outcome and changes its workspace on the way.  The outcome is that
of the three stages alone; this file says the same of the changes.  `Run.Ends` tells how some steps
end that start with given files and metrics.  The log is left out of it, for no step reads it.

The metrics depend on the outcome only (`Metrics.Store.account`), and the files on the tokens and
the tree that the source gave (`Compiler.filesAfter`).  For runs one after the other both are folds
over the sources.
-/

namespace BufferMachine

namespace Run

variable {α β : Type} {files files₁ files' : FileTree}
  {metrics metrics₁ metrics' : Option Metrics.Store}

/-- Steps that start with the one files and metrics come to the outcome and end with the other,
whatever has been logged. -/
def Ends (m : Run α) (files : FileTree) (metrics : Option Metrics.Store)
    (outcome : Except Diagnostic α) (files' : FileTree) (metrics' : Option Metrics.Store) : Prop :=
  ∀ log, ∃ log', m.run.run ⟨files, metrics, log⟩ = (outcome, ⟨files', metrics', log'⟩)

theorem ends_then {m : Run α} {f : α → Run β} {x : α} {outcome : Except Diagnostic β}
    (hm : Ends m files metrics (.ok x) files₁ metrics₁)
    (hf : Ends (f x) files₁ metrics₁ outcome files' metrics') :
    Ends (m >>= f) files metrics outcome files' metrics' := by
  intro log
  obtain ⟨log₁, hrun⟩ := hm log
  rw [Outcome.run_bind_ok hrun]
  exact hf log₁

theorem ends_stop {m : Run α} {f : α → Run β} {d : Diagnostic}
    (hm : Ends m files metrics (.error d) files' metrics') :
    Ends (m >>= f) files metrics (.error d) files' metrics' := by
  intro log
  obtain ⟨log', hrun⟩ := hm log
  exact ⟨log', Outcome.run_bind_error hrun⟩

theorem Ends.congr {m : Run α} {outcome : Except Diagnostic α}
    (h : Ends m files metrics outcome files' metrics₁) (hmetrics : metrics₁ = metrics') :
    Ends m files metrics outcome files' metrics' := hmetrics ▸ h

/-! ### The steps of a run -/

theorem ends_pure (x : α) : Ends (pure x) files metrics (.ok x) files metrics :=
  fun log => ⟨log, rfl⟩

theorem ends_log (entry : LogEntry) : Ends (log entry) files metrics (.ok ()) files metrics :=
  fun _ => ⟨_, rfl⟩

theorem ends_count (change : Metrics.Store → Metrics.Store) :
    Ends (count change) files metrics (.ok ()) files (metrics.map change) := fun _ => ⟨_, rfl⟩

/-- What a dump makes of the files, whether or not it succeeds. -/
def dumped (directory : Option Bytes) (name : Bytes) (value : Json) (files : FileTree) : FileTree :=
  match directory with
  | none => files
  | some directory => (dump files directory name value).2

theorem ends_dumpTo (directory : Option Bytes) (name : Bytes) (value : Json) (warning : String) :
    Ends (dumpTo directory name value warning) files metrics (.ok ())
      (dumped directory name value files) metrics := by
  cases directory with
  | none => exact ends_pure ()
  | some directory =>
    intro log
    simp only [dumpTo, dumped]
    rw [Outcome.run_get_bind]
    rcases dump files directory name value with ⟨result, written⟩
    cases result with
    | ok u => exact ⟨_, rfl⟩
    | error failure => exact ⟨_, rfl⟩

theorem ends_stage_ok (name : String) {result : Except Diagnostic α} {x : α} (h : result = .ok x) :
    Ends (stage name result) files metrics (.ok x) files
      (metrics.map (·.observeStage (bytes name) 0)) := by
  subst h
  exact fun _ => ⟨_, rfl⟩

theorem ends_stage_error (name : String) {result : Except Diagnostic α} {d : Diagnostic}
    (h : result = .error d) :
    Ends (stage name result) files metrics (.error d) files
      ((metrics.map (·.observeStage (bytes name) 0)).map
        (·.countCompilation (outcomeLabel (.error d)))) := by
  subst h
  exact fun _ => ⟨_, rfl⟩

end Run

/-! ### A whole run -/

/-- The stages that a run with this outcome has gone into, the last of them being the one that
failed if one did. -/
def stagesReached : Except Diagnostic Compilation → List Bytes
  | .error (.scanning ..) => [bytes "lex"]
  | .error (.syntactic _ _) => [bytes "lex", bytes "parse"]
  | .error (.generation _ _) => [bytes "lex", bytes "parse", bytes "codegen"]
  | .ok _ => [bytes "lex", bytes "parse", bytes "codegen"]

/-- Observes some stages in turn. -/
def Metrics.Store.observeStages (s : Store) (stages : List Bytes) : Store :=
  stages.foldl (fun s stage => s.observeStage stage 0) s

/-- What a run adds to the metrics, by what it came to: an observation for every stage that it
reached, its outcome, and the sizes of what it produced. -/
def Metrics.Store.account (s : Store) (outcome : Except Diagnostic Compilation) : Store :=
  let counted := (s.observeStages (stagesReached outcome)).countCompilation (outcomeLabel outcome)
  match outcome with
  | .error _ => counted
  | .ok r => (counted.observeTokens r.tokens.length).observeStatements r.program.statements.length

namespace Compiler

/-- The tokens of a source as they are dumped. -/
def tokensJson (tokens : List Token) : Json := .list (tokens.map Token.toJson)

/-- The files after a run: the tokens are dumped if the source is scanned, and the tree if they are
parsed. -/
def filesAfter (c : Compiler) (files : FileTree) (source : Bytes) : FileTree :=
  match scan c.rule source with
  | .error _ => files
  | .ok tokens =>
    match Program.ofTokens tokens with
    | .error _ => Run.dumped c.dumps tokensFile (tokensJson tokens) files
    | .ok program =>
      Run.dumped c.dumps treeFile program.toJson
        (Run.dumped c.dumps tokensFile (tokensJson tokens) files)

theorem steps_ends (c : Compiler) (source : Bytes) (files : FileTree)
    (metrics : Option Metrics.Store) :
    Run.Ends (c.steps source) files metrics (compile c.rule c.bufferSize source)
      (c.filesAfter files source)
      (metrics.map (·.account (compile c.rule c.bufferSize source))) := by
  unfold steps compile filesAfter
  refine Run.ends_then (Run.ends_log _) ?_
  -- A stage that fails is the last one, and the steps in front of it have all been taken.
  rcases hscan : scan c.rule source with d | tokens
  · obtain ⟨i, -, -, rfl⟩ := exists_refused_of_scan_error hscan
    exact Run.Ends.congr (Run.ends_stop (Run.ends_stage_error _ rfl)) (by cases metrics <;> rfl)
  refine Run.ends_then (Run.ends_stage_ok _ rfl) (Run.ends_then (Run.ends_log _) ?_)
  refine Run.ends_then (Run.ends_dumpTo _ _ _ _) (Run.ends_then (Run.ends_log _) ?_)
  simp only [Outcome.ok_bind]
  rcases hparse : Program.ofTokens tokens with d | program
  · obtain ⟨dangling, rfl⟩ := Program.ofTokens_eq_error hparse
    exact Run.Ends.congr (Run.ends_stop (Run.ends_stage_error _ rfl)) (by cases metrics <;> rfl)
  refine Run.ends_then (Run.ends_stage_ok _ rfl) (Run.ends_then (Run.ends_log _) ?_)
  refine Run.ends_then (Run.ends_dumpTo _ _ _ _) (Run.ends_then (Run.ends_log _) ?_)
  simp only [Outcome.ok_bind]
  rcases hgenerate : (Generator.new [c.bufferSize]).generate program with d | code
  · obtain ⟨place, message, rfl⟩ :=
      Instruction.exists_generation_of_mapM (Outcome.map_eq_error.mp hgenerate)
    exact Run.Ends.congr (Run.ends_stop (Run.ends_stage_error _ rfl)) (by cases metrics <;> rfl)
  · refine Run.ends_then (Run.ends_stage_ok _ rfl) ?_
    exact Run.Ends.congr (Run.ends_then (Run.ends_count _) (Run.ends_pure _))
      (by cases metrics <;> rfl)

/-! ### Runs one after the other -/

/-- Runs the compiler on some sources in turn, each in the workspace that the one before it has
left. -/
def runAll (c : Compiler) :
    List Bytes → Workspace → List (Except Diagnostic Compilation) × Workspace
  | [], w => ([], w)
  | source :: sources, w =>
    let first := c.run source w
    let rest := runAll c sources first.2
    (first.1 :: rest.1, rest.2)

variable (c : Compiler) (sources : List Bytes)

/-- What a source comes to by itself. -/
abbrev outcome (source : Bytes) : Except Diagnostic Compilation :=
  compile c.rule c.bufferSize source

theorem exists_runAll (files : FileTree) (metrics : Option Metrics.Store) (log : List LogEntry) :
    ∃ log', c.runAll sources ⟨files, metrics, log⟩ =
      (sources.map c.outcome,
        ⟨sources.foldl c.filesAfter files,
          metrics.map ((sources.map c.outcome).foldl Metrics.Store.account), log'⟩) := by
  induction sources generalizing files metrics log with
  | nil => exact ⟨log, by simp [runAll]⟩
  | cons source sources ih =>
    obtain ⟨log₁, hrun⟩ := c.steps_ends source files metrics log
    obtain ⟨log', hrest⟩ :=
      ih (c.filesAfter files source) (metrics.map (·.account (c.outcome source))) log₁
    refine ⟨log', ?_⟩
    simp only [runAll, run, hrun, hrest, Option.map_map]
    rfl

theorem runAll_fst (w : Workspace) : (c.runAll sources w).1 = sources.map c.outcome := by
  obtain ⟨log', hrun⟩ := c.exists_runAll sources w.files w.metrics w.log
  rw [hrun]

theorem runAll_files (w : Workspace) :
    (c.runAll sources w).2.files = sources.foldl c.filesAfter w.files := by
  obtain ⟨log', hrun⟩ := c.exists_runAll sources w.files w.metrics w.log
  rw [hrun]

theorem runAll_metrics (w : Workspace) :
    (c.runAll sources w).2.metrics =
      w.metrics.map ((sources.map c.outcome).foldl Metrics.Store.account) := by
  obtain ⟨log', hrun⟩ := c.exists_runAll sources w.files w.metrics w.log
  rw [hrun]

end Compiler

end BufferMachine
