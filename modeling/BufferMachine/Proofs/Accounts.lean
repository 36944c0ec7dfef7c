import BufferMachine.Proofs.Runs
import BufferMachine.Proofs.Tallies

/-!
# Runs in the metrics

The metrics of runs one after the other tell how these runs ended.  Every run is counted once by its
ending, once in each stage that it went into, and, if it succeeded, once by the number of its tokens
and once by that of its statements.

`Accounts` is the invariant: what the store shows is what can be read off the outcomes of the runs
so far.  One more run keeps it (`Accounts.account`), so it holds after any runs from an empty store
on.
-/

namespace BufferMachine

/-- How a run ends. -/
inductive Ending where
  | success
  | lexical
  | syntactic
  | generation
deriving DecidableEq, Repr

namespace Ending

def of : Except Diagnostic Compilation → Ending
  | .ok _ => success
  | .error (.scanning ..) => lexical
  | .error (.syntactic _ _) => syntactic
  | .error (.generation _ _) => generation

def label : Ending → Bytes
  | success => bytes "ok"
  | lexical => bytes "lex_error"
  | syntactic => bytes "syntax_error"
  | generation => bytes "codegen_error"

/-- How many of the runs ended so. -/
def count (ending : Ending) (outcomes : List (Except Diagnostic Compilation)) : Nat :=
  outcomes.countP fun outcome => Ending.of outcome = ending

theorem label_of (outcome : Except Diagnostic Compilation) :
    outcomeLabel outcome = (Ending.of outcome).label := by
  rcases outcome with (_ | _ | _) | _ <;> rfl

theorem label_inj (a b : Ending) : a.label = b.label ↔ a = b := by
  cases a <;> cases b <;> decide

theorem count_concat (ending : Ending) (outcomes : List (Except Diagnostic Compilation))
    (outcome : Except Diagnostic Compilation) :
    ending.count (outcomes ++ [outcome]) =
      ending.count outcomes + if Ending.of outcome = ending then 1 else 0 := by
  simp [count, List.countP_append, List.countP_singleton]

end Ending

/-- The compilations of the runs that succeeded. -/
def successes (outcomes : List (Except Diagnostic Compilation)) : List Compilation :=
  outcomes.filterMap Except.toOption

theorem successes_append (a b : List (Except Diagnostic Compilation)) :
    successes (a ++ b) = successes a ++ successes b := List.filterMap_append

namespace Metrics.Store

/-- How often a stage has been observed. -/
def stageCount (s : Store) (stage : Bytes) : Nat :=
  ((s.stages.get? stage).map Histogram.count).getD 0

theorem stageCount_observeStage {s : Store} (h : s.stages.Ordered) (stage name : Bytes)
    (time : Int) :
    (s.observeStage stage time).stageCount name =
      s.stageCount name + if name = stage then 1 else 0 := by
  simp only [stageCount, observeStage, Family.get?_update _ _ stage h]
  by_cases hname : name = stage
  · subst hname
    cases Family.get? name s.stages with
    | none => simp [Histogram.observe, Histogram.empty]
    | some timed => simp [Histogram.observe]
  · simp [hname]

theorem observeStages_frame (s : Store) (stages : List Bytes) :
    s.observeStages stages = { s with stages := (s.observeStages stages).stages } := by
  induction stages generalizing s with
  | nil => rfl
  | cons stage stages ih => exact ih (s.observeStage stage 0)

theorem observeStages_ordered {s : Store} (h : s.stages.Ordered) (stages : List Bytes) :
    (s.observeStages stages).stages.Ordered := by
  induction stages generalizing s with
  | nil => exact h
  | cons stage stages ih => exact @ih (s.observeStage stage 0) (h.update _ _ _)

theorem stageCount_observeStages {s : Store} (h : s.stages.Ordered) (stages : List Bytes)
    (name : Bytes) :
    (s.observeStages stages).stageCount name = s.stageCount name + stages.count name := by
  induction stages generalizing s with
  | nil => rfl
  | cons stage stages ih =>
    have hrest : (s.observeStages (stage :: stages)).stageCount name =
        (s.observeStage stage 0).stageCount name + stages.count name :=
          @ih (s.observeStage stage 0) (h.update _ _ _)
    rw [hrest, stageCount_observeStage h, List.count_cons]
    by_cases hname : name = stage
    · simp [hname, Nat.add_right_comm, Nat.add_assoc]
    · simp [hname, Ne.symm hname]

/-! What one run adds to each part of the store. -/

variable (s : Store) (outcome : Except Diagnostic Compilation)

theorem account_compilations :
    (s.account outcome).compilations =
      Family.update 0 (· + 1) (Ending.of outcome).label s.compilations := by
  have hframe := congrArg Store.compilations (s.observeStages_frame (stagesReached outcome))
  rw [← Ending.label_of]
  cases outcome with
  | error d => exact congrArg (Family.update 0 (· + 1) _) hframe
  | ok r => exact congrArg (Family.update 0 (· + 1) _) hframe

theorem account_stages :
    (s.account outcome).stages = (s.observeStages (stagesReached outcome)).stages := by
  cases outcome with
  | error d => rfl
  | ok r => rfl

/-- Only a run that succeeds is counted by its sizes. -/
theorem account_tokens : (s.account outcome).tokens =
    ((successes [outcome]).map fun r => (r.tokens.length : Int)).foldl Histogram.observe
      s.tokens := by
  have hframe := congrArg Store.tokens (s.observeStages_frame (stagesReached outcome))
  cases outcome with
  | error d => exact hframe
  | ok r => exact congrArg (Histogram.observe · r.tokens.length) hframe

theorem account_statements : (s.account outcome).statements =
    ((successes [outcome]).map fun r => (r.program.statements.length : Int)).foldl Histogram.observe
      s.statements := by
  have hframe := congrArg Store.statements (s.observeStages_frame (stagesReached outcome))
  cases outcome with
  | error d => exact hframe
  | ok r => exact congrArg (Histogram.observe · r.program.statements.length) hframe

theorem stageCount_account {s : Store} (h : s.stages.Ordered) (name : Bytes) :
    (s.account outcome).stageCount name =
      s.stageCount name + (stagesReached outcome).count name := by
  rw [← stageCount_observeStages h, stageCount, account_stages]
  rfl

end Metrics.Store

/-- Which stages are gone into by the ending: all of them scan, all that have tokens parse, and code
is generated for what has been parsed. -/
theorem count_stagesReached (outcome : Except Diagnostic Compilation) :
    (stagesReached outcome).count (bytes "lex") = 1 ∧
      (stagesReached outcome).count (bytes "parse") +
        (if Ending.of outcome = .lexical then 1 else 0) = 1 ∧
      (stagesReached outcome).count (bytes "codegen") =
        (if Ending.of outcome = .success then 1 else 0) +
          if Ending.of outcome = .generation then 1 else 0 := by
  rcases outcome with (_ | _ | _) | _ <;> exact ⟨rfl, rfl, rfl⟩

/-- The store shows the runs with the given outcomes, and no others. -/
structure Accounts (s : Metrics.Store) (outcomes : List (Except Diagnostic Compilation)) :
    Prop where
  compilations_ordered : s.compilations.Ordered
  stages_ordered : s.stages.Ordered
  compilations_total : s.compilations.total = outcomes.length
  compilations_eq : ∀ ending : Ending, s.compilations.value ending.label = ending.count outcomes
  lex_eq : s.stageCount (bytes "lex") = outcomes.length
  parse_eq : s.stageCount (bytes "parse") + Ending.lexical.count outcomes = outcomes.length
  codegen_eq : s.stageCount (bytes "codegen") = Ending.success.count outcomes +
    Ending.generation.count outcomes
  tokens_show :
    s.tokens.Shows Metrics.sizeBounds ((successes outcomes).map fun r => (r.tokens.length : Int))
  statements_show :
    s.statements.Shows Metrics.sizeBounds
      ((successes outcomes).map fun r => (r.program.statements.length : Int))

theorem accounts_empty : Accounts {} [] where
  compilations_ordered := List.Pairwise.nil
  stages_ordered := List.Pairwise.nil
  compilations_total := rfl
  compilations_eq := fun _ => rfl
  lex_eq := rfl
  parse_eq := rfl
  codegen_eq := rfl
  tokens_show := Histogram.shows_empty _
  statements_show := Histogram.shows_empty _

theorem sizeBounds_increasing : Metrics.sizeBounds.Pairwise (· ≤ ·) := by decide

/-- **One more run.**  What a run adds keeps the accounts. -/
theorem Accounts.account {s : Metrics.Store} {outcomes : List (Except Diagnostic Compilation)}
    (h : Accounts s outcomes) (outcome : Except Diagnostic Compilation) :
    Accounts (s.account outcome) (outcomes ++ [outcome]) := by
  obtain ⟨hlex, hparse, hcodegen⟩ := count_stagesReached outcome
  refine ⟨?_, ?_, ?_, ?_, ?_, ?_, ?_, ?_, ?_⟩
  · rw [s.account_compilations]
    exact h.compilations_ordered.update _ _ _
  · rw [s.account_stages]
    exact Metrics.Store.observeStages_ordered h.stages_ordered _
  · rw [s.account_compilations, Metrics.Family.total_update, h.compilations_total,
      List.length_append, List.length_singleton]
  · intro ending
    rw [s.account_compilations, Metrics.Family.value_update h.compilations_ordered,
      h.compilations_eq, ending.count_concat]
    simp only [Ending.label_inj, eq_comm]
  · rw [Metrics.Store.stageCount_account outcome h.stages_ordered, h.lex_eq, hlex,
      List.length_append, List.length_singleton]
  · have hcount := h.parse_eq
    rw [Metrics.Store.stageCount_account outcome h.stages_ordered, Ending.count_concat,
      List.length_append, List.length_singleton]
    omega
  · rw [Metrics.Store.stageCount_account outcome h.stages_ordered, Ending.count_concat,
      Ending.count_concat, h.codegen_eq]
    omega
  · rw [s.account_tokens, successes_append, List.map_append]
    exact h.tokens_show.observeAll sizeBounds_increasing _
  · rw [s.account_statements, successes_append, List.map_append]
    exact h.statements_show.observeAll sizeBounds_increasing _

theorem Accounts.accountAll {s : Metrics.Store} {done : List (Except Diagnostic Compilation)}
    (h : Accounts s done) (outcomes : List (Except Diagnostic Compilation)) :
    Accounts (outcomes.foldl Metrics.Store.account s) (done ++ outcomes) := by
  induction outcomes generalizing s done with
  | nil => simpa using h
  | cons outcome outcomes ih => simpa using ih (h.account outcome)

/-- **The metrics account for every run exactly once.**  After runs one after the other on an empty
store, what it shows is what can be read off the outcomes that the runs returned. -/
theorem metrics_account_for_runs (c : Compiler) (sources : List Bytes) (files : FileTree)
    (log : List LogEntry) :
    ∃ store, (c.runAll sources ⟨files, some {}, log⟩).2.metrics = some store ∧
      (c.runAll sources ⟨files, some {}, log⟩).1.length = sources.length ∧
      Accounts store (c.runAll sources ⟨files, some {}, log⟩).1 := by
  rw [c.runAll_metrics, c.runAll_fst]
  exact ⟨_, rfl, List.length_map _, accounts_empty.accountAll (sources.map c.outcome)⟩

end BufferMachine
