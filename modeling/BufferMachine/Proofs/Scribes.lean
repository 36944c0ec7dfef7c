import BufferMachine.Code.Scribe
import BufferMachine.Proofs.Stages

/-!
# A sheet that is used again

A scribe writes every program on the sheet that it wrote the last one on, and a refused program
leaves its first lines there.  None of this is ever seen again: what a scribe answers depends on its
generator alone, and only a request for another size changes that.

`Writing.Writes` says what a step adds to the sheet and how it ends.  From it follows what is on the
sheet after every program, finished or not (`Scribe.run_code`), and that the answers to any requests
are those of scribes that have just been made (`Scribe.answer_of_serveAll`).
-/

namespace BufferMachine

namespace Writing

variable {α β : Type} {text text' : Bytes}

/-- The steps come to the outcome and add the text, whatever is on the sheet. -/
def Writes (m : Writing α) (outcome : Except Diagnostic α) (text : Bytes) : Prop :=
  ∀ s, m.run.run s = (outcome, { s with sheet := s.sheet ++ text })

theorem run_clear (s : Scribe) : clear.run.run s = (.ok (), { s with sheet := [] }) := rfl

theorem writes_add (text : Bytes) : Writes (add text) (.ok ()) text := fun _ => rfl

theorem writes_pure (x : α) : Writes (pure x) (.ok x) [] := by
  intro s
  rw [List.append_nil]
  rfl

theorem writes_throw (d : Diagnostic) : Writes (throw d : Writing α) (.error d) [] := by
  intro s
  rw [List.append_nil]
  rfl

theorem writes_then {m : Writing α} {f : α → Writing β} {x : α} {outcome : Except Diagnostic β}
    (hm : Writes m (.ok x) text) (hf : Writes (f x) outcome text') :
    Writes (m >>= f) outcome (text ++ text') := by
  intro s
  rw [Outcome.run_bind_ok (hm s), hf, List.append_assoc]

theorem writes_stop {m : Writing α} {f : α → Writing β} {d : Diagnostic}
    (hm : Writes m (.error d) text) :
    Writes (m >>= f) (.error d) text := by
  intro s
  exact Outcome.run_bind_error (hm s)

theorem writes_addLines (lines : List Bytes) :
    Writes (addLines lines) (.ok ()) (Bytes.unlines lines) := by
  induction lines with
  | nil => exact writes_pure ()
  | cons line lines ih => exact writes_then (writes_add _) ih

/-- The lines of an instruction in the body of the main function. -/
def block (i : Instruction) : Bytes := Bytes.unlines (i.lines.map (Instruction.indentation ++ ·))

/-- What some statements put on the sheet: the lines of all up to the first one that is refused. -/
def body : List Statement → Bytes
  | [] => []
  | s :: ss =>
    match Instruction.ofStatement s with
    | .ok i => block i ++ body ss
    | .error _ => []

theorem writes_addStatement_ok {s : Statement} {i : Instruction}
    (h : Instruction.ofStatement s = .ok i) :
    Writes (addStatement s) (.ok ()) (block i) := by
  have hlines : Generator.statementLines s = .ok i.lines := by rw [Generator.statementLines, h]; rfl
  unfold addStatement
  rw [hlines]
  exact writes_addLines _

theorem writes_addStatement_error {s : Statement} {d : Diagnostic}
    (h : Instruction.ofStatement s = .error d) :
    Writes (addStatement s) (.error d) [] := by
  have hlines : Generator.statementLines s = .error d := by rw [Generator.statementLines, h]; rfl
  unfold addStatement
  rw [hlines]
  exact writes_throw d

/-- The statements are written in their order, and the first one that is refused ends it. -/
theorem writes_statements (ss : List Statement) :
    Writes (ss.forM addStatement) ((ss.mapM Instruction.ofStatement).map fun _ => ())
      (body ss) := by
  induction ss with
  | nil => exact writes_pure ()
  | cons s ss ih =>
    rw [List.mapM_cons]
    cases hs : Instruction.ofStatement s with
    | error d =>
      have hbody : body (s :: ss) = [] := by simp only [body, hs]
      rw [hbody]
      exact writes_stop (writes_addStatement_error hs)
    | ok i =>
      have hbody : body (s :: ss) = block i ++ body ss := by simp only [body, hs]
      rw [hbody, Outcome.ok_bind]
      have hrest := writes_then (f := fun _ => ss.forM addStatement) (writes_addStatement_ok hs) ih
      cases hss : ss.mapM Instruction.ofStatement with
      | error d => rwa [hss] at hrest
      | ok is => rwa [hss] at hrest

theorem body_eq {ss : List Statement} {is : List Instruction}
    (h : ss.mapM Instruction.ofStatement = .ok is) :
    body ss = Bytes.unlines ((Generator.bodyLines is).map (Instruction.indentation ++ ·)) := by
  rw [Outcome.mapM_eq_ok] at h
  induction h with
  | nil => rfl
  | cons hs _ ih =>
    simp only [body, hs, ih, block, Generator.bodyLines, Bytes.unlines, List.flatMap_cons,
      List.map_append, List.flatMap_append]

/-- What is on the sheet when a program has been written, or has been refused. -/
def draft (g : Generator) (p : Program) : Bytes :=
  match g.generate p with
  | .ok code => code
  | .error _ => g.preamble ++ Bytes.unlines Generator.mainHead ++ body p.statements

end Writing

namespace Scribe

open Writing

/-- **Writing a program.**  The outcome is the code that the generator gives the program, and the
sheet holds that code or, if the program is refused, what comes before its first refused
statement. -/
theorem run_code (s : Scribe) (p : Program) :
    (Writing.code p).run.run s =
      (s.generator.generate p, { s with sheet := draft s.generator p }) := by
  let head := s.generator.preamble ++ Bytes.unlines Generator.mainHead
  have hbegin : (Writing.code p).run.run s =
      (do p.statements.forM addStatement
          addLines Generator.mainFoot
          return (← get).sheet : Writing Bytes).run.run { s with sheet := head } := by
    unfold Writing.code
    rw [Outcome.run_bind_ok (run_clear s), Outcome.run_get_bind,
      Outcome.run_bind_ok (writes_add _ _),
      Outcome.run_bind_ok (writes_addLines Generator.mainHead _), List.nil_append]
  have hstatements := writes_statements p.statements { s with sheet := head }
  rw [hbegin]
  unfold draft Generator.generate Generator.instructions
  cases hinstructions : p.statements.mapM Instruction.ofStatement with
  | error d =>
    rw [hinstructions] at hstatements
    rw [Outcome.run_bind_error hstatements]
    rfl
  | ok is =>
    rw [hinstructions] at hstatements
    have htext : head ++ body p.statements ++ Bytes.unlines Generator.mainFoot =
        s.generator.text is := by
      rw [body_eq hinstructions, Generator.text]
    rw [Outcome.run_bind_ok hstatements, Outcome.run_bind_ok (writes_addLines Generator.mainFoot _),
      Outcome.run_get_bind]
    dsimp only
    rw [htext]
    rfl

/-! ### Requests one after the other -/

/-- The scribe of a generator for buffers of the size, which has written nothing yet. -/
def ofSize (size : Int) : Scribe := { generator := { bufferSize := size } }

/-- The size that a request sets, if it sets one. -/
def Request.size? : Request → Option Int
  | .resize size => some size
  | _ => none

/-- The size after some requests: the last one that was set, or else the one at first. -/
def sizeAfter (first : Int) (requests : List Request) : Int :=
  (requests.filterMap Request.size?).getLast?.getD first

theorem sizeAfter_cons (first : Int) (r : Request) (rs : List Request) :
    sizeAfter first (r :: rs) = sizeAfter (r.size?.getD first) rs := by
  unfold sizeAfter
  cases hr : r.size? with
  | none => simp [hr]
  | some size => simp [hr, List.getLast?_cons]

/-- An answer depends on the size alone, and so does what the size is afterwards. -/
theorem serve_eq (s : Scribe) (r : Request) :
    (s.serve r).1 = ((ofSize s.generator.bufferSize).serve r).1 ∧
      (s.serve r).2.generator.bufferSize = r.size?.getD s.generator.bufferSize := by
  cases r with
  | generate p =>
    simp only [serve, run_code]
    exact ⟨rfl, rfl⟩
  | statement statement => exact ⟨rfl, rfl⟩
  | preamble => exact ⟨rfl, rfl⟩
  | resize size => exact ⟨rfl, rfl⟩

theorem bufferSize_serveAll (s : Scribe) (requests : List Request) :
    (s.serveAll requests).2.generator.bufferSize = sizeAfter s.generator.bufferSize requests := by
  induction requests generalizing s with
  | nil => rfl
  | cons r rs ih =>
    rw [sizeAfter_cons, ← (s.serve_eq r).2]
    exact ih (s.serve r).2

/-- **No answer depends on what was asked before,** but for the size. -/
theorem answer_of_serveAll (s : Scribe) (before : List Request) (r : Request)
    (later : List Request) :
    (s.serveAll (before ++ r :: later)).1[before.length]? =
      some ((ofSize (sizeAfter s.generator.bufferSize before)).serve r).1 := by
  induction before generalizing s with
  | nil => exact congrArg some (s.serve_eq r).1
  | cons b before ih =>
    rw [sizeAfter_cons, ← (s.serve_eq b).2]
    exact ih (s.serve b).2

theorem bufferSize_new (sizes : List Int) :
    (new sizes).generator.bufferSize = (sizes.filter (0 < ·)).getLast?.getD defaultBufferSize := by
  suffices h : ∀ g : Generator,
      (sizes.foldl Generator.withSize g).bufferSize =
        (sizes.filter (0 < ·)).getLast?.getD g.bufferSize from h {}
  intro g
  induction sizes generalizing g with
  | nil => rfl
  | cons size sizes ih =>
    rw [List.foldl_cons, ih, Generator.withSize]
    by_cases hsize : 0 < size
    · rw [if_pos hsize, List.filter_cons_of_pos (by simpa using hsize), List.getLast?_cons]
      rfl
    · rw [if_neg hsize, List.filter_cons_of_neg (by simpa using hsize)]

/-! ### Refused programs -/

/-- The complaint is about the first of the statements that has no lines. -/
def FirstRefused (ss : List Statement) (d : Diagnostic) : Prop :=
  ∃ before s after, ss = before ++ s :: after ∧
    (∀ t ∈ before, ∃ lines, Generator.statementLines t = .ok lines) ∧
    Generator.statementLines s = .error d

theorem generate_eq_error_iff {g : Generator} {p : Program} {d : Diagnostic} :
    g.generate p = .error d ↔ FirstRefused p.statements d := by
  have haccepted : ∀ s, (∃ lines, Generator.statementLines s = .ok lines) ↔
      ∃ i, Instruction.ofStatement s = .ok i := by
    intro s
    unfold Generator.statementLines
    cases Instruction.ofStatement s with
    | error e => simp [Except.map]
    | ok i => simp [Except.map]
  have hrefused : ∀ s, Generator.statementLines s = .error d ↔
    Instruction.ofStatement s = .error d :=
    fun _ => Outcome.map_eq_error
  simp only [Generator.generate, Outcome.map_eq_error, Generator.instructions, FirstRefused,
    haccepted, hrefused]
  constructor
  · intro h
    exact Outcome.exists_of_mapM_eq_error h
  · rintro ⟨before, s, after, hstatements, hbefore, hs⟩
    rw [hstatements]
    exact Outcome.mapM_eq_error_of_first hbefore hs

/-- **A generator carries nothing over.**  At first its size is the last positive one that was asked
for, or else 512.  Whatever it is asked for in turn, each answer is that of a generator that was
just made for the size set last; and a program is refused, without any code, for the first of its
statements that has no lines. -/
theorem scribe_carries_nothing_over (sizes : List Int) :
    (new sizes).generator.bufferSize = (sizes.filter (0 < ·)).getLast?.getD 512 ∧
      (∀ before r later,
        let size := sizeAfter (new sizes).generator.bufferSize before
        ((new sizes).serveAll before).2.generator.bufferSize = size ∧
          ((new sizes).serveAll (before ++ r :: later)).1[before.length]? =
            some ((ofSize size).serve r).1) ∧
      ∀ before p later,
        let answer := ((new sizes).serveAll (before ++ .generate p :: later)).1[before.length]?
        let size := sizeAfter (new sizes).generator.bufferSize before
        answer = some (.code (({ bufferSize := size } : Generator).generate p)) ∧
          ∀ d, answer = some (.code (.error d)) ↔ FirstRefused p.statements d := by
  refine ⟨bufferSize_new sizes, ?_, ?_⟩
  · intro before r later size
    exact ⟨bufferSize_serveAll (new sizes) before, answer_of_serveAll (new sizes) before r later⟩
  · intro before p later answer size
    have hcode : answer = some (.code (({ bufferSize := size } : Generator).generate p)) := by
      have hanswer : answer = some ((ofSize size).serve (.generate p)).1 :=
        answer_of_serveAll (new sizes) before _ later
      rw [hanswer, serve, run_code]
      rfl
    refine ⟨hcode, ?_⟩
    intro d
    rw [hcode, ← generate_eq_error_iff (g := { bufferSize := size })]
    simp

end Scribe

end BufferMachine
