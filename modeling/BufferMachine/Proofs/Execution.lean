import BufferMachine.Proofs.Concatenation
import Mathlib.Logic.Function.Iterate

/-!
# Running the code

The machine has a row of cells, a pointer into it and an output.  The source language has a meaning
on it: operations are performed from left to right, a loop performs its operations the given number
of times and then steps to the next cell, and writing shows the cells up to the pointer.

The generated code has a meaning of its own, which knows nothing of instructions.  Each line of a
main function is read as a line of C (`CodeLine.ofText?`), the lines are put together to C
statements along their braces (`CStatement.ofLines`), and `Runs` executes those; the counter of a
loop has thirty-two bits and starts again from zero when they are used up.  Nothing keeps such a
loop from running forever but the bound that it is given, and a code that never ends, or that C
would read in another way, has no run at all.

Every source that compiles has the run that its instructions ask for, and no other.  The proof goes
from the inside to the outside: one loop (`runs_loop`), one instruction (`runs_statements`), the
statements of a list of instructions (`runs_flatMap_statements`), and the lines that these are read
from (`ofBody?_bodyLines`).
-/

namespace BufferMachine

/-! ### The machine -/

/-- The cells and the pointer of the buffer, and what has been written so far.  Cells are addressed
by any whole number: nothing keeps the pointer inside the buffer. -/
structure Machine where
  cells : Int → Int := fun _ => 0
  pointer : Int := 0
  output : Bytes := []

namespace Machine

def advance (m : Machine) : Machine := { m with pointer := m.pointer + 1 }

def retreat (m : Machine) : Machine := { m with pointer := m.pointer - 1 }

/-- Changes the cell under the pointer. -/
def change (m : Machine) (amount : Int) : Machine :=
  { m with
    cells := fun index => if index = m.pointer then m.cells index + amount else m.cells index }

/-- Clears a buffer of the given size; what lies outside of it stays. -/
def clear (size : Int) (m : Machine) : Machine :=
  { m with
    cells := fun index => if 0 ≤ index ∧ index < size then 0 else m.cells index
    pointer := 0 }

/-- A cell as it is written: the offset is added, and of the sum only the lowest byte shows. -/
def shown (cell : Int) : UInt8 := UInt8.ofInt (cell + Runtime.writeOffset)

/-- Writes the cells from the first one to the one under the pointer, and ends the line. -/
def write (m : Machine) : Machine :=
  { m with
    output := m.output ++
      (List.range (m.pointer + 1).toNat).map (fun index => shown (m.cells index)) ++ [newline] }

/-- Performs the operation of a character. -/
def operate (size : Int) (m : Machine) (operation : UInt8) : Machine :=
  if operation = byte '>' then m.advance
  else if operation = byte '<' then m.retreat
  else if operation = byte '+' then m.change 1
  else if operation = byte '-' then m.change (-1)
  else if operation = byte '.' then m.write
  else if operation = byte ',' then m.clear size
  else m

/-- Performs the operations of a string from left to right. -/
def execute (size : Int) (operations : Bytes) (m : Machine) : Machine :=
  operations.foldl (operate size) m

/-- What an instruction of the source language does. -/
def obey (size : Int) (m : Machine) : Instruction → Machine
  | .perform operations => m.execute size operations
  | .loop count operations => ((execute size operations)^[count] m).advance
  | .write => m.write

/-- What a program of the source language does. -/
def interpret (size : Int) (is : List Instruction) (m : Machine) : Machine := is.foldl (obey size) m

end Machine

/-! ### C statements -/

/-- The statements of C that a main function is made of.  A loop carries its counter along; it is
zero before the loop is entered. -/
inductive CStatement where
  | execute (operations : Bytes)
  | advance
  | write
  | loop (counter : UInt32) (bound : Nat) (block : List CStatement)

/-- Statements that are run one after the other bring the machine from one state to another and come
to an end. -/
inductive Runs (size : Int) : List CStatement → Machine → Machine → Prop where
  | done {m : Machine} : Runs size [] m m
  | execute {operations : Bytes} {rest : List CStatement} {m m' : Machine}
      (h : Runs size rest (m.execute size operations) m') :
      Runs size (.execute operations :: rest) m m'
  | advance {rest : List CStatement} {m m' : Machine} (h : Runs size rest m.advance m') :
      Runs size (.advance :: rest) m m'
  | write {rest : List CStatement} {m m' : Machine} (h : Runs size rest m.write m') :
    Runs size (.write :: rest) m m'
  | leave {counter : UInt32} {bound : Nat} {block rest : List CStatement} {m m' : Machine}
      (hcounter : ¬ counter.toNat < bound) (h : Runs size rest m m') :
      Runs size (.loop counter bound block :: rest) m m'
  | again {counter : UInt32} {bound : Nat} {block rest : List CStatement} {m m₁ m' : Machine}
      (hcounter : counter.toNat < bound) (hblock : Runs size block m m₁)
      (h : Runs size (.loop (counter + 1) bound block :: rest) m₁ m') :
      Runs size (.loop counter bound block :: rest) m m'

section

variable {size : Int} {rest : List CStatement} {m m' : Machine}

@[simp] theorem runs_nil : Runs size [] m m' ↔ m' = m := by
  constructor
  · intro h
    cases h
    rfl
  · rintro rfl
    exact .done

@[simp] theorem runs_execute {operations : Bytes} :
    Runs size (.execute operations :: rest) m m' ↔
      Runs size rest (m.execute size operations) m' := by
  constructor
  · intro h
    cases h with
    | execute h => exact h
  · exact .execute

@[simp] theorem runs_advance : Runs size (.advance :: rest) m m' ↔ Runs size rest m.advance m' := by
  constructor
  · intro h
    cases h with
    | advance h => exact h
  · exact .advance

@[simp] theorem runs_write : Runs size (.write :: rest) m m' ↔ Runs size rest m.write m' := by
  constructor
  · intro h
    cases h with
    | write h => exact h
  · exact .write

theorem runs_leave {counter : UInt32} {bound : Nat} {block : List CStatement}
    (hcounter : ¬ counter.toNat < bound) :
    Runs size (.loop counter bound block :: rest) m m' ↔ Runs size rest m m' := by
  constructor
  · intro h
    cases h with
    | leave _ h => exact h
    | again hlt _ _ => exact absurd hlt hcounter
  · exact .leave hcounter

theorem runs_again {counter : UInt32} {bound : Nat} {block : List CStatement}
    (hcounter : counter.toNat < bound) :
    Runs size (.loop counter bound block :: rest) m m' ↔
      ∃ m₁, Runs size block m m₁ ∧ Runs size (.loop (counter + 1) bound block :: rest) m₁ m' := by
  constructor
  · intro h
    cases h with
    | leave hge _ => exact absurd hcounter hge
    | again _ hblock h => exact ⟨_, hblock, h⟩
  · rintro ⟨m₁, hblock, h⟩
    exact .again hcounter hblock h

/-- **A loop runs its block as often as it should.**  The induction is on the number of rounds that
are left; as long as the bound fits into thirty-two bits, the counter gets there before they are
used up. -/
theorem runs_loop {block : List CStatement} {f : Machine → Machine} {bound : Nat}
    (hblock : ∀ m m', Runs size block m m' ↔ m' = f m) (hbound : bound < UInt32.size) (rounds : Nat)
    (counter : UInt32) (hrounds : counter.toNat + rounds = bound) (m : Machine) :
    Runs size (.loop counter bound block :: rest) m m' ↔ Runs size rest (f^[rounds] m) m' := by
  induction rounds generalizing counter m with
  | zero =>
    have hcounter : ¬ counter.toNat < bound := by omega
    rw [runs_leave hcounter]
    rfl
  | succ rounds ih =>
    have hcounter : counter.toNat < bound := by omega
    have hnext : (counter + 1).toNat = counter.toNat + 1 := by
      rw [UInt32.toNat_add, UInt32.toNat_one]
      apply Nat.mod_eq_of_lt
      have : UInt32.size = 4294967296 := rfl
      omega
    have hrest := ih (counter + 1) (by omega) (f m)
    rw [runs_again hcounter]
    constructor
    · rintro ⟨m₁, hm₁, h⟩
      rw [hblock] at hm₁
      subst hm₁
      exact hrest.mp h
    · intro h
      exact ⟨f m, (hblock m (f m)).mpr rfl, hrest.mpr h⟩

end

/-! ### From instructions to statements -/

namespace Instruction

/-- The statements that an instruction is translated to. -/
def statements : Instruction → List CStatement
  | .perform operations => [.execute operations]
  | .loop count operations => [.loop 0 count [.execute operations], .advance]
  | .write => [.write]

/-- How often the operations are performed: a bound for the counter of a loop. -/
def rounds : Instruction → Nat
  | .loop count _ => count
  | _ => 1

end Instruction

theorem runs_statements {size : Int} {rest : List CStatement} {m m' : Machine} {i : Instruction}
    (hi : i.rounds < UInt32.size) :
    Runs size (i.statements ++ rest) m m' ↔ Runs size rest (m.obey size i) m' := by
  cases i with
  | perform operations => simp [Instruction.statements, Machine.obey]
  | write => simp [Instruction.statements, Machine.obey]
  | loop count operations =>
    have hblock :
        ∀ m m', Runs size [.execute operations] m m' ↔ m' = m.execute size operations := by
      intro m m'
      rw [runs_execute, runs_nil]
    have hbound : count < UInt32.size := hi
    simp only [Instruction.statements, List.cons_append, List.nil_append]
    rw [runs_loop hblock hbound count 0 (by simp), runs_advance]
    rfl

theorem runs_flatMap_statements {size : Int} {is : List Instruction}
    (his : ∀ i ∈ is, i.rounds < UInt32.size) (m m' : Machine) :
    Runs size (is.flatMap Instruction.statements) m m' ↔ m' = m.interpret size is := by
  induction is generalizing m with
  | nil => exact runs_nil
  | cons i is ih =>
    rw [List.flatMap_cons, runs_statements (his i List.mem_cons_self),
      ih fun j hj => his j (List.mem_cons_of_mem i hj)]
    rfl

/-! ### Lines of C -/

/-- What a line of a main function says, without regard to its indentation. -/
inductive CodeLine where
  | execute (operations : Bytes)
  | loop (bound : Nat)
  | opening
  | closing
  | advance
  | write
deriving DecidableEq, Repr

namespace CodeLine

/-- The bytes that stand for themselves in a string of C. -/
def isPlain (b : UInt8) : Bool := b != quote && b != byte '\\'

def execute? (text : Bytes) : Option CodeLine := do
  let text ← text.dropPrefix? (bytes "execute(&buffer, \"")
  if text.dropWhile isPlain = bytes "\");" then some (.execute (text.takeWhile isPlain)) else none

/-- The head of a loop.  A numeral with zeros in front would be an octal one, which is none of the
forms read here. -/
def loop? (text : Bytes) : Option CodeLine := do
  let text ← text.dropPrefix? (bytes "for (unsigned int i = 0; i < ")
  let (bound, rest) ← CodeText.numeral? text
  if text = Decimal.ofNat bound ++ rest ∧ rest = bytes "u; i++)" then some (.loop bound) else none

/-- The lines that are always the same. -/
def fixed : List (Bytes × CodeLine) :=
  [(bytes "\x7b", .opening), (bytes "\x7d", .closing), (bytes "buffer.pointer++;", .advance),
    (bytes "write(&buffer);", .write)]

def ofText? (line : Bytes) : Option CodeLine :=
  let text := line.dropWhile (· == byte ' ')
  (execute? text).or ((loop? text).or (fixed.lookup text))

end CodeLine

namespace CStatement

/-- The statements of some lines up to the first closing brace without an opening one, and those
behind it, up to the next such brace and so on. -/
def ofLines : List CodeLine → Option (List CStatement × List (List CStatement))
  | [] => some ([], [])
  | .execute operations :: rest => (ofLines rest).map fun (code, outer) =>
    (.execute operations :: code, outer)
  | .advance :: rest => (ofLines rest).map fun (code, outer) => (.advance :: code, outer)
  | .write :: rest => (ofLines rest).map fun (code, outer) => (.write :: code, outer)
  | .closing :: rest => (ofLines rest).map fun (code, outer) => ([], code :: outer)
  | .loop bound :: .opening :: rest =>
    match ofLines rest with
    | some (block, code :: outer) => some (.loop 0 bound block :: code, outer)
    | _ => none
  | .loop _ :: _ => none
  | .opening :: _ => none

/-- The statements of a main function's body; every brace has to have its partner. -/
def ofBody? (lines : List Bytes) : Option (List CStatement) :=
  match (lines.mapM CodeLine.ofText?).bind ofLines with
  | some (code, []) => some code
  | _ => none

end CStatement

namespace Instruction

/-- The lines of an instruction, read as lines of C. -/
def codeLines : Instruction → List CodeLine
  | .perform operations => [.execute operations]
  | .loop count operations => [.loop count, .opening, .execute operations, .closing, .advance]
  | .write => [.write]

end Instruction

/-! ### The lines of an instruction are read as such -/

namespace CodeLine

theorem ofText?_indentation_append (text : Bytes) :
    ofText? (Instruction.indentation ++ text) = ofText? text := by
  have hblank : ∀ b ∈ Instruction.indentation, (b == byte ' ') = true :=
    List.all_eq_true.mp (by decide : (Instruction.indentation.all (· == byte ' ')) = true)
  unfold ofText?
  rw [List.dropWhile_append_of_pos hblank]

/-- A text that starts with no blank is read as it stands. -/
theorem ofText?_of_head {b : UInt8} {text : Bytes} (hb : text.head? = some b)
    (hblank : b ≠ byte ' ') :
    ofText? text = (execute? text).or ((loop? text).or (fixed.lookup text)) := by
  obtain ⟨tail, rfl⟩ := List.head?_eq_some_iff.mp hb
  unfold ofText?
  rw [List.dropWhile_cons_of_neg (by simpa using hblank)]

theorem isPlain_of_isOperatorByte {b : UInt8} (h : isOperatorByte b = true) : isPlain b = true := by
  have hquote : b ≠ quote := by
    rintro rfl
    exact absurd h (by decide)
  have hescape : b ≠ byte '\\' := by
    rintro rfl
    exact absurd h (by decide)
  simp [isPlain, hquote, hescape]

theorem ofText?_executeCall {operations : Bytes}
    (hoperations : ∀ b ∈ operations, isOperatorByte b = true) :
    ofText? (Instruction.executeCall operations) = some (.execute operations) := by
  have hplain : ∀ b ∈ operations, isPlain b = true :=
    fun b hb => isPlain_of_isOperatorByte (hoperations b hb)
  have hend : ∀ b, (bytes "\");").head? = some b → isPlain b = false := by
    intro b hb
    obtain rfl : quote = b := by
      rw [show (bytes "\");").head? = some quote by decide] at hb
      exact Option.some.inj hb
    decide
  obtain ⟨htake, hdrop⟩ := CodeText.takeWhile_dropWhile_append hplain hend
  have hhead : (Instruction.executeCall operations).head? = some (byte 'e') := by
    rw [Instruction.executeCall, show bytes "execute(&buffer, \"" = byte 'e' ::
        (bytes "xecute(&buffer, \"") by decide]
    rfl
  have hread : execute? (Instruction.executeCall operations) = some (.execute operations) := by
    rw [Instruction.executeCall, List.append_assoc, execute?, CodeText.dropPrefix?_append]
    simp only [Option.bind_eq_bind, Option.bind_some, htake, hdrop, if_true]
  rw [ofText?_of_head hhead (by decide), hread]
  rfl

theorem ofText?_loopHead (count : Nat) :
    ofText? (Instruction.loopHead count) = some (.loop count) := by
  have hend : EndsBefore .number (bytes "u; i++)") := by
    rw [show bytes "u; i++)" = byte 'u' :: bytes "; i++)" by decide]
    exact endsBefore_cons (by decide) _
  have hhead : (Instruction.loopHead count).head? = some (byte 'f') := by
    rw [Instruction.loopHead, show bytes "for (unsigned int i = 0; i < " =
      byte 'f' :: (bytes "or (unsigned int i = 0; i < ") by decide]
    rfl
  have hexecute : execute? (Instruction.loopHead count) = none := by
    rw [Instruction.loopHead, List.append_assoc, execute?,
      CodeText.dropPrefix?_append_eq_none 0 (by decide) (by decide) (by decide)]
    rfl
  have hread : loop? (Instruction.loopHead count) = some (.loop count) := by
    rw [Instruction.loopHead, List.append_assoc, loop?, CodeText.dropPrefix?_append]
    simp only [Option.bind_eq_bind, Option.bind_some, CodeText.numeral?_ofNat count hend,
      and_self, if_true]
  rw [ofText?_of_head hhead (by decide), hexecute, hread]
  rfl

end CodeLine

theorem Instruction.mapM_ofText?_lines {i : Instruction}
    (hi : ∀ b ∈ i.operations, isOperatorByte b = true) :
    (i.lines.map (indentation ++ ·)).mapM CodeLine.ofText? = some i.codeLines := by
  cases i with
  | write => decide
  | perform operations =>
    have hexecute :=
      CodeLine.ofText?_executeCall (show ∀ b ∈ operations, isOperatorByte b = true from hi)
    simp only [lines, List.map_cons, List.map_nil, List.mapM_cons, List.mapM_nil,
      CodeLine.ofText?_indentation_append, hexecute]
    rfl
  | loop count operations =>
    have hexecute :=
      CodeLine.ofText?_executeCall (show ∀ b ∈ operations, isOperatorByte b = true from hi)
    have hopening : CodeLine.ofText? (bytes "\x7b") = some .opening := by decide
    have hclosing : CodeLine.ofText? (bytes "\x7d") = some .closing := by decide
    have hadvance : CodeLine.ofText? (bytes "buffer.pointer++;") = some .advance := by decide
    simp only [lines, List.map_cons, List.map_nil, List.mapM_cons, List.mapM_nil,
      CodeLine.ofText?_indentation_append, CodeLine.ofText?_loopHead, hexecute, hopening,
      hclosing, hadvance]
    rfl

/-- The lines of an instruction close every brace that they open, so they do not disturb what stands
behind them. -/
theorem CStatement.ofLines_codeLines_append (i : Instruction) (rest : List CodeLine) :
    ofLines (i.codeLines ++ rest) =
      (ofLines rest).map fun (code, outer) => (i.statements ++ code, outer) := by
  cases i with
  | perform operations => rfl
  | write => rfl
  | loop count operations =>
    simp only [Instruction.codeLines, List.cons_append, List.nil_append, ofLines]
    cases ofLines rest with
    | none => rfl
    | some read => rfl

theorem CStatement.ofLines_flatMap_codeLines (is : List Instruction) :
    ofLines (is.flatMap Instruction.codeLines) = some (is.flatMap Instruction.statements, []) := by
  induction is with
  | nil => rfl
  | cons i is ih =>
    rw [List.flatMap_cons, ofLines_codeLines_append, ih]
    rfl

theorem CodeLine.mapM_ofText?_bodyLines {is : List Instruction}
    (his : ∀ i ∈ is, ∀ b ∈ i.operations, isOperatorByte b = true) :
    ((Generator.bodyLines is).map (Instruction.indentation ++ ·)).mapM ofText? =
      some (is.flatMap Instruction.codeLines) := by
  induction is with
  | nil => rfl
  | cons i is ih =>
    have hhead := Instruction.mapM_ofText?_lines (his i List.mem_cons_self)
    have htail := ih fun j hj => his j (List.mem_cons_of_mem i hj)
    rw [Generator.bodyLines] at htail ⊢
    rw [List.flatMap_cons, List.map_append, List.mapM_append, hhead, htail]
    rfl

theorem CStatement.ofBody?_bodyLines {is : List Instruction}
    (his : ∀ i ∈ is, ∀ b ∈ i.operations, isOperatorByte b = true) :
    ofBody? ((Generator.bodyLines is).map (Instruction.indentation ++ ·)) =
      some (is.flatMap Instruction.statements) := by
  rw [ofBody?, CodeLine.mapM_ofText?_bodyLines his]
  simp only [Option.bind_some, ofLines_flatMap_codeLines]

/-! ### The code of a source -/

/-- The counter of a loop can hold every count that a program text may ask for. -/
theorem ProgramText.rounds_lt {is : List Instruction} {text : Bytes} (h : ProgramText is text) :
    ∀ i ∈ is, i.rounds < UInt32.size := by
  induction h with
  | nil _ => simp
  | cons _ hstatement _ ih =>
    intro i hi
    rcases List.mem_cons.mp hi with rfl | hi
    · cases hstatement with
      | write _ => exact (by decide : 1 < UInt32.size)
      | perform _ _ _ => exact (by decide : 1 < UInt32.size)
      | loop _ _ hrange _ _ _ => exact hrange
    · exact ih i hi

/-- **The code does what the source says.**  The lines of the main function of a source that
compiles are read as statements of C, and these bring the machine from every state, the cleared
buffer among them, to the one state that the instructions of the source lead to: the run ends, and
cells, pointer and output are the same. -/
theorem code_runs_as_interpreted (c : Compiler) (source : Bytes) (w : Workspace) (r : Compilation)
    (h : (c.run source w).1 = .ok r) :
    ∃ is lines code, ProgramText is source ∧
      (∀ lines', MainBody (.new [c.bufferSize]) r.code lines' ↔ lines' = lines) ∧
      CStatement.ofBody? lines = some code ∧
      ∀ m m', Runs (effectiveSize c.bufferSize) code m m' ↔
        m' = m.interpret (effectiveSize c.bufferSize) is := by
  rw [c.run_fst] at h
  obtain ⟨is, htext, hcode⟩ := compile_eq_ok_iff_programText.mp ⟨r, h, rfl⟩
  have his := htext.operations_all
  refine ⟨is, (Generator.bodyLines is).map (Instruction.indentation ++ ·),
    is.flatMap Instruction.statements, htext, ?_, CStatement.ofBody?_bodyLines his,
      runs_flatMap_statements htext.rounds_lt⟩
  rw [hcode]
  exact mainBody_text_iff _ his

/-- Ten rounds are run, although a numeral with a zero in front would stand for eight of them in
C. -/
theorem code_runs_as_interpreted_ten_rounds :
    ∃ r lines code m, (({} : Compiler).run (bytes "for 010+;write;") {}).1 = .ok r ∧
      MainBody (.new [512]) r.code lines ∧ CStatement.ofBody? lines = some code ∧
      Runs 512 code {} m ∧ m.cells 0 = 10 ∧ m.pointer = 1 ∧ m.output = bytes "J@\n" := by
  have htext : ProgramText [.loop (Decimal.value (bytes "010")) (bytes "+"), .write]
      (bytes "for 010+;write;") := by
    have hsource : bytes "for 010+;write;" = [] ++
      (Keyword.loop ++ bytes " " ++ bytes "010" ++ [] ++ bytes "+" ++
        [] ++ [terminator]) ++ ([] ++ (Keyword.write ++ [] ++ [terminator]) ++ []) := by decide
    rw [hsource]
    exact .cons isGap_nil
      (.loop (by decide) (by decide) (by decide) isGap_nil (by decide) isGap_nil)
      (.cons isGap_nil (.write isGap_nil) (.nil isGap_nil))
  obtain ⟨r, hr⟩ := htext.exists_run {} {}
  obtain ⟨is, lines, code, his, hlines, hcode, hruns⟩ := code_runs_as_interpreted _ _ _ r hr
  obtain rfl := his.unique htext
  exact ⟨r, lines, code, _, hr, (hlines lines).mpr rfl, hcode, (hruns {} _).mpr rfl,
    by decide, by decide, by decide⟩

end BufferMachine
