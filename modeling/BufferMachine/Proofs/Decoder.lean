import BufferMachine.Proofs.Grammar

/-!
# Reading the code back

The C text of a program can be read back: `decode` recovers the number of cells and the instructions
from the text alone.  Operations stand in the text between quotes, just as they stood in the source.
That they cannot end the quotes before their time, or be taken for anything else, rests on what the
scanner has made of them: only the six operation bytes get that far (`ProgramText.operations_all`).

It follows that nothing of a source but its instructions shows in its code, and that all of these
do: two sources have the same code exactly if they have the same instructions for the same number of
cells.
-/

namespace BufferMachine

/-! ### A reader of generated code -/

def quote : UInt8 := byte '"'

namespace CodeText

-- the fixed parts of the text of an instruction
def write : Bytes := bytes "    write(&buffer);\n"

def callHead : Bytes := Instruction.indentation ++ bytes "execute(&buffer, \""

def callFoot : Bytes := bytes "\");" ++ [newline]

def loopHead : Bytes := Instruction.indentation ++ bytes "for (unsigned int i = 0; i < "

def loopOpening : Bytes :=
  bytes "u; i++)" ++ newline ::
    (Instruction.indentation ++ (bytes "\x7b" ++ newline :: Instruction.indentation))

def loopClosing : Bytes :=
  Instruction.indentation ++ (bytes "\x7d" ++ newline ::
    (Instruction.indentation ++ (bytes "buffer.pointer++;" ++ [newline])))

-- the fixed parts of the whole text: before the number of cells, from there to the first
-- instruction, and behind the last one
def head : Bytes := Bytes.unlines Runtime.includes ++ bytes "#define MAX_BUFFER_SIZE "

def middle : Bytes :=
  newline :: (bytes "#define WRITE_OFFSET " ++ (Decimal.ofNat Runtime.writeOffset ++
    newline :: (Bytes.unlines Runtime.support ++ Bytes.unlines Generator.mainHead)))

def foot : Bytes := Bytes.unlines Generator.mainFoot

/-- A numeral at the head of a text, and what is behind it. -/
def numeral? (text : Bytes) : Option (Nat × Bytes) :=
  (Decimal.toNat? (text.takeWhile Decimal.isDigit)).map (·, text.dropWhile Decimal.isDigit)

/-- The operations of the call at the head of a text, and what is behind the call. -/
def call? (text : Bytes) : Option (Bytes × Bytes) := do
  let text ← text.dropPrefix? callHead
  let rest ← (text.dropWhile isOperatorByte).dropPrefix? callFoot
  return (text.takeWhile isOperatorByte, rest)

def loop? (text : Bytes) : Option (Instruction × Bytes) := do
  let (count, text) ← numeral? (← text.dropPrefix? loopHead)
  let (operations, text) ← call? (← text.dropPrefix? loopOpening)
  let rest ← text.dropPrefix? loopClosing
  return (.loop count operations, rest)

/-- The instruction at the head of a text, and what is behind it. -/
def instruction? (text : Bytes) : Option (Instruction × Bytes) :=
  match text.dropPrefix? write, call? text with
  | some rest, _ => some (.write, rest)
  | none, some (operations, rest) => some (.perform operations, rest)
  | none, none => loop? text

theorem dropPrefix?_eq_some {text beginning rest : Bytes} :
    text.dropPrefix? beginning = some rest ↔ text = beginning ++ rest := by
  simp [List.dropPrefix?_eq_some_iff]

theorem dropPrefix?_append (beginning rest : Bytes) :
    (beginning ++ rest).dropPrefix? beginning = some rest :=
  dropPrefix?_eq_some.mpr rfl

/-- One byte is enough to tell two beginnings of a text from one another. -/
theorem dropPrefix?_append_eq_none {beginning text : Bytes} (i : Nat)
    (hbeginning : i < beginning.length) (htext : i < text.length) (hne : text[i]? ≠ beginning[i]?)
    (rest : Bytes) :
    (text ++ rest).dropPrefix? beginning = none := by
  rw [Option.eq_none_iff_forall_ne_some]
  intro after hafter
  have heq : (text ++ rest)[i]? = (beginning ++ after)[i]? := by rw [dropPrefix?_eq_some.mp hafter]
  rw [List.getElem?_append_left htext, List.getElem?_append_left hbeginning] at heq
  exact hne heq

theorem dropPrefix?_length {text beginning rest : Bytes}
    (h : text.dropPrefix? beginning = some rest) :
    rest.length + beginning.length = text.length := by
  rw [dropPrefix?_eq_some.mp h, List.length_append, Nat.add_comm]

theorem numeral?_length {text rest : Bytes} {n : Nat} (h : numeral? text = some (n, rest)) :
    rest.length ≤ text.length := by
  obtain ⟨n', -, heq⟩ := Option.map_eq_some_iff.mp h
  obtain ⟨-, rfl⟩ := Prod.mk.inj heq
  exact (List.dropWhile_sublist Decimal.isDigit).length_le

theorem call?_length {text operations rest : Bytes} (h : call? text = some (operations, rest)) :
    rest.length + callHead.length ≤ text.length := by
  simp only [call?, Option.bind_eq_bind, Option.bind_eq_some_iff] at h
  obtain ⟨text', htext', rest', hrest', heq⟩ := h
  cases heq
  have hdrop := (List.dropWhile_sublist isOperatorByte (l := text')).length_le
  have hhead := dropPrefix?_length htext'
  have hfoot := dropPrefix?_length hrest'
  omega

theorem loop?_length {text rest : Bytes} {i : Instruction} (h : loop? text = some (i, rest)) :
    rest.length + loopHead.length ≤ text.length := by
  simp only [loop?, Option.bind_eq_bind, Option.bind_eq_some_iff] at h
  obtain ⟨text₁, h₁, ⟨count, text₂⟩, h₂, text₃, h₃, ⟨operations, text₄⟩, h₄, rest', h₅, heq⟩ := h
  cases heq
  have hhead := dropPrefix?_length h₁
  have hnumeral : text₂.length ≤ text₁.length := numeral?_length h₂
  have hopening : text₃.length + loopOpening.length = text₂.length := dropPrefix?_length h₃
  have hcall := call?_length h₄
  have hclosing : rest.length + loopClosing.length = text₄.length := dropPrefix?_length h₅
  omega

/-- An instruction takes some text, so that reading one after the other comes to an end. -/
theorem instruction?_length {text rest : Bytes} {i : Instruction}
    (h : instruction? text = some (i, rest)) :
    rest.length < text.length := by
  have hwrite : 0 < write.length := by decide
  have hcall : 0 < callHead.length := by decide
  have hloop : 0 < loopHead.length := by decide
  unfold instruction? at h
  split at h
  · next after _ heq =>
    cases h
    have := dropPrefix?_length heq
    omega
  · next operations after _ heq =>
    cases h
    have := call?_length heq
    omega
  · have := loop?_length h
    omega

/-- The instructions of a main function's body, up to what closes the function. -/
def body? (text : Bytes) : Option (List Instruction) :=
  match _h : instruction? text with
  | some (i, rest) => (body? rest).map (i :: ·)
  | none => if text = foot then some [] else none
termination_by text.length
decreasing_by exact instruction?_length _h

/-- The number of cells and the instructions of a generated program. -/
def decode (text : Bytes) : Option (Int × List Instruction) := do
  let (cells, text) ← numeral? (← text.dropPrefix? head)
  let is ← body? (← text.dropPrefix? middle)
  return (cells, is)

end CodeText

/-! ### Instructions as text -/

namespace Instruction

def operations : Instruction → Bytes
  | .perform operations => operations
  | .loop _ operations => operations
  | .write => []

/-- The text of an instruction in the body of the main function. -/
def block (i : Instruction) : Bytes := Bytes.unlines (i.lines.map (indentation ++ ·))

theorem block_write : block .write = CodeText.write := by decide

theorem block_perform (operations : Bytes) :
    block (.perform operations) = CodeText.callHead ++ (operations ++ CodeText.callFoot) := by
  simp only [block, lines, executeCall, CodeText.callHead, CodeText.callFoot, List.map_cons,
    List.map_nil, Bytes.unlines, List.flatMap_cons, List.flatMap_nil, List.append_assoc,
    List.append_nil]

/-- A loop has the text of the instruction that it repeats inside its own. -/
theorem block_loop (count : Nat) (operations : Bytes) :
    block (.loop count operations) =
      CodeText.loopHead ++ (Decimal.ofNat count ++
        (CodeText.loopOpening ++ (block (.perform operations) ++ CodeText.loopClosing))) := by
  simp only [block, lines, loopHead, CodeText.loopHead, CodeText.loopOpening, CodeText.loopClosing,
    List.map_cons, List.map_nil, Bytes.unlines, List.flatMap_cons, List.flatMap_nil,
    List.append_assoc, List.append_nil, List.cons_append, List.nil_append]

end Instruction

theorem Generator.body_eq (is : List Instruction) :
    Bytes.unlines ((bodyLines is).map (Instruction.indentation ++ ·)) =
      is.flatMap Instruction.block := by
  induction is with
  | nil => rfl
  | cons i is ih =>
    simp only [bodyLines, Bytes.unlines, List.flatMap_cons, List.map_append,
      List.flatMap_append] at ih ⊢
    rw [ih]
    rfl

/-- The layout of the code that `CodeText.decode` relies on. -/
theorem Generator.text_eq (cells : Int) (is : List Instruction) :
    (Generator.mk cells).text is =
      CodeText.head ++
        (Decimal.ofInt cells ++
          (CodeText.middle ++ (is.flatMap Instruction.block ++ CodeText.foot))) := by
  rw [text, body_eq]
  simp only [preamble, Runtime.preamble, Runtime.sizes, CodeText.head, CodeText.middle,
    CodeText.foot]
  simp only [Bytes.unlines, List.flatMap_cons, List.flatMap_nil, List.append_assoc, List.append_nil,
    List.cons_append, List.nil_append]

/-! ### What is read is what was written -/

namespace CodeText

theorem takeWhile_dropWhile_append {p : UInt8 → Bool} {run rest : Bytes}
    (hrun : ∀ b ∈ run, p b = true) (hrest : ∀ b, rest.head? = some b → p b = false) :
    (run ++ rest).takeWhile p = run ∧ (run ++ rest).dropWhile p = rest := by
  rw [List.takeWhile_append_of_pos hrun, List.dropWhile_append_of_pos hrun]
  cases rest with
  | nil => simp
  | cons b rest =>
    have hb : p b = false := hrest b rfl
    simp [hb]

theorem numeral?_ofNat (n : Nat) {rest : Bytes} (hrest : EndsBefore .number rest) :
    numeral? (Decimal.ofNat n ++ rest) = some (n, rest) := by
  have hrun := Decimal.isRun_ofNat n
  obtain ⟨htake, hdrop⟩ := takeWhile_dropWhile_append hrun.all hrest
  rw [numeral?, htake, hdrop, Decimal.toNat?_of_isRun hrun, Decimal.value_ofNat]
  rfl

theorem callFoot_eq : callFoot = quote :: bytes ");\n" := by decide

theorem call?_block {operations : Bytes} (hoperations : ∀ b ∈ operations, isOperatorByte b = true)
    (rest : Bytes) :
    call? (Instruction.block (.perform operations) ++ rest) = some (operations, rest) := by
  have hrest : ∀ b, (callFoot ++ rest).head? = some b → isOperatorByte b = false := by
    intro b hb
    rw [callFoot_eq] at hb
    obtain rfl : quote = b := by simpa using hb
    decide
  obtain ⟨htake, hdrop⟩ := takeWhile_dropWhile_append hoperations hrest
  rw [Instruction.block_perform, List.append_assoc, List.append_assoc, call?, dropPrefix?_append]
  simp only [Option.bind_eq_bind, Option.bind_some, htake, hdrop, dropPrefix?_append]
  rfl

theorem loop?_block (count : Nat) {operations : Bytes}
    (hoperations : ∀ b ∈ operations, isOperatorByte b = true) (rest : Bytes) :
    loop? (Instruction.block (.loop count operations) ++ rest) =
      some (.loop count operations, rest) := by
  have hopening : ∀ text, EndsBefore .number (loopOpening ++ text) := by
    have hhead : loopOpening = byte 'u' :: loopOpening.tail := by decide
    intro text
    rw [hhead, List.cons_append]
    exact endsBefore_cons (by decide) _
  rw [Instruction.block_loop]
  simp only [List.append_assoc]
  rw [loop?, dropPrefix?_append]
  simp only [Option.bind_eq_bind, Option.bind_some, numeral?_ofNat count (hopening _),
    dropPrefix?_append, call?_block hoperations]
  rfl

/-- The fifth byte of an instruction's text tells which instruction it is. -/
theorem instruction?_block {i : Instruction} (hi : ∀ b ∈ i.operations, isOperatorByte b = true)
    (rest : Bytes) :
    instruction? (i.block ++ rest) = some (i, rest) := by
  unfold instruction?
  cases i with
  | write =>
    rw [Instruction.block_write, dropPrefix?_append]
  | perform operations =>
    have hwrite : (Instruction.block (.perform operations) ++ rest).dropPrefix? write = none := by
      rw [Instruction.block_perform, List.append_assoc]
      exact dropPrefix?_append_eq_none 4 (by decide) (by decide) (by decide) _
    have hcall : call? (Instruction.block (.perform operations) ++ rest) =
      some (operations, rest) :=
      call?_block hi rest
    rw [hwrite, hcall]
  | loop count operations =>
    have hwrite :
        (Instruction.block (.loop count operations) ++ rest).dropPrefix? write = none := by
      rw [Instruction.block_loop, List.append_assoc]
      exact dropPrefix?_append_eq_none 4 (by decide) (by decide) (by decide) _
    have hcall : call? (Instruction.block (.loop count operations) ++ rest) = none := by
      rw [Instruction.block_loop, List.append_assoc, call?,
        dropPrefix?_append_eq_none 4 (by decide) (by decide) (by decide)]
      rfl
    rw [hwrite, hcall]
    exact loop?_block count hi rest

theorem body?_of_instruction? {text rest : Bytes} {i : Instruction}
    (h : instruction? text = some (i, rest)) :
    body? text = (body? rest).map (i :: ·) := by
  rw [body?]
  split <;> simp_all

theorem body?_foot : body? foot = some [] := by
  have hfoot : instruction? foot = none := by decide
  rw [body?]
  split
  · simp_all
  · rfl

theorem body?_append_foot {is : List Instruction}
    (his : ∀ i ∈ is, ∀ b ∈ i.operations, isOperatorByte b = true) :
    body? (is.flatMap Instruction.block ++ foot) = some is := by
  induction is with
  | nil => exact body?_foot
  | cons i is ih =>
    have htail := ih fun j hj => his j (List.mem_cons_of_mem i hj)
    rw [List.flatMap_cons, List.append_assoc,
      body?_of_instruction? (instruction?_block (his i List.mem_cons_self) _), htail]
    rfl

theorem decode_eq_some {text text₁ text₂ text₃ : Bytes} {cells : Nat} {is : List Instruction}
    (hhead : text.dropPrefix? head = some text₁) (hcells : numeral? text₁ = some (cells, text₂))
    (hmiddle : text₂.dropPrefix? middle = some text₃) (his : body? text₃ = some is) :
    decode text = some ((cells : Int), is) := by
  simp [decode, hhead, hcells, hmiddle, his]

/-- **Generated code is read back**, whatever the instructions, as long as their operations are
operations. -/
theorem decode_text (cells : Nat) {is : List Instruction}
    (his : ∀ i ∈ is, ∀ b ∈ i.operations, isOperatorByte b = true) :
    decode ((Generator.mk cells).text is) = some ((cells : Int), is) := by
  have hmiddle : ∀ text, EndsBefore .number (middle ++ text) := by
    intro text
    rw [middle, List.cons_append]
    exact endsBefore_cons (by decide) _
  rw [Generator.text_eq, Decimal.ofInt_natCast]
  exact decode_eq_some (dropPrefix?_append _ _) (numeral?_ofNat cells (hmiddle _))
    (dropPrefix?_append _ _)
    (body?_append_foot his)

end CodeText

/-! ### Quoted strings -/

/-- The strings between quotation marks from some point of a text on, given what was read of the
string that is open there, if any.  A string that is never closed goes on to the end of the text. -/
def quotedFrom : Option Bytes → Bytes → List Bytes
  | none, [] => []
  | some string, [] => [string]
  | none, b :: rest => if b = quote then quotedFrom (some []) rest else quotedFrom none rest
  | some string, b :: rest =>
    if b = quote then string :: quotedFrom none rest else quotedFrom (some (string ++ [b])) rest

def quotedStrings (text : Bytes) : List Bytes := quotedFrom none text

theorem quotedStrings_append {text : Bytes} (h : quote ∉ text) (rest : Bytes) :
    quotedStrings (text ++ rest) = quotedStrings rest := by
  induction text with
  | nil => rfl
  | cons b text ih =>
    rw [List.mem_cons, not_or] at h
    rw [quotedStrings, List.cons_append, quotedFrom, if_neg (Ne.symm h.1)]
    exact ih h.2

theorem quotedFrom_some_append {text : Bytes} (h : quote ∉ text) (string rest : Bytes) :
    quotedFrom (some string) (text ++ quote :: rest) = (string ++ text) :: quotedStrings rest := by
  induction text generalizing string with
  | nil =>
    rw [List.nil_append, quotedFrom, if_pos rfl, List.append_nil, quotedStrings]
  | cons b text ih =>
    rw [List.mem_cons, not_or] at h
    rw [List.cons_append, quotedFrom, if_neg (Ne.symm h.1), ih h.2, List.append_assoc,
      List.singleton_append]

theorem quotedStrings_perform {operations : Bytes}
    (hoperations : ∀ b ∈ operations, isOperatorByte b = true) (rest : Bytes) :
    quotedStrings (Instruction.block (.perform operations) ++ rest) =
      operations :: quotedStrings rest := by
  have hhead : CodeText.callHead = bytes "    execute(&buffer, " ++ [quote] := by decide
  have hquote : quote ∉ operations := not_mem_of_forall hoperations (by decide)
  rw [Instruction.block_perform, hhead, CodeText.callFoot_eq]
  simp only [List.append_assoc, List.cons_append, List.nil_append]
  rw [quotedStrings_append (by decide), quotedStrings, quotedFrom, if_pos rfl,
    quotedFrom_some_append hquote, quotedStrings_append (by decide), List.nil_append]

theorem quotedStrings_block {i : Instruction} (hi : ∀ b ∈ i.operations, isOperatorByte b = true)
    (rest : Bytes) :
    quotedStrings (i.block ++ rest) =
      (if i = .write then [] else [i.operations]) ++ quotedStrings rest := by
  cases i with
  | write =>
    rw [Instruction.block_write, quotedStrings_append (by decide)]
    rfl
  | perform operations => exact quotedStrings_perform hi rest
  | loop count operations =>
    have hoperations : ∀ b ∈ operations, isOperatorByte b = true := hi
    have hcount : quote ∉ Decimal.ofNat count :=
      not_mem_of_forall (Decimal.isRun_ofNat count).all (by decide)
    rw [Instruction.block_loop]
    simp only [List.append_assoc]
    rw [quotedStrings_append (by decide), quotedStrings_append hcount,
      quotedStrings_append (by decide), quotedStrings_perform hoperations,
      quotedStrings_append (by decide)]
    rfl

/-- **Nothing but operations stands between quotation marks** in the body of a main function. -/
theorem quotedStrings_blocks {is : List Instruction}
    (his : ∀ i ∈ is, ∀ b ∈ i.operations, isOperatorByte b = true) :
    ∀ string ∈ quotedStrings (is.flatMap Instruction.block), ∀ b ∈ string,
      isOperatorByte b = true := by
  induction is with
  | nil => simp [quotedStrings, quotedFrom]
  | cons i is ih =>
    have hi := his i List.mem_cons_self
    have htail := ih fun j hj => his j (List.mem_cons_of_mem i hj)
    rw [List.flatMap_cons, quotedStrings_block hi]
    intro string hstring
    rcases List.mem_append.mp hstring with hstring | hstring
    · have hoperations : string = i.operations := by
        split at hstring
        · cases hstring
        · exact List.mem_singleton.mp hstring
      rw [hoperations]
      exact hi
    · exact htail string hstring

/-! ### The code of a source -/

/-- Only operations get into a program's instructions. -/
theorem ProgramText.operations_all {is : List Instruction} {text : Bytes}
    (h : ProgramText is text) :
    ∀ i ∈ is, ∀ b ∈ i.operations, isOperatorByte b = true := by
  induction h with
  | nil _ => simp
  | cons _ hstatement _ ih =>
    intro i hi
    rcases List.mem_cons.mp hi with rfl | hi
    · cases hstatement with
      | write _ => simp [Instruction.operations]
      | perform _ hoperations _ => exact hoperations.all
      | loop _ _ _ _ hoperations _ => exact hoperations.all
    · exact ih i hi

/-- The number of cells for a size that was asked for: the size itself if there is room for any
cell, or else the default. -/
def effectiveSize (size : Int) : Int := if 0 < size then size else 512

theorem Generator.new_singleton (size : Int) : Generator.new [size] = ⟨effectiveSize size⟩ := by
  simp only [Generator.new, List.foldl_cons, List.foldl_nil, Generator.withSize, effectiveSize]
  split <;> rfl

theorem decode_text_of_programText {is : List Instruction} {text : Bytes} (h : ProgramText is text)
    (size : Int) :
    CodeText.decode ((Generator.new [size]).text is) = some (effectiveSize size, is) := by
  have hpos : 0 < effectiveSize size := by
    unfold effectiveSize
    split <;> omega
  obtain ⟨cells, hcells⟩ := Int.eq_ofNat_of_zero_le (Int.le_of_lt hpos)
  rw [Generator.new_singleton, hcells]
  exact CodeText.decode_text cells h.operations_all

/-- A source compiles to the code of every reading of it. -/
theorem code_of_programText {rule : KeywordRule} {size : Int} {source : Bytes} {r : Compilation}
    {is : List Instruction} (hr : compile rule size source = .ok r) (h : ProgramText is source) :
    r.code = (Generator.new [size]).text is := by
  obtain ⟨r', hr', hcode⟩ := compile_eq_ok_iff_programText.mpr ⟨is, h, rfl⟩
  rw [hr] at hr'
  cases hr'
  exact hcode

/-- A text is read in one way only, for its code can be read back. -/
theorem ProgramText.unique {is is' : List Instruction} {text : Bytes} (h : ProgramText is text)
    (h' : ProgramText is' text) : is = is' := by
  have hcompiles : ∃ r, compile .exact 0 text = .ok r ∧ r.code = (Generator.new [0]).text is :=
    compile_eq_ok_iff_programText.mpr ⟨is, h, rfl⟩
  obtain ⟨r, hr, hcode⟩ := hcompiles
  have hcode' := code_of_programText hr h'
  have hdecode := decode_text_of_programText h 0
  rw [← hcode, hcode', decode_text_of_programText h'] at hdecode
  exact (congrArg Prod.snd (Option.some.inj hdecode)).symm

/-- **The code is a faithful encoding of the program.**  The code of every source that compiles can
be read back to the number of cells and the instructions of the source, and holds no quoted text but
operations.  So two sources have the same code exactly if they have the same instructions for the
same number of cells. -/
theorem code_encodes_instructions (c : Compiler) (source : Bytes) (w : Workspace) (r : Compilation)
    (h : (c.run source w).1 = .ok r) :
    (∃ is body, ProgramText is source ∧
      CodeText.decode r.code = some (effectiveSize c.bufferSize, is) ∧
      r.code = (Generator.new [c.bufferSize]).preamble ++
        Bytes.unlines Generator.mainHead ++ body ++ Bytes.unlines Generator.mainFoot ∧
      ∀ string ∈ quotedStrings body, ∀ b ∈ string, isOperatorByte b = true) ∧
    ∀ (c' : Compiler) (source' : Bytes) (w' : Workspace) (r' : Compilation)
      (is is' : List Instruction), (c'.run source' w').1 = .ok r' → ProgramText is source →
      ProgramText is' source' →
      (r.code = r'.code ↔ effectiveSize c.bufferSize = effectiveSize c'.bufferSize ∧ is = is') := by
  rw [c.run_fst] at h
  constructor
  · obtain ⟨is, htext, hcode⟩ := compile_eq_ok_iff_programText.mp ⟨r, h, rfl⟩
    refine ⟨is, is.flatMap Instruction.block, htext, ?_, ?_,
      quotedStrings_blocks htext.operations_all⟩
    · rw [hcode, decode_text_of_programText htext]
    · rw [hcode, Generator.text, Generator.body_eq]
  · intro c' source' w' r' is is' h' htext htext'
    rw [c'.run_fst] at h'
    rw [code_of_programText h htext, code_of_programText h' htext']
    constructor
    · intro hcode
      have hdecode := decode_text_of_programText htext c.bufferSize
      rw [hcode, decode_text_of_programText htext', Option.some.injEq, Prod.mk.injEq] at hdecode
      exact ⟨hdecode.1.symm, hdecode.2.symm⟩
    · rintro ⟨hsize, rfl⟩
      rw [Generator.new_singleton, Generator.new_singleton, hsize]

/-- Leading zeros, a line break and a size without room for a cell do not show in the code. -/
theorem code_encodes_instructions_loop_write :
    ∃ r r', (({ rule := .exact, bufferSize := -1 } : Compiler).run
      (bytes "for 007+.;write;") {}).1 = .ok r ∧
      (({} : Compiler).run (bytes "for\n7+.;write;") {}).1 = .ok r' ∧
      CodeText.decode r.code = some (512, [.loop 7 (bytes "+."), .write]) ∧ r.code = r'.code := by
  have hwrite : ProgramText [.write] ([] ++ (Keyword.write ++ [] ++ [terminator]) ++ []) :=
    .cons isGap_nil (.write isGap_nil) (.nil isGap_nil)
  have htext : ProgramText [.loop (Decimal.value (bytes "007")) (bytes "+."), .write]
      (bytes "for 007+.;write;") := by
    have hsource : bytes "for 007+.;write;" = [] ++
      (Keyword.loop ++ bytes " " ++ bytes "007" ++ [] ++ bytes "+." ++
        [] ++ [terminator]) ++ ([] ++ (Keyword.write ++ [] ++ [terminator]) ++ []) := by decide
    rw [hsource]
    exact .cons isGap_nil
      (.loop (by decide) (by decide) (by decide) isGap_nil (by decide) isGap_nil) hwrite
  have htext' :
      ProgramText [.loop (Decimal.value (bytes "7")) (bytes "+."), .write]
        (bytes "for\n7+.;write;") := by
    have hsource : bytes "for\n7+.;write;" = [] ++
      (Keyword.loop ++ bytes "\n" ++ bytes "7" ++ [] ++ bytes "+." ++
        [] ++ [terminator]) ++ ([] ++ (Keyword.write ++ [] ++ [terminator]) ++ []) := by decide
    rw [hsource]
    exact .cons isGap_nil
      (.loop (by decide) (by decide) (by decide) isGap_nil (by decide) isGap_nil) hwrite
  obtain ⟨r, hr⟩ := htext.exists_run { rule := .exact, bufferSize := -1 } {}
  obtain ⟨r', hr'⟩ := htext'.exists_run {} {}
  obtain ⟨⟨is, body, his, hdecode, -⟩, hsame⟩ := code_encodes_instructions _ _ _ r hr
  obtain ⟨-, rfl⟩ := (hsame _ _ _ r _ _ hr his htext).mp rfl
  exact ⟨r, r', hr, hr', hdecode, (hsame _ _ _ r' _ _ hr' htext htext').mpr (by decide)⟩

end BufferMachine
