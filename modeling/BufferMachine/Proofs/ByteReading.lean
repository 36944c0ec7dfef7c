import BufferMachine.Proofs.Grammar

/-!
# Scanning without decoding

`ByteReader` is a scanner that knows nothing of characters: it takes one byte after the other, keeps
the lexeme that it is in, and passes over a byte outside the ASCII range as it passes over a blank.
The scanner decodes its text, and yet the two agree on every text and from every place on, be it in
the middle of a character.

The proof takes a text apart into the pieces of `lexicalInduction`.  A lexeme is read by its first
byte, which tells the kind, and by the others, which go on with it (`ByteReader.read_lexeme`);
whether the lexeme is accepted is decided only when it is closed, so accepted and refused
identifiers are read alike.
-/

namespace BufferMachine

/-- A scanner of single bytes: how many bytes and line feeds it has read, and the lexeme that it is
in. -/
structure ByteReader where
  offset : Nat := 0
  newlines : Nat := 0
  lexeme : Option (TokenKind × Bytes) := none
deriving DecidableEq, Repr

namespace ByteReader

/-- The kind of lexeme that a byte begins; a byte outside the ASCII range begins none. -/
def kindOf (b : UInt8) : Option TokenKind :=
  if 0x80 ≤ b then none
  else if b = terminator then some .punctuation
  else if Decimal.isDigit b then some .number
  else if isWordByte b then some .keyword
  else if isOperatorByte b then some .operator
  else none

def goesOn (r : ByteReader) (b : UInt8) : Bool := r.lexeme.any fun (kind, _) => kind.continues b

def extend (r : ByteReader) (b : UInt8) : ByteReader :=
  { r with
    offset := r.offset + 1
    lexeme := r.lexeme.map fun (kind, lexeme) => (kind, lexeme ++ [b]) }

def start (r : ByteReader) (b : UInt8) : ByteReader :=
  ⟨r.offset + 1, r.newlines + if b = newline then 1 else 0, (kindOf b).map fun kind => (kind, [b])⟩

/-- The lexeme that has been read, as a token or as a refusal. -/
def close (rule : KeywordRule) (r : ByteReader) : Except Diagnostic (List Token) :=
  match r.lexeme with
  | none => .ok []
  | some (kind, lexeme) =>
    let place : Location := ⟨r.newlines + 1, r.offset - lexeme.length, r.offset⟩
    if kind = .keyword ∧ rule.accepts lexeme = false then .error (.lexical place lexeme)
    else .ok [⟨some kind, lexeme, place⟩]

/-- Reads a text to its end, or to the first identifier that is not accepted. -/
def read (rule : KeywordRule) (r : ByteReader) : Bytes → Except Diagnostic (List Token)
  | [] => r.close rule
  | b :: rest =>
    if r.goesOn b then read rule (r.extend b) rest
    else do
      let tokens ← r.close rule
      return tokens ++ (← read rule (r.start b) rest)

/-! ### The bytes of a lexeme -/

/-- The first byte of the word begins a lexeme of the kind, and the others go on with it. -/
def Begins (kind : TokenKind) (word : Bytes) : Prop :=
  ∃ b tail, word = b :: tail ∧ kindOf b = some kind ∧ ∀ c ∈ tail, kind.continues c = true

theorem not_le_of_isWordByte {b : UInt8} (h : isWordByte b = true) : ¬ 0x80 ≤ b := by
  intro hle
  have hlt : b.toNat < 0x80 := CharClass.isWord_lt h
  have hge : 0x80 ≤ b.toNat := hle
  omega

theorem not_le_of_isOperatorByte {b : UInt8} (h : isOperatorByte b = true) : ¬ 0x80 ≤ b := by
  intro hle
  have hlt : b.toNat < 0x80 := CharClass.isOperator_lt h
  have hge : 0x80 ≤ b.toNat := hle
  omega

theorem isGapByte_of_le {b : UInt8} (h : 0x80 ≤ b) : isGapByte b = true := by
  rw [isGapByte_iff]
  refine ⟨?_, ?_, ?_⟩
  · rw [← Bool.not_eq_true]
    exact fun hword => not_le_of_isWordByte hword h
  · rw [← Bool.not_eq_true]
    exact fun hoperator => not_le_of_isOperatorByte hoperator h
  · rintro rfl
    exact absurd h (by decide)

theorem kindOf_of_isGapByte {b : UInt8} (h : isGapByte b = true) : kindOf b = none := by
  obtain ⟨hword, hoperator, hterminator⟩ := isGapByte_iff.mp h
  have hdigit : Decimal.isDigit b = false := by
    rw [← Bool.not_eq_true]
    intro hdigit
    rw [isWordByte_of_isDigit hdigit] at hword
    cases hword
  simp [kindOf, hword, hoperator, hterminator, hdigit]

theorem begins_number {digits : Bytes} (h : IsRun Decimal.isDigit digits) :
    Begins .number digits := by
  obtain ⟨b, tail, rfl⟩ := List.exists_cons_of_ne_nil h.ne_nil
  have hb : Decimal.isDigit b = true := h.all b List.mem_cons_self
  have hascii := not_le_of_isWordByte (isWordByte_of_isDigit hb)
  have hterminator : b ≠ terminator := by
    rintro rfl
    cases hb
  refine ⟨b, tail, rfl, ?_, fun c hc => h.all c (List.mem_cons_of_mem b hc)⟩
  simp [kindOf, hascii, hterminator, hb]

theorem begins_identifier {word : Bytes} (h : IsIdentifier word) : Begins .keyword word := by
  obtain ⟨b, hhead, hdigit⟩ := h.head_not_digit
  obtain ⟨tail, rfl⟩ := List.head?_eq_some_iff.mp hhead
  have hb : isWordByte b = true := h.all_word b List.mem_cons_self
  have hterminator : b ≠ terminator := by
    rintro rfl
    cases hb
  refine ⟨b, tail, rfl, ?_, fun c hc => h.all_word c (List.mem_cons_of_mem b hc)⟩
  simp [kindOf, not_le_of_isWordByte hb, hterminator, hdigit, hb]

theorem begins_operator {operations : Bytes} (h : IsRun isOperatorByte operations) :
    Begins .operator operations := by
  obtain ⟨b, tail, rfl⟩ := List.exists_cons_of_ne_nil h.ne_nil
  have hb : isOperatorByte b = true := h.all b List.mem_cons_self
  have hterminator : b ≠ terminator := by
    rintro rfl
    cases hb
  refine ⟨b, tail, rfl, ?_, fun c hc => h.all c (List.mem_cons_of_mem b hc)⟩
  simp [kindOf, not_le_of_isOperatorByte hb, hterminator, not_isDigit_of_isOperatorByte hb,
    not_isWordByte_of_isOperatorByte hb, hb]

theorem begins_of_spelled {rule : KeywordRule} {kind : TokenKind} {lexeme : Bytes}
    (h : Spelled rule kind lexeme) :
    Begins kind lexeme := by
  cases h with
  | punctuation => exact ⟨terminator, [], rfl, by decide, by simp⟩
  | number run => exact begins_number run
  | keyword identifier _ => exact begins_identifier identifier
  | operator run => exact begins_operator run

/-! ### Reading the pieces of a text -/

section

variable (rule : KeywordRule)

theorem read_gap_cons {b : UInt8} (rest : Bytes) (offset newlines : Nat) (h : isGapByte b = true) :
    read rule ⟨offset, newlines, none⟩ (b :: rest) =
      read rule ⟨offset + 1, newlines + if b = newline then 1 else 0, none⟩ rest := by
  have hstart : start ⟨offset, newlines, none⟩ b =
      ⟨offset + 1, newlines + if b = newline then 1 else 0, none⟩ := by
    simp [start, kindOf_of_isGapByte h]
  rw [read, if_neg (by simp [goesOn]), hstart]
  exact congrFun Except.map_id _

theorem read_run (kind : TokenKind) {run : Bytes} (hrun : ∀ b ∈ run, kind.continues b = true)
    (rest lexeme : Bytes) (offset newlines : Nat) :
    read rule ⟨offset, newlines, some (kind, lexeme)⟩ (run ++ rest) =
      read rule ⟨offset + run.length, newlines, some (kind, lexeme ++ run)⟩ rest := by
  induction run generalizing offset lexeme with
  | nil => simp
  | cons b run ih =>
    have hb : goesOn ⟨offset, newlines, some (kind, lexeme)⟩ b = true := hrun b List.mem_cons_self
    have htail := ih (fun c hc => hrun c (List.mem_cons_of_mem b hc)) (lexeme ++ [b]) (offset + 1)
    rw [List.cons_append, read, if_pos hb]
    simpa [extend, Nat.add_assoc, Nat.add_comm 1] using htail

/-- A lexeme that does not go on is closed, and reading starts anew behind it. -/
theorem read_closed {kind : TokenKind} {rest : Bytes} (hend : EndsBefore kind rest) (lexeme : Bytes)
    (offset newlines : Nat) :
    read rule ⟨offset, newlines, some (kind, lexeme)⟩ rest =
      close rule ⟨offset, newlines, some (kind, lexeme)⟩ >>= fun tokens =>
        (read rule ⟨offset, newlines, none⟩ rest).map (tokens ++ ·) := by
  cases rest with
  | nil =>
    rw [read, read]
    cases close rule ⟨offset, newlines, some (kind, lexeme)⟩ with
    | error e => rfl
    | ok tokens => exact congrArg Except.ok (List.append_nil tokens).symm
  | cons b rest =>
    have hb : goesOn ⟨offset, newlines, some (kind, lexeme)⟩ b = false := hend b rfl
    rw [read, if_neg (by simp [hb]), read, if_neg (by simp [goesOn])]
    cases close rule ⟨offset, newlines, some (kind, lexeme)⟩ with
    | error e => rfl
    | ok tokens =>
      change Except.map _ _ = Except.map _ (Except.map _ _)
      rw [Outcome.map_map]
      rfl

theorem read_lexeme {kind : TokenKind} {word rest : Bytes} (hword : Begins kind word)
    (hnewline : word.count newline = 0) (hend : EndsBefore kind rest) (offset newlines : Nat) :
    read rule ⟨offset, newlines, none⟩ (word ++ rest) =
      close rule ⟨offset + word.length, newlines, some (kind, word)⟩ >>= fun tokens =>
        (read rule ⟨offset + word.length, newlines, none⟩ rest).map (tokens ++ ·) := by
  obtain ⟨b, tail, rfl, hkind, htail⟩ := hword
  have hb : b ≠ newline := by
    rintro rfl
    simp at hnewline
  have hstart : start ⟨offset, newlines, none⟩ b = ⟨offset + 1, newlines, some (kind, [b])⟩ := by
    simp [start, hkind, hb]
  have hrun := read_run rule kind htail rest [b] (offset + 1) newlines
  rw [List.cons_append, read, if_neg (by simp [goesOn]), hstart, hrun, read_closed rule hend,
    List.length_cons, List.singleton_append, Nat.add_assoc, Nat.add_comm 1]
  exact congrFun Except.map_id _

end

/-- **The scanner reads single bytes.**  Decoding leaves no trace in the tokens, their places or the
complaint. -/
theorem scan_eq_read (rule : KeywordRule) (text : Bytes) (offset newlines : Nat) :
    (Cursor.scan rule ⟨text, offset, newlines⟩).result =
      read rule ⟨offset, newlines, none⟩ text := by
  induction text using lexicalInduction rule generalizing offset newlines with
  | nil =>
    rw [Cursor.scan_nil]
    rfl
  | gap b rest hgap ih =>
    rw [Cursor.scan_gap_cons rule rest offset newlines hgap,
      read_gap_cons rule rest offset newlines hgap]
    exact ih _ _
  | lexeme kind lexeme rest hspelled hend ih =>
    have hclose : close rule ⟨offset + lexeme.length, newlines, some (kind, lexeme)⟩ =
        .ok [Cursor.lexemeAt offset newlines kind lexeme] := by
      have haccepted : ¬ (kind = .keyword ∧ rule.accepts lexeme = false) := by
        rintro ⟨rfl, hrefused⟩
        cases hspelled with
        | keyword _ accepted => simp [accepted] at hrefused
      simp [close, haccepted, Cursor.lexemeAt]
    rw [Cursor.scan_spelled offset newlines hspelled hend, Cursor.Scanned.result_cons, ih,
      read_lexeme rule (begins_of_spelled hspelled) hspelled.count_newline hend, hclose]
    rfl
  | refused word rest hrefused hend =>
    have hclose : close rule ⟨offset + word.length, newlines, some (.keyword, word)⟩ =
        .error (.lexical ⟨newlines + 1, offset, offset + word.length⟩ word) := by
      simp [close, hrefused.not_accepted]
    rw [Cursor.scan_refused offset newlines hrefused hend,
      read_lexeme rule
        (begins_identifier hrefused.identifier) hrefused.identifier.count_newline hend, hclose]
    rfl

/-! ### Bytes outside the ASCII range -/

/-- The byte is kept, or it lies outside the ASCII range and is overwritten. -/
def Blotted (b c : UInt8) : Prop := c = b ∨ (0x80 ≤ b ∧ c = byte '#')

instance : DecidableRel Blotted :=
  fun b c => inferInstanceAs (Decidable (c = b ∨ (0x80 ≤ b ∧ c = byte '#')))

theorem goesOn_of_isGapByte (r : ByteReader) {b : UInt8} (h : isGapByte b = true) :
    r.goesOn b = false := by
  rcases r with ⟨offset, newlines, _ | ⟨kind, lexeme⟩⟩
  · rfl
  · exact continues_of_isGapByte kind h

/-- To a reader of single bytes all bytes outside the ASCII range are the same. -/
theorem read_blotted (rule : KeywordRule) {text blotted : Bytes}
    (h : List.Forall₂ Blotted text blotted) (r : ByteReader) :
    read rule r blotted = read rule r text := by
  induction h generalizing r with
  | nil => rfl
  | @cons b c rest rest' hblot _ ih =>
    rcases hblot with rfl | ⟨hhigh, rfl⟩
    · rw [read, read, ih, ih]
    · have hgap : isGapByte b = true := isGapByte_of_le hhigh
      have hmark : isGapByte (byte '#') = true := by decide
      have hnewline : b ≠ newline := by
        rintro rfl
        exact absurd hhigh (by decide)
      have hstart : r.start (byte '#') = r.start b := by
        have hmarkNewline : byte '#' ≠ newline := by decide
        simp [start, kindOf_of_isGapByte hgap, kindOf_of_isGapByte hmark, hnewline, hmarkNewline]
      rw [read, read, goesOn_of_isGapByte r hmark, goesOn_of_isGapByte r hgap, hstart,
        ih (r.start b)]
      rfl

end ByteReader

/-- A scanner that stands inside its text takes the tokens that are left. -/
theorem Scanner.scan_of_inside (s : Scanner) (hpos : 0 ≤ s.pos ∧ s.pos ≤ s.input.length) :
    ∃ after, s.scan =
      .ok (ByteReader.read s.rule ⟨s.pos.toNat, s.newlines, none⟩ (s.input.drop s.pos.toNat),
        after) := by
  rw [← ByteReader.scan_eq_read]
  simp only [Scanner.scan, Scanner.cursor, if_pos hpos, bind, Except.bind]
  cases (Cursor.scan s.rule ⟨s.input.drop s.pos.toNat, s.pos.toNat, s.newlines⟩).result with
  | error d => exact ⟨_, rfl⟩
  | ok tokens => exact ⟨_, rfl⟩

/-- **Scanning knows no encoding.**  From every place of every text the scanner comes to the tokens
or the complaint, with the same places, that a reader of single bytes comes to; and overwriting any
of the bytes outside the ASCII range changes nothing of what it comes to. -/
theorem scanner_reads_single_bytes (s : Scanner) (hpos : 0 ≤ s.pos ∧ s.pos ≤ s.input.length) :
    (∃ after, s.scan =
      .ok (ByteReader.read s.rule { offset := s.pos.toNat, newlines := s.newlines }
        (s.input.drop s.pos.toNat), after)) ∧
    ∀ blotted, List.Forall₂ ByteReader.Blotted s.input blotted →
      ∃ result after after', s.scan = .ok (result, after) ∧
        { s with input := blotted }.scan = .ok (result, after') := by
  obtain ⟨after, hscan⟩ := s.scan_of_inside hpos
  refine ⟨⟨after, hscan⟩, ?_⟩
  intro blotted hblotted
  have hpos' : 0 ≤ s.pos ∧ s.pos ≤ blotted.length := hblotted.length_eq ▸ hpos
  obtain ⟨after', hscan'⟩ := { s with input := blotted }.scan_of_inside hpos'
  rw [ByteReader.read_blotted s.rule (List.forall₂_drop s.pos.toNat hblotted)] at hscan'
  exact ⟨_, after, after', hscan, hscan'⟩

/-- The scan starts inside a character that is cut short; an overlong and a stray byte follow, and
the unknown word in the second line is found where it stands. -/
theorem scanner_reads_single_bytes_cut_character :
    let source := bytes "do" ++ [0xE2, 0x82] ++ bytes "+\n" ++ [0xC0, 0xAF, 0xFF] ++ bytes "3x;"
    (0 ≤ ({ input := source, pos := 3 } : Scanner).pos ∧ (3 : Int) ≤ source.length) ∧
    (∃ after, ({ input := source, pos := 3 } : Scanner).scan =
      .ok (.error (.lexical ⟨2, 10, 11⟩ (bytes "x")), after)) ∧
    ∃ after, ({ input := bytes "do##+\n###3x;", pos := 3 } : Scanner).scan =
      .ok (.error (.lexical ⟨2, 10, 11⟩ (bytes "x")), after) := by
  intro source
  have hpos : 0 ≤ ({ input := source, pos := 3 } : Scanner).pos ∧
    (3 : Int) ≤ source.length := by decide
  have hread : ByteReader.read .substring { offset := 3, newlines := 0 } (source.drop 3) =
      .error (.lexical ⟨2, 10, 11⟩ (bytes "x")) := by decide
  have hblotted : List.Forall₂ ByteReader.Blotted source (bytes "do##+\n###3x;") := by decide
  obtain ⟨⟨after, hscan⟩, hblot⟩ := scanner_reads_single_bytes { input := source, pos := 3 } hpos
  have hresult := hscan.trans (congrArg (fun result => Except.ok (result, after)) hread)
  obtain ⟨result, first, second, hfirst, hsecond⟩ := hblot _ hblotted
  obtain ⟨rfl, -⟩ := Prod.mk.inj (Except.ok.inj (hfirst.symm.trans hresult))
  exact ⟨hpos, ⟨after, hresult⟩, second, hsecond⟩

end BufferMachine
