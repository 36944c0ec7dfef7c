import BufferMachine.Proofs.Decoding
import BufferMachine.Proofs.Outcome
import BufferMachine.Token.Scanner

/-!
# The scanner as a reader of bytes

The scanner decodes its text, yet it can be understood byte by byte: every lexeme is made of ASCII
bytes, and what lies outside the ASCII range is skipped, however it decodes.  This file gives the
classes of bytes, says how the lexemes of each kind are spelled, and derives three equations of
`Cursor.scan`: a gap is passed over, a spelled lexeme becomes a token, and a refused identifier ends
the scan.  Every text is a sequence of such pieces, which is the induction principle
`lexicalInduction`; everything about scanning is proved with it and the three equations.
-/

namespace BufferMachine

/-! ### Classes of bytes -/

/-- The byte that ends a statement. -/
def terminator : UInt8 := byte ';'

/-- The bytes of identifiers: ASCII letters, digits and the underscore. -/
def isWordByte (b : UInt8) : Bool := CharClass.isWord b.toNat

/-- The bytes of the six machine operations. -/
def isOperatorByte (b : UInt8) : Bool := CharClass.isOperator b.toNat

/-- The bytes between lexemes: all that no lexeme is made of, among them every byte outside the
ASCII range. -/
def isGapByte (b : UInt8) : Bool := !isWordByte b && !isOperatorByte b && b != terminator

/-- A gap between lexemes, which may be empty. -/
def IsGap (text : Bytes) : Prop := ∀ b ∈ text, isGapByte b = true

instance (text : Bytes) : Decidable (IsGap text) :=
  decidable_of_iff (text.all isGapByte = true) List.all_eq_true

@[simp] theorem isGap_nil : IsGap [] := by simp [IsGap]

@[simp] theorem isGap_cons {b : UInt8} {text : Bytes} :
    IsGap (b :: text) ↔ isGapByte b = true ∧ IsGap text := by
  simp [IsGap]

namespace CharClass

theorem isWord_lt {code : Nat} (h : isWord code = true) : code < 0x80 := by
  simp only [isWord, isDigit, Bool.or_eq_true, Bool.and_eq_true, decide_eq_true_eq, beq_iff_eq] at h
  omega

theorem isOperator_lt {code : Nat} (h : isOperator code = true) : code < 0x80 := by
  simp only [isOperator, Bool.or_eq_true, beq_iff_eq] at h
  omega

theorem isWord_of_isDigit {code : Nat} (h : isDigit code = true) : isWord code = true := by
  simp [isWord, h]

theorem isOperator_of_isWord {code : Nat} (h : isWord code = true) : isOperator code = false := by
  grind [isWord, isDigit, isOperator]

theorem isBlank_of_visible {code : Nat} (hlow : 0x20 < code) (hhigh : code < 0x80) :
    Text.isBlank code = false := by
  simp only [Text.isBlank, Bool.or_eq_false_iff, Bool.and_eq_false_iff, decide_eq_false_iff_not,
    beq_eq_false_iff_ne]
  omega

theorem ofCode_of_isDigit {code : Nat} (h : isDigit code = true) : ofCode code = .digit := by
  have hlow : 0x20 < code := by grind [isDigit]
  grind [ofCode, isDigit, isBlank_of_visible]

theorem ofCode_of_isWord {code : Nat} (h : isWord code = true) (hdigit : isDigit code = false) :
    ofCode code = .word := by
  have hlow : 0x20 < code := by grind [isWord, isDigit]
  have hblank := isBlank_of_visible hlow (isWord_lt h)
  have hterminator : code ≠ 59 := by grind [isWord, isDigit]
  simp [ofCode, hblank, hterminator, hdigit, h]

theorem ofCode_of_isOperator {code : Nat} (h : isOperator code = true) :
    ofCode code = .operator := by
  simp only [isOperator, Bool.or_eq_true, beq_iff_eq] at h
  rcases h with ((((rfl | rfl) | rfl) | rfl) | rfl) | rfl <;> rfl

/-- What no lexeme is made of is blank or has no class of its own. -/
theorem ofCode_of_meaningless {code : Nat} (hword : isWord code = false)
    (hoperator : isOperator code = false) (hterminator : code ≠ 59) :
    ofCode code = .blank ∨ (ofCode code = .other ∧ code ≠ 10) := by
  have hdigit : isDigit code = false := by
    cases h : isDigit code with
    | false => rfl
    | true => rw [isWord_of_isDigit h] at hword; cases hword
  by_cases hblank : Text.isBlank code = true
  · left
    simp [ofCode, hblank]
  · right
    refine ⟨by simp [ofCode, hblank, hterminator, hdigit, hword, hoperator], ?_⟩
    rintro rfl
    exact hblank (by decide)

end CharClass

theorem isWordByte_of_isDigit {b : UInt8} (h : Decimal.isDigit b = true) : isWordByte b = true :=
  CharClass.isWord_of_isDigit h

theorem isOperatorByte_of_isWordByte {b : UInt8} (h : isWordByte b = true) :
    isOperatorByte b = false :=
  CharClass.isOperator_of_isWord h

theorem isGapByte_iff {b : UInt8} :
    isGapByte b = true ↔ isWordByte b = false ∧ isOperatorByte b = false ∧ b ≠ terminator := by
  simp [isGapByte, and_assoc]

theorem not_mem_of_forall {p : UInt8 → Bool} {text : Bytes} {b : UInt8} (h : ∀ c ∈ text, p c = true)
    (hb : p b = false) : b ∉ text := by
  intro hmem
  exact absurd (h b hmem) (by simp [hb])

/-! ### How lexemes are spelled -/

/-- One or more bytes of a class. -/
structure IsRun (p : UInt8 → Bool) (text : Bytes) : Prop where
  ne_nil : text ≠ []
  all : ∀ b ∈ text, p b = true

instance (p : UInt8 → Bool) (text : Bytes) : Decidable (IsRun p text) :=
  decidable_of_iff (text.isEmpty = false ∧ text.all p = true)
    ⟨fun h => ⟨List.isEmpty_eq_false_iff.mp h.1, List.all_eq_true.mp h.2⟩,
      fun h => ⟨List.isEmpty_eq_false_iff.mpr h.ne_nil, List.all_eq_true.mpr h.all⟩⟩

/-- An identifier: word bytes, the first of which is no digit. -/
structure IsIdentifier (text : Bytes) : Prop where
  all_word : ∀ b ∈ text, isWordByte b = true
  head_not_digit : ∃ b, text.head? = some b ∧ Decimal.isDigit b = false

instance (text : Bytes) : Decidable (IsIdentifier text) :=
  decidable_of_iff
    (text.all isWordByte = true ∧ (text.head?.any fun b => !Decimal.isDigit b) = true)
    ⟨fun h => ⟨List.all_eq_true.mp h.1, by simpa [Option.any_eq_true] using h.2⟩,
      fun h =>
        ⟨List.all_eq_true.mpr h.all_word, by simpa [Option.any_eq_true] using h.head_not_digit⟩⟩

/-- The lexemes of each kind of token. -/
inductive Spelled (rule : KeywordRule) : TokenKind → Bytes → Prop where
  | punctuation : Spelled rule .punctuation [terminator]
  | number {digits : Bytes} (run : IsRun Decimal.isDigit digits) : Spelled rule .number digits
  | keyword {word : Bytes} (identifier : IsIdentifier word) (accepted : rule.accepts word = true) :
      Spelled rule .keyword word
  | operator {operations : Bytes} (run : IsRun isOperatorByte operations) :
    Spelled rule .operator operations

/-- An identifier that the rule does not take for a keyword. -/
structure Refused (rule : KeywordRule) (text : Bytes) : Prop where
  identifier : IsIdentifier text
  not_accepted : rule.accepts text = false

/-- Would the byte make a lexeme of the kind longer if it stood behind it? -/
def TokenKind.continues : TokenKind → UInt8 → Bool
  | .number, b => Decimal.isDigit b
  | .keyword, b => isWordByte b
  | .operator, b => isOperatorByte b
  | _, _ => false

/-- The text does not go on with a byte that would make a lexeme of the kind longer. -/
def EndsBefore (kind : TokenKind) (rest : Bytes) : Prop :=
  ∀ b, rest.head? = some b → kind.continues b = false

theorem IsIdentifier.ne_nil {text : Bytes} (h : IsIdentifier text) : text ≠ [] := by
  obtain ⟨b, hb, -⟩ := h.head_not_digit
  rintro rfl
  cases hb

theorem Spelled.ne_nil {rule : KeywordRule} {kind : TokenKind} {lexeme : Bytes}
    (h : Spelled rule kind lexeme) : lexeme ≠ [] := by
  cases h with
  | punctuation => simp
  | number run => exact run.ne_nil
  | keyword identifier _ => exact identifier.ne_nil
  | operator run => exact run.ne_nil

theorem Spelled.not_gap {rule : KeywordRule} {kind : TokenKind} {lexeme : Bytes}
    (h : Spelled rule kind lexeme) : ∀ b ∈ lexeme, isGapByte b = false := by
  intro b hb
  rw [← Bool.not_eq_true, isGapByte_iff]
  rintro ⟨hword, hoperator, hterminator⟩
  cases h with
  | punctuation => exact hterminator (List.mem_singleton.mp hb)
  | number run => exact absurd (isWordByte_of_isDigit (run.all b hb)) (by simp [hword])
  | keyword identifier _ => exact absurd (identifier.all_word b hb) (by simp [hword])
  | operator run => exact absurd (run.all b hb) (by simp [hoperator])

theorem IsIdentifier.not_gap {text : Bytes} (h : IsIdentifier text) :
    ∀ b ∈ text, isGapByte b = false := by
  intro b hb
  simp [isGapByte, h.all_word b hb]

theorem Spelled.count_newline {rule : KeywordRule} {kind : TokenKind} {lexeme : Bytes}
    (h : Spelled rule kind lexeme) : lexeme.count newline = 0 := by
  rw [List.count_eq_zero]
  intro hmem
  exact absurd (h.not_gap newline hmem) (by decide)

theorem IsIdentifier.count_newline {text : Bytes} (h : IsIdentifier text) :
    text.count newline = 0 := by
  rw [List.count_eq_zero]
  intro hmem
  exact absurd (h.not_gap newline hmem) (by decide)

/-! ### What stands at the head of a text -/

/-- A run of accepted bytes, all of them ASCII, is as wide as the bytes up to the first one not
accepted. -/
theorem runWidth_append (accept : Nat → Bool) (ascii : ∀ code, accept code = true → code < 0x80)
    {run rest : Bytes} (hrun : ∀ b ∈ run, accept b.toNat = true)
    (hrest : ∀ b, rest.head? = some b → accept b.toNat = false) :
    runWidth accept (run ++ rest) = run.length := by
  induction run with
  | nil =>
    cases rest with
    | nil => simp [runWidth]
    | cons b rest =>
      have hb : accept b.toNat = false := hrest b rfl
      rw [List.nil_append, runWidth]
      by_cases hascii : b < 0x80
      · simp [Utf8.decodeAt_ascii rest hascii, hb]
      · -- a code point outside the ASCII range is not accepted, whatever it is
        have hcode := (Utf8.decodeAt_outsideAscii rest hascii).code_ge
        have hreject : accept (Utf8.decodeAt b rest).code = false := by
          cases h : accept (Utf8.decodeAt b rest).code with
          | false => rfl
          | true => exact absurd (ascii _ h) (Nat.not_lt.mpr hcode)
        simp [hreject]
  | cons b run ih =>
    have hb : accept b.toNat = true := hrun b List.mem_cons_self
    have hascii : b < 0x80 := ascii _ hb
    have htail := ih fun c hc => hrun c (List.mem_cons_of_mem b hc)
    rw [List.cons_append, runWidth, Utf8.decodeAt_ascii _ hascii]
    simp only [hb, if_true, List.drop_succ_cons, List.drop_zero, htail, List.length_cons]
    omega

theorem step_cons (rule : KeywordRule) {b : UInt8} {rest : Bytes} {d : Utf8.Decoded}
    (hd : Utf8.decodeAt b rest = d) :
    step rule (b :: rest) =
      match CharClass.ofCode d.code with
      | .blank => .skip d.width (if d.code = 10 then 1 else 0)
      | .other => .skip d.width 0
      | .punctuation => .token .punctuation d.width
      | .digit => .token .number (runWidth CharClass.isDigit (b :: rest))
      | .word => identifierStep rule (b :: rest) (runWidth CharClass.isWord (b :: rest))
      | .operator => .token .operator (runWidth CharClass.isOperator (b :: rest)) := by
  subst hd
  rfl

theorem step_identifier {rule : KeywordRule} {word rest : Bytes} (h : IsIdentifier word)
    (hend : EndsBefore .keyword rest) :
    step rule (word ++ rest) = identifierStep rule (word ++ rest) word.length := by
  obtain ⟨b, hb, hdigit⟩ := h.head_not_digit
  obtain ⟨tail, rfl⟩ := List.head?_eq_some_iff.mp hb
  have hword : CharClass.isWord b.toNat = true := h.all_word b List.mem_cons_self
  have hwidth := runWidth_append CharClass.isWord (fun _ => CharClass.isWord_lt) h.all_word hend
  rw [List.cons_append] at hwidth ⊢
  rw [step_cons rule (Utf8.decodeAt_ascii _ (CharClass.isWord_lt hword))]
  simp only [CharClass.ofCode_of_isWord hword hdigit, hwidth]

theorem step_spelled {rule : KeywordRule} {kind : TokenKind} {lexeme rest : Bytes}
    (h : Spelled rule kind lexeme) (hend : EndsBefore kind rest) :
    step rule (lexeme ++ rest) = .token kind lexeme.length := by
  cases h with
  | punctuation => rfl
  | number run =>
    obtain ⟨b, tail, rfl⟩ := List.exists_cons_of_ne_nil run.ne_nil
    have hdigit : CharClass.isDigit b.toNat = true := run.all b List.mem_cons_self
    have hwidth := runWidth_append CharClass.isDigit
      (fun _ hd => CharClass.isWord_lt (CharClass.isWord_of_isDigit hd)) run.all hend
    rw [List.cons_append] at hwidth ⊢
    have hascii := CharClass.isWord_lt (CharClass.isWord_of_isDigit hdigit)
    rw [step_cons rule (Utf8.decodeAt_ascii _ hascii)]
    simp only [CharClass.ofCode_of_isDigit hdigit, hwidth]
  | keyword identifier accepted =>
    rw [step_identifier identifier hend, identifierStep, List.take_left, if_pos accepted]
  | operator run =>
    obtain ⟨b, tail, rfl⟩ := List.exists_cons_of_ne_nil run.ne_nil
    have hoperator : CharClass.isOperator b.toNat = true := run.all b List.mem_cons_self
    have hwidth :=
      runWidth_append CharClass.isOperator (fun _ => CharClass.isOperator_lt) run.all hend
    rw [List.cons_append] at hwidth ⊢
    rw [step_cons rule (Utf8.decodeAt_ascii _ (CharClass.isOperator_lt hoperator))]
    simp only [CharClass.ofCode_of_isOperator hoperator, hwidth]

theorem step_refused {rule : KeywordRule} {word rest : Bytes} (h : Refused rule word)
    (hend : EndsBefore .keyword rest) : step rule (word ++ rest) = .reject word.length := by
  rw [step_identifier h.identifier hend, identifierStep, List.take_left,
    if_neg (by simp [h.not_accepted])]

theorem step_meaningless (rule : KeywordRule) {b : UInt8} {rest : Bytes} {d : Utf8.Decoded}
    (hd : Utf8.decodeAt b rest = d) (hword : CharClass.isWord d.code = false)
    (hoperator : CharClass.isOperator d.code = false) (hterminator : d.code ≠ 59) :
    step rule (b :: rest) = .skip d.width (if d.code = 10 then 1 else 0) := by
  rw [step_cons rule hd]
  rcases CharClass.ofCode_of_meaningless hword hoperator hterminator with
    hblank | ⟨hother, hnewline⟩
  · simp only [hblank]
  · simp only [hother, hnewline, if_false]

theorem step_gap_ascii (rule : KeywordRule) {b : UInt8} (rest : Bytes) (h : isGapByte b = true)
    (hascii : b < 0x80) : step rule (b :: rest) = .skip 1 (if b = newline then 1 else 0) := by
  obtain ⟨hword, hoperator, hterminator⟩ := isGapByte_iff.mp h
  have hcode : b.toNat ≠ 59 := fun heq => hterminator (UInt8.toNat_inj.mp heq)
  have hnewline : b.toNat = 10 ↔ b = newline := UInt8.toNat_inj (b := newline)
  rw [step_meaningless rule (Utf8.decodeAt_ascii rest hascii) hword hoperator hcode]
  simp only [hnewline]

/-- A character outside the ASCII range is skipped together with the bytes it takes in, which end no
line. -/
theorem step_outsideAscii (rule : KeywordRule) {b : UInt8} (rest : Bytes) (h : ¬ b < 0x80) :
    ∃ extra ≤ rest.length, (∀ c ∈ rest.take extra, 0x80 ≤ c) ∧
      step rule (b :: rest) = .skip (extra + 1) 0 := by
  obtain ⟨hcode, extra, hextra, hwidth, htail⟩ := Utf8.decodeAt_outsideAscii rest h
  refine ⟨extra, hextra, htail, ?_⟩
  have hword : CharClass.isWord (Utf8.decodeAt b rest).code = false := by
    rw [← Bool.not_eq_true]
    exact fun hw => absurd (CharClass.isWord_lt hw) (Nat.not_lt.mpr hcode)
  have hoperator : CharClass.isOperator (Utf8.decodeAt b rest).code = false := by
    rw [← Bool.not_eq_true]
    exact fun ho => absurd (CharClass.isOperator_lt ho) (Nat.not_lt.mpr hcode)
  rw [step_meaningless rule rfl hword hoperator (by omega), hwidth, if_neg (by omega)]

/-! ### The equations of scanning -/

def Cursor.lexemeAt (offset newlines : Nat) (kind : TokenKind) (lexeme : Bytes) : Token :=
  ⟨some kind, lexeme, ⟨newlines + 1, offset, offset + lexeme.length⟩⟩

namespace Cursor

variable (rule : KeywordRule)

theorem scan_of_skip {c : Cursor} {width newlines : Nat}
    (h : step rule c.rest = .skip width newlines) :
    c.scan rule = (c.advance width newlines).scan rule := by
  rw [scan]
  split <;> simp_all

theorem scan_of_token {c : Cursor} {kind : TokenKind} {width : Nat}
    (h : step rule c.rest = .token kind width) :
    c.scan rule = ((c.advance width 0).scan rule).cons (c.token kind width) := by
  rw [scan]
  split <;> simp_all

theorem scan_of_reject {c : Cursor} {width : Nat} (h : step rule c.rest = .reject width) :
    c.scan rule = ⟨.error (c.rejection width), c, c.advance width 0⟩ := by
  rw [scan]
  split <;> simp_all

theorem scan_nil (offset newlines : Nat) :
    scan rule ⟨[], offset, newlines⟩ =
      ⟨.ok [], ⟨[], offset, newlines⟩, ⟨[], offset, newlines⟩⟩ := by
  rw [scan]
  rfl

/-- Bytes outside the ASCII range are passed over one by one, although decoding may take in several
at a time.

Two ways of cutting the same bytes into characters meet again: the induction is on the length of the
text, and whichever of the two characters at its head is the shorter one, the other is made up by
bytes that are passed over in turn. -/
theorem scan_drop_outsideAscii (text : Bytes) (count offset newlines : Nat)
    (hcount : count ≤ text.length) (hhigh : ∀ b ∈ text.take count, 0x80 ≤ b) :
    scan rule ⟨text, offset, newlines⟩ = scan rule ⟨text.drop count, offset + count, newlines⟩ := by
  induction hlength : text.length using Nat.strongRecOn generalizing text count offset with
  | ind length ih =>
    subst hlength
    cases count with
    | zero => rfl
    | succ count =>
      cases text with
      | nil => simp at hcount
      | cons b rest =>
        have hb : ¬ b < 0x80 := UInt8.not_lt.mpr (hhigh b (by simp))
        obtain ⟨extra, hextra, htail, hstep⟩ := step_outsideAscii rule rest hb
        have hcount' : count ≤ rest.length := by simpa using hcount
        have hhigh' : ∀ c ∈ rest.take count, 0x80 ≤ c := fun c hc => hhigh c (by simp [hc])
        -- the induction hypothesis brings the shorter of two characters up to the longer one
        have catchUp : ∀ near far, near ≤ far → far ≤ rest.length →
          (∀ c ∈ rest.take far, 0x80 ≤ c) →
            scan rule ⟨rest.drop near, offset + (near + 1), newlines⟩ =
              scan rule ⟨rest.drop far, offset + (far + 1), newlines⟩ := by
          intro near far hle hfar hbytes
          have hshort : (rest.drop near).length < (b :: rest).length := by
            simp only [List.length_drop, List.length_cons]
            omega
          have hbetween : ∀ c ∈ (rest.drop near).take (far - near), 0x80 ≤ c := by
            intro c hc
            rw [List.take_drop, Nat.add_sub_cancel' hle] at hc
            exact hbytes c (List.mem_of_mem_drop hc)
          rw [ih _ hshort (rest.drop near) (far - near) (offset + (near + 1))
            (by rw [List.length_drop]; omega) hbetween rfl, List.drop_drop, Nat.add_sub_cancel' hle,
            show offset + (near + 1) + (far - near) = offset + (far + 1) by omega]
        rw [scan_of_skip rule hstep]
        simp only [advance, List.drop_succ_cons, Nat.add_zero]
        rcases Nat.le_total extra count with hle | hle
        · exact catchUp extra count hle hcount' hhigh'
        · exact (catchUp count extra hle hextra htail).symm

theorem scan_gap_cons {b : UInt8} (rest : Bytes) (offset newlines : Nat) (h : isGapByte b = true) :
    scan rule ⟨b :: rest, offset, newlines⟩ =
      scan rule ⟨rest, offset + 1, newlines + if b = newline then 1 else 0⟩ := by
  by_cases hascii : b < 0x80
  · exact scan_of_skip rule (c := ⟨b :: rest, offset, newlines⟩) (step_gap_ascii rule rest h hascii)
  · obtain ⟨extra, hextra, htail, hstep⟩ := step_outsideAscii rule rest hascii
    have hnewline : b ≠ newline := by
      rintro rfl
      exact hascii (by decide)
    rw [scan_of_skip rule hstep, if_neg hnewline]
    simp only [advance, List.drop_succ_cons, Nat.add_zero]
    rw [scan_drop_outsideAscii rule rest extra (offset + 1) newlines hextra htail,
      show offset + 1 + extra = offset + (extra + 1) by omega]

/-- **A gap is passed over.**  Only the offset and the number of line feeds change. -/
theorem scan_gap {gap : Bytes} (rest : Bytes) (offset newlines : Nat) (h : IsGap gap) :
    scan rule ⟨gap ++ rest, offset, newlines⟩ =
      scan rule ⟨rest, offset + gap.length, newlines + gap.count newline⟩ := by
  induction gap generalizing offset newlines with
  | nil => rfl
  | cons b gap ih =>
    rw [isGap_cons] at h
    rw [List.cons_append, scan_gap_cons rule _ _ _ h.1, ih _ _ h.2, List.length_cons,
      List.count_cons]
    simp only [beq_iff_eq]
    congr 2 <;> omega

/-- **A lexeme becomes a token.** -/
theorem scan_spelled {rule : KeywordRule} {kind : TokenKind} {lexeme rest : Bytes}
    (offset newlines : Nat) (h : Spelled rule kind lexeme) (hend : EndsBefore kind rest) :
    scan rule ⟨lexeme ++ rest, offset, newlines⟩ =
      (scan rule ⟨rest, offset + lexeme.length, newlines⟩).cons
        (lexemeAt offset newlines kind lexeme) := by
  rw [scan_of_token rule (c := ⟨lexeme ++ rest, offset, newlines⟩) (step_spelled h hend)]
  simp [advance, token, location, lexemeAt]

/-- **A refused identifier ends the scan.** -/
theorem scan_refused {rule : KeywordRule} {word rest : Bytes} (offset newlines : Nat)
    (h : Refused rule word) (hend : EndsBefore .keyword rest) :
    scan rule ⟨word ++ rest, offset, newlines⟩ =
      ⟨.error (.lexical ⟨newlines + 1, offset, offset + word.length⟩ word),
        ⟨word ++ rest, offset, newlines⟩, ⟨rest, offset + word.length, newlines⟩⟩ := by
  rw [scan_of_reject rule (c := ⟨word ++ rest, offset, newlines⟩) (step_refused h hend)]
  simp [advance, rejection, location]

end Cursor

/-! ### Every text is made of gaps, lexemes and refused identifiers -/

/-- The longest run at the head of a text, and what is behind it. -/
theorem exists_run {p : UInt8 → Bool} {b : UInt8} (tail : Bytes) (hb : p b = true) :
    ∃ run rest, b :: tail = run ++ rest ∧ run.head? = some b ∧ IsRun p run ∧
      ∀ c, rest.head? = some c → p c = false := by
  refine ⟨(b :: tail).takeWhile p, (b :: tail).dropWhile p, List.takeWhile_append_dropWhile.symm,
    ?_, ⟨?_, ?_⟩, ?_⟩
  · rw [List.takeWhile_cons_of_pos hb]
    rfl
  · rw [List.takeWhile_cons_of_pos hb]
    simp
  · intro c hc
    exact List.all_eq_true.mp List.all_takeWhile c hc
  · intro c hc
    have hstop := List.head?_dropWhile_not p (b :: tail)
    rw [hc] at hstop
    simpa using hstop

/-- A text is empty, or there is a gap byte, a lexeme or a refused identifier at its head. -/
theorem lexical_cases (rule : KeywordRule) (text : Bytes) :
    text = [] ∨ (∃ b rest, text = b :: rest ∧ isGapByte b = true) ∨
      (∃ kind lexeme rest, text = lexeme ++ rest ∧ Spelled rule kind lexeme ∧
        EndsBefore kind rest) ∨
      ∃ word rest, text = word ++ rest ∧ Refused rule word ∧ EndsBefore .keyword rest := by
  cases text with
  | nil => exact Or.inl rfl
  | cons b tail =>
    right
    by_cases hgap : isGapByte b = true
    · exact Or.inl ⟨b, tail, rfl, hgap⟩
    right
    by_cases hterminator : b = terminator
    · subst hterminator
      exact Or.inl ⟨.punctuation, [terminator], tail, rfl, .punctuation, fun _ _ => rfl⟩
    by_cases hdigit : Decimal.isDigit b = true
    · obtain ⟨run, rest, htext, -, hrun, hrest⟩ := exists_run tail hdigit
      exact Or.inl ⟨.number, run, rest, htext, .number hrun, hrest⟩
    by_cases hoperator : isOperatorByte b = true
    · obtain ⟨run, rest, htext, -, hrun, hrest⟩ := exists_run tail hoperator
      exact Or.inl ⟨.operator, run, rest, htext, .operator hrun, hrest⟩
    -- what is left is a word byte that is no digit
    have hword : isWordByte b = true := by
      cases h : isWordByte b with
      | true => rfl
      | false => exact absurd (isGapByte_iff.mpr ⟨h, by simpa using hoperator, hterminator⟩) hgap
    obtain ⟨run, rest, htext, hhead, hrun, hrest⟩ := exists_run tail hword
    have hidentifier : IsIdentifier run := ⟨hrun.all, b, hhead, by simpa using hdigit⟩
    cases haccepts : rule.accepts run with
    | true => exact Or.inl ⟨.keyword, run, rest, htext, .keyword hidentifier haccepts, hrest⟩
    | false => exact Or.inr ⟨run, rest, htext, ⟨hidentifier, haccepts⟩, hrest⟩

/-- **Induction over the pieces of a text.**  A property holds of every text if it holds of the
empty one and is kept by a gap byte or a lexeme put in front, and if it holds of every text that
starts with a refused identifier. -/
theorem lexicalInduction (rule : KeywordRule) {motive : Bytes → Prop} (nil : motive [])
    (gap : ∀ b rest, isGapByte b = true → motive rest → motive (b :: rest))
    (lexeme : ∀ kind lexeme rest, Spelled rule kind lexeme → EndsBefore kind rest → motive rest →
      motive (lexeme ++ rest))
    (refused : ∀ word rest, Refused rule word → EndsBefore .keyword rest → motive (word ++ rest))
    (text : Bytes) : motive text := by
  induction hlength : text.length using Nat.strongRecOn generalizing text with
  | ind length ih =>
    subst hlength
    rcases lexical_cases rule text with
      rfl | ⟨b, rest, rfl, hgap⟩ | ⟨kind, word, rest, rfl, hspelled, hend⟩ |
      ⟨word, rest, rfl, hrefused, hend⟩
    · exact nil
    · exact gap b rest hgap (ih rest.length (by simp) rest rfl)
    · have hpos : 0 < word.length := List.length_pos_iff.mpr hspelled.ne_nil
      exact lexeme kind word rest hspelled hend
        (ih rest.length (by rw [List.length_append]; omega) rest rfl)
    · exact refused word rest hrefused hend

/-! ### What a scan says about its text -/

namespace Cursor

variable {rule : KeywordRule}

theorem Scanned.result_cons (t : Token) (s : Scanned) :
    (s.cons t).result = s.result.map (t :: ·) := rfl

theorem scan_eq_ok_nil {text : Bytes} {offset newlines : Nat} :
    (scan rule ⟨text, offset, newlines⟩).result = .ok [] ↔ IsGap text := by
  induction text using lexicalInduction rule generalizing offset newlines with
  | nil => simp [scan_nil]
  | gap b rest h ih =>
    rw [scan_gap_cons rule rest offset newlines h, ih]
    simp [h]
  | lexeme kind lexeme rest h hend ih =>
    rw [scan_spelled offset newlines h hend, Scanned.result_cons, Outcome.map_eq_ok]
    obtain ⟨b, tail, rfl⟩ := List.exists_cons_of_ne_nil h.ne_nil
    simp [h.not_gap b List.mem_cons_self]
  | refused word rest h hend =>
    rw [scan_refused offset newlines h hend]
    obtain ⟨b, tail, rfl⟩ := List.exists_cons_of_ne_nil h.identifier.ne_nil
    simp [h.identifier.not_gap b List.mem_cons_self]

/-- The first token is the first lexeme behind a gap, and the other tokens are those of the text
behind it. -/
theorem scan_eq_ok_cons {text : Bytes} {offset newlines : Nat} {t : Token} {ts : List Token} :
    (scan rule ⟨text, offset, newlines⟩).result = .ok (t :: ts) ↔
      ∃ gap kind lexeme rest, text = gap ++ (lexeme ++ rest) ∧ IsGap gap ∧
        Spelled rule kind lexeme ∧ EndsBefore kind rest ∧
        t = lexemeAt (offset + gap.length) (newlines + gap.count newline) kind lexeme ∧
        (scan rule ⟨rest, offset + gap.length + lexeme.length,
          newlines + gap.count newline⟩).result = .ok ts := by
  constructor
  · induction text using lexicalInduction rule generalizing offset newlines with
    | nil => simp [scan_nil]
    | gap b rest h ih =>
      rw [scan_gap_cons rule rest offset newlines h]
      intro hscan
      obtain ⟨gap, kind, lexeme, rest, rfl, hgap, hspelled, hend, rfl, hrest⟩ := ih hscan
      have hlength : offset + (b :: gap).length = offset + 1 + gap.length := by
        rw [List.length_cons]
        omega
      have hcount : newlines + (b :: gap).count newline =
          newlines + (if b = newline then 1 else 0) + gap.count newline := by
        simp only [List.count_cons, beq_iff_eq]
        omega
      refine ⟨b :: gap, kind, lexeme, rest, rfl, isGap_cons.mpr ⟨h, hgap⟩, hspelled, hend, ?_, ?_⟩
      · rw [hlength, hcount]
      · rw [hlength, hcount]
        exact hrest
    | lexeme kind lexeme rest h hend ih =>
      rw [scan_spelled offset newlines h hend, Scanned.result_cons, Outcome.map_eq_ok]
      rintro ⟨us, hrest, hcons⟩
      obtain ⟨rfl, rfl⟩ := List.cons.inj hcons
      exact ⟨[], kind, lexeme, rest, rfl, by simp, h, hend, rfl, hrest⟩
    | refused word rest h hend =>
      rw [scan_refused offset newlines h hend]
      intro hscan
      cases hscan
  · rintro ⟨gap, kind, lexeme, rest, rfl, hgap, hspelled, hend, rfl, hrest⟩
    rw [scan_gap rule _ offset newlines hgap, scan_spelled _ _ hspelled hend,
      Scanned.result_cons, hrest]
    rfl

end Cursor

end BufferMachine
