import BufferMachine.Proofs.Decoder

/-!
# The identifiers of a text

An identifier of a text is what is left of a longest run of word bytes without the digits in front,
if anything is.  This says which identifiers there are without a word about scanning or about a
keyword rule.

The scanner looks at the identifiers one after the other.  `scan_cases` is the whole of what it
makes of them: it comes to the end of the text and has accepted them all, or it stops at the first
one that it does not accept, and complains about just that one.  What is known on the way is
`ReadUpTo`, which a gap byte and a lexeme preserve; a number is the one piece that an identifier may
stand right behind.
-/

namespace BufferMachine

/-- An identifier of a text, with all that stands around it. -/
structure Identifier (source : Bytes) where
  before : Bytes
  digits : Bytes
  word : Bytes
  after : Bytes
  source_eq : source = before ++ digits ++ (word ++ after)
  before_end : ∀ b, before.getLast? = some b → isWordByte b = false
  all_digits : ∀ b ∈ digits, Decimal.isDigit b = true
  isIdentifier : IsIdentifier word
  after_begin : EndsBefore .keyword after

namespace Identifier

variable {source : Bytes}

def start (i : Identifier source) : Nat := (i.before ++ i.digits).length

def location (i : Identifier source) : Location :=
  ⟨1 + (source.take i.start).count newline, i.start, i.start + i.word.length⟩

theorem take_start (i : Identifier source) : source.take i.start = i.before ++ i.digits :=
  (congrArg (List.take i.start) i.source_eq).trans List.take_left

theorem drop_start (i : Identifier source) : source.drop i.start = i.word ++ i.after :=
  (congrArg (List.drop i.start) i.source_eq).trans List.drop_left

theorem exists_head (i : Identifier source) :
    ∃ b tail, i.word = b :: tail ∧ isWordByte b = true ∧ Decimal.isDigit b = false := by
  obtain ⟨b, hb, hdigit⟩ := i.isIdentifier.head_not_digit
  obtain ⟨tail, htail⟩ := List.head?_eq_some_iff.mp hb
  exact ⟨b, tail, htail, i.isIdentifier.all_word b (by simp [htail]), hdigit⟩

theorem start_lt (i : Identifier source) : i.start < source.length := by
  obtain ⟨b, tail, hword, -⟩ := i.exists_head
  have hlength := congrArg List.length i.drop_start
  simp only [hword, List.length_drop, List.length_append, List.length_cons] at hlength
  omega

/-! ### Identifiers and the pieces of a text -/

/-- An identifier that starts inside a piece of the text starts with a byte of it that is no
digit. -/
theorem exists_byte_of_start {before piece rest : Bytes} (i : Identifier source)
    (hsource : source = before ++ (piece ++ rest)) (hge : before.length ≤ i.start)
    (hlt : i.start < (before ++ piece).length) :
    ∃ middle b tail, i.before ++ i.digits = before ++ middle ∧ piece = middle ++ b :: tail ∧
      i.word ++ i.after = b :: tail ++ rest ∧ isWordByte b = true ∧ Decimal.isDigit b = false := by
  subst hsource
  have hshort : i.start - before.length < piece.length := by
    rw [List.length_append] at hlt
    omega
  have hbefore : i.before ++ i.digits = before ++ piece.take (i.start - before.length) := by
    rw [← i.take_start, List.take_append, List.take_of_length_le hge,
      List.take_append_of_le_length (Nat.le_of_lt hshort)]
  have hafter : i.word ++ i.after = piece.drop (i.start - before.length) ++ rest := by
    rw [← i.drop_start, List.drop_append, List.drop_of_length_le hge,
      List.drop_append_of_le_length (Nat.le_of_lt hshort), List.nil_append]
  obtain ⟨b, tail, hword, hletter, hdigit⟩ := i.exists_head
  obtain ⟨c, more, hmore⟩ :=
    List.exists_cons_of_ne_nil (mt List.drop_eq_nil_iff.mp (Nat.not_le.mpr hshort))
  rw [hmore] at hafter
  obtain rfl : b = c := by
    rw [hword] at hafter
    exact (List.cons.inj hafter).1
  refine ⟨_, b, more, hbefore, ?_, hafter, hletter, hdigit⟩
  rw [← hmore, List.take_append_drop]

/-- No identifier starts in a piece of a text that has no word bytes but digits. -/
theorem start_lt_of_no_letter {before piece rest : Bytes} (i : Identifier source)
    (hsource : source = before ++ (piece ++ rest))
    (hpiece : ∀ b ∈ piece, isWordByte b = true → Decimal.isDigit b = true)
    (hlt : i.start < (before ++ piece).length) : i.start < before.length := by
  by_contra hge
  obtain ⟨middle, b, tail, -, rfl, -, hword, hdigit⟩ :=
    i.exists_byte_of_start hsource (Nat.not_lt.mp hge) hlt
  have := hpiece b (by simp) hword
  rw [hdigit] at this
  cases this

/-- The only identifier that starts in an identifier of a text is that one itself. -/
theorem word_eq_of_start {before word rest : Bytes} (i : Identifier source)
    (hsource : source = before ++ (word ++ rest)) (hword : IsIdentifier word)
    (hend : EndsBefore .keyword rest) (hge : before.length ≤ i.start)
    (hlt : i.start < (before ++ word).length) : i.word = word := by
  obtain ⟨middle, b, tail, hbefore, rfl, hafter, -, -⟩ := i.exists_byte_of_start hsource hge hlt
  cases middle with
  | nil =>
    have htake := (CodeText.takeWhile_dropWhile_append i.isIdentifier.all_word i.after_begin).1
    rw [hafter] at htake
    exact htake.symm.trans (CodeText.takeWhile_dropWhile_append hword.all_word hend).1
  | cons c middle =>
    -- the run of word bytes goes back to `c`, which is no digit, so it cannot begin behind it
    have hc : Decimal.isDigit c = false := by
      obtain ⟨c', hc', hdigit⟩ := hword.head_not_digit
      obtain rfl : c = c' := by simpa using hc'
      exact hdigit
    have hdigits : c ∉ i.digits := not_mem_of_forall i.all_digits hc
    rcases List.append_eq_append_iff.mp hbefore with ⟨more, -, hmore⟩ | ⟨more, hmore, hmiddle⟩
    · exact absurd (by simp [hmore]) hdigits
    · rcases List.eq_nil_or_concat more with rfl | ⟨front, last, rfl⟩
      · rw [List.nil_append] at hmiddle
        exact absurd (hmiddle ▸ List.mem_cons_self) hdigits
      · have hlast : isWordByte last = false := i.before_end last (by simp [hmore])
        have hmem : last ∈ c :: middle := by simp [hmiddle]
        have hletter : isWordByte last = true :=
          hword.all_word last (List.mem_append_left _ hmem)
        rw [hlast] at hletter
        cases hletter

end Identifier

/-! ### Reading identifier after identifier -/

/-- A longest run of word bytes may begin with digits right behind the text. -/
def OpensRun (text : Bytes) : Prop :=
  ∃ outer digits, text = outer ++ digits ∧ (∀ b ∈ digits, Decimal.isDigit b = true) ∧
    ∀ b, outer.getLast? = some b → isWordByte b = false

theorem opensRun_append {text piece : Bytes} (hne : piece ≠ [])
    (hpiece : ∀ b ∈ piece, isWordByte b = false) :
    OpensRun (text ++ piece) := by
  refine ⟨text ++ piece, [], (List.append_nil _).symm, by simp, ?_⟩
  intro b hb
  rw [List.getLast?_append_of_ne_nil _ hne] at hb
  exact hpiece b (List.mem_of_getLast? hb)

theorem OpensRun.append_digits {text digits : Bytes} (h : OpensRun text)
    (hdigits : ∀ b ∈ digits, Decimal.isDigit b = true) : OpensRun (text ++ digits) := by
  obtain ⟨outer, more, rfl, hmore, houter⟩ := h
  exact ⟨outer, more ++ digits, List.append_assoc _ _ _,
    List.forall_mem_append.mpr ⟨hmore, hdigits⟩, houter⟩

/-- A text is cut where no run of word bytes is cut, unless it is behind the digits in front of
it. -/
def RunBoundary (before rest : Bytes) : Prop :=
  ∀ b, rest.head? = some b → isWordByte b = true → OpensRun before

theorem runBoundary_nil (rest : Bytes) : RunBoundary [] rest :=
  fun _ _ _ => ⟨[], [], rfl, by simp, by simp⟩

theorem runBoundary_append {before piece : Bytes} (hne : piece ≠ [])
    (hpiece : ∀ b ∈ piece, isWordByte b = false) (rest : Bytes) :
    RunBoundary (before ++ piece) rest :=
  fun _ _ _ => opensRun_append hne hpiece

theorem runBoundary_of_endsBefore {rest : Bytes} (hend : EndsBefore .keyword rest)
    (before : Bytes) :
    RunBoundary before rest := by
  intro b hb hletter
  rw [show isWordByte b = false from hend b hb] at hletter
  cases hletter

theorem RunBoundary.number {before digits rest : Bytes} (h : RunBoundary before (digits ++ rest))
    (hdigits : IsRun Decimal.isDigit digits) : RunBoundary (before ++ digits) rest := by
  -- the digits begin the run that a word behind them would belong to
  intro _ _ _
  obtain ⟨b, tail, rfl⟩ := List.exists_cons_of_ne_nil hdigits.ne_nil
  have hb : Decimal.isDigit b = true := hdigits.all b List.mem_cons_self
  exact (h b rfl (isWordByte_of_isDigit hb)).append_digits hdigits.all

theorem RunBoundary.lexeme {rule : KeywordRule} {kind : TokenKind} {before lexeme rest : Bytes}
    (h : RunBoundary before (lexeme ++ rest)) (hspelled : Spelled rule kind lexeme)
    (hend : EndsBefore kind rest) :
    RunBoundary (before ++ lexeme) rest := by
  cases hspelled with
  | punctuation => exact runBoundary_append (by simp) (by simp; decide) rest
  | number run => exact h.number run
  | keyword _ _ => exact runBoundary_of_endsBefore hend _
  | operator run =>
    exact runBoundary_append run.ne_nil
      (fun b hb => not_isWordByte_of_isOperatorByte (run.all b hb)) rest

theorem RunBoundary.gap {before gap rest : Bytes} (h : RunBoundary before (gap ++ rest))
    (hgap : IsGap gap) :
    RunBoundary (before ++ gap) rest := by
  by_cases hne : gap = []
  · subst hne
    rw [List.append_nil]
    exact h
  · exact runBoundary_append hne (fun b hb => (isGapByte_iff.mp (hgap b hb)).1) rest

/-- A word behind such a cut is an identifier of the text. -/
theorem RunBoundary.exists_identifier {source before word rest : Bytes}
    (h : RunBoundary before (word ++ rest)) (hsource : source = before ++ (word ++ rest))
    (hword : IsIdentifier word) (hend : EndsBefore .keyword rest) :
    ∃ i : Identifier source, i.before ++ i.digits = before ∧ i.word = word ∧ i.after = rest := by
  obtain ⟨b, tail, hcons⟩ := List.exists_cons_of_ne_nil hword.ne_nil
  have hb : isWordByte b = true := hword.all_word b (by simp [hcons])
  obtain ⟨outer, digits, hbefore, hdigits, houter⟩ := h b (by simp [hcons]) hb
  let i : Identifier source :=
    { before := outer, digits, word, after := rest, source_eq := hbefore ▸ hsource,
      before_end := houter, all_digits := hdigits, isIdentifier := hword, after_begin := hend }
  exact ⟨i, hbefore.symm, rfl, rfl⟩

/-- What the scanner knows when it has read a part of a text and has not yet refused anything. -/
structure ReadUpTo (rule : KeywordRule) (source before rest : Bytes) : Prop where
  source_eq : source = before ++ rest
  accepted : ∀ i : Identifier source, i.start < before.length → rule.accepts i.word = true
  boundary : ∀ b, rest.head? = some b → isWordByte b = true → OpensRun before

namespace ReadUpTo

variable {rule : KeywordRule} {source before rest : Bytes}

theorem start (rule : KeywordRule) (source : Bytes) : ReadUpTo rule source [] source where
  source_eq := rfl
  accepted := fun _ hi => absurd hi (Nat.not_lt_zero _)
  boundary := runBoundary_nil source

/-- A piece without word bytes is passed over. -/
theorem append {piece : Bytes} (h : ReadUpTo rule source before (piece ++ rest)) (hne : piece ≠ [])
    (hpiece : ∀ b ∈ piece, isWordByte b = false) : ReadUpTo rule source (before ++ piece) rest where
  source_eq := by rw [h.source_eq, List.append_assoc]
  accepted := by
    intro i hi
    refine h.accepted i (i.start_lt_of_no_letter h.source_eq ?_ hi)
    intro b hb hword
    rw [hpiece b hb] at hword
    cases hword
  boundary := runBoundary_append hne hpiece rest

theorem number {digits : Bytes} (h : ReadUpTo rule source before (digits ++ rest))
    (hdigits : IsRun Decimal.isDigit digits) : ReadUpTo rule source (before ++ digits) rest where
  source_eq := by rw [h.source_eq, List.append_assoc]
  accepted := by
    intro i hi
    exact h.accepted i (i.start_lt_of_no_letter h.source_eq (fun b hb _ => hdigits.all b hb) hi)
  boundary := RunBoundary.number h.boundary hdigits

theorem keyword {word : Bytes} (h : ReadUpTo rule source before (word ++ rest))
    (hword : IsIdentifier word) (haccepted : rule.accepts word = true)
    (hend : EndsBefore .keyword rest) :
    ReadUpTo rule source (before ++ word) rest where
  source_eq := by rw [h.source_eq, List.append_assoc]
  accepted := by
    intro i hi
    rcases Nat.lt_or_ge i.start before.length with hlt | hge
    · exact h.accepted i hlt
    · rw [i.word_eq_of_start h.source_eq hword hend hge hi]
      exact haccepted
  boundary := runBoundary_of_endsBefore hend (before ++ word)

theorem lexeme {kind : TokenKind} {lexeme : Bytes}
    (h : ReadUpTo rule source before (lexeme ++ rest)) (hspelled : Spelled rule kind lexeme)
    (hend : EndsBefore kind rest) :
    ReadUpTo rule source (before ++ lexeme) rest := by
  cases hspelled with
  | punctuation => exact h.append (by simp) (by simp; decide)
  | number run => exact h.number run
  | keyword identifier accepted => exact h.keyword identifier accepted hend
  | operator run => exact h.append run.ne_nil fun b hb =>
    not_isWordByte_of_isOperatorByte (run.all b hb)

/-- A refused identifier is an identifier of the text, and the first one that is not accepted. -/
theorem refused {word : Bytes} (h : ReadUpTo rule source before (word ++ rest))
    (hword : Refused rule word) (hend : EndsBefore .keyword rest) :
    ∃ i : Identifier source, rule.accepts i.word = false ∧
      (∀ j : Identifier source, j.start < i.start → rule.accepts j.word = true) ∧
      (⟨before.count newline + 1, before.length, before.length + word.length⟩ : Location) =
        i.location ∧
      word = i.word := by
  obtain ⟨i, hbefore, rfl, -⟩ :=
    RunBoundary.exists_identifier h.boundary h.source_eq hword.identifier hend
  have hstart : i.start = before.length := congrArg List.length hbefore
  refine ⟨i, hword.not_accepted, ?_, ?_, rfl⟩
  · intro j hj
    exact h.accepted j (hstart ▸ hj)
  · have hcount : (source.take before.length).count newline = before.count newline := by
      rw [h.source_eq, List.take_left]
    simp only [Identifier.location, hstart, hcount, Location.mk.injEq, and_true]
    exact Int.add_comm _ _

/-- What the rest of the scan comes to, for every identifier of the whole text. -/
theorem scan_cases (h : ReadUpTo rule source before rest) :
    (∃ tokens, (Cursor.scan rule ⟨rest, before.length, before.count newline⟩).result = .ok tokens ∧
      ∀ i : Identifier source, rule.accepts i.word = true) ∨
    ∃ i : Identifier source, rule.accepts i.word = false ∧
      (∀ j : Identifier source, j.start < i.start → rule.accepts j.word = true) ∧
      (Cursor.scan rule ⟨rest, before.length, before.count newline⟩).result =
        .error (.lexical i.location i.word) := by
  induction rest using lexicalInduction rule generalizing before with
  | nil =>
    have hlength : source.length = before.length := by rw [h.source_eq, List.append_nil]
    exact Or.inl ⟨[], by rw [Cursor.scan_nil], fun i => h.accepted i (hlength ▸ i.start_lt)⟩
  | gap b rest hgap ih =>
    have hword : isWordByte b = false := (isGapByte_iff.mp hgap).1
    have hread : ReadUpTo rule source before ([b] ++ rest) := h
    have hnext := ih (hread.append (by simp) (by simpa using hword))
    rw [List.length_append, List.count_append, List.count_singleton, List.length_singleton] at hnext
    rw [Cursor.scan_gap_cons rule _ _ _ hgap]
    simpa only [beq_iff_eq] using hnext
  | lexeme kind lexeme rest hspelled hend ih =>
    have hnext := ih (h.lexeme hspelled hend)
    rw [Cursor.scan_spelled _ _ hspelled hend, Cursor.Scanned.result_cons]
    rw [List.length_append, List.count_append, hspelled.count_newline, Nat.add_zero] at hnext
    rcases hnext with ⟨tokens, hscan, hall⟩ | ⟨i, hi, hfirst, hscan⟩
    · exact Or.inl ⟨_, by rw [hscan]; rfl, hall⟩
    · exact Or.inr ⟨i, hi, hfirst, by rw [hscan]; rfl⟩
  | refused word rest hrefused hend =>
    obtain ⟨i, hi, hfirst, hlocation, hword⟩ := h.refused hrefused hend
    refine Or.inr ⟨i, hi, hfirst, ?_⟩
    rw [Cursor.scan_refused _ _ hrefused hend, ← hlocation, ← hword]

end ReadUpTo

/-- **What a scan says about the identifiers.**  It succeeds and all of them are accepted, or it
fails at the first one that is not. -/
theorem scan_cases (rule : KeywordRule) (source : Bytes) :
    (∃ tokens, scan rule source = .ok tokens ∧
      ∀ i : Identifier source, rule.accepts i.word = true) ∨
    ∃ i : Identifier source, rule.accepts i.word = false ∧
      (∀ j : Identifier source, j.start < i.start → rule.accepts j.word = true) ∧
      scan rule source = .error (.lexical i.location i.word) :=
  (ReadUpTo.start rule source).scan_cases

theorem accepts_of_scan_ok {rule : KeywordRule} {source : Bytes} {tokens : List Token}
    (h : scan rule source = .ok tokens) (i : Identifier source) : rule.accepts i.word = true := by
  rcases scan_cases rule source with ⟨-, -, hall⟩ | ⟨_, -, -, herror⟩
  · exact hall i
  · rw [h] at herror
    cases herror

theorem exists_refused_of_scan_error {rule : KeywordRule} {source : Bytes} {e : Diagnostic}
    (h : scan rule source = .error e) :
    ∃ i : Identifier source, rule.accepts i.word = false ∧
      (∀ j : Identifier source, j.start < i.start → rule.accepts j.word = true) ∧
        e = .lexical i.location i.word := by
  rcases scan_cases rule source with ⟨tokens, hok, -⟩ | ⟨i, hi, hfirst, herror⟩
  · rw [h] at hok
    cases hok
  · exact ⟨i, hi, hfirst, Except.error.inj (h.symm.trans herror)⟩

end BufferMachine
