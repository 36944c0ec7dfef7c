import BufferMachine.Proofs.ByteReading
import BufferMachine.Proofs.Identifiers
import BufferMachine.Proofs.MaximalMunch

/-!
# Scanning on behind refusals

A scanner that is asked for one token after the other may refuse an identifier, and may be asked
again.  It then goes on as if blanks stood in place of the identifier, until it is at the end of its
text, where it stays.

The first part gives the equations of a single call: a gap is passed over, a lexeme becomes a token,
an identifier that is not accepted is refused.  A `Readout` is what the calls up to the end of a
text give, with one constructor for each kind of call.  There is one for every text
(`exists_readout`), and what is known of the calls is proved along it.
-/

namespace BufferMachine

/-! ### One call -/

namespace Cursor

variable {rule : KeywordRule}

/-- The place between two parts of a text. -/
def behind (before rest : Bytes) : Cursor := ⟨rest, before.length, before.count newline⟩

theorem advance_behind (before piece rest : Bytes) :
    (behind before (piece ++ rest)).advance piece.length (piece.count newline) =
      behind (before ++ piece) rest := by
  simp [behind, advance]

theorem next_of_skip {c : Cursor} {width newlines : Nat}
    (h : step rule c.rest = .skip width newlines) :
    c.next rule = (c.advance width newlines).next rule := by
  rw [next]
  split <;> simp_all

theorem next_of_token {c : Cursor} {kind : TokenKind} {width : Nat}
    (h : step rule c.rest = .token kind width) :
    c.next rule = (.ok (c.token kind width), c, c.advance width 0) := by
  rw [next]
  split <;> simp_all

theorem next_of_reject {c : Cursor} {width : Nat} (h : step rule c.rest = .reject width) :
    c.next rule = (.error (c.rejection width), c, c.advance width 0) := by
  rw [next]
  split <;> simp_all

/-- The first character of a gap is passed over, and does not reach into a lexeme behind the gap. -/
theorem exists_step_of_gap (rule : KeywordRule) {b : UInt8} (gap : Bytes) {rest : Bytes}
    (hb : isGapByte b = true) (hrest : ∀ c, rest.head? = some c → isGapByte c = false) :
    ∃ character gap', b :: gap = character ++ gap' ∧ character ≠ [] ∧
      step rule (b :: (gap ++ rest)) = .skip character.length (character.count newline) := by
  by_cases hascii : b < 0x80
  · refine ⟨[b], gap, rfl, by simp, ?_⟩
    rw [step_gap_ascii rule _ hb hascii]
    simp [List.count_singleton]
  · obtain ⟨extra, hlength, hhigh, hstep⟩ := step_outsideAscii rule (gap ++ rest) hascii
    have hextra : extra ≤ gap.length := by
      by_contra hlt
      cases rest with
      | nil =>
        rw [List.append_nil] at hlength
        exact hlt hlength
      | cons c rest =>
        -- the character would take in a byte that is in no gap
        have hmem : c ∈ (gap ++ c :: rest).take extra := by
          obtain ⟨more, hmore⟩ := Nat.exists_eq_add_of_lt (Nat.not_le.mp hlt)
          rw [hmore, Nat.add_assoc, List.take_length_add_append, List.take_succ_cons]
          simp
        exact absurd (ByteReader.isGapByte_of_le (hhigh c hmem)) (by simp [hrest c rfl])
    have hnewline : (b :: gap.take extra).count newline = 0 := by
      rw [List.count_eq_zero]
      intro hmem
      rcases List.mem_cons.mp hmem with rfl | hmem
      · exact hascii (by decide)
      · rw [List.take_append_of_le_length hextra] at hhigh
        exact absurd (hhigh newline hmem) (by decide)
    refine ⟨b :: gap.take extra, gap.drop extra, ?_, by simp, ?_⟩
    · rw [List.cons_append, List.take_append_drop]
    · rw [hstep, hnewline, List.length_cons, List.length_take, Nat.min_eq_left hextra]

/-- **A gap is passed over.**  The induction is on the length of the gap, since a character may take
in several bytes. -/
theorem next_gap (rule : KeywordRule) {gap rest : Bytes} (before : Bytes) (hgap : IsGap gap)
    (hrest : ∀ c, rest.head? = some c → isGapByte c = false) :
    (behind before (gap ++ rest)).next rule = (behind (before ++ gap) rest).next rule := by
  induction hlength : gap.length using Nat.strongRecOn generalizing before gap with
  | ind length ih =>
    subst hlength
    cases gap with
    | nil => rw [List.append_nil, List.nil_append]
    | cons b gap =>
      obtain ⟨character, gap', hsplit, hne, hstep⟩ :=
        exists_step_of_gap rule gap (isGap_cons.mp hgap).1 hrest
      rw [← List.cons_append, hsplit, List.append_assoc] at hstep
      rw [hsplit] at hgap
      have hshort : gap'.length < (b :: gap).length := by
        have := List.length_pos_iff.mpr hne
        rw [hsplit, List.length_append]
        omega
      rw [hsplit, List.append_assoc,
        next_of_skip (c := behind before (character ++ (gap' ++ rest))) hstep, advance_behind,
        ih _ hshort _ (List.forall_mem_append.mp hgap).2 rfl, List.append_assoc]

theorem next_end {gap : Bytes} (before : Bytes) (hgap : IsGap gap) :
    (behind before gap).next rule =
      (.ok (lexemeAt (before ++ gap).length ((before ++ gap).count newline) .endOfText []),
        behind (before ++ gap) [], behind (before ++ gap) []) := by
  have hpassed : (behind before (gap ++ [])).next rule = (behind (before ++ gap) []).next rule :=
    next_gap rule before hgap (by simp)
  rw [List.append_nil] at hpassed
  rw [hpassed, next]
  rfl

theorem head_not_gap {word : Bytes} (hne : word ≠ []) (hword : ∀ b ∈ word, isGapByte b = false)
    (rest : Bytes) :
    ∀ c, (word ++ rest).head? = some c → isGapByte c = false := by
  intro c hc
  rw [List.head?_append_of_ne_nil _ hne] at hc
  exact hword c (List.mem_of_head? hc)

theorem next_lexeme {gap lexeme rest : Bytes} {kind : TokenKind} (before : Bytes) (hgap : IsGap gap)
    (hspelled : Spelled rule kind lexeme) (hend : EndsBefore kind rest) :
    (behind before (gap ++ (lexeme ++ rest))).next rule =
      (.ok (lexemeAt (before ++ gap).length ((before ++ gap).count newline) kind lexeme),
        behind (before ++ gap) (lexeme ++ rest), behind (before ++ gap ++ lexeme) rest) := by
  have hplace := advance_behind (before ++ gap) lexeme rest
  rw [hspelled.count_newline] at hplace
  rw [next_gap rule before hgap (head_not_gap hspelled.ne_nil hspelled.not_gap rest),
    next_of_token (c := behind (before ++ gap) (lexeme ++ rest))
      (step_spelled hspelled hend), hplace]
  simp [behind, token, location, lexemeAt]

/-- **An identifier that is not accepted is refused**, and the scanner stands behind it. -/
theorem next_refused {gap word rest : Bytes} (before : Bytes) (hgap : IsGap gap)
    (hrefused : Refused rule word) (hend : EndsBefore .keyword rest) :
    (behind before (gap ++ (word ++ rest))).next rule =
      (.error (.lexical ⟨(before ++ gap).count newline + 1, (before ++ gap).length,
          (before ++ gap).length + word.length⟩ word),
        behind (before ++ gap) (word ++ rest), behind (before ++ gap ++ word) rest) := by
  have hplace := advance_behind (before ++ gap) word rest
  rw [hrefused.identifier.count_newline] at hplace
  rw [next_gap rule before hgap
      (head_not_gap hrefused.identifier.ne_nil hrefused.identifier.not_gap rest),
    next_of_reject (c := behind (before ++ gap) (word ++ rest))
      (step_refused hrefused hend), hplace]
  simp [behind, rejection, location]

theorem scan_behind_gap {before gap rest : Bytes} (hgap : IsGap gap) :
    (behind before (gap ++ rest)).scan rule = (behind (before ++ gap) rest).scan rule := by
  rw [behind, scan_gap rule _ _ _ hgap, behind, List.length_append, List.count_append]

theorem scan_behind_lexeme {before lexeme rest : Bytes} {kind : TokenKind}
    (hspelled : Spelled rule kind lexeme) (hend : EndsBefore kind rest) :
    (behind before (lexeme ++ rest)).scan rule =
      ((behind (before ++ lexeme) rest).scan rule).cons
        (lexemeAt before.length (before.count newline) kind lexeme) := by
  rw [behind, scan_spelled _ _ hspelled hend, behind, List.length_append, List.count_append,
    hspelled.count_newline, Nat.add_zero]

end Cursor

namespace Scanner

/-- A scanner that has read a part of its text. -/
def behind (rule : KeywordRule) (source : Bytes) (start : Nat) (before : Bytes) : Scanner :=
  { input := source, rule := rule, start := start, pos := before.length,
    newlines := before.count newline }

/-- The token that says that the text is at its end. -/
def endToken (source : Bytes) : Token :=
  ⟨some .endOfText, [], ⟨source.count newline + 1, source.length, source.length⟩⟩

section

variable {rule : KeywordRule} {source before gap rest : Bytes}

theorem cursor_behind (start : Nat) (hsource : source = before ++ rest) :
    (behind rule source start before).cursor = .ok (.behind before rest) := by
  subst hsource
  have hinside : 0 ≤ (behind rule (before ++ rest) start before).pos ∧
      (behind rule (before ++ rest) start before).pos ≤
        (behind rule (before ++ rest) start before).input.length := by
    simp only [behind, List.length_append]
    omega
  rw [cursor, if_pos hinside]
  simp [behind, Cursor.behind]

theorem emit_end (start : Nat) (hsource : source = before ++ gap) (hgap : IsGap gap) :
    (behind rule source start before).emit =
      .ok (.ok (endToken source), behind rule source source.length source) := by
  have hnext : (Cursor.behind before gap).next (behind rule source start before).rule = _ :=
    Cursor.next_end before hgap
  rw [emit, cursor_behind start hsource, Outcome.ok_bind, hnext, ← hsource]
  rfl

theorem emit_lexeme {lexeme : Bytes} {kind : TokenKind} (start : Nat)
    (hsource : source = before ++ (gap ++ (lexeme ++ rest))) (hgap : IsGap gap)
    (hspelled : Spelled rule kind lexeme) (hend : EndsBefore kind rest) :
    (behind rule source start before).emit =
      .ok (.ok (Cursor.lexemeAt (before ++ gap).length ((before ++ gap).count newline) kind lexeme),
        behind rule source (before ++ gap ++ lexeme).length (before ++ gap ++ lexeme)) := by
  have hnext : (Cursor.behind before _).next (behind rule source start before).rule = _ :=
    Cursor.next_lexeme before hgap hspelled hend
  rw [emit, cursor_behind start hsource, Outcome.ok_bind, hnext]
  rfl

theorem emit_refused {word : Bytes} (start : Nat)
    (hsource : source = before ++ (gap ++ (word ++ rest))) (hgap : IsGap gap)
    (hrefused : Refused rule word) (hend : EndsBefore .keyword rest) :
    (behind rule source start before).emit =
      .ok (.error (.lexical ⟨(before ++ gap).count newline + 1, (before ++ gap).length,
          (before ++ gap).length + word.length⟩ word),
        behind rule source (before ++ gap).length (before ++ gap ++ word)) := by
  have hnext : (Cursor.behind before _).next (behind rule source start before).rule = _ :=
    Cursor.next_refused before hgap hrefused hend
  rw [emit, cursor_behind start hsource, Outcome.ok_bind, hnext]
  rfl

end

/-! ### Call after call -/

/-- What so many calls of `emit` give, with the scanner after each of them; a refusal does not end
the calls. -/
def emissions (s : Scanner) : Nat → Except Misuse (List (Except Diagnostic Token × Scanner))
  | 0 => .ok []
  | n + 1 => do
    let call ← s.emit
    return call :: (← call.2.emissions n)

theorem emissions_succ {s : Scanner} {call : Except Diagnostic Token × Scanner}
    (h : s.emit = .ok call) (n : Nat) :
    s.emissions (n + 1) = (call.2.emissions n).map (call :: ·) := by
  rw [emissions, h, Outcome.ok_bind]
  rfl

theorem emissions_end (rule : KeywordRule) (source : Bytes) (n : Nat) :
    (behind rule source source.length source).emissions n =
      .ok (List.replicate n (.ok (endToken source), behind rule source source.length source)) := by
  induction n with
  | zero => rfl
  | succ n ih =>
    rw [emissions_succ (emit_end _ (List.append_nil source).symm isGap_nil), ih]
    rfl

/-- The scanner stands inside its text, not before the lexeme that it has read last, and knows its
line. -/
structure StandsIn (source : Bytes) (s : Scanner) : Prop where
  input_eq : s.input = source
  start_nonneg : 0 ≤ s.start
  start_le : s.start ≤ s.pos
  pos_le : s.pos ≤ source.length
  line_eq : s.line = 1 + (source.take s.pos.toNat).count newline

theorem standsIn_behind (rule : KeywordRule) {source before rest : Bytes} {start : Nat}
    (hsource : source = before ++ rest) (hstart : start ≤ before.length) :
    StandsIn source (behind rule source start before) where
  input_eq := rfl
  start_nonneg := Int.natCast_nonneg start
  start_le := Int.ofNat_le.mpr hstart
  pos_le := by
    simp only [behind, hsource, List.length_append]
    omega
  line_eq := by
    simp only [line, behind, Int.toNat_natCast]
    rw [hsource, List.take_left, Int.add_comm]

/-- The calls up to the end of a text, from a place on. -/
inductive Readout (rule : KeywordRule) (source : Bytes) :
    Bytes → Bytes → List (Except Diagnostic Token × Scanner) → Prop where
  | done {before gap : Bytes} (hgap : IsGap gap) : Readout rule source before gap []
  | lexeme {before gap lexeme rest : Bytes} {kind : TokenKind}
      {calls : List (Except Diagnostic Token × Scanner)} (hgap : IsGap gap)
      (hspelled : Spelled rule kind lexeme) (hend : EndsBefore kind rest)
      (hrest : Readout rule source (before ++ gap ++ lexeme) rest calls) :
      Readout rule source before (gap ++ (lexeme ++ rest))
        ((.ok (Cursor.lexemeAt (before ++ gap).length ((before ++ gap).count newline) kind lexeme),
          behind rule source (before ++ gap ++ lexeme).length (before ++ gap ++ lexeme)) :: calls)
  | refused {before gap word rest : Bytes} {calls : List (Except Diagnostic Token × Scanner)}
      (hgap : IsGap gap) (hrefused : Refused rule word) (hend : EndsBefore .keyword rest)
      (hrest : Readout rule source (before ++ gap ++ word) rest calls) :
      Readout rule source before (gap ++ (word ++ rest))
        ((.error (.lexical ⟨(before ++ gap).count newline + 1, (before ++ gap).length,
            (before ++ gap).length + word.length⟩ word),
          behind rule source (before ++ gap).length (before ++ gap ++ word)) :: calls)

theorem Readout.gap_append {rule : KeywordRule} {source before gap rest : Bytes}
    {calls : List (Except Diagnostic Token × Scanner)}
    (h : Readout rule source (before ++ gap) rest calls) (hgap : IsGap gap) :
    Readout rule source before (gap ++ rest) calls := by
  cases h with
  | done hgap' => exact .done (List.forall_mem_append.mpr ⟨hgap, hgap'⟩)
  | lexeme hgap' hspelled hend hrest =>
    rw [List.append_assoc before] at hrest ⊢
    rw [← List.append_assoc gap]
    exact .lexeme (List.forall_mem_append.mpr ⟨hgap, hgap'⟩) hspelled hend hrest
  | refused hgap' hrefused hend hrest =>
    rw [List.append_assoc before] at hrest ⊢
    rw [← List.append_assoc gap]
    exact .refused (List.forall_mem_append.mpr ⟨hgap, hgap'⟩) hrefused hend hrest

theorem exists_readout (rule : KeywordRule) (source before rest : Bytes) :
    ∃ calls, Readout rule source before rest calls := by
  induction hlength : rest.length using Nat.strongRecOn generalizing before rest with
  | ind length ih =>
    subst hlength
    rcases lexical_cases rule rest with
      rfl | ⟨b, rest, rfl, hb⟩ | ⟨kind, lexeme, rest, rfl, hspelled, hend⟩ |
      ⟨word, rest, rfl, hrefused, hend⟩
    · exact ⟨[], .done isGap_nil⟩
    · obtain ⟨calls, hcalls⟩ := ih rest.length (by simp) (before ++ [b]) rest rfl
      exact ⟨calls, hcalls.gap_append (by simpa using hb)⟩
    · have hpos := List.length_pos_iff.mpr hspelled.ne_nil
      obtain ⟨calls, hcalls⟩ :=
        ih rest.length (by rw [List.length_append]; omega) (before ++ [] ++ lexeme) rest rfl
      exact ⟨_, .lexeme isGap_nil hspelled hend hcalls⟩
    · have hpos := List.length_pos_iff.mpr hrefused.identifier.ne_nil
      obtain ⟨calls, hcalls⟩ :=
        ih rest.length (by rw [List.length_append]; omega) (before ++ [] ++ word) rest rfl
      exact ⟨_, .refused isGap_nil hrefused hend hcalls⟩

namespace Readout

variable {rule : KeywordRule} {source before rest : Bytes}
  {calls : List (Except Diagnostic Token × Scanner)}

/-- The calls are what the scanner gives, and after them it is at the end. -/
theorem emissions_eq (h : Readout rule source before rest calls) (hsource : source = before ++ rest)
    (start n : Nat) :
    (behind rule source start before).emissions (calls.length + n) =
      .ok (calls ++
        List.replicate n (.ok (endToken source), behind rule source source.length source)) := by
  induction h generalizing start with
  | done hgap =>
    cases n with
    | zero => rfl
    | succ n =>
      rw [List.length_nil, Nat.zero_add, emissions_succ (emit_end start hsource hgap),
        emissions_end]
      rfl
  | lexeme hgap hspelled hend hrest ih =>
    rw [List.length_cons, Nat.add_right_comm,
      emissions_succ (emit_lexeme start hsource hgap hspelled hend), ih (by rw [hsource]; simp)]
    rfl
  | refused hgap hrefused hend hrest ih =>
    rw [List.length_cons, Nat.add_right_comm,
      emissions_succ (emit_refused start hsource hgap hrefused hend), ih (by rw [hsource]; simp)]
    rfl

theorem length_le (h : Readout rule source before rest calls) : calls.length ≤ rest.length := by
  induction h with
  | done hgap => exact Nat.zero_le _
  | lexeme hgap hspelled hend hrest ih =>
    have := List.length_pos_iff.mpr hspelled.ne_nil
    simp only [List.length_cons, List.length_append]
    omega
  | refused hgap hrefused hend hrest ih =>
    have := List.length_pos_iff.mpr hrefused.identifier.ne_nil
    simp only [List.length_cons, List.length_append]
    omega

theorem kind_ne_endOfText (h : Readout rule source before rest calls) {t : Token} {s : Scanner}
    (hmem : (.ok t, s) ∈ calls) : t.kind ≠ some .endOfText := by
  induction h with
  | done hgap => cases hmem
  | lexeme hgap hspelled hend hrest ih =>
    rcases List.mem_cons.mp hmem with heq | hmem
    · obtain ⟨rfl, -⟩ : t = _ ∧ s = _ := by simpa using heq
      intro hkind
      obtain rfl := Option.some.inj hkind
      cases hspelled
    · exact ih hmem
  | refused hgap hrefused hend hrest ih =>
    rcases List.mem_cons.mp hmem with heq | hmem
    · cases heq
    · exact ih hmem

theorem isChain_pos (h : Readout rule source before rest calls) (start : Nat) :
    (behind rule source start before :: calls.map Prod.snd).IsChain fun s s' => s.pos < s'.pos := by
  induction h generalizing start with
  | done hgap => exact .singleton _
  | lexeme hgap hspelled hend hrest ih =>
    rw [List.map_cons, List.isChain_cons_cons]
    refine ⟨?_, ih _⟩
    have := List.length_pos_iff.mpr hspelled.ne_nil
    simp only [behind, List.length_append]
    omega
  | refused hgap hrefused hend hrest ih =>
    rw [List.map_cons, List.isChain_cons_cons]
    refine ⟨?_, ih _⟩
    have := List.length_pos_iff.mpr hrefused.identifier.ne_nil
    simp only [behind, List.length_append]
    omega

theorem standsIn_of_mem (h : Readout rule source before rest calls)
    (hsource : source = before ++ rest) {s : Scanner} (hmem : s ∈ calls.map Prod.snd) :
    StandsIn source s := by
  induction h with
  | done hgap => cases hmem
  | @lexeme before gap lexeme rest _ _ hgap hspelled hend hrest ih =>
    have hsource' : source = before ++ gap ++ lexeme ++ rest := by
      rw [hsource]
      simp
    rcases List.mem_cons.mp hmem with rfl | hmem
    · exact standsIn_behind rule hsource' (Nat.le_refl _)
    · exact ih hsource' hmem
  | @refused before gap word rest _ hgap hrefused hend hrest ih =>
    have hsource' : source = before ++ gap ++ word ++ rest := by
      rw [hsource]
      simp
    rcases List.mem_cons.mp hmem with rfl | hmem
    · refine standsIn_behind rule hsource' ?_
      simp only [List.length_append]
      omega
    · exact ih hsource' hmem

theorem exists_identifier_of_mem (h : Readout rule source before rest calls)
    (hsource : source = before ++ rest) (hboundary : RunBoundary before rest) {d : Diagnostic}
    {s : Scanner} (hmem : (.error d, s) ∈ calls) :
    ∃ i : Identifier source, rule.accepts i.word = false ∧ d = .lexical i.location i.word ∧
      s.start = i.start ∧ s.pos = i.start + i.word.length := by
  induction h with
  | done hgap => cases hmem
  | @lexeme before gap lexeme rest _ _ hgap hspelled hend hrest ih =>
    rcases List.mem_cons.mp hmem with heq | hmem
    · cases heq
    · refine ih ?_ ((hboundary.gap hgap).lexeme hspelled hend) hmem
      rw [hsource]
      simp
  | @refused before gap word rest _ hgap hrefused hend hrest ih =>
    have hsource' : source = before ++ gap ++ (word ++ rest) := by
      rw [hsource]
      simp
    rcases List.mem_cons.mp hmem with heq | hmem
    · obtain ⟨i, hbefore, rfl, -⟩ :=
        (hboundary.gap hgap).exists_identifier hsource' hrefused.identifier hend
      obtain ⟨hd, rfl⟩ := Prod.mk.inj heq
      obtain rfl := Except.error.inj hd
      have hstart : i.start = (before ++ gap).length := congrArg List.length hbefore
      have hline : (source.take i.start).count newline = (before ++ gap).count newline := by
        rw [i.take_start, hbefore]
      refine ⟨i, hrefused.not_accepted, ?_, ?_, ?_⟩
      · rw [Identifier.location, hline, hstart, Int.add_comm]
      · rw [hstart]
        rfl
      · rw [hstart, ← Int.natCast_add, ← List.length_append]
        rfl
    · exact ih (by rw [hsource']; simp) (runBoundary_of_endsBefore hend _) hmem

end Readout

/-! ### Refused identifiers as blanks -/

/-- A text with spaces in place of the bytes of a place. -/
def blank (place : Location) (text : Bytes) : Bytes :=
  text.take place.start.toNat ++ List.replicate (place.stop - place.start).toNat (byte ' ') ++
    text.drop place.stop.toNat

/-- Where the identifiers lie that were refused. -/
def refusedPlaces (calls : List (Except Diagnostic Token × Scanner)) : List Location :=
  calls.filterMap fun call =>
    match call.1 with
    | .ok _ => none
    | .error d => some d.location

def tokensOf (calls : List (Except Diagnostic Token × Scanner)) : List Token :=
  calls.filterMap fun call => call.1.toOption

theorem blank_middle (before word rest : Bytes) (line : Int) :
    blank ⟨line, before.length, before.length + word.length⟩ (before ++ word ++ rest) =
      before ++ (List.replicate word.length (byte ' ') ++ rest) := by
  have hstop : ((before.length : Int) + word.length).toNat = (before ++ word).length := by
    rw [List.length_append]
    omega
  have hwidth : ((before.length : Int) + word.length - before.length).toNat =
    word.length := by omega
  simp only [blank, hstop, hwidth, Int.toNat_natCast, List.drop_left]
  rw [List.append_assoc before word, List.take_left, List.append_assoc]

theorem isRun_replicate_space {count : Nat} (h : 0 < count) :
    IsRun isGapByte (List.replicate count (byte ' ')) := by
  constructor
  · exact mt (List.replicate_eq_nil_iff _).mp (Nat.pos_iff_ne_zero.mp h)
  · intro b hb
    rw [List.eq_of_mem_replicate hb]
    decide

theorem endsBefore_append_congr {kind : TokenKind} {word rest rest' : Bytes} (hne : word ≠ [])
    (h : EndsBefore kind (word ++ rest)) : EndsBefore kind (word ++ rest') := by
  intro b hb
  rw [List.head?_append_of_ne_nil _ hne] at hb
  exact h b (by rw [List.head?_append_of_ne_nil _ hne, hb])

/-- The tokens are those that a scan of the text finds in which the refused identifiers are blank.

The blanks are put in from the end, so that the text up to the current call is still as it was. -/
theorem Readout.exists_blanked {rule : KeywordRule} {source before rest : Bytes}
    {calls : List (Except Diagnostic Token × Scanner)} (h : Readout rule source before rest calls)
    (hsource : source = before ++ rest) :
    ∃ blanked, (refusedPlaces calls).foldr blank source = before ++ blanked ∧
      (∀ kind, EndsBefore kind rest → EndsBefore kind blanked) ∧
      (Cursor.scan rule (.behind before blanked)).result = .ok (tokensOf calls) := by
  induction h with
  | @done before gap hgap =>
    exact ⟨gap, hsource, fun _ hend => hend, Cursor.scan_eq_ok_nil.mpr hgap⟩
  | @lexeme before gap lexeme rest kind calls hgap hspelled hend hrest ih =>
    obtain ⟨blanked, hblanked, hends, hscan⟩ := ih (by rw [hsource]; simp)
    refine ⟨gap ++ (lexeme ++ blanked), ?_, ?_, ?_⟩
    · rw [← List.append_assoc, ← List.append_assoc, ← hblanked]
      rfl
    · intro kind' hbefore
      rw [← List.append_assoc] at hbefore ⊢
      exact endsBefore_append_congr (List.append_ne_nil_of_right_ne_nil gap hspelled.ne_nil) hbefore
    · rw [Cursor.scan_behind_gap hgap, Cursor.scan_behind_lexeme hspelled (hends kind hend),
        Cursor.Scanned.result_cons, hscan]
      rfl
  | @refused before gap word rest calls hgap hrefused hend hrest ih =>
    obtain ⟨blanked, hblanked, hends, hscan⟩ := ih (by rw [hsource]; simp)
    have hspaces := isRun_replicate_space (List.length_pos_iff.mpr hrefused.identifier.ne_nil)
    refine ⟨gap ++ (List.replicate word.length (byte ' ') ++ blanked), ?_, ?_, ?_⟩
    · have hplace := blank_middle (before ++ gap) word blanked ((before ++ gap).count newline + 1)
      rw [← hblanked, List.append_assoc before gap] at hplace
      exact hplace
    · intro kind _
      exact endsBefore_gap_append hgap
        (endsBefore_run_append hspaces (fun b => continues_of_isGapByte kind) blanked)
    · -- the spaces take up as many bytes as the identifier, and no lines either
      have hnewline :
          (List.replicate word.length (byte ' ')).count newline = word.count newline := by
        rw [hrefused.identifier.count_newline, List.count_replicate]
        rfl
      have hsame : Cursor.behind (before ++ gap ++ List.replicate word.length (byte ' ')) blanked =
          .behind (before ++ gap ++ word) blanked := by
        simp [Cursor.behind, hnewline]
      rw [Cursor.scan_behind_gap hgap, Cursor.scan_behind_gap hspaces.all, hsame, hscan]
      rfl

/-- **Scanning goes on behind refusals.**  A fresh scanner that is asked for token after token,
whatever it refuses, comes to the end of its text after at most one call for each byte; from then on
it answers that it is at the end, and stays as it is.  Until then every call moves it forward.
After each call it stands inside its text, not before the last lexeme, and counts the lines that it
has passed; after a refusal it stands behind the identifier, whose start it remembers.  The tokens
are those that a scan finds in the text in which every refused identifier is overwritten with
spaces, at the same places. -/
theorem emissions_go_on_behind_refusals (rule : KeywordRule) (source : Bytes) :
    ∃ (calls : List (Except Diagnostic Token × Scanner)) (last : Scanner),
      (∀ n, ({ input := source, rule := rule } : Scanner).emissions (calls.length + n) =
        .ok (calls ++ List.replicate n (.ok (endToken source), last))) ∧
      calls.length ≤ source.length ∧
      (∀ t s, (.ok t, s) ∈ calls → t.kind ≠ some .endOfText) ∧
      ((({ input := source, rule := rule } : Scanner) :: calls.map Prod.snd).IsChain fun s s' =>
        s.pos < s'.pos) ∧
      (∀ s ∈ last :: calls.map Prod.snd, StandsIn source s) ∧
      (∀ d s, (.error d, s) ∈ calls → ∃ i : Identifier source, rule.accepts i.word = false ∧
        d = .lexical i.location i.word ∧ s.start = i.start ∧ s.pos = i.start + i.word.length) ∧
      ∃ after, ({ input := (refusedPlaces calls).foldr blank source, rule := rule } :
        Scanner).scan =
        .ok (.ok (tokensOf calls), after) := by
  obtain ⟨calls, hcalls⟩ := exists_readout rule source [] source
  refine ⟨calls, behind rule source source.length source, ?_, ?_, ?_, ?_, ?_, ?_, ?_⟩
  · intro n
    exact hcalls.emissions_eq rfl 0 n
  · exact hcalls.length_le
  · intro t s hmem
    exact hcalls.kind_ne_endOfText hmem
  · exact hcalls.isChain_pos 0
  · intro s hmem
    rcases List.mem_cons.mp hmem with rfl | hmem
    · exact standsIn_behind rule (List.append_nil source).symm (Nat.le_refl _)
    · exact hcalls.standsIn_of_mem rfl hmem
  · intro d s hmem
    exact hcalls.exists_identifier_of_mem rfl (runBoundary_nil source) hmem
  · obtain ⟨blanked, hblanked, -, hscan⟩ := hcalls.exists_blanked rfl
    rw [hblanked, List.nil_append]
    obtain ⟨after, hfresh⟩ := Scanner.scan_fresh rule blanked
    refine ⟨after, hfresh.trans ?_⟩
    rw [← hscan]
    rfl

end Scanner

end BufferMachine
