import BufferMachine.Proofs.Lexeme
import Mathlib.Data.List.Chain
import Mathlib.Data.Set.Subsingleton

/-!
# Maximal munch

A token list is the maximal-munch tokenisation of a text if each token is a correctly spelled slice
of it that does not go on, the slices lie in the text one after the other, and whatever lies outside
of them could not be part of any token.  This is said of the text and the token list alone, without
a word about how the tokens are found.

The scanner finds exactly this list: it succeeds with a token list if and only if the list is a
maximal-munch tokenisation, and there is never more than one.  The proof goes through `MunchFrom`,
which says the same about the part of a text from an offset on and follows the token list.
-/

namespace BufferMachine

/-- The token is the slice of the text between two offsets, and a lexeme that does not go on behind
it. -/
structure IsTokenAt (rule : KeywordRule) (source : Bytes) (t : Token)
    (start stop : Nat) : Prop where
  nonempty : start < stop
  within : stop ≤ source.length
  location_eq : t.location = ⟨1 + (source.take start).count newline, start, stop⟩
  lexeme_eq : t.lexeme = source.extract start stop
  spelled : ∃ kind, t.kind = some kind ∧ Spelled rule kind t.lexeme ∧
    EndsBefore kind (source.drop stop)

/-- Does the byte at the index belong to the token? -/
def Token.Covers (t : Token) (index : Nat) : Prop :=
  t.location.start ≤ index ∧ index < t.location.stop

/-- The tokens are slices of the text in its order, and nothing between them could be part of a
token. -/
structure MaximalMunch (rule : KeywordRule) (source : Bytes) (tokens : List Token) : Prop where
  tokens_at : ∀ t ∈ tokens, ∃ start stop, IsTokenAt rule source t start stop
  ordered : tokens.IsChain fun t u => t.location.stop ≤ u.location.start
  gap_outside : ∀ index b, source[index]? = some b → (∀ t ∈ tokens, ¬ t.Covers index) →
    isGapByte b = true

/-- The tokens are the maximal-munch tokenisation of the text from an offset on. -/
def MunchFrom (rule : KeywordRule) (source : Bytes) : Nat → List Token → Prop
  | offset, [] => IsGap (source.drop offset)
  | offset, t :: ts =>
    ∃ start stop, offset ≤ start ∧ IsGap (source.extract offset start) ∧
      IsTokenAt rule source t start stop ∧ MunchFrom rule source stop ts

/-! ### Slices -/

namespace Bytes

theorem extract_append_drop (text : Bytes) {start stop : Nat} (h : start ≤ stop) :
    text.extract start stop ++ text.drop stop = text.drop start := by
  have hdrop : text.drop stop = (text.drop start).drop (stop - start) := by
    rw [List.drop_drop, Nat.add_sub_cancel' h]
  rw [List.extract_eq_take_drop, hdrop, List.take_append_drop]

theorem length_extract_of_le (text : Bytes) {start stop : Nat} (h : stop ≤ text.length) :
    (text.extract start stop).length = stop - start := by
  rw [List.extract_eq_take_drop, List.length_take, List.length_drop]
  omega

theorem take_append_extract (text : Bytes) {start stop : Nat} (h : start ≤ stop) :
    text.take start ++ text.extract start stop = text.take stop := by
  rw [List.extract_eq_take_drop, ← List.take_add, Nat.add_sub_cancel' h]

theorem mem_extract_iff {text : Bytes} {start stop : Nat} {b : UInt8} :
    b ∈ text.extract start stop ↔ ∃ index, start ≤ index ∧ index < stop ∧
      text[index]? = some b := by
  rw [List.extract_eq_take_drop, List.mem_iff_getElem?]
  constructor
  · rintro ⟨i, hi⟩
    rw [List.getElem?_take, List.getElem?_drop] at hi
    split at hi
    · next hlt => exact ⟨start + i, by omega, by omega, hi⟩
    · cases hi
  · rintro ⟨index, hstart, hstop, hb⟩
    refine ⟨index - start, ?_⟩
    rw [List.getElem?_take_of_lt (by omega), List.getElem?_drop, Nat.add_sub_cancel' hstart, hb]

theorem mem_drop_iff {text : Bytes} {start : Nat} {b : UInt8} :
    b ∈ text.drop start ↔ ∃ index, start ≤ index ∧ text[index]? = some b := by
  rw [List.mem_iff_getElem?]
  constructor
  · rintro ⟨i, hi⟩
    rw [List.getElem?_drop] at hi
    exact ⟨start + i, by omega, hi⟩
  · rintro ⟨index, hstart, hb⟩
    refine ⟨index - start, ?_⟩
    rw [List.getElem?_drop, Nat.add_sub_cancel' hstart, hb]

end Bytes

/-! ### The scanner munches -/

section

variable {rule : KeywordRule} {source : Bytes}

/-- Where a cursor stands that has read the text up to an offset. -/
def Cursor.ofOffset (source : Bytes) (offset : Nat) : Cursor :=
  ⟨source.drop offset, offset, (source.take offset).count newline⟩

/-- A lexeme behind a gap is a token of the whole text. -/
theorem isTokenAt_of_split {offset : Nat} {gap lexeme rest : Bytes} {kind : TokenKind}
    (hsplit : source.drop offset = gap ++ (lexeme ++ rest)) (hoffset : offset ≤ source.length)
    (hspelled : Spelled rule kind lexeme) (hend : EndsBefore kind rest) :
    IsTokenAt rule source
      (Cursor.lexemeAt (offset + gap.length)
        ((source.take offset).count newline + gap.count newline) kind lexeme)
      (offset + gap.length) (offset + gap.length + lexeme.length) := by
  have hgap : source.extract offset (offset + gap.length) = gap := by
    rw [List.extract_eq_take_drop, hsplit, Nat.add_sub_cancel_left, List.take_left]
  have hstart : source.drop (offset + gap.length) = lexeme ++ rest := by
    rw [← List.drop_drop, hsplit, List.drop_left]
  have hstop : source.drop (offset + gap.length + lexeme.length) = rest := by
    rw [← List.drop_drop, hstart, List.drop_left]
  have hlength : source.length = offset + gap.length + lexeme.length + rest.length := by
    have := congrArg List.length hsplit
    simp only [List.length_drop, List.length_append] at this
    omega
  have hcount : (source.take (offset + gap.length)).count newline =
      (source.take offset).count newline + gap.count newline := by
    rw [← Bytes.take_append_extract source (Nat.le_add_right offset gap.length),
      List.count_append, hgap]
  have hpos : 0 < lexeme.length := List.length_pos_iff.mpr hspelled.ne_nil
  refine ⟨by omega, by omega, ?_, ?_, kind, rfl, hspelled, by rwa [hstop]⟩
  · simp only [Cursor.lexemeAt, hcount]
    congr 1
    omega
  · rw [List.extract_eq_take_drop, hstart, Nat.add_sub_cancel_left, List.take_left]
    rfl

/-- A token ends no line, so the line feeds before its end are those before its start. -/
theorem IsTokenAt.count_take_stop {t : Token} {start stop : Nat}
    (h : IsTokenAt rule source t start stop) :
    (source.take stop).count newline = (source.take start).count newline := by
  obtain ⟨kind, -, hspelled, -⟩ := h.spelled
  rw [← Bytes.take_append_extract source (Nat.le_of_lt h.nonempty), List.count_append,
    ← h.lexeme_eq, hspelled.count_newline, Nat.add_zero]

/-- A token of a text is told by its start, its kind and its lexeme. -/
theorem IsTokenAt.eq_lexemeAt {t : Token} {start stop : Nat} {kind : TokenKind}
    (h : IsTokenAt rule source t start stop) (hkind : t.kind = some kind) :
    t = Cursor.lexemeAt start ((source.take start).count newline) kind t.lexeme := by
  have hnonempty := h.nonempty
  have hlength : t.lexeme.length = stop - start := by
    rw [h.lexeme_eq, Bytes.length_extract_of_le source h.within]
  have hlocation := h.location_eq
  obtain ⟨tokenKind, lexeme, location⟩ := t
  subst hkind hlocation
  simp only [Cursor.lexemeAt, hlength, Token.mk.injEq, Location.mk.injEq, true_and]
  omega

/-- The scanner finds a token list from an offset on if and only if the list munches the text from
there on. -/
theorem scan_iff_munchFrom {offset : Nat} (hoffset : offset ≤ source.length) (tokens : List Token) :
    ((Cursor.ofOffset source offset).scan rule).result = .ok tokens ↔
      MunchFrom rule source offset tokens := by
  induction tokens generalizing offset with
  | nil => exact Cursor.scan_eq_ok_nil
  | cons t ts ih =>
    rw [Cursor.ofOffset, Cursor.scan_eq_ok_cons]
    constructor
    · rintro ⟨gap, kind, lexeme, rest, hsplit, hgap, hspelled, hend, rfl, hrest⟩
      have htoken := isTokenAt_of_split hsplit hoffset hspelled hend
      refine ⟨offset + gap.length, offset + gap.length + lexeme.length, by omega, ?_, htoken, ?_⟩
      · rwa [List.extract_eq_take_drop, hsplit, Nat.add_sub_cancel_left, List.take_left]
      · rw [← ih htoken.within, Cursor.ofOffset, htoken.count_take_stop,
          ← Bytes.take_append_extract source (Nat.le_add_right offset gap.length),
          List.count_append, List.extract_eq_take_drop, ← List.drop_drop, ← List.drop_drop, hsplit,
          Nat.add_sub_cancel_left, List.take_left, List.drop_left, List.drop_left]
        exact hrest
    · rintro ⟨start, stop, hstart, hgap, htoken, hrest⟩
      obtain ⟨kind, hkind, hspelled, hend⟩ := htoken.spelled
      have hlengthGap : (source.extract offset start).length = start - offset :=
        Bytes.length_extract_of_le source
          (Nat.le_of_lt (Nat.lt_of_lt_of_le htoken.nonempty htoken.within))
      have hlengthLexeme : t.lexeme.length = stop - start := by
        rw [htoken.lexeme_eq, Bytes.length_extract_of_le source htoken.within]
      have hcount :
        (source.take offset).count newline + (source.extract offset start).count newline =
          (source.take start).count newline := by
        rw [← List.count_append, Bytes.take_append_extract source hstart]
      have hnonempty := htoken.nonempty
      refine ⟨source.extract offset start, kind, t.lexeme, source.drop stop, ?_, hgap, hspelled,
        hend, ?_, ?_⟩
      · rw [htoken.lexeme_eq, Bytes.extract_append_drop source (Nat.le_of_lt htoken.nonempty),
          Bytes.extract_append_drop source hstart]
      · rw [hcount, hlengthGap, Nat.add_sub_cancel' hstart]
        exact htoken.eq_lexemeAt hkind
      · rw [← ih htoken.within, Cursor.ofOffset, htoken.count_take_stop] at hrest
        rw [hcount, hlengthGap, hlengthLexeme, Nat.add_sub_cancel' hstart,
          Nat.add_sub_cancel' (by omega)]
        exact hrest

/-! ### Munching from an offset on -/

/-- Every token of an ordered list starts behind what the first one starts behind. -/
theorem le_start_of_isChain {bound : Int} {tokens : List Token}
    (hnonempty : ∀ t ∈ tokens, t.location.start < t.location.stop)
    (hchain : tokens.IsChain fun t u => t.location.stop ≤ u.location.start)
    (hhead : ∀ t, tokens.head? = some t → bound ≤ t.location.start) :
    ∀ t ∈ tokens, bound ≤ t.location.start := by
  induction tokens generalizing bound with
  | nil => simp
  | cons t ts ih =>
    have hbound : bound ≤ t.location.start := hhead t rfl
    rw [List.isChain_cons] at hchain
    have htail := ih (fun u hu => hnonempty u (List.mem_cons_of_mem t hu)) hchain.2 hchain.1
    intro u hu
    rcases List.mem_cons.mp hu with rfl | hu
    · exact hbound
    · have := htail u hu
      have := hnonempty t List.mem_cons_self
      omega

theorem IsTokenAt.covers_iff {t : Token} {start stop index : Nat}
    (h : IsTokenAt rule source t start stop) :
    t.Covers index ↔ start ≤ index ∧ index < stop := by
  simp only [Token.Covers, h.location_eq]
  omega

/-- What `MunchFrom` says along the token list, said of the list as a whole. -/
theorem munchFrom_iff {offset : Nat} {tokens : List Token} :
    MunchFrom rule source offset tokens ↔
      (∀ t ∈ tokens, ∃ start stop, IsTokenAt rule source t start stop) ∧
      (tokens.IsChain fun t u => t.location.stop ≤ u.location.start) ∧
      (∀ t, tokens.head? = some t → (offset : Int) ≤ t.location.start) ∧
      ∀ index b, offset ≤ index → source[index]? = some b → (∀ t ∈ tokens, ¬ t.Covers index) →
        isGapByte b = true := by
  induction tokens generalizing offset with
  | nil =>
    simp only [MunchFrom, IsGap, Bytes.mem_drop_iff]
    constructor
    · intro h
      exact ⟨by simp, .nil, by simp, fun index b hindex hb _ => h b ⟨index, hindex, hb⟩⟩
    · rintro ⟨-, -, -, h⟩ b ⟨index, hindex, hb⟩
      exact h index b hindex hb (by simp)
  | cons t ts ih =>
    constructor
    · rintro ⟨start, stop, hstart, hgap, htoken, hrest⟩
      obtain ⟨hall, hchain, hhead, houtside⟩ := ih.mp hrest
      refine ⟨?_, ?_, ?_, ?_⟩
      · intro u hu
        rcases List.mem_cons.mp hu with rfl | hu
        · exact ⟨start, stop, htoken⟩
        · exact hall u hu
      · rw [List.isChain_cons]
        refine ⟨fun u hu => ?_, hchain⟩
        rw [htoken.location_eq]
        exact hhead u hu
      · intro u hu
        obtain rfl : t = u := by simpa using hu
        rw [htoken.location_eq]
        exact Int.ofNat_le.mpr hstart
      · intro index b hindex hb huncovered
        -- the byte lies before the token or behind it
        have houtsideToken := huncovered t List.mem_cons_self
        rw [htoken.covers_iff] at houtsideToken
        by_cases hbefore : index < start
        · exact hgap b (Bytes.mem_extract_iff.mpr ⟨index, hindex, hbefore, hb⟩)
        · exact houtside index b (by omega) hb fun u hu => huncovered u (List.mem_cons_of_mem t hu)
    · rintro ⟨hall, hchain, hhead, houtside⟩
      obtain ⟨start, stop, htoken⟩ := hall t List.mem_cons_self
      have hnonempty : ∀ u ∈ ts, u.location.start < u.location.stop := by
        intro u hu
        obtain ⟨ustart, ustop, hu'⟩ := hall u (List.mem_cons_of_mem t hu)
        rw [hu'.location_eq]
        exact Int.ofNat_lt.mpr hu'.nonempty
      rw [List.isChain_cons] at hchain
      have hstop : t.location.stop = stop := by rw [htoken.location_eq]
      have hlater : ∀ u ∈ ts, (stop : Int) ≤ u.location.start :=
        le_start_of_isChain hnonempty hchain.2 (hstop ▸ hchain.1)
      have hstart : offset ≤ start := by
        have := hhead t rfl
        rw [htoken.location_eq] at this
        exact Int.ofNat_le.mp this
      have hstartStop := htoken.nonempty
      refine ⟨start, stop, hstart, ?_, htoken, ih.mpr ⟨?_, hchain.2, hstop ▸ hchain.1, ?_⟩⟩
      · intro b hb
        obtain ⟨index, hindex, hbefore, hb⟩ := Bytes.mem_extract_iff.mp hb
        refine houtside index b hindex hb fun u hu hcovers => ?_
        rcases List.mem_cons.mp hu with rfl | hu
        · rw [htoken.covers_iff] at hcovers
          omega
        · have := hlater u hu
          have := hcovers.1
          omega
      · exact fun u hu => hall u (List.mem_cons_of_mem t hu)
      · intro index b hindex hb huncovered
        refine houtside index b (by omega) hb fun u hu hcovers => ?_
        rcases List.mem_cons.mp hu with rfl | hu
        · rw [htoken.covers_iff] at hcovers
          omega
        · exact huncovered u hu hcovers

theorem maximalMunch_iff_munchFrom {tokens : List Token} :
    MaximalMunch rule source tokens ↔ MunchFrom rule source 0 tokens := by
  rw [munchFrom_iff]
  constructor
  · rintro ⟨hall, hchain, houtside⟩
    refine ⟨hall, hchain, fun t ht => ?_, fun index b _ => houtside index b⟩
    obtain ⟨start, stop, htoken⟩ := hall t (List.mem_of_head? ht)
    rw [htoken.location_eq]
    exact Int.natCast_nonneg start
  · rintro ⟨hall, hchain, -, houtside⟩
    exact ⟨hall, hchain, fun index b => houtside index b (Nat.zero_le index)⟩

end

/-! ### The scanner finds the one tokenisation -/

/-- A fresh scanner takes the tokens of its whole text, and never stands outside of it. -/
theorem Scanner.scan_fresh (rule : KeywordRule) (source : Bytes) :
    ∃ after, ({ input := source, rule := rule } : Scanner).scan =
      .ok (BufferMachine.scan rule source, after) := by
  have hcursor : ({ input := source, rule := rule } : Scanner).cursor = .ok ⟨source, 0, 0⟩ := by
    simp [Scanner.cursor]
  simp only [Scanner.scan, hcursor, BufferMachine.scan, bind, Except.bind]
  cases (Cursor.scan rule ⟨source, 0, 0⟩).result with
  | error d => exact ⟨_, rfl⟩
  | ok tokens => exact ⟨_, rfl⟩

theorem scan_eq_ok_iff {rule : KeywordRule} {source : Bytes} {tokens : List Token} :
    scan rule source = .ok tokens ↔ MaximalMunch rule source tokens := by
  rw [maximalMunch_iff_munchFrom, ← scan_iff_munchFrom (Nat.zero_le _)]
  rfl

/-- **Scanning is maximal munch.**  A fresh scanner succeeds with a token list exactly if the list
is a maximal-munch tokenisation of the text, and a text has no two of them. -/
theorem scanner_finds_maximalMunch (rule : KeywordRule) (source : Bytes) :
    (∀ tokens, (∃ after, ({ input := source, rule := rule } : Scanner).scan =
      .ok (.ok tokens, after)) ↔
      MaximalMunch rule source tokens) ∧
    {tokens | MaximalMunch rule source tokens}.Subsingleton := by
  constructor
  · intro tokens
    obtain ⟨after, hfresh⟩ := Scanner.scan_fresh rule source
    rw [← scan_eq_ok_iff, hfresh]
    constructor
    · rintro ⟨after', heq⟩
      exact congrArg Prod.fst (Except.ok.inj heq)
    · intro heq
      exact ⟨after, by rw [heq]⟩
  · intro tokens htokens others hothers
    rw [Set.mem_ofPred_eq, ← scan_eq_ok_iff] at htokens hothers
    exact Except.ok.inj (htokens.symm.trans hothers)

end BufferMachine
