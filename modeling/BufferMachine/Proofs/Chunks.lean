import BufferMachine.Proofs.Concatenation
import BufferMachine.Session.Accumulator
import Mathlib.Data.List.DropRight

/-!
# Source in chunks

Source that comes in line by line is handed out in chunks, each of them up to a terminator.  The
chunks are cut at bytes, before anything has been scanned, and the blanks around them do not all
survive.  Together they still are the program that the lines are when they are joined, up to the
last terminator.

Only gaps are lost between two chunks, and every chunk ends with a terminator.  So it is enough that
a program text which is cut behind a terminator falls into two program texts
(`programText_append_iff_of_terminator`); this uses that the scanner finds a terminator wherever
there is one, whatever stands before it (`Cursor.exists_segment_of_scan`).  The rest is an induction
on the lines (`Accumulator.programText_chunks_iff`).
-/

namespace BufferMachine

/-! ### Texts that end with a terminator -/

theorem Spelled.count_terminator {rule : KeywordRule} {kind : TokenKind} {lexeme : Bytes}
    (h : Spelled rule kind lexeme) :
    lexeme.count terminator = if kind = .punctuation then 1 else 0 := by
  cases h with
  | punctuation => decide
  | number run => exact List.count_eq_zero.mpr (not_mem_of_forall run.all (by decide))
  | keyword identifier _ =>
    exact List.count_eq_zero.mpr (not_mem_of_forall identifier.all_word (by decide))
  | operator run => exact List.count_eq_zero.mpr (not_mem_of_forall run.all (by decide))

theorem segment_cons_of_not_terminator {t : Token} {ts : List Token} {s : Statement}
    {ss : List Statement} (ht : t.isTerminator = false) (h : segment ts = (s :: ss, [])) :
    segment (t :: ts) = ({ s with tokens := t :: s.tokens } :: ss, []) := by
  simp [segment, ht, h]

/-- What a text with a terminator at its end is scanned to falls into statements, one for each
terminator byte. -/
theorem Cursor.exists_segment_of_scan {rule : KeywordRule} {text : Bytes} {offset newlines : Nat}
    {tokens : List Token} (hlast : text.getLast? = some terminator)
    (hscan : (scan rule ⟨text, offset, newlines⟩).result = .ok tokens) :
    ∃ ss, segment tokens = (ss, []) ∧ ss.length = text.count terminator := by
  induction text using lexicalInduction rule generalizing offset newlines tokens with
  | nil => cases hlast
  | gap b rest hgap ih =>
    have hb : b ≠ terminator := (isGapByte_iff.mp hgap).2.2
    rw [scan_gap_cons rule _ _ _ hgap] at hscan
    cases rest with
    | nil => exact absurd (by simpa using hlast) hb
    | cons c rest =>
      rw [List.getLast?_cons_cons] at hlast
      rw [List.count_cons_of_ne hb]
      exact ih hlast hscan
  | lexeme kind lexeme rest hspelled hend ih =>
    rw [scan_spelled _ _ hspelled hend, Scanned.result_cons, Outcome.map_eq_ok] at hscan
    obtain ⟨tokens, hscan, rfl⟩ := hscan
    have hkind : (lexemeAt offset newlines kind lexeme).isTerminator = true ↔
        kind = .punctuation := by
      simp [Token.isTerminator, lexemeAt]
    rw [List.count_append, hspelled.count_terminator]
    by_cases hrest : rest = []
    · -- the terminator at the end of the text is the lexeme itself
      subst hrest
      rw [List.append_nil] at hlast
      have hpunctuation : kind = .punctuation := by
        by_contra hne
        have hcount := hspelled.count_terminator
        rw [if_neg hne, List.count_eq_zero] at hcount
        exact hcount (List.mem_of_getLast? hlast)
      rw [scan_nil] at hscan
      cases hscan
      rw [segment_terminator (hkind.mpr hpunctuation), if_pos hpunctuation]
      exact ⟨_, rfl, rfl⟩
    · rw [List.getLast?_append_of_ne_nil _ hrest] at hlast
      obtain ⟨ss, hsegment, hlength⟩ := ih hlast hscan
      by_cases hpunctuation : kind = .punctuation
      · rw [segment_terminator (hkind.mpr hpunctuation), if_pos hpunctuation, hsegment]
        exact ⟨_, rfl, by rw [List.length_cons, hlength, Nat.add_comm]⟩
      · have hpos : 0 < ss.length := hlength ▸ List.count_pos_iff.mpr (List.mem_of_getLast? hlast)
        obtain ⟨s, ss, rfl⟩ := List.exists_cons_of_length_pos hpos
        rw [segment_cons_of_not_terminator (Bool.not_eq_true _ ▸ mt hkind.mp hpunctuation) hsegment,
          if_neg hpunctuation, Nat.zero_add]
        exact ⟨_, rfl, hlength⟩
  | refused word rest hrefused hend =>
    rw [scan_refused _ _ hrefused hend] at hscan
    cases hscan

theorem closed_of_terminator {text : Bytes} (h : text.getLast? = some terminator) :
    Closed text := by
  obtain ⟨front, rfl⟩ := List.getLast?_eq_some_iff.mp h
  exact closed_terminator front

/-! ### Program texts in pieces -/

theorem ProgramText.gap_append {gap text : Bytes} {is : List Instruction} (hgap : IsGap gap)
    (h : ProgramText is text) :
    ProgramText is (gap ++ text) := by
  cases h with
  | nil hgap' => exact .nil (List.forall_mem_append.mpr ⟨hgap, hgap'⟩)
  | cons hgap' hstatement hrest =>
    rw [← List.append_assoc, ← List.append_assoc]
    exact .cons (List.forall_mem_append.mpr ⟨hgap, hgap'⟩) hstatement hrest

theorem ProgramText.append {a b : Bytes} {is js : List Instruction} (ha : ProgramText is a)
    (hb : ProgramText js b) :
    ProgramText (is ++ js) (a ++ b) := by
  induction ha with
  | nil hgap => exact hb.gap_append hgap
  | cons hgap hstatement _ ih =>
    rw [List.append_assoc]
    exact .cons hgap hstatement ih

/-- Behind a program text, a text makes a longer program exactly if it is one itself. -/
theorem programText_append_iff {a b : Bytes} {is js : List Instruction} (ha : ProgramText is a) :
    ProgramText js (a ++ b) ↔ ∃ is', ProgramText is' b ∧ js = is ++ is' := by
  constructor
  · intro h
    obtain ⟨ra, hra, -⟩ := compile_eq_ok_iff_programText.mpr ⟨is, ha, rfl⟩
    obtain ⟨r, hr, -⟩ := compile_eq_ok_iff_programText.mpr ⟨js, h, rfl⟩
    cases hb : compile .exact 0 b with
    | error e =>
      rw [compile_append_error hra hb] at hr
      cases hr
    | ok rb =>
      obtain ⟨is', hb', -⟩ := compile_eq_ok_iff_programText.mp ⟨rb, hb, rfl⟩
      exact ⟨is', hb', h.unique (ha.append hb')⟩
  · rintro ⟨is', hb, rfl⟩
    exact ha.append hb

theorem programText_gap_append_iff {gap text : Bytes} {is : List Instruction} (hgap : IsGap gap) :
    ProgramText is (gap ++ text) ↔ ProgramText is text := by
  rw [programText_append_iff (.nil hgap)]
  simp

/-- What stands before a terminator in a program text is a program text. -/
theorem ProgramText.of_append {a b : Bytes} {js : List Instruction} (h : ProgramText js (a ++ b))
    (ha : a.getLast? = some terminator) : ∃ is, ProgramText is a := by
  obtain ⟨tokens, ss, hscan, hsegment, hforms⟩ := compiles_of_programText h .exact 0 0
  rw [Cursor.scan_append .exact (closed_of_terminator ha), Outcome.bind_eq_ok] at hscan
  obtain ⟨tokensA, hscanA, hscanB⟩ := hscan
  obtain ⟨tokensB, -, rfl⟩ := Outcome.map_eq_ok.mp hscanB
  obtain ⟨ssA, hsegmentA, -⟩ := Cursor.exists_segment_of_scan ha hscanA
  rw [segment_append hsegmentA, Prod.mk.injEq] at hsegment
  obtain ⟨rfl, -⟩ := hsegment
  exact ⟨_, programText_of_compiles hscanA
    ⟨hsegmentA, (List.forall₂_take_append _ _ _ hforms.flip).flip⟩⟩

/-- A program text that is cut behind a terminator falls into two. -/
theorem programText_append_iff_of_terminator {a b : Bytes} {js : List Instruction}
    (ha : a.getLast? = some terminator) :
    ProgramText js (a ++ b) ↔ ∃ is is', ProgramText is a ∧ ProgramText is' b ∧ js = is ++ is' := by
  constructor
  · intro h
    obtain ⟨is, hfirst⟩ := h.of_append ha
    obtain ⟨is', hsecond, rfl⟩ := (programText_append_iff hfirst).mp h
    exact ⟨is, is', hfirst, hsecond, rfl⟩
  · rintro ⟨is, is', hfirst, hsecond, rfl⟩
    exact hfirst.append hsecond

/-! ### Up to the last terminator -/

/-- A text up to its last terminator; nothing is left of a text without one. -/
def complete (text : Bytes) : Bytes := text.rdropWhile (· ≠ terminator)

theorem complete_of_not_mem {text : Bytes} (h : terminator ∉ text) : complete text = [] := by
  rw [complete, List.rdropWhile_eq_nil_iff]
  intro b hb
  rw [decide_eq_true_eq]
  rintro rfl
  exact h hb

theorem complete_append (a b : Bytes) :
    complete (a ++ b) = if complete b = [] then complete a else a ++ complete b := by
  simp only [complete, List.rdropWhile, List.reverse_append, List.dropWhile_append,
    List.isEmpty_iff, List.reverse_eq_nil_iff]
  split <;> simp

theorem complete_append_of_terminator {a : Bytes} (ha : a.getLast? = some terminator) (b : Bytes) :
    complete (a ++ b) = a ++ complete b := by
  have hself : complete a = a := by
    rw [complete, List.rdropWhile_eq_self_iff]
    intro hne
    have hlast : a.getLast hne = terminator := by
      rw [List.getLast?_eq_some_getLast hne] at ha
      exact Option.some.inj ha
    simp [hlast]
  rw [complete_append, hself]
  split
  · next hb => rw [hb, List.append_nil]
  · rfl

theorem programText_complete_gap_append_iff {gap text : Bytes} {is : List Instruction}
    (hgap : IsGap gap) :
    ProgramText is (complete (gap ++ text)) ↔ ProgramText is (complete text) := by
  have hnone : terminator ∉ gap := fun hmem => absurd (hgap terminator hmem) (by decide)
  rw [complete_append]
  split
  · next htext => rw [complete_of_not_mem hnone, htext]
  · exact programText_gap_append_iff hgap

/-! ### The chunks of an accumulator -/

theorem Bytes.cutAfterLast?_eq_none {mark : UInt8} {text : Bytes}
    (h : cutAfterLast? mark text = none) : mark ∉ text := by
  induction text with
  | nil => exact List.not_mem_nil
  | cons b rest ih =>
    unfold cutAfterLast? at h
    split at h
    · cases h
    · next hrest =>
      split at h
      · cases h
      · next hb =>
        rw [List.mem_cons, not_or]
        exact ⟨Ne.symm hb, ih hrest⟩

theorem Bytes.cutAfterLast?_eq_some {mark : UInt8} {text before after : Bytes}
    (h : cutAfterLast? mark text = some (before, after)) :
    text = before ++ after ∧ before.getLast? = some mark ∧ mark ∉ after := by
  induction text generalizing before with
  | nil => cases h
  | cons b rest ih =>
    unfold cutAfterLast? at h
    split at h
    · next before' after' hrest =>
      obtain ⟨rfl, rfl⟩ := Prod.mk.inj (Option.some.inj h)
      obtain ⟨rfl, hlast, hafter⟩ := ih hrest
      refine ⟨rfl, ?_, hafter⟩
      rw [List.getLast?_cons, hlast]
      rfl
    · next hrest =>
      split at h
      · next hb =>
        obtain ⟨rfl, rfl⟩ := Prod.mk.inj (Option.some.inj h)
        exact ⟨rfl, by rw [hb]; rfl, cutAfterLast?_eq_none hrest⟩
      · cases h

namespace Accumulator

/-- What an accumulator hands out when it is fed lines one after the other. -/
def chunks (a : Accumulator) : List Bytes → List Bytes
  | [] => []
  | line :: lines => (a.feed line).1.toList ++ (a.feed line).2.chunks lines

/-- Before a line nothing but a gap is lost. -/
theorem exists_extended_eq (a : Accumulator) (line : Bytes) :
    ∃ gap, IsGap gap ∧ a.pending ++ newline :: line = gap ++ a.extended line := by
  unfold extended
  split
  · next hempty =>
    rw [List.isEmpty_iff] at hempty
    exact ⟨[newline], by decide, by rw [hempty]; rfl⟩
  · exact ⟨[], isGap_nil, by simp⟩

theorem isGap_of_isMargin {margin : Bytes} (h : ∀ b ∈ margin, isMargin b = true) :
    IsGap margin := by
  intro b hb
  have hmargin := h b hb
  simp only [isMargin, Bool.or_eq_true, beq_iff_eq] at hmargin
  rcases hmargin with (rfl | rfl) | rfl
  · decide
  · decide
  · decide

/-- A line is kept as long as there is no terminator; otherwise all up to the last one is handed
out, and of what stands behind it all but the margin at its front is kept. -/
theorem feed_cases (a : Accumulator) (line : Bytes) :
    (terminator ∉ a.extended line ∧ a.feed line = (none, ⟨a.extended line⟩)) ∨
      ∃ chunk margin pending, a.extended line = chunk ++ (margin ++ pending) ∧
        chunk.getLast? = some BufferMachine.terminator ∧ (∀ b ∈ margin, isMargin b = true) ∧
        (∀ b ∈ pending.head?, isMargin b = false) ∧ terminator ∉ pending ∧
          a.feed line = (some chunk, ⟨pending⟩) := by
  unfold feed
  cases hcut : Bytes.cutAfterLast? terminator (a.extended line) with
  | none => exact Or.inl ⟨Bytes.cutAfterLast?_eq_none hcut, rfl⟩
  | some parts =>
    obtain ⟨chunk, rest⟩ := parts
    obtain ⟨hsplit, hlast, hrest⟩ := Bytes.cutAfterLast?_eq_some hcut
    refine Or.inr
      ⟨chunk, rest.takeWhile isMargin, rest.dropWhile isMargin, ?_, hlast, ?_, ?_, ?_, rfl⟩
    · rw [List.takeWhile_append_dropWhile]
      exact hsplit
    · exact List.all_eq_true.mp List.all_takeWhile
    · intro b hb
      have hhead := List.head?_dropWhile_not isMargin rest
      rw [Option.mem_def.mp hb] at hhead
      exact hhead
    · exact fun hmem => hrest (List.dropWhile_sublist _ |>.subset hmem)

theorem getLast?_of_feed {a : Accumulator} {line chunk : Bytes} (h : (a.feed line).1 = some chunk) :
    chunk.getLast? = some BufferMachine.terminator := by
  rcases a.feed_cases line with ⟨-, hfeed⟩ | ⟨chunk', _, _, -, hlast, -, -, -, hfeed⟩
  · rw [hfeed] at h
    cases h
  · rw [hfeed] at h
    obtain rfl := Option.some.inj h
    exact hlast

/-- **The chunks make up the whole.**  What is pending and the lines behind it are read, up to the
last terminator, as the chunks are that the accumulator hands out for these lines. -/
theorem programText_chunks_iff {a : Accumulator} (ha : terminator ∉ a.pending) (lines : List Bytes)
    (is : List Instruction) :
    ProgramText is (complete (a.pending ++ lines.flatMap (newline :: ·))) ↔
      ∃ iss, List.Forall₂ ProgramText iss (a.chunks lines) ∧ is = iss.flatten := by
  induction lines generalizing a is with
  | nil =>
    rw [List.flatMap_nil, List.append_nil, complete_of_not_mem ha]
    simp only [chunks, List.forall₂_nil_right_iff, exists_eq_left, List.flatten_nil]
    constructor
    · intro h
      exact h.unique (.nil isGap_nil)
    · rintro rfl
      exact .nil isGap_nil
  | cons line lines ih =>
    obtain ⟨gap, hgap, hextended⟩ := a.exists_extended_eq line
    have hsplit : a.pending ++ (line :: lines).flatMap (newline :: ·) =
        gap ++ (a.extended line ++ lines.flatMap (newline :: ·)) := by
      rw [List.flatMap_cons, ← List.append_assoc, hextended, List.append_assoc]
    rw [hsplit, programText_complete_gap_append_iff hgap, chunks]
    -- the line stays pending as a whole, or it ends a chunk and the gap behind the chunk is lost as
    -- well
    rcases a.feed_cases line with
      ⟨hnone, hfeed⟩ | ⟨chunk, margin, pending, hchunk, hlast, hmargin, -, hpending, hfeed⟩
    · rw [hfeed, ih (a := ⟨a.extended line⟩) hnone]
      rfl
    · have hrest := ih (a := ⟨pending⟩) hpending
      rw [hfeed, hchunk, List.append_assoc, complete_append_of_terminator hlast,
        programText_append_iff_of_terminator hlast, List.append_assoc]
      simp only [programText_complete_gap_append_iff (isGap_of_isMargin hmargin), hrest,
        Option.toList_some, List.singleton_append, List.forall₂_cons_right_iff]
      constructor
      · rintro ⟨is, -, hfirst, ⟨iss, hiss, rfl⟩, rfl⟩
        exact ⟨is :: iss, ⟨is, iss, hfirst, hiss, rfl⟩, rfl⟩
      · rintro ⟨-, ⟨is, iss, hfirst, hiss, rfl⟩, rfl⟩
        exact ⟨is, _, hfirst, ⟨iss, hiss, rfl⟩, rfl⟩

end Accumulator

theorem flatMap_newline_cons (line : Bytes) (lines : List Bytes) :
    (line :: lines).flatMap (newline :: ·) =
      newline :: List.intercalate [newline] (line :: lines) := by
  induction lines generalizing line with
  | nil => simp
  | cons next lines ih =>
    rw [List.flatMap_cons, ih, List.intercalate_cons_cons, List.append_assoc]
    rfl

/-- Lines that are fed to a fresh accumulator are read in chunks as they are when they are
joined. -/
theorem programText_intercalate_iff (lines : List Bytes) (is : List Instruction) :
    ProgramText is (complete (List.intercalate [newline] lines)) ↔
      ∃ iss, List.Forall₂ ProgramText iss (({} : Accumulator).chunks lines) ∧ is = iss.flatten := by
  have hpieces := Accumulator.programText_chunks_iff (a := {}) List.not_mem_nil lines is
  rw [← hpieces, List.nil_append]
  cases lines with
  | nil => rfl
  | cons line lines =>
    rw [flatMap_newline_cons]
    exact (programText_complete_gap_append_iff (by decide : IsGap [newline])).symm

end BufferMachine
