import BufferMachine.Diagnostic.Report
import BufferMachine.Proofs.Chunks
import BufferMachine.Proofs.Places

/-!
# Every place can be reported

A report by offsets cuts the source at offsets that it has looked up itself, and any whole numbers
may have been given for the place.  It is never refused: wherever the place is said to lie, its
start moved into the source lies on exactly one line (`LineAround`), and all offsets of the report
are offsets of that line.

The line break before the place is searched backwards and the one behind it forwards.  Either search
finds the end of the line because a text falls in one way only into lines and a part of a line
(`lineBefore_append`, `lineAfter_append`).
-/

namespace BufferMachine

/-! ### The line around an offset -/

/-- The line of a text on which an offset lies, with all that stands before and after it.  The line
feed behind a line counts as lying on it. -/
structure LineAround (source : Bytes) (offset : Nat) where
  before : Bytes
  line : Bytes
  after : Bytes
  source_eq : source = before ++ line ++ after
  before_end : ∀ b, before.getLast? = some b → b = newline
  no_newline : newline ∉ line
  after_begin : ∀ b, after.head? = some b → b = newline
  start_le : before.length ≤ offset
  le_stop : offset ≤ before.length + line.length

namespace Diagnostic

theorem lineAfter_append {line after : Bytes} (hline : newline ∉ line)
    (hafter : ∀ b, after.head? = some b → b = newline) :
    lineAfter (line ++ after) = line := by
  apply And.left
  apply CodeText.takeWhile_dropWhile_append
  · intro b hb
    rw [decide_eq_true_eq]
    rintro rfl
    exact hline hb
  · intro b hb
    rw [decide_eq_false_iff_not, not_not]
    exact hafter b hb

theorem lineBefore_append {before line : Bytes}
    (hbefore : ∀ b, before.getLast? = some b → b = newline) (hline : newline ∉ line) :
    lineBefore (before ++ line) = line := by
  -- the same, read from the other end
  have hreverse : lineAfter (line.reverse ++ before.reverse) = line.reverse := by
    apply lineAfter_append
    · rwa [List.mem_reverse]
    · intro b hb
      rw [List.head?_reverse] at hb
      exact hbefore b hb
  rw [lineAfter, ← List.reverse_append] at hreverse
  rw [lineBefore, hreverse, List.reverse_reverse]

end Diagnostic

/-! ### The two searches -/

theorem Bytes.cut?_eq_none {separator : UInt8} {text : Bytes} (h : cut? separator text = none) :
    separator ∉ text := by
  induction text with
  | nil => exact List.not_mem_nil
  | cons b rest ih =>
    unfold cut? at h
    split at h
    · cases h
    · next hb =>
      rw [List.mem_cons, not_or]
      exact ⟨Ne.symm hb, ih (Option.map_eq_none_iff.mp h)⟩

theorem Bytes.cut?_eq_some {separator : UInt8} {text before after : Bytes}
    (h : cut? separator text = some (before, after)) :
    text = before ++ separator :: after ∧ separator ∉ before := by
  induction text generalizing before with
  | nil => cases h
  | cons b rest ih =>
    unfold cut? at h
    split at h
    · next hb =>
      cases h
      exact ⟨by rw [hb]; rfl, List.not_mem_nil⟩
    · next hb =>
      obtain ⟨⟨before', after'⟩, hrest, heq⟩ := Option.map_eq_some_iff.mp h
      cases heq
      obtain ⟨rfl, hbefore⟩ := ih hrest
      refine ⟨rfl, ?_⟩
      rw [List.mem_cons, not_or]
      exact ⟨Ne.symm hb, hbefore⟩

namespace Diagnostic

theorem lastLineStart_add_length (text : Bytes) :
    lastLineStart text + (lineBefore text).length = text.length := by
  unfold lastLineStart
  split
  · next before line hcut =>
    obtain ⟨rfl, hlast, hline⟩ := Bytes.cutAfterLast?_eq_some hcut
    have hbefore : ∀ b, before.getLast? = some b → b = newline := by
      intro b hb
      rw [hlast] at hb
      exact (Option.some.inj hb).symm
    rw [lineBefore_append hbefore hline, List.length_append]
    rfl
  · next hcut =>
    have hline : lineBefore ([] ++ text) = text :=
      lineBefore_append (by simp) (Bytes.cutAfterLast?_eq_none hcut)
    rw [List.nil_append] at hline
    rw [hline, Int.zero_add]

theorem firstLineLength_eq (text : Bytes) : firstLineLength text = (lineAfter text).length := by
  unfold firstLineLength
  split
  · next line after hcut =>
    obtain ⟨rfl, hline⟩ := Bytes.cut?_eq_some hcut
    rw [lineAfter_append hline (by simp)]
  · next hcut =>
    have hline : lineAfter (text ++ []) = text :=
      lineAfter_append (Bytes.cut?_eq_none hcut) (by simp)
    rw [List.append_nil] at hline
    rw [hline]

end Diagnostic

/-! ### The line around an offset is found from both sides -/

namespace LineAround

open Diagnostic

variable {source : Bytes} {offset : Nat} (l : LineAround source offset)

/-- How many bytes of the line come before the offset. -/
def column : Nat := offset - l.before.length

theorem before_add_column : l.before.length + l.column = offset := Nat.add_sub_cancel' l.start_le

theorem column_le : l.column ≤ l.line.length := Nat.sub_le_iff_le_add'.mpr l.le_stop

theorem take_offset : source.take offset = l.before ++ l.line.take l.column :=
  calc source.take offset
    _ = (l.before ++ (l.line ++ l.after)).take offset := by rw [← List.append_assoc, ← l.source_eq]
    _ = l.before ++ (l.line ++ l.after).take l.column := by
      rw [List.take_append, List.take_of_length_le l.start_le, column]
    _ = l.before ++ l.line.take l.column := by rw [List.take_append_of_le_length l.column_le]

theorem drop_offset : source.drop offset = l.line.drop l.column ++ l.after :=
  calc source.drop offset
    _ = (l.before ++ (l.line ++ l.after)).drop offset := by rw [← List.append_assoc, ← l.source_eq]
    _ = (l.line ++ l.after).drop l.column := by
      rw [List.drop_append, List.drop_of_length_le l.start_le, column, List.nil_append]
    _ = l.line.drop l.column ++ l.after := by rw [List.drop_append_of_le_length l.column_le]

theorem lineBefore_take : lineBefore (source.take offset) = l.line.take l.column := by
  rw [l.take_offset]
  exact lineBefore_append l.before_end fun hmem => l.no_newline (List.mem_of_mem_take hmem)

theorem lineAfter_drop : lineAfter (source.drop offset) = l.line.drop l.column := by
  rw [l.drop_offset]
  exact lineAfter_append (fun hmem => l.no_newline (List.mem_of_mem_drop hmem)) l.after_begin

theorem line_eq : l.line = lineBefore (source.take offset) ++ lineAfter (source.drop offset) := by
  rw [l.lineBefore_take, l.lineAfter_drop, List.take_append_drop]

/-- An offset lies on one line only. -/
theorem unique (l' : LineAround source offset) : l' = l := by
  have hline : l'.line = l.line := l'.line_eq.trans l.line_eq.symm
  have hcolumn : l'.column = l.column := by
    have hlength := congrArg List.length (l'.lineBefore_take.symm.trans l.lineBefore_take)
    rw [List.length_take_of_le l'.column_le, List.length_take_of_le l.column_le] at hlength
    exact hlength
  have hbefore : l'.before = l.before := by
    have htake := l'.take_offset.symm.trans l.take_offset
    rw [hline, hcolumn] at htake
    exact List.append_cancel_right htake
  have hafter : l'.after = l.after := by
    have hdrop := l'.drop_offset.symm.trans l.drop_offset
    rw [hline, hcolumn] at hdrop
    exact List.append_cancel_left hdrop
  cases l
  cases l'
  cases hline
  cases hbefore
  cases hafter
  rfl

end LineAround

theorem Bytes.newline_of_unlines {lines : List Bytes} {b : UInt8}
    (h : (unlines lines).getLast? = some b) : b = newline := by
  rcases List.eq_nil_or_concat lines with rfl | ⟨front, line, rfl⟩
  · cases h
  · simp [unlines] at h
    exact h.symm

/-- Every offset of a text lies on a line. -/
theorem exists_lineAround {source : Bytes} {offset : Nat} (h : offset ≤ source.length) :
    Nonempty (LineAround source offset) := by
  obtain ⟨lines, -, -, hbefore, htake⟩ := Diagnostic.exists_lines (source.take offset)
  obtain ⟨rest, hafter, hdrop, hrest⟩ := Diagnostic.exists_lineAfter (source.drop offset)
  have hlength := congrArg List.length htake
  rw [List.length_take_of_le h, List.length_append] at hlength
  refine ⟨⟨Bytes.unlines lines, Diagnostic.lineBefore (source.take offset) ++
    Diagnostic.lineAfter (source.drop offset), rest, ?_, fun b =>
      Bytes.newline_of_unlines, ?_, ?_, ?_, ?_⟩⟩
  · rw [← List.append_assoc, ← htake, List.append_assoc, ← hdrop, List.take_append_drop]
  · rw [List.mem_append, not_or]
    exact ⟨hbefore, hafter⟩
  · intro b hb
    rcases hrest with rfl | ⟨more, rfl⟩
    · cases hb
    · exact (Option.some.inj hb).symm
  · omega
  · rw [List.length_append]
    omega

/-! ### Reports are not refused -/

namespace Bytes

theorem slice_of_append {text before piece after : Bytes} (htext : text = before ++ piece ++ after)
    {start stop : Int} (hstart : start = before.length)
    (hstop : stop = before.length + piece.length) : text.slice start stop = .ok piece := by
  subst hstart hstop htext
  have hinside : (0 : Int) ≤ before.length ∧ (before.length : Int) ≤ before.length + piece.length ∧
      (before.length : Int) + piece.length ≤ (before ++ piece ++ after).length := by
    simp only [List.length_append]
    omega
  have hextract :
      (before ++ piece ++ after).extract before.length (before.length + piece.length) = piece := by
    simp [List.extract_eq_take_drop]
  rw [slice, if_pos hinside, Int.toNat_natCast, ← Int.natCast_add, Int.toNat_natCast, hextract]

theorem repeated_of_natCast {count : Int} {n : Nat} (h : count = n) (b : UInt8) :
    repeated count b = .ok (List.replicate n b) := by
  subst h
  rw [repeated, if_pos (Int.natCast_nonneg n), Int.toNat_natCast]

end Bytes

namespace LineAround

open Diagnostic

variable {source : Bytes} {offset : Nat} (l : LineAround source offset)

theorem offset_le (l : LineAround source offset) : offset ≤ source.length := by
  have hlength := congrArg List.length l.source_eq
  have hstop := l.le_stop
  simp only [List.length_append] at hlength
  omega

theorem lastLineStart_take : lastLineStart (source.take offset) = l.before.length := by
  have hsum := lastLineStart_add_length (source.take offset)
  have hcolumn := l.before_add_column
  rw [l.lineBefore_take, List.length_take_of_le l.column_le,
    List.length_take_of_le l.offset_le] at hsum
  omega

theorem offset_add_firstLineLength_drop :
    offset + firstLineLength (source.drop offset) = l.before.length + l.line.length := by
  have hcolumn := l.before_add_column
  have hle := l.column_le
  rw [firstLineLength_eq, l.lineAfter_drop, List.length_drop]
  omega

end LineAround

namespace Diagnostic

/-- The report on a place is the line around its start, with the mark below it. -/
theorem reportAt_eq {location : Location} {source : Bytes} {offset tildes : Nat}
    (l : LineAround source offset)
    (hoffset : (offset : Int) = max 0 (min location.start source.length))
    (htildes : (tildes : Int) =
      max 0 (min location.stop (l.before.length + l.line.length) - offset - 1))
    (stage message : Bytes) :
    reportAt stage location message source =
      .ok (stage ++ bytes " error found on line " ++ Decimal.ofInt location.line ++ bytes ":\n" ++
        l.line ++ [newline] ++
        List.replicate l.column (byte ' ') ++ [byte '^'] ++ List.replicate tildes (byte '~') ++
          [byte ' '] ++ message ++
        [newline]) := by
  have hlength := List.length_take_of_le l.offset_le
  have hbefore : source.slice 0 offset = .ok (source.take offset) := by
    have hsource : source = [] ++ source.take offset ++ source.drop offset := by simp
    exact Bytes.slice_of_append hsource rfl (by simp [hlength])
  have hafter : source.slice offset source.length = .ok (source.drop offset) := by
    have hsource : source = source.take offset ++ source.drop offset ++ [] := by simp
    apply Bytes.slice_of_append hsource
    · rw [hlength]
    · rw [← Int.natCast_add, ← List.length_append, List.take_append_drop]
  have hline : source.slice l.before.length (l.before.length + l.line.length) = .ok l.line :=
    Bytes.slice_of_append l.source_eq rfl rfl
  have hblanks : Bytes.repeated (offset - l.before.length) (byte ' ') =
      .ok (List.replicate l.column (byte ' ')) := by
    apply Bytes.repeated_of_natCast
    have hcolumn := l.before_add_column
    omega
  have hmark := Bytes.repeated_of_natCast htildes.symm (byte '~')
  simp only [reportAt, ← hoffset, hbefore, hafter, Outcome.ok_bind, l.lastLineStart_take,
    l.offset_add_firstLineLength_drop, hline, hblanks, hmark]
  rfl

/-- A report by offsets is what is rendered. -/
theorem report_eq_render (d : Diagnostic) (source : Bytes) :
    d.report source = .ok (d.render source) := by
  obtain ⟨offset, hclamp⟩ : ∃ offset, clamp d.location.start source.length = offset := ⟨_, rfl⟩
  have hoffset : (offset : Int) = max 0 (min d.location.start source.length) := by
    rw [← hclamp, clamp]
    omega
  have hle : offset ≤ source.length := by omega
  obtain ⟨l⟩ := exists_lineAround hle
  have hcolumn : (lineBefore (source.take offset)).length = l.column := by
    rw [l.lineBefore_take, List.length_take_of_le l.column_le]
  have hstop : offset + (lineAfter (source.drop offset)).length = l.before.length +
      l.line.length := by
    have hlength := l.offset_add_firstLineLength_drop
    rw [firstLineLength_eq] at hlength
    omega
  have htildes :
    ((min d.location.stop (l.before.length + l.line.length : Nat) - offset - 1).toNat : Int) =
      max 0 (min d.location.stop (l.before.length + l.line.length) - offset - 1) := by omega
  rw [report, reportAt_eq l hoffset htildes]
  simp only [render, underline, hclamp, hstop, hcolumn, ← l.line_eq, List.append_assoc]

/-- **Every place can be reported.**  Whatever numbers are given for a place, a report on it is not
refused.  The start of the place, moved into the source, lies on one line only.  The report shows
this line, and below it a mark behind as many blanks as there are bytes of the line before the
start, which reaches to the end of the place or of the line: it does not reach beyond the line
unless it stands behind it.  This is also what is rendered. -/
theorem every_place_is_reported :
    (∀ (stage : Bytes) (location : Location) (message source : Bytes),
      ∃ (offset column tildes : Nat) (l : LineAround source offset),
        (∀ l' : LineAround source offset, l' = l) ∧
        (offset : Int) = max 0 (min location.start source.length) ∧
        l.before.length + column = offset ∧ column ≤ l.line.length ∧
        (tildes : Int) = max 0 (min location.stop (l.before.length + l.line.length) - offset - 1) ∧
        (column < l.line.length → column + 1 + tildes ≤ l.line.length) ∧
        reportAt stage location message source =
          .ok (stage ++ bytes " error found on line " ++ Decimal.ofInt location.line ++
            bytes ":\n" ++ l.line ++ [newline] ++
            List.replicate column (byte ' ') ++ [byte '^'] ++ List.replicate tildes (byte '~') ++
              [byte ' '] ++ message ++
            [newline])) ∧
    ∀ (d : Diagnostic) (source : Bytes), d.report source = .ok (d.render source) := by
  constructor
  · intro stage location message source
    obtain ⟨offset, hoffset⟩ : ∃ offset : Nat,
      (offset : Int) = max 0 (min location.start source.length) :=
      Int.eq_ofNat_of_zero_le (Int.le_max_left _ _) |>.imp fun _ => Eq.symm
    have hle : offset ≤ source.length := by omega
    obtain ⟨l⟩ := exists_lineAround hle
    obtain ⟨tildes, htildes⟩ : ∃ tildes : Nat,
        (tildes : Int) = max 0 (min location.stop (l.before.length + l.line.length) - offset - 1) :=
      Int.eq_ofNat_of_zero_le (Int.le_max_left _ _) |>.imp fun _ => Eq.symm
    have hcolumn := l.before_add_column
    have hreport := reportAt_eq l hoffset htildes stage message
    refine ⟨offset, l.column, tildes, l, l.unique, hoffset, hcolumn, l.column_le, htildes,
      ?_, hreport⟩
    intro hinside
    omega
  · exact report_eq_render

end Diagnostic

end BufferMachine
