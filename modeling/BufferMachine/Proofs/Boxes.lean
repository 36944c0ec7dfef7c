import BufferMachine.Proofs.Characters
import BufferMachine.Text.Box
import Mathlib.Data.List.Forall2
import Mathlib.Data.List.TakeWhile

/-!
# Reading boxed tables

A table whose cells are visible, that is, without blanks and of ASCII characters only, is a
rectangle, and its cells can be read off it.  Such a cell is one line, and it takes as many columns
of the screen as it has bytes (`Box.width_visible`).  So the columns are as wide as their longest
cells, and no cell is cut off (`Box.widths_fit`).

`Measures text n` says that a piece of a line has so many characters.  All lines of a table have the
same number of them, three for each column beside its width and one for the left end
(`Box.Grid.measures_lines`).  `Box.cells` takes a line apart at its vertical bars
(`Box.cells_lineText`).
-/

namespace BufferMachine

/-! ### Visible texts -/

/-- A list without what satisfies the predicate at its two ends. -/
def stripped {α : Type} (p : α → Bool) (xs : List α) : List α :=
  ((xs.dropWhile p).reverse.dropWhile p).reverse

theorem stripped_padded {α : Type} {p : α → Bool} {before xs after : List α}
    (hbefore : ∀ x ∈ before, p x = true) (hxs : ∀ x ∈ xs, p x = false)
    (hafter : ∀ x ∈ after, p x = true) : stripped p (before ++ xs ++ after) = xs := by
  unfold stripped
  rw [List.append_assoc, List.dropWhile_append_of_pos hbefore]
  -- nothing in an empty list stops the first pass, so that it takes what is behind the list as well
  cases xs with
  | nil =>
    have hnone : after.dropWhile p = [] := by simpa using hafter
    rw [List.nil_append, hnone]
    rfl
  | cons x xs =>
    have hfirst : p x = false := hxs x (by simp)
    have hlast : (x :: xs).reverse.dropWhile p = (x :: xs).reverse := by
      rw [List.dropWhile_eq_self_iff]
      intro hpos
      have hmem := List.getElem_mem hpos
      rw [List.mem_reverse] at hmem
      simpa using hxs _ hmem
    rw [List.cons_append, List.dropWhile_cons_of_neg (by simp [hfirst]), ← List.cons_append,
      List.reverse_append, List.dropWhile_append_of_pos (by simpa using hafter), hlast,
      List.reverse_reverse]

namespace Text

theorem isBlank_visible {code : Nat} (h : 0x20 < code ∧ code < 0x7F) : isBlank code = false := by
  simp only [isBlank, Bool.or_eq_false_iff, Bool.and_eq_false_iff, decide_eq_false_iff_not,
    beq_eq_false_iff_ne]
  omega

theorem trim_visible {text : Bytes} (h : IsVisible text) : trim text = text := by
  have hkept : stripped isBlankCharacter (Utf8.characters text) = Utf8.characters text := by
    have hblank : ∀ r ∈ Utf8.characters text, isBlankCharacter r = false := by
      rw [Utf8.characters_ascii h.isAscii]
      intro r hr
      obtain ⟨b, hb, rfl⟩ := List.mem_map.mp hr
      exact isBlank_visible (h b hb)
    have hpadded := stripped_padded (List.forall_mem_nil _) hblank (List.forall_mem_nil _)
    rwa [List.append_nil, List.nil_append] at hpadded
  have htrim : trim text =
    Utf8.ofCharacters (stripped isBlankCharacter (Utf8.characters text)) := rfl
  rw [htrim, hkept, Utf8.characters_ascii h.isAscii, Utf8.ofCharacters_ascii]

theorem withoutOrders_visible {codes : List Nat} (h : ∀ code ∈ codes, 0x20 < code ∧ code < 0x7F) :
    withoutOrders codes = codes := by
  unfold withoutOrders
  induction codes with
  | nil => rfl
  | cons code codes ih =>
    have hcode := h code (by simp)
    have hnone : afterOrder? (code :: codes) = none := by
      unfold afterOrder?
      split
      · next heq => simp only [List.cons.injEq] at heq; omega
      · next heq => simp only [List.cons.injEq] at heq; omega
      · rfl
    rw [List.length_cons, withoutOrdersUpTo, hnone]
    exact congrArg (code :: ·) (ih fun c hc => h c (by simp [hc]))

theorem printable_visible {code : Nat} (h : 0x20 < code ∧ code < 0x7F) :
    (0x20 ≤ code && code < 0x7F) = true := by
  simp only [Bool.and_eq_true, decide_eq_true_eq]
  omega

theorem ofCode_visible {code : Nat} (h : 0x20 < code ∧ code < 0x7F) :
    ClusterClass.ofCode code = .other := by
  rw [ClusterClass.ofCode, if_pos (printable_visible h)]

/-- A visible character is a cluster of its own. -/
theorem clustersFrom_visible {code : Nat} {codes : List Nat}
    (h : ∀ c ∈ codes, 0x20 < c ∧ c < 0x7F) :
    clustersFrom [code] .other codes = [code] :: codes.map ([·]) := by
  induction codes generalizing code with
  | nil => rfl
  | cons next codes ih =>
    rw [clustersFrom, ofCode_visible (h next (by simp))]
    exact congrArg ([code] :: ·) (ih fun c hc => h c (by simp [hc]))

theorem clusters_visible {codes : List Nat} (h : ∀ c ∈ codes, 0x20 < c ∧ c < 0x7F) :
    clusters codes = codes.map ([·]) := by
  cases codes with
  | nil => rfl
  | cons code codes =>
    rw [clusters, ofCode_visible (h code (by simp))]
    exact clustersFrom_visible fun c hc => h c (by simp [hc])

theorem clusterWidth_visible {code : Nat} (h : 0x20 < code ∧ code < 0x7F) :
    clusterWidth [code] = 1 := by
  have hwidth : characterWidth code = 1 := by rw [characterWidth, if_pos (printable_visible h)]
  simp [clusterWidth, hwidth]

/-- A visible text takes one column for each byte. -/
theorem width_visible {text : Bytes} (h : IsVisible text) : width text = text.length := by
  have hcodes : ∀ code ∈ text.map UInt8.toNat, 0x20 < code ∧ code < 0x7F := by
    intro code hcode
    obtain ⟨b, hb, rfl⟩ := List.mem_map.mp hcode
    exact h b hb
  have hread : (Utf8.characters text).map (·.code) = text.map UInt8.toNat := by
    rw [Utf8.characters_ascii h.isAscii, List.map_map]
    rfl
  have hones : ((text.map UInt8.toNat).map ([·])).map clusterWidth = text.map fun _ => 1 := by
    rw [List.map_map, List.map_map]
    apply List.map_congr_left
    intro b hb
    exact clusterWidth_visible (h b hb)
  have hcount : ∀ (xs : Bytes) (n : Nat), (xs.map fun _ => 1).foldl (· + ·) n = n + xs.length := by
    intro xs
    induction xs with
    | nil => simp
    | cons x xs ih =>
      intro n
      rw [List.map_cons, List.foldl_cons, ih, List.length_cons]
      omega
  rw [width, hread, withoutOrders_visible hcodes, clusters_visible hcodes, hones, hcount,
    Nat.zero_add]

end Text

/-! ### Measured texts -/

/-- The text is part of a line and has so many characters. -/
structure Measures (text : Bytes) (n : Nat) : Prop where
  isValid : Utf8.isValid text = true
  length_eq : (Utf8.characters text).length = n
  within_line : newline ∉ text

namespace Measures

theorem append {a b : Bytes} {m n : Nat} (ha : Measures a m) (hb : Measures b n) :
    Measures (a ++ b) (m + n) where
  isValid := Utf8.isValid_append ha.isValid hb.isValid
  length_eq := by
    rw [Utf8.characters_append ha.isValid, List.length_append, ha.length_eq, hb.length_eq]
  within_line := by
    rw [List.mem_append, not_or]
    exact ⟨ha.within_line, hb.within_line⟩

theorem nil : Measures [] 0 where
  isValid := by rw [Utf8.isValid, Utf8.characters]; rfl
  length_eq := by rw [Utf8.characters]; rfl
  within_line := List.not_mem_nil

theorem ascii {text : Bytes} (h : Utf8.IsAscii text) (hline : newline ∉ text) :
    Measures text text.length where
  isValid := Utf8.isValid_ascii h
  length_eq := by rw [Utf8.characters_ascii h, List.length_map]
  within_line := hline

theorem visible {text : Bytes} (h : IsVisible text) : Measures text text.length :=
  ascii h.isAscii h.not_newline

theorem character {c : Char} (h : newline ∉ String.utf8EncodeChar c) :
    Measures (String.utf8EncodeChar c) 1 where
  isValid := Utf8.isValid_encodeChar c
  length_eq := by
    have hread := Utf8.characters_character c []
    rw [List.append_nil, Utf8.characters] at hread
    rw [hread]
    rfl
  within_line := h

theorem copies {text : Bytes} (h : Measures text 1) (count : Nat) :
    Measures (Bytes.copies count text) count := by
  induction count with
  | zero => exact nil
  | succ count ih =>
    have hcopies : Bytes.copies (count + 1) text = text ++ Bytes.copies count text := by
      simp [Bytes.copies, List.replicate_succ]
    rw [hcopies, Nat.add_comm]
    exact h.append ih

end Measures

namespace Box

theorem ascii_spaces (count : Nat) : Utf8.IsAscii (spaces count) := by
  intro b hb
  rw [List.eq_of_mem_replicate hb]
  decide

theorem measures_spaces (count : Nat) : Measures (spaces count) count := by
  have hline : newline ∉ spaces count := by
    intro hmem
    exact absurd (List.eq_of_mem_replicate hmem) (by decide)
  have h := Measures.ascii (ascii_spaces count) hline
  rwa [spaces, List.length_replicate] at h

/-! ### Cells -/

theorem cellLines_visible {cell : Bytes} (h : IsVisible cell) : cellLines cell = [cell] := by
  rw [cellLines, Text.trim_visible h, Bytes.pieces_of_not_mem h.not_newline]

theorem width_visible {cell : Bytes} (h : IsVisible cell) : width cell = cell.length := by
  rw [width, cellLines_visible h]
  simp [Text.trim_visible h, Text.width_visible h]

theorem rowLines_visible {row : List Bytes} (hne : row ≠ []) (h : ∀ cell ∈ row, IsVisible cell) :
    rowLines row = [row] := by
  have hcells : row.map cellLines = row.map ([·]) :=
    List.map_congr_left fun cell hcell => cellLines_visible (h cell hcell)
  have hones : ∀ cells : List Bytes, (cells.map fun _ => 1).foldl max 1 = 1 := by
    intro cells
    induction cells with
    | nil => rfl
    | cons cell cells ih => exact ih
  have hheight : ((row.map ([·])).map List.length).foldl max 0 = 1 := by
    obtain ⟨cell, cells, rfl⟩ := List.exists_cons_of_ne_nil hne
    rw [List.map_map]
    exact hones cells
  have hline : (row.map ([·])).map (fun cell => cell.getD 0 []) = row := by simp [Function.comp_def]
  simp only [rowLines, hcells, hheight, List.range_one, List.map_cons, List.map_nil, hline]
  rfl

/-- An alignment puts spaces around a text that fits. -/
def Pads (align : Nat → Bytes → Bytes) : Prop :=
  ∀ w text, IsVisible text → text.length ≤ w →
    ∃ before after, align w text = spaces before ++ text ++ spaces after ∧
      before + text.length + after = w

theorem pads_leftAligned : Pads leftAligned := by
  intro w text htext hfits
  have hfitted : fitted w text = text := by rw [fitted, Text.width_visible htext, if_pos hfits]
  refine ⟨0, w - text.length, ?_, by omega⟩
  rw [leftAligned, hfitted, Text.width_visible htext]
  rfl

theorem pads_centred : Pads centred := by
  intro w text htext hfits
  refine ⟨(w - text.length) / 2, w - text.length - (w - text.length) / 2, ?_, by omega⟩
  rw [centred, Text.width_visible htext]

/-! ### Columns -/

theorem widths_cons (row : List Bytes) (rows : List (List Bytes)) :
    widths (row :: rows) =
      List.zipWithAll (fun cell w => max ((cell.map width).getD 0) (w.getD 0)) row (widths rows) :=
        rfl

theorem wide_enough {row : List Bytes} {ws : List Nat} (h : ws.length ≤ row.length) :
    List.Forall₂ (fun w cell => width cell ≤ w)
      (List.zipWithAll (fun cell w => max ((cell.map width).getD 0) (w.getD 0)) row ws) row := by
  induction row generalizing ws with
  | nil =>
    rw [List.length_nil, Nat.le_zero, List.length_eq_zero_iff] at h
    rw [h]
    exact .nil
  | cons cell row ih =>
    cases ws with
    | nil =>
      have hrest := @ih [] (Nat.zero_le _)
      rw [List.zipWithAll_nil] at hrest ⊢
      exact .cons (by simp) hrest
    | cons w ws => exact .cons (Nat.le_max_left _ _) (ih (by simpa using h))

theorem still_wide_enough {row cells : List Bytes} {ws : List Nat} (hrow : row.length = ws.length)
    (h : List.Forall₂ (fun w cell => width cell ≤ w) ws cells) :
    List.Forall₂ (fun w cell => width cell ≤ w)
      (List.zipWithAll (fun cell w => max ((cell.map width).getD 0) (w.getD 0)) row ws) cells := by
  induction h generalizing row with
  | nil =>
    rw [List.length_nil, List.length_eq_zero_iff] at hrow
    rw [hrow]
    exact .nil
  | cons hcell _ ih =>
    obtain ⟨cell, row, rfl⟩ := List.exists_cons_of_length_pos (l := row) (by simp [hrow])
    exact .cons (Nat.le_trans hcell (Nat.le_max_right _ _)) (ih (by simpa using hrow))

/-- **Columns.**  In a table whose rows have the same number of cells, each cell fits into its
column. -/
theorem widths_fit {rows : List (List Bytes)} {count : Nat} (h : ∀ row ∈ rows, row.length = count) :
    ∀ row ∈ rows, List.Forall₂ (fun w cell => width cell ≤ w) (widths rows) row := by
  induction rows with
  | nil => simp
  | cons first rows ih =>
    have hfirst : first.length = count := h first (by simp)
    have hrows := ih fun row hrow => h row (by simp [hrow])
    -- the other rows have made as many columns as there are cells; without other rows there are no
    -- columns yet
    have hlength : ∀ row ∈ rows, (widths rows).length = first.length := by
      intro row hrow
      rw [(hrows row hrow).length_eq, h row (by simp [hrow]), hfirst]
    rw [widths_cons]
    intro row hrow
    rcases List.mem_cons.mp hrow with rfl | hrow
    · apply wide_enough
      cases rows with
      | nil => simp [widths]
      | cons next rows => rw [hlength next (by simp)]
    · exact still_wide_enough (hlength row hrow).symm (hrows row hrow)

/-! ### Lines -/

/-- Parts between two ends, with joints between them. -/
def framed (left joint right : Bytes) (parts : List Bytes) : Bytes :=
  left ++ List.intercalate joint parts ++ right

/-- The number of characters after the left end of a line: a space on either side of each column and
what is behind it. -/
def span : List Nat → Nat
  | [] => 0
  | w :: ws => w + 2 + 1 + span ws

theorem measures_framed {left joint right : Bytes} (hleft : Measures left 1)
    (hjoint : Measures joint 1) (hright : Measures right 1) {ws : List Nat} {parts : List Bytes}
    (hne : ws ≠ []) (h : List.Forall₂ (fun w part => Measures part (w + 2)) ws parts) :
    Measures (framed left joint right parts) (1 + span ws) := by
  -- with the right end, each part has one character behind it, so the induction is on the columns
  -- alone
  have hbody : Measures (List.intercalate joint parts ++ right) (span ws) := by
    clear hleft
    induction h with
    | nil => exact absurd rfl hne
    | @cons w part ws parts hpart hparts ih =>
      cases hparts with
      | nil => simpa [span] using hpart.append hright
      | cons hnext hrest =>
        rw [List.intercalate_cons_cons, List.append_assoc, span]
        exact (hpart.append hjoint).append (ih (by simp))
  rw [framed, List.append_assoc]
  exact hleft.append hbody

/-- A horizontal line without its line feed. -/
def ruleText (left joint right : String) (ws : List Nat) : Bytes :=
  framed (bytes left) (bytes joint) (bytes right) (ws.map fun w => Bytes.copies (w + 2) (bytes "─"))

/-- A line of texts without its line feed. -/
def lineText (align : Nat → Bytes → Bytes) (ws : List Nat) (texts : List Bytes) : Bytes :=
  framed (bytes "│ ") (bytes " │ ") (bytes " │") (List.zipWith align ws texts)

theorem measures_ruleText {left joint right : String} {ws : List Nat} (hne : ws ≠ [])
    (hleft : Measures (bytes left) 1) (hjoint : Measures (bytes joint) 1)
    (hright : Measures (bytes right) 1) :
    Measures (ruleText left joint right ws) (1 + span ws) := by
  apply measures_framed hleft hjoint hright hne
  rw [List.forall₂_map_right_iff, List.forall₂_same]
  intro w _
  exact (Measures.character (c := '─') (by decide)).copies (w + 2)

/-- The spaces beside a bar may be taken as part of the texts on its sides. -/
theorem intercalate_spaced {parts : List Bytes} (hne : parts ≠ []) :
    spaces 1 ++ List.intercalate (bytes " │ ") parts ++ spaces 1 =
      List.intercalate (bytes "│") (parts.map fun part => spaces 1 ++ part ++ spaces 1) := by
  have hjoint : bytes " │ " = spaces 1 ++ bytes "│" ++ spaces 1 := by decide
  induction parts with
  | nil => exact absurd rfl hne
  | cons part parts ih =>
    by_cases hlast : parts = []
    · subst hlast
      simp
    · rw [List.intercalate_cons_of_ne_nil hlast, List.map_cons,
        List.intercalate_cons_of_ne_nil (by simpa using hlast), ← ih hlast, hjoint]
      simp only [List.append_assoc]

theorem lineText_eq {align : Nat → Bytes → Bytes} {ws : List Nat} {texts : List Bytes}
    (hne : List.zipWith align ws texts ≠ []) :
    lineText align ws texts = framed (bytes "│") (bytes "│") (bytes "│")
      ((List.zipWith align ws texts).map fun part => spaces 1 ++ part ++ spaces 1) := by
  have hleft : bytes "│ " = bytes "│" ++ spaces 1 := by decide
  have hright : bytes " │" = spaces 1 ++ bytes "│" := by decide
  rw [lineText, framed, framed, ← intercalate_spaced hne, hleft, hright]
  simp only [List.append_assoc]

/-- The texts are visible and fit into their columns. -/
abbrev Fit (ws : List Nat) (texts : List Bytes) : Prop :=
  List.Forall₂ (fun w text => IsVisible text ∧ text.length ≤ w) ws texts

theorem measures_bar : Measures (bytes "│") 1 := Measures.character (c := '│') (by decide)

theorem zipWith_ne_nil (align : Nat → Bytes → Bytes) {ws : List Nat} {texts : List Bytes}
    (hne : ws ≠ []) (h : Fit ws texts) : List.zipWith align ws texts ≠ [] := by
  cases h with
  | nil => exact absurd rfl hne
  | cons => simp

theorem measures_lineText {align : Nat → Bytes → Bytes} {ws : List Nat} {texts : List Bytes}
    (halign : Pads align) (hne : ws ≠ []) (h : Fit ws texts) :
    Measures (lineText align ws texts) (1 + span ws) := by
  rw [lineText_eq (zipWith_ne_nil align hne h)]
  apply measures_framed measures_bar measures_bar measures_bar hne
  clear hne
  induction h with
  | nil => exact .nil
  | @cons w text ws texts hfits _ ih =>
    refine .cons ?_ ih
    obtain ⟨before, after, heq, hsum⟩ := halign w text hfits.1 hfits.2
    have hpadded :=
      ((measures_spaces before).append (Measures.visible hfits.1)).append (measures_spaces after)
    rw [hsum, ← heq] at hpadded
    have hpart := ((measures_spaces 1).append hpadded).append (measures_spaces 1)
    rwa [show 1 + w + 1 = w + 2 by omega] at hpart

/-! ### Reading a line -/

def bar : Utf8.Character := ⟨0x2502, bytes "│"⟩

def isSpace (r : Utf8.Character) : Bool := r.code == 0x20

def withoutSpaces (rs : List Utf8.Character) : Bytes := Utf8.ofCharacters (stripped isSpace rs)

/-- The texts between the bars of a line, without the spaces around them. -/
def cells (line : Bytes) : List Bytes := ((Utf8.characters line).splitOn bar).map withoutSpaces

theorem characters_intercalate {joint : Bytes} {parts : List Bytes}
    (hjoint : Utf8.isValid joint = true) (h : ∀ part ∈ parts, Utf8.isValid part = true) :
    Utf8.characters (List.intercalate joint parts) =
      List.intercalate (Utf8.characters joint) (parts.map Utf8.characters) := by
  induction parts with
  | nil => rw [List.intercalate_nil, Utf8.characters]; rfl
  | cons part parts ih =>
    by_cases hlast : parts = []
    · subst hlast
      simp
    · rw [List.intercalate_cons_of_ne_nil hlast, List.append_assoc,
        Utf8.characters_append (h part (by simp)), Utf8.characters_append hjoint, ih fun p hp =>
          h p (by simp [hp]), List.map_cons,
        List.intercalate_cons_of_ne_nil (by simpa using hlast), List.append_assoc]

theorem intercalate_concat_nil {joint : Bytes} {parts : List Bytes} (hne : parts ≠ []) :
    List.intercalate joint (parts ++ [[]]) = List.intercalate joint parts ++ joint := by
  induction parts with
  | nil => exact absurd rfl hne
  | cons part parts ih =>
    by_cases hlast : parts = []
    · subst hlast
      simp
    · rw [List.cons_append, List.intercalate_cons_of_ne_nil (by simp),
        List.intercalate_cons_of_ne_nil hlast, ih hlast]
      simp only [List.append_assoc]

/-- Nothing is on the left of the first bar and on the right of the last. -/
theorem framed_eq_intercalate {joint : Bytes} {parts : List Bytes} (hne : parts ≠ []) :
    framed joint joint joint parts = List.intercalate joint ([] :: parts ++ [[]]) := by
  rw [List.cons_append, List.intercalate_cons_of_ne_nil (by simp), List.nil_append,
    intercalate_concat_nil hne, framed, List.append_assoc]

theorem not_bar_of_ascii {text : Bytes} (h : Utf8.IsAscii text) : bar ∉ Utf8.characters text := by
  rw [Utf8.characters_ascii h]
  intro hmem
  obtain ⟨b, -, hb⟩ := List.mem_map.mp hmem
  have hlength : 1 = (bytes "│").length := congrArg (fun r : Utf8.Character => r.raw.length) hb
  exact absurd hlength (by decide)

/-- The part is a visible text with spaces around it. -/
def Padded (text part : Bytes) : Prop :=
  IsVisible text ∧ ∃ before after, part = spaces before ++ text ++ spaces after

theorem Padded.characters_eq {text part : Bytes} (h : Padded text part) :
    Utf8.IsAscii part ∧ withoutSpaces (Utf8.characters part) = text := by
  obtain ⟨htext, before, after, rfl⟩ := h
  let ofByte (b : UInt8) : Utf8.Character := ⟨b.toNat, [b]⟩
  have hascii : Utf8.IsAscii (spaces before ++ text ++ spaces after) := by
    intro b hb
    simp only [List.mem_append] at hb
    rcases hb with (hb | hb) | hb
    · exact ascii_spaces before b hb
    · exact htext.isAscii b hb
    · exact ascii_spaces after b hb
  have hspaces : ∀ count, ∀ r ∈ (spaces count).map ofByte, isSpace r = true := by
    intro count r hr
    obtain ⟨b, hb, rfl⟩ := List.mem_map.mp hr
    rw [List.eq_of_mem_replicate hb]
    rfl
  have hvisible : ∀ r ∈ text.map ofByte, isSpace r = false := by
    intro r hr
    obtain ⟨b, hb, rfl⟩ := List.mem_map.mp hr
    exact beq_eq_false_iff_ne.mpr (Nat.ne_of_gt (htext b hb).1)
  refine ⟨hascii, ?_⟩
  rw [Utf8.characters_ascii hascii, List.map_append, List.map_append, withoutSpaces,
    stripped_padded (hspaces before) hvisible (hspaces after), Utf8.ofCharacters_ascii]

theorem cells_intercalate {texts parts : List Bytes} (hne : parts ≠ [])
    (h : List.Forall₂ Padded texts parts) :
    cells (List.intercalate (bytes "│") parts) = texts := by
  have hread : (∀ part ∈ parts, Utf8.IsAscii part) ∧
      parts.map (withoutSpaces ∘ Utf8.characters) = texts := by
    clear hne
    induction h with
    | nil => simp
    | cons hpart _ ih =>
      obtain ⟨hascii, hcell⟩ := hpart.characters_eq
      rw [List.forall_mem_cons, List.map_cons, ih.2]
      exact ⟨⟨hascii, ih.1⟩, congrArg (· :: _) hcell⟩
  have hbar : Utf8.characters (bytes "│") = [bar] := by
    have hbar := Utf8.characters_character '│' []
    rw [Utf8.characters] at hbar
    exact hbar
  have hparts : ∀ rs ∈ parts.map Utf8.characters, bar ∉ rs := by
    intro rs hrs
    obtain ⟨part, hpart, rfl⟩ := List.mem_map.mp hrs
    exact not_bar_of_ascii (hread.1 part hpart)
  rw [cells, characters_intercalate measures_bar.isValid fun part hpart =>
    Utf8.isValid_ascii (hread.1 part hpart), hbar,
    List.splitOn_intercalate bar hparts (by simpa using hne), List.map_map, hread.2]

theorem forall₂_padded {align : Nat → Bytes → Bytes} (halign : Pads align) {ws : List Nat}
    {texts : List Bytes} (h : Fit ws texts) :
    List.Forall₂ Padded texts ((List.zipWith align ws texts).map fun part =>
      spaces 1 ++ part ++ spaces 1) := by
  induction h with
  | nil => exact .nil
  | @cons w text ws texts hfits _ ih =>
    refine .cons ⟨hfits.1, ?_⟩ ih
    obtain ⟨before, after, heq, -⟩ := halign w text hfits.1 hfits.2
    refine ⟨1 + before, after + 1, ?_⟩
    simp only [heq, spaces, List.append_assoc, ← List.replicate_append_replicate]

/-- **Cells read back.**  The cells of a line are its texts, between the empty ends. -/
theorem cells_lineText {align : Nat → Bytes → Bytes} (halign : Pads align) {ws : List Nat}
    {texts : List Bytes} (hne : ws ≠ []) (h : Fit ws texts) :
    cells (lineText align ws texts) = [] :: texts ++ [[]] := by
  have hpadded := forall₂_padded halign h
  have hne_parts := zipWith_ne_nil align hne h
  rw [lineText_eq hne_parts, framed_eq_intercalate (by simpa using hne_parts)]
  generalize (List.zipWith align ws texts).map (fun part => spaces 1 ++ part ++ spaces 1) =
    parts at hpadded
  -- the ends are padded texts as well: without a text, and without spaces
  have hends : Padded [] [] := ⟨by decide, 0, 0, rfl⟩
  have hall : List.Forall₂ Padded ([] :: texts ++ [[]]) ([] :: parts ++ [[]]) :=
    List.rel_append (.cons hends hpadded) (.cons hends .nil)
  exact cells_intercalate (by simp) hall

/-! ### Tables -/

/-- The headings and rows of a table of visible cells, all rows with as many cells as there are
headings. -/
structure Grid (headings : List Bytes) (rows : List (List Bytes)) : Prop where
  ne_nil : headings ≠ []
  aligned : ∀ row ∈ rows, row.length = headings.length
  visible : ∀ row ∈ headings :: rows, ∀ cell ∈ row, IsVisible cell

/-- The lines of a table whose rows are one line each. -/
def lines (headings : List Bytes) (rows : List (List Bytes)) : List Bytes :=
  let ws := widths (headings :: rows)
  let body :=
    if rows.isEmpty then []
    else ruleText "├" "┼" "┤" ws :: rows.map (lineText leftAligned ws)
  ruleText "┌" "┬" "┐" ws :: lineText centred ws headings :: body ++ [ruleText "└" "┴" "┘" ws]

theorem length_lines (headings : List Bytes) (rows : List (List Bytes)) :
    (lines headings rows).length = if rows = [] then 3 else rows.length + 4 := by
  cases rows with
  | nil => rfl
  | cons row rows => simp [lines]

theorem drop_lines (headings : List Bytes) (rows : List (List Bytes)) :
    ((lines headings rows).drop 3).take rows.length =
      rows.map (lineText leftAligned (widths (headings :: rows))) := by
  cases rows with
  | nil => rfl
  | cons row rows => simp [lines]

theorem fit_of_widths {ws : List Nat} {row : List Bytes}
    (h : List.Forall₂ (fun w cell => width cell ≤ w) ws row)
    (hvisible : ∀ cell ∈ row, IsVisible cell) : Fit ws row := by
  induction h with
  | nil => exact .nil
  | cons hcell _ ih =>
    rw [List.forall_mem_cons] at hvisible
    rw [width_visible hvisible.1] at hcell
    exact .cons ⟨hvisible.1, hcell⟩ (ih hvisible.2)

namespace Grid

variable {headings : List Bytes} {rows : List (List Bytes)}

theorem fit (h : Grid headings rows) :
    ∀ row ∈ headings :: rows, Fit (widths (headings :: rows)) row := by
  have haligned : ∀ row ∈ headings :: rows, row.length = headings.length := by
    rw [List.forall_mem_cons]
    exact ⟨rfl, h.aligned⟩
  intro row hrow
  exact fit_of_widths (widths_fit haligned row hrow) (h.visible row hrow)

theorem widths_ne_nil (h : Grid headings rows) : widths (headings :: rows) ≠ [] := by
  intro hnil
  have hlength := (h.fit headings (by simp)).length_eq
  rw [hnil] at hlength
  exact h.ne_nil (List.length_eq_zero_iff.mp hlength.symm)

theorem render_eq (h : Grid headings rows) :
    render headings rows = Bytes.unlines (lines headings rows) := by
  have hrows : ∀ ws, (rows.flatMap fun row => (rowLines row).flatMap (line leftAligned ws)) =
      Bytes.unlines (rows.map (lineText leftAligned ws)) := by
    intro ws
    rw [Bytes.unlines, List.flatMap_map]
    apply List.flatMap_congr
    intro row hrow
    have hne : row ≠ [] := by
      have hlength := h.aligned row hrow
      have hpos := List.length_pos_iff.mpr h.ne_nil
      exact List.length_pos_iff.mp (by omega)
    rw [rowLines_visible hne (h.visible row (by simp [hrow])), List.flatMap_singleton]
    rfl
  have hrule : ∀ left joint right ws, rule left joint right ws = ruleText left joint right ws ++
    [newline] :=
    fun _ _ _ _ => rfl
  have hline : ∀ align ws texts, line align ws texts = lineText align ws texts ++ [newline] :=
    fun _ _ _ => rfl
  simp only [render, lines, hrows, hrule, hline]
  split
  · simp [Bytes.unlines]
  · simp [Bytes.unlines]

/-- **Tables are rectangles.**  All lines have the same number of characters. -/
theorem measures_lines (h : Grid headings rows) :
    ∀ line ∈ lines headings rows, Measures line (1 + span (widths (headings :: rows))) := by
  have hne := h.widths_ne_nil
  have htop : Measures (ruleText "┌" "┬" "┐" (widths (headings :: rows))) _ :=
    measures_ruleText hne (.character (c := '┌') (by decide)) (.character (c := '┬') (by decide))
      (.character (c := '┐') (by decide))
  have hmiddle : Measures (ruleText "├" "┼" "┤" (widths (headings :: rows))) _ :=
    measures_ruleText hne (.character (c := '├') (by decide)) (.character (c := '┼') (by decide))
      (.character (c := '┤') (by decide))
  have hbottom : Measures (ruleText "└" "┴" "┘" (widths (headings :: rows))) _ :=
    measures_ruleText hne (.character (c := '└') (by decide)) (.character (c := '┴') (by decide))
      (.character (c := '┘') (by decide))
  have hheadings := measures_lineText pads_centred hne (h.fit headings (by simp))
  have hrows : ∀ line ∈ rows.map (lineText leftAligned (widths (headings :: rows))),
      Measures line (1 + span (widths (headings :: rows))) := by
    intro line hline
    obtain ⟨row, hrow, rfl⟩ := List.mem_map.mp hline
    exact measures_lineText pads_leftAligned hne (h.fit row (by simp [hrow]))
  intro line hline
  simp only [lines, List.cons_append, List.mem_cons, List.mem_append] at hline
  rcases hline with rfl | rfl | hline | rfl | hnone
  · exact htop
  · exact hheadings
  · split at hline
    · cases hline
    · rcases List.mem_cons.mp hline with rfl | hline
      · exact hmiddle
      · exact hrows line hline
  · exact hbottom
  · cases hnone

theorem cells_row (h : Grid headings rows) {row : List Bytes} (hrow : row ∈ rows) :
    cells (lineText leftAligned (widths (headings :: rows)) row) = [] :: row ++ [[]] :=
  cells_lineText pads_leftAligned h.widths_ne_nil (h.fit row (by simp [hrow]))

end Grid

end Box

end BufferMachine
