import BufferMachine.Proofs.Boxes
import BufferMachine.Proofs.CsvReading
import BufferMachine.Proofs.Printing
import BufferMachine.Proofs.Stages
import BufferMachine.Token.Table

/-!
# Token tables read back

A token table loses nothing: its rows can be read off the text, whether it is written as
comma-separated records or as a box.  Between quotation marks a lexeme may hold any bytes; in a box
it may not hold blanks and bars, and the tokens of a source never do.
-/

namespace BufferMachine

namespace TokenTable

/-- What a table shows of a token: the name of its kind, its lexeme, and its line as a numeral. -/
def Shows (t : Token) (row : List Bytes) : Prop :=
  ∃ kind line, t.kind = some kind ∧ Decimal.Numeral t.location.line line ∧
    row = [kind.name, t.lexeme, line]

theorem row_eq_ok {t : Token} {cells : List Bytes} : row t = .ok cells ↔ Shows t cells := by
  unfold row Shows
  cases t.kind with
  | none => simp
  | some kind =>
    simp only [Except.ok.injEq, Option.some.injEq, Decimal.numeral_iff]
    constructor
    · rintro rfl
      exact ⟨kind, _, rfl, rfl, rfl⟩
    · rintro ⟨_, _, rfl, rfl, rfl⟩
      rfl

/-- The tokens leave no choice for the rows. -/
theorem shown_unique {tokens : List Token} {rows rows' : List (List Bytes)}
    (h : List.Forall₂ Shows tokens rows) (h' : List.Forall₂ Shows tokens rows') : rows = rows' := by
  refine List.right_unique_forall₂' ?_ h h'
  intro t row row' hrow hrow'
  exact Except.ok.inj ((row_eq_ok.mpr hrow).symm.trans (row_eq_ok.mpr hrow'))

/-- If every token has a kind, then there are rows, and they show the tokens in their order. -/
theorem exists_rows {table : TokenTable}
    (h : ∀ t ∈ table.tokens.getD [], ∃ kind, t.kind = some kind) :
    ∃ rows, table.rows = .ok rows ∧ List.Forall₂ Shows (table.tokens.getD []) rows := by
  unfold TokenTable.rows
  generalize table.tokens.getD [] = tokens at h
  have hrows : ∃ rows, List.Forall₂ (fun t cells => row t = .ok cells) tokens rows := by
    induction tokens with
    | nil => exact ⟨[], .nil⟩
    | cons t tokens ih =>
      rw [List.forall_mem_cons] at h
      obtain ⟨kind, hkind⟩ := h.1
      obtain ⟨rows, hrows⟩ := ih h.2
      exact ⟨_, .cons (by rw [row, hkind]) hrows⟩
  obtain ⟨rows, hrows⟩ := hrows
  exact ⟨rows, Outcome.mapM_eq_ok.mpr hrows, hrows.imp fun _ _ => row_eq_ok.mp⟩

theorem exists_shown {tokens : List Token} {rows : List (List Bytes)}
    (h : List.Forall₂ Shows tokens rows) :
    ∀ row ∈ rows, ∃ t ∈ tokens, Shows t row := by
  induction h with
  | nil => simp
  | cons hshows _ ih =>
    intro row hrow
    rcases List.mem_cons.mp hrow with rfl | hrow
    · exact ⟨_, List.mem_cons_self, hshows⟩
    · obtain ⟨t, ht, hshown⟩ := ih row hrow
      exact ⟨t, List.mem_cons_of_mem _ ht, hshown⟩

theorem Shows.length_eq {t : Token} {row : List Bytes} (h : Shows t row) : row.length = 3 := by
  obtain ⟨_, _, _, _, rfl⟩ := h
  rfl

theorem visible_digits {digits : Bytes} (h : Decimal.IsCanonical digits) : IsVisible digits := by
  intro b hb
  have hdigit := h.isRun.all b hb
  simp only [Decimal.isDigit, Bool.and_eq_true, decide_eq_true_eq, UInt8.le_iff_toNat_le] at hdigit
  have hlow : 48 ≤ b.toNat := hdigit.1
  have hhigh : b.toNat ≤ 57 := hdigit.2
  omega

theorem visible_numeral {n : Int} {text : Bytes} (h : Decimal.Numeral n text) : IsVisible text := by
  cases h with
  | natural hdigits => exact visible_digits hdigits
  | negative hdigits _ =>
    intro b hb
    rcases List.mem_cons.mp hb with rfl | hb
    · decide
    · exact visible_digits hdigits b hb

theorem Shows.visible {t : Token} {row : List Bytes} (h : Shows t row)
    (hlexeme : IsVisible t.lexeme) :
    ∀ cell ∈ row, IsVisible cell := by
  obtain ⟨kind, line, -, hline, rfl⟩ := h
  intro cell hcell
  simp only [List.mem_cons, List.not_mem_nil, or_false] at hcell
  rcases hcell with rfl | rfl | rfl
  · exact kind.visible_name
  · exact hlexeme
  · exact visible_numeral hline

/-- The tokens of a source fill a table of visible cells. -/
theorem grid_of_shows {tokens : List Token} {rows : List (List Bytes)}
    (hshows : List.Forall₂ Shows tokens rows) (hlexemes : ∀ t ∈ tokens, IsVisible t.lexeme) :
    Box.Grid (headings.map Bytes.toUpper) rows where
  ne_nil := by decide
  aligned row hrow := by
    obtain ⟨t, -, ht⟩ := exists_shown hshows row hrow
    exact ht.length_eq
  visible := by
    rw [List.forall_mem_cons]
    refine ⟨by decide, ?_⟩
    intro row hrow
    obtain ⟨t, hmem, ht⟩ := exists_shown hshows row hrow
    exact ht.visible (hlexemes t hmem)

end TokenTable

open TokenTable

/-- **Comma-separated tables read back.**  A table whose tokens all have kinds is written, and a
reader of comma-separated records finds in it the headings and then one record for each token, in
order, that shows the token; the bytes of lexemes may be any. -/
theorem csv_table_read_back (table : TokenTable) (h : ∀ t ∈ table.tokens.getD [], t.kind ≠ none) :
    ∃ text records, table.render .csv = .ok text ∧
      CsvText.read text = some ([bytes "type", bytes "value", bytes "line"] :: records) ∧
      List.Forall₂ Shows (table.tokens.getD []) records := by
  obtain ⟨rows, hrows, hshows⟩ := exists_rows fun t ht => Option.ne_none_iff_exists'.mp (h t ht)
  refine ⟨Csv.render (headings :: rows), rows, ?_, CsvText.read_render ?_, hshows⟩
  · rw [render, hrows]
    rfl
  · rw [List.forall_mem_cons]
    refine ⟨by decide, ?_⟩
    intro row hrow
    obtain ⟨t, -, ht⟩ := exists_shown hshows row hrow
    exact List.ne_nil_of_length_eq_add_one ht.length_eq

/-- The separators, quotation marks, line ends and stray bytes that a lexeme may hold. -/
theorem csv_table_read_back_any_bytes :
    let lexemes : List Bytes :=
      [bytes ",", bytes "a \"b\",", [13, 10], bytes "\\.", bytes " c", [], [0xFF, 0x22]]
    let table : TokenTable := ⟨some (lexemes.map (Cursor.lexemeAt 0 0 .operator))⟩
    ∃ text, table.render .csv = .ok text ∧
      CsvText.read text = some ([bytes "type", bytes "value", bytes "line"] ::
        lexemes.map fun lexeme => [bytes "TOK_OPERATOR", lexeme, bytes "1"]) := by
  intro lexemes table
  have hkinds : ∀ t ∈ table.tokens.getD [], t.kind ≠ none := by
    intro t ht
    obtain ⟨lexeme, -, rfl⟩ := List.mem_map.mp ht
    exact Option.some_ne_none _
  obtain ⟨text, records, hrender, hread, hshows⟩ := csv_table_read_back table hkinds
  have hexpected : List.Forall₂ Shows (table.tokens.getD [])
      (lexemes.map fun lexeme => [bytes "TOK_OPERATOR", lexeme, bytes "1"]) := by
    apply List.forall₂_map_left_iff.mpr
    rw [List.forall₂_map_right_iff, List.forall₂_same]
    intro lexeme _
    exact ⟨.operator, bytes "1", rfl, Decimal.numeral_digit (d := 1) (by decide), rfl⟩
  rw [shown_unique hshows hexpected] at hread
  exact ⟨text, hrender, hread⟩

/-- **Boxed tables read back.**  The table of the tokens of a source is a rectangle of lines.
Behind the headings there is one line for each token, in order, and the texts between its bars show
the token. -/
theorem text_table_read_back {rule : KeywordRule} {source : Bytes} {tokens : List Token}
    (h : scan rule source = .ok tokens) :
    ∃ lines width rows, (TokenTable.mk (some tokens)).render .text = .ok (Bytes.unlines lines) ∧
      (∀ line ∈ lines, newline ∉ line ∧ (Utf8.characters line).length = width) ∧
      lines.length = (if tokens = [] then 3 else tokens.length + 4) ∧
      ((lines.drop 3).take tokens.length).map Box.cells = rows.map (fun row => [] :: row ++ [[]]) ∧
      List.Forall₂ Shows tokens rows := by
  have hspelled := (scan_eq_ok_iff.mp h).wellSpelled
  have hkinds : ∀ t ∈ (TokenTable.mk (some tokens)).tokens.getD [], ∃ kind, t.kind = some kind := by
    intro t ht
    obtain ⟨kind, hkind, -⟩ := hspelled t ht
    exact ⟨kind, hkind⟩
  have hlexemes : ∀ t ∈ tokens, IsVisible t.lexeme := by
    intro t ht
    obtain ⟨_, -, hlexeme⟩ := hspelled t ht
    exact hlexeme.visible
  obtain ⟨rows, hrows, (hshows : List.Forall₂ Shows tokens rows)⟩ := exists_rows hkinds
  have hgrid := grid_of_shows hshows hlexemes
  have hlength : tokens.length = rows.length := hshows.length_eq
  refine ⟨Box.lines (headings.map Bytes.toUpper) rows,
    1 + Box.span (Box.widths (headings.map Bytes.toUpper :: rows)), rows, ?_, ?_, ?_, ?_, hshows⟩
  · rw [render, hrows, ← hgrid.render_eq]
    rfl
  · intro line hline
    have hmeasures := hgrid.measures_lines line hline
    exact ⟨hmeasures.within_line, hmeasures.length_eq⟩
  · rw [Box.length_lines, hlength]
    simp only [← List.length_eq_zero_iff, hlength]
  · rw [hlength, Box.drop_lines, List.map_map]
    apply List.map_congr_left
    intro row hrow
    exact hgrid.cells_row hrow

/-- Two lines of source, with the longest cells in different rows. -/
theorem text_table_read_back_two_lines :
    let tokens :=
      [Cursor.lexemeAt 0 0 .keyword (bytes "write"), Cursor.lexemeAt 6 0 .operator (bytes "<,+.>"),
        Cursor.lexemeAt 12 1 .punctuation (bytes ";")]
    scan .exact (bytes "write <,+.>\n;") = .ok tokens ∧
      ∃ lines width, (TokenTable.mk (some tokens)).render .text = .ok (Bytes.unlines lines) ∧
        (∀ line ∈ lines, newline ∉ line ∧ (Utf8.characters line).length = width) ∧
        lines.length = 7 ∧ ((lines.drop 3).take 3).map Box.cells =
          [[[], bytes "TOK_KEYWORD", bytes "write", bytes "1", []],
            [[], bytes "TOK_OPERATOR", bytes "<,+.>", bytes "1", []],
              [[], bytes "TOK_PUNCTUATION", bytes ";", bytes "2", []]] := by
  intro tokens
  have hscan : scan .exact (bytes "write <,+.>\n;") = .ok tokens := by
    simp only [scan, ByteReader.scan_eq_read]
    decide
  obtain ⟨lines, width, rows, hrender, hlines, hlength, hcells, hshows⟩ :=
    text_table_read_back hscan
  have hone := Decimal.numeral_digit (d := 1) (by decide)
  have htwo := Decimal.numeral_digit (d := 2) (by decide)
  have hexpected : List.Forall₂ Shows tokens [[bytes "TOK_KEYWORD", bytes "write", bytes "1"],
      [bytes "TOK_OPERATOR", bytes "<,+.>", bytes "1"],
        [bytes "TOK_PUNCTUATION", bytes ";", bytes "2"]] :=
    .cons ⟨.keyword, _, rfl, hone, rfl⟩
      (.cons ⟨.operator, _, rfl, hone, rfl⟩ (.cons ⟨.punctuation, _, rfl, htwo, rfl⟩ .nil))
  rw [shown_unique hshows hexpected] at hcells
  exact ⟨hscan, lines, width, hrender, hlines, hlength, hcells⟩

end BufferMachine
