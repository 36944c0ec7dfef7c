import BufferMachine.Proofs.Dumps
import BufferMachine.Proofs.JsonReader
import BufferMachine.Proofs.Printing
import BufferMachine.Token.Table

/-!
# Dumps read back

What is read from the text of a JSON value is that value with its strings repaired, be it the
compact text or the indented one: both have the same symbols, and what is open around a value is
after its symbols what it was before them.

So the dumps of programs and tokens hold all that they were made from, up to stray bytes; and a
program that was scanned from a source has none.
-/

namespace BufferMachine

namespace Json

open JsonText

mutual

/-- The value as a reader finds it: strings are repaired. -/
def meaning : Json → Value
  | .null => .null
  | .number n => .number (Rat.ofInt n)
  | .text t => .text (Utf8.repair t)
  | .list items => .list (meanings items)
  | .record members => .record (memberMeanings members)

def meanings : List Json → List Value
  | [] => []
  | item :: items => item.meaning :: meanings items

def memberMeanings : List (Bytes × Json) → List (Bytes × Value)
  | [] => []
  | (name, value) :: members => (Utf8.repair name, value.meaning) :: memberMeanings members

end

mutual

def symbols : Json → List Symbol
  | .null => [.scalar .null]
  | .number n => [.scalar (.number (Rat.ofInt n))]
  | .text t => [.text (Utf8.repair t)]
  | .list items => .listOpens :: (itemSymbols items ++ [.listCloses])
  | .record members => .recordOpens :: (memberSymbols members ++ [.recordCloses])

def itemSymbols : List Json → List Symbol
  | [] => []
  | [item] => item.symbols
  | item :: items => item.symbols ++ .comma :: itemSymbols items

def memberSymbols : List (Bytes × Json) → List Symbol
  | [] => []
  | [(name, value)] => .text (Utf8.repair name) :: .colon :: value.symbols
  | (name, value) :: members =>
    .text (Utf8.repair name) :: .colon :: (value.symbols ++ .comma :: memberSymbols members)

end

/-! ### Symbols put together -/

/-- A value can stand first in a list as well as anywhere else. -/
theorem foldlM_firstItem (v : Json) (outer : List Frame) (rest : List Symbol) :
    (v.symbols ++ rest).foldlM Stage.step (.firstItem outer) =
      (v.symbols ++ rest).foldlM Stage.step (.value (.list [] :: outer)) := by
  cases v with
  | null => rfl
  | number n => rfl
  | text t => rfl
  | list items => rfl
  | record members => rfl

theorem itemSymbols_cons_cons (item next : Json) (items : List Json) :
    itemSymbols (item :: next :: items) = item.symbols ++ .comma ::
      itemSymbols (next :: items) := rfl

theorem memberSymbols_cons_cons (name : Bytes) (value : Json) (next : Bytes × Json)
    (members : List (Bytes × Json)) :
    memberSymbols ((name, value) :: next :: members) =
      .text (Utf8.repair name) :: .colon ::
        (value.symbols ++ .comma :: memberSymbols (next :: members)) := rfl

mutual

/-- **The symbols of a value are read as the value,** and what was open around it is open as
before. -/
theorem foldlM_symbols (v : Json) (outer : List Frame) (rest : List Symbol) :
    (v.symbols ++ rest).foldlM Stage.step (.value outer) =
      rest.foldlM Stage.step (.behind v.meaning outer) := by
  cases v with
  | null => rfl
  | number n => rfl
  | text t => rfl
  | list items =>
    cases items with
    | nil => rfl
    | cons item items =>
      have hitems := foldlM_itemSymbols (item :: items) (List.cons_ne_nil item items) [] outer rest
      rw [List.nil_append] at hitems
      rw [symbols, meaning, ← hitems, List.cons_append, List.append_assoc]
      cases items with
      | nil => exact foldlM_firstItem item outer _
      | cons next items =>
        rw [itemSymbols_cons_cons, List.append_assoc, List.append_assoc]
        exact foldlM_firstItem item outer _
  | record members =>
    cases members with
    | nil => rfl
    | cons member members =>
      have hmembers :=
        foldlM_memberSymbols (member :: members) (List.cons_ne_nil member members) [] outer rest
      rw [List.nil_append] at hmembers
      rw [symbols, meaning, ← hmembers, List.cons_append, List.append_assoc]
      cases members with
      | nil => rfl
      | cons next members => rfl

theorem foldlM_itemSymbols (items : List Json) (hne : items ≠ []) (before : List Value)
    (outer : List Frame) (rest : List Symbol) :
    (itemSymbols items ++ .listCloses :: rest).foldlM Stage.step (.value (.list before :: outer)) =
      rest.foldlM Stage.step (.behind (.list (before ++ meanings items)) outer) := by
  cases items with
  | nil => exact absurd rfl hne
  | cons item items =>
    cases items with
    | nil => exact foldlM_symbols item _ _
    | cons next items =>
      have hnext :=
        foldlM_itemSymbols (next :: items) (List.cons_ne_nil next items)
          (before ++ [item.meaning]) outer rest
      rw [itemSymbols_cons_cons, List.append_assoc, foldlM_symbols]
      rw [List.append_assoc] at hnext
      exact hnext

/-- The members of a record behind some others, from the name of the first one to the closing
brace. -/
theorem foldlM_memberSymbols (members : List (Bytes × Json)) (hne : members ≠ [])
    (before : List (Bytes × Value)) (outer : List Frame) (rest : List Symbol) :
    (memberSymbols members ++ .recordCloses :: rest).foldlM Stage.step (.name before outer) =
      rest.foldlM Stage.step (.behind (.record (before ++ memberMeanings members)) outer) := by
  cases members with
  | nil => exact absurd rfl hne
  | cons member members =>
    obtain ⟨name, value⟩ := member
    cases members with
    | nil => exact foldlM_symbols value _ _
    | cons next members =>
      have hnext := foldlM_memberSymbols (next :: members) (List.cons_ne_nil next members)
        (before ++ [(Utf8.repair name, value.meaning)]) outer rest
      rw [List.append_assoc] at hnext
      rw [memberSymbols_cons_cons, List.cons_append, List.cons_append, List.append_assoc]
      exact (foldlM_symbols value _ _).trans hnext

end

theorem value?_symbols (v : Json) : value? v.symbols = some v.meaning := by
  have h := foldlM_symbols v [] []
  rw [List.append_nil] at h
  rw [value?, h]
  rfl

/-! ### The two texts of a value -/

mutual

theorem spells_compact (v : Json) : Spells v.compact v.symbols := by
  cases v with
  | null => exact spells_null
  | number n => exact spells_number n
  | text t => exact (closes_quoted t).spells
  | list items =>
    exact ((closes_listOpens.append_spells (spells_compactItems items)).append_closes
      closes_listCloses rfl).spells
  | record members =>
    exact ((closes_recordOpens.append_spells (spells_compactMembers members)).append_closes
      closes_recordCloses rfl).spells

theorem spells_compactItems (items : List Json) :
    Spells (compactItems items) (itemSymbols items) := by
  cases items with
  | nil => exact closes_nil.spells
  | cons item items =>
    cases items with
    | nil => exact spells_compact item
    | cons next items =>
      have hitem := (spells_compact item).append_closes closes_comma rfl
      have hitems := hitem.append_spells (spells_compactItems (next :: items))
      rw [List.append_assoc item.symbols] at hitems
      exact hitems

theorem spells_compactMembers (members : List (Bytes × Json)) :
    Spells (compactMembers members) (memberSymbols members) := by
  cases members with
  | nil => exact closes_nil.spells
  | cons member members =>
    obtain ⟨name, value⟩ := member
    have hmember := ((closes_quoted name).append closes_colon).append_spells (spells_compact value)
    cases members with
    | nil => exact hmember
    | cons next members =>
      have hmembers :=
        (hmember.append_closes closes_comma rfl).append_spells
          (spells_compactMembers (next :: members))
      rw [List.append_assoc _ [Symbol.comma]] at hmembers
      exact hmembers

end

mutual

theorem spells_indentedAt (depth : Nat) (v : Json) : Spells (indentedAt depth v) v.symbols := by
  cases v with
  | null => exact spells_null
  | number n => exact spells_number n
  | text t => exact (closes_quoted t).spells
  | list items =>
    cases items with
    | nil => exact (closes_listOpens.append closes_listCloses).spells
    | cons item items =>
      have hitems :=
        closes_listOpens.append_spells (spells_indentedItems (depth + 1) (item :: items))
      exact (hitems.append_lineAt depth closes_listCloses).spells
  | record members =>
    cases members with
    | nil => exact (closes_recordOpens.append closes_recordCloses).spells
    | cons member members =>
      have hmembers :=
        closes_recordOpens.append_spells (spells_indentedMembers (depth + 1) (member :: members))
      exact (hmembers.append_lineAt depth closes_recordCloses).spells

theorem spells_indentedItems (depth : Nat) (items : List Json) :
    Spells (indentedItems depth items) (itemSymbols items) := by
  cases items with
  | nil => exact closes_nil.spells
  | cons item items =>
    have hitem := (closes_lineAt depth).append_spells (spells_indentedAt depth item)
    cases items with
    | nil => exact hitem
    | cons next items =>
      have hitems :=
        (hitem.append_closes closes_comma rfl).append_spells
          (spells_indentedItems depth (next :: items))
      rw [List.append_assoc _ [Symbol.comma]] at hitems
      exact hitems

theorem spells_indentedMembers (depth : Nat) (members : List (Bytes × Json)) :
    Spells (indentedMembers depth members) (memberSymbols members) := by
  cases members with
  | nil => exact closes_nil.spells
  | cons member members =>
    obtain ⟨name, value⟩ := member
    have hspace := closes_colon.append (closes_blank (Or.inl rfl))
    have hname := ((closes_lineAt depth).append (closes_quoted name)).append hspace
    have hmember := hname.append_spells (spells_indentedAt depth value)
    cases members with
    | nil => exact hmember
    | cons next members =>
      have hnext := spells_indentedMembers depth (next :: members)
      have hmembers := (hmember.append_closes closes_comma rfl).append_spells hnext
      rw [List.append_assoc _ [Symbol.comma]] at hmembers
      exact hmembers

end

theorem read_of_spells {text : Bytes} {v : Json} (h : Spells text v.symbols) :
    read text = some v.meaning := by
  unfold JsonText.read
  rw [if_pos h.valid, h.symbols?_eq]
  exact value?_symbols v

/-- **The compact text is read as the value.** -/
theorem read_compact (v : Json) : read v.compact = some v.meaning :=
  read_of_spells (spells_compact v)

/-- **The indented text is read as the value.** -/
theorem read_indented (v : Json) : read v.indented = some v.meaning :=
  read_of_spells (spells_indentedAt 0 v)

theorem meanings_eq_map (items : List Json) : meanings items = items.map meaning := by
  induction items with
  | nil => rfl
  | cons item items ih => rw [meanings, ih, List.map_cons]

end Json

/-! ### Dumps of programs and tokens -/

/-- The name under which the kind of a token is dumped. -/
def Token.kindName (t : Token) : Bytes :=
  match t.kind with
  | some kind => kind.name
  | none => bytes "TOK_INVALID"

section

variable (shown : Bytes → Bytes)

/-- A token as its dump is to be read, with its lexeme in a certain form. -/
def Token.reading (t : Token) : JsonText.Value :=
  .record [(bytes "type", .text t.kindName), (bytes "value", .text (shown t.lexeme)),
    (bytes "line", .number (Rat.ofInt t.location.line))]

def Statement.reading (s : Statement) : JsonText.Value :=
  .record [(bytes "type", .text (bytes "Expression")),
    (bytes "body", .list (s.tokens.map (Token.reading shown)))]

def Program.reading (p : Program) : JsonText.Value :=
  .record [(bytes "type", .text (bytes "Program")),
    (bytes "body", match p.body with
      | none => .null
      | some statements => .list (statements.map (Statement.reading shown)))]

def TokenTable.reading (table : TokenTable) : JsonText.Value :=
  match table.tokens with
  | none => .null
  | some tokens => .list (tokens.map (Token.reading shown))

end

/-! ### What the dumps are read as -/

theorem repair_visible {text : Bytes} (h : IsVisible text) : Utf8.repair text = text :=
  Utf8.repair_of_isValid (Utf8.isValid_ascii h.isAscii)

theorem Token.meaning_toJson (t : Token) : t.toJson.meaning = t.reading Utf8.repair := by
  have hkind : Utf8.repair (t.kind.getD .invalid).name = t.kindName := by
    rw [repair_visible (TokenKind.visible_name _), kindName]
    cases t.kind with
    | none => rfl
    | some kind => rfl
  simp (disch := decide) only [toJson, Json.meaning, Json.memberMeanings, repair_visible,
    hkind, reading]

theorem Statement.meaning_toJson (s : Statement) : s.toJson.meaning = s.reading Utf8.repair := by
  simp (disch := decide) only [toJson, Json.meaning, Json.memberMeanings, Json.meanings_eq_map,
    List.map_map, Function.comp_def, Token.meaning_toJson, repair_visible, reading]

theorem Program.meaning_toJson (p : Program) : p.toJson.meaning = p.reading Utf8.repair := by
  obtain ⟨body⟩ := p
  cases body with
  | none =>
    simp (disch := decide) only [toJson, Json.meaning, Json.memberMeanings, repair_visible, reading]
  | some statements =>
    simp (disch := decide) only [toJson, Json.meaning, Json.memberMeanings, Json.meanings_eq_map,
      List.map_map, Function.comp_def, Statement.meaning_toJson, repair_visible, reading]

theorem TokenTable.meaning_toJson (table : TokenTable) :
    table.toJson.meaning = table.reading Utf8.repair := by
  obtain ⟨tokens⟩ := table
  cases tokens with
  | none => rfl
  | some tokens =>
    simp only [toJson, Json.meaning, Json.meanings_eq_map, List.map_map, Function.comp_def,
      Token.meaning_toJson, reading]

/-- Where the lexemes need no repair, they are read as they were. -/
theorem Program.reading_eq {p : Program}
    (h : ∀ s ∈ p.statements, ∀ t ∈ s.tokens, IsVisible t.lexeme) :
    p.reading Utf8.repair = p.reading id := by
  have htoken : ∀ s ∈ p.statements, s.reading Utf8.repair = s.reading id := by
    intro s hs
    have htokens : s.tokens.map (Token.reading Utf8.repair) = s.tokens.map (Token.reading id) := by
      apply List.map_congr_left
      intro t ht
      simp only [Token.reading, repair_visible (h s hs t ht), id]
    simp only [Statement.reading, htokens]
  obtain ⟨body⟩ := p
  cases body with
  | none => rfl
  | some statements =>
    have hstatements : statements.map (Statement.reading Utf8.repair) =
      statements.map (Statement.reading id) :=
      List.map_congr_left htoken
    simp only [reading, hstatements]

/-- The lexemes of a program that was scanned from a source are visible. -/
theorem visible_of_scan {rule : KeywordRule} {source : Bytes} {tokens : List Token} {p : Program}
    (hscan : scan rule source = .ok tokens) (hparse : Program.ofTokens tokens = .ok p) :
    ∀ s ∈ p.statements, ∀ t ∈ s.tokens, IsVisible t.lexeme := by
  obtain ⟨ss, hsegment, rfl⟩ := Program.ofTokens_eq_ok.mp hparse
  intro s hs t ht
  have hmem : t ∈ tokens := by
    rw [segment_flatten hsegment]
    exact List.mem_append_left _ (List.mem_flatMap.mpr ⟨s, hs, List.mem_append_left _ ht⟩)
  obtain ⟨kind, -, hspelled⟩ := (scan_eq_ok_iff.mp hscan).wellSpelled t hmem
  exact hspelled.visible

/-- What a dump leaves at its path, if no device takes it. -/
theorem readFile_of_dump {files after : FileTree} {directory name : Bytes} {value : Json}
    (h : dump files directory name value = (.ok (), after))
    (hdevice : after.device? (Path.join directory name) = none) :
    after.readFile (Path.join directory name) = .ok value.indented := by
  unfold dump at h
  split at h
  · cases h
  · next made hmake =>
    dsimp only at h
    split at h
    · cases h
    · next written hwrite =>
      obtain rfl : written = after := (Prod.mk.inj h).2
      rcases FileTree.writeFile_eq_ok hwrite with ⟨names, hplace, rfl⟩ | ⟨⟨kind, hkind⟩, rfl⟩
      · exact (hplace.set hplace _).readFile_eq (FileTree.entry_set_self hplace.not_directory _)
      · rw [hdevice] at hkind
        cases hkind

/-- The value is read back in this form, from its compact text as well as from any file that it is
dumped into. -/
structure ReadsBack (value : Json) (form : JsonText.Value) : Prop where
  compact : JsonText.read value.compact = some form
  dumped : ∀ files directory name after, dump files directory name value = (.ok (), after) →
    after.device? (Path.join directory name) = none →
    ∃ text, after.readFile (Path.join directory name) = .ok text ∧ JsonText.read text = some form

theorem Json.readsBack (v : Json) : ReadsBack v v.meaning where
  compact := v.read_compact
  dumped _ _ _ _ hdump hdevice := ⟨v.indented, readFile_of_dump hdump hdevice, v.read_indented⟩

/-- **Dumps read back.**  A JSON reader finds in the dump of a program, or of tokens, the same
statements and tokens in the same order, each token with the name of its kind, its lexeme and its
line.  The lexeme is repaired, that is, it has the replacement character in place of every byte that
is no part of a character; if the program was scanned from a source, it is the lexeme itself. -/
theorem dumps_read_back :
    (∀ p : Program, ReadsBack p.toJson (p.reading Utf8.repair)) ∧
      (∀ table : TokenTable, ReadsBack table.toJson (table.reading Utf8.repair)) ∧
      (∀ lexeme repaired, Utf8.Repaired lexeme repaired ↔ repaired = Utf8.repair lexeme) ∧
      ∀ rule source tokens p, scan rule source = .ok tokens → Program.ofTokens tokens = .ok p →
        ReadsBack p.toJson (p.reading id) := by
  have hprogram : ∀ p : Program, ReadsBack p.toJson (p.reading Utf8.repair) := by
    intro p
    rw [← p.meaning_toJson]
    exact p.toJson.readsBack
  refine ⟨hprogram, ?_, fun _ _ => Utf8.repaired_iff, ?_⟩
  · intro table
    rw [← table.meaning_toJson]
    exact table.toJson.readsBack
  · intro rule source tokens p hscan hparse
    rw [← Program.reading_eq (visible_of_scan hscan hparse)]
    exact hprogram p

/-- The operators in the dumped tree are read back although they are escaped. -/
theorem dumps_read_back_angle_brackets :
    let p : Program :=
      ⟨some [⟨[Cursor.lexemeAt 0 0 .keyword (bytes "do"),
        Cursor.lexemeAt 4 1 .operator (bytes "<>")],
      Cursor.lexemeAt 6 1 .punctuation (bytes ";")⟩]⟩
    let after : FileTree :=
      { entries := [([bytes "tmp", bytes "work", bytes "out"], .directory),
          ([bytes "tmp", bytes "work", bytes "out", treeFile], .file p.toJson.indented)] }
    (scan .exact (bytes "do \n<>;") >>= Program.ofTokens) = .ok p ∧
      dump {} (bytes "out") treeFile p.toJson = (.ok (), after) ∧
      ∃ text, after.readFile (bytes "out/ast.json") = .ok text ∧
        JsonText.read text =
          some (.record [(bytes "type", .text (bytes "Program")), (bytes "body", .list
          [.record [(bytes "type", .text (bytes "Expression")), (bytes "body", .list
            [.record [(bytes "type", .text (bytes "TOK_KEYWORD")),
              (bytes "value", .text (bytes "do")), (bytes "line", .number (Rat.ofInt 1))],
            .record [(bytes "type", .text (bytes "TOK_OPERATOR")),
              (bytes "value", .text (bytes "<>")),
                (bytes "line", .number (Rat.ofInt 2))]])]])]) := by
  intro p after
  have hscan : scan .exact (bytes "do \n<>;") = .ok [Cursor.lexemeAt 0 0 .keyword (bytes "do"),
      Cursor.lexemeAt 4 1 .operator (bytes "<>"),
        Cursor.lexemeAt 6 1 .punctuation (bytes ";")] := by
    simp only [scan, ByteReader.scan_eq_read]
    decide
  have hdump : dump {} (bytes "out") treeFile p.toJson = (.ok (), after) := rfl
  have hread := (dumps_read_back.2.2.2 _ _ _ p hscan rfl).dumped _ _ _ _ hdump rfl
  refine ⟨?_, hdump, hread⟩
  rw [hscan]
  rfl

end BufferMachine
