import BufferMachine.Proofs.Boxes
import BufferMachine.Proofs.ByteReading
import BufferMachine.Proofs.JsonReader
import BufferMachine.Proofs.Sessions
import BufferMachine.Proofs.WordRuns
import BufferMachine.Text.Case

/-!
# Commands are no program text

Commands are found by characters: blanks of all scripts are trimmed and letters of all scripts made
capitals.  Programs are scanned by bytes.  Still no line is both a command and a line of a program.

What is trimmed is a gap for the scanner (`Text.exists_trim`).  What is left may have letters
outside the ASCII range, the dotless i and the long s, and the scanner sees only the pieces between
them.  But no command begins with I or S, so there is a piece at the front, and its capitals begin
the command.  Since no keyword in capitals occurs in a command, no keyword occurs in that piece
(`SessionCommand.exists_front`): it is refused under either rule and in every text.
-/

namespace BufferMachine

/-! ### Characters and the bytes they are read from -/

namespace Utf8

/-- An ASCII character is read from the byte with its code point, and any other one from bytes
outside the ASCII range. -/
inductive Character.IsRead : Character → Prop where
  | ascii {b : UInt8} (h : b < 0x80) : IsRead ⟨b.toNat, [b]⟩
  | outside {r : Character} (code_ge : 0x80 ≤ r.code) (ne_nil : r.raw ≠ [])
    (raw_ge : ∀ b ∈ r.raw, 0x80 ≤ b) : IsRead r

theorem isRead_character (c : Char) : Character.IsRead ⟨c.toNat, String.utf8EncodeChar c⟩ := by
  by_cases h : c.toNat < 0x80
  · have hread := Character.IsRead.ascii (b := UInt8.ofNat c.toNat)
      (UInt8.lt_iff_toNat_lt.mpr
        (by rw [UInt8.toNat_ofNat_of_lt' (show _ < 256 by omega)]; exact h))
    rw [UInt8.toNat_ofNat_of_lt' (show _ < 256 by omega)] at hread
    rw [JsonText.encodeChar_of_lt h]
    exact hread
  · refine .outside (Nat.not_lt.mp h) String.utf8EncodeChar_ne_nil ?_
    intro b hb
    exact UInt8.le_iff_toNat_le.mpr (JsonText.le_of_mem_encodeChar (Nat.not_lt.mp h) b hb)

theorem isRead_stray {b : UInt8} {rest : Bytes} (h : ¬ Begins (b :: rest)) :
    Character.IsRead ⟨replacement, [b]⟩ := by
  refine .outside (show 0x80 ≤ replacement by decide) (List.cons_ne_nil _ _) ?_
  intro c hc
  obtain rfl := List.mem_singleton.mp hc
  by_contra hlow
  exact h ⟨Char.ofNat c.toNat, rest, by rw [encodeChar_ascii (UInt8.not_le.mp hlow)]; rfl⟩

theorem isRead_of_mem_characters {text : Bytes} : ∀ r ∈ characters text, r.IsRead := by
  induction text using characterInduction with
  | nil => simp [characters]
  | character c rest ih =>
    rw [characters_character]
    exact List.forall_mem_cons.mpr ⟨isRead_character c, ih⟩
  | stray b rest hstray ih =>
    rw [characters_stray hstray]
    exact List.forall_mem_cons.mpr ⟨isRead_stray hstray, ih⟩

theorem ofCharacters_characters (text : Bytes) : ofCharacters (characters text) = text := by
  unfold ofCharacters
  induction text using characterInduction with
  | nil => rw [characters]; rfl
  | character c rest ih => rw [characters_character, List.flatMap_cons, ih]
  | stray b rest hstray ih => rw [characters_stray hstray, List.flatMap_cons, ih]; rfl

/-- A code point outside the ASCII range is written with a byte that belongs to no word. -/
theorem exists_gap_in_encode {code : Nat} (h : 0x80 ≤ code) :
    ∃ b ∈ encode code, isWordByte b = false := by
  by_cases hvalid : code.isValidChar
  · have hcode : (Char.ofNat code).toNat = code := by
      rw [Char.ofNat, dif_pos hvalid]
      rfl
    obtain ⟨b, hb⟩ :=
      List.exists_mem_of_ne_nil _ (String.utf8EncodeChar_ne_nil (c := Char.ofNat code))
    have hle := JsonText.le_of_mem_encodeChar (by omega) b hb
    exact ⟨b, hb, (isGapByte_iff.mp (ByteReader.isGapByte_of_le (UInt8.le_iff_toNat_le.mpr hle))).1⟩
  · -- what is no code point is written as the null character
    have hnull : Char.ofNat code = Char.ofNat 0 := by rw [Char.ofNat, dif_neg hvalid]; rfl
    exact ⟨0, by rw [encode, hnull]; decide, by decide⟩

end Utf8

/-! ### Trimming -/

theorem exists_stripped {α : Type} (p : α → Bool) (xs : List α) :
    ∃ before after, xs = before ++ stripped p xs ++ after ∧ (∀ x ∈ before, p x = true) ∧
      ∀ x ∈ after, p x = true := by
  refine ⟨xs.takeWhile p, ((xs.dropWhile p).reverse.takeWhile p).reverse, ?_, ?_, ?_⟩
  · rw [List.append_assoc, stripped, ← List.reverse_append, List.takeWhile_append_dropWhile,
      List.reverse_reverse, List.takeWhile_append_dropWhile]
  · exact List.all_eq_true.mp List.all_takeWhile
  · intro x hx
    exact List.all_eq_true.mp List.all_takeWhile x (List.mem_reverse.mp hx)

namespace Text

theorem isGapByte_of_isBlank {b : UInt8} (h : isBlank b.toNat = true) : isGapByte b = true := by
  by_cases hlow : b < 0x80
  · have hb : b.toNat < 0x80 := hlow
    simp only [isBlank, Bool.or_eq_true, Bool.and_eq_true, decide_eq_true_eq, beq_iff_eq] at h
    have hcode : b.toNat ≤ 13 ∨ b.toNat = 32 := by omega
    rw [isGapByte_iff]
    refine ⟨?_, ?_, ?_⟩
    · simp only [isWordByte, CharClass.isWord, CharClass.isDigit, Bool.or_eq_false_iff,
        Bool.and_eq_false_iff, decide_eq_false_iff_not, beq_eq_false_iff_ne]
      omega
    · simp only [isOperatorByte, CharClass.isOperator, Bool.or_eq_false_iff, beq_eq_false_iff_ne]
      omega
    · rintro rfl
      revert hcode
      decide
  · exact ByteReader.isGapByte_of_le (UInt8.not_lt.mp hlow)

theorem isGap_of_isBlank {rs : List Utf8.Character} (hread : ∀ r ∈ rs, r.IsRead)
    (hblank : ∀ r ∈ rs, isBlankCharacter r = true) : IsGap (Utf8.ofCharacters rs) := by
  intro b hb
  obtain ⟨r, hr, hb⟩ := List.mem_flatMap.mp hb
  cases hread r hr with
  | ascii h =>
    have hcode := hblank _ hr
    rw [isBlankCharacter] at hcode
    obtain rfl := List.mem_singleton.mp hb
    exact isGapByte_of_isBlank hcode
  | outside _ _ raw_ge => exact ByteReader.isGapByte_of_le (raw_ge b hb)

/-- **What is trimmed is a gap.** -/
theorem exists_trim (text : Bytes) :
    ∃ lead trail, text = lead ++ trim text ++ trail ∧ IsGap lead ∧ IsGap trail := by
  obtain ⟨before, after, hsplit, hbefore, hafter⟩ :=
    exists_stripped isBlankCharacter (Utf8.characters text)
  have hread : ∀ r ∈ before ++ stripped isBlankCharacter (Utf8.characters text) ++ after,
      r.IsRead := by
    rw [← hsplit]
    exact Utf8.isRead_of_mem_characters
  rw [List.forall_mem_append, List.forall_mem_append] at hread
  refine ⟨Utf8.ofCharacters before, Utf8.ofCharacters after, ?_, isGap_of_isBlank hread.1.1 hbefore,
    isGap_of_isBlank hread.2 hafter⟩
  calc text = Utf8.ofCharacters (Utf8.characters text) := (Utf8.ofCharacters_characters text).symm
    _ = Utf8.ofCharacters
      (before ++ stripped isBlankCharacter (Utf8.characters text) ++ after) := by rw [← hsplit]
    _ = Utf8.ofCharacters before ++ trim text ++ Utf8.ofCharacters after := by
      rw [Utf8.ofCharacters, List.flatMap_append, List.flatMap_append]
      rfl

end Text

/-! ### Capitals -/

/-- Pieces that make up a text of a class can be exchanged for others that differ from them only
outside the class. -/
theorem flatMap_eq_of_flatMap_eq {α : Type} {p : UInt8 → Bool} {f g : α → Bytes} {xs : List α}
    {text : Bytes} (h : ∀ x ∈ xs, f x = g x ∨ ∃ b ∈ f x, p b = false)
    (htext : ∀ b ∈ text, p b = true) (hf : xs.flatMap f = text) :
    xs.flatMap g = text := by
  rw [← hf]
  refine List.flatMap_congr fun x hx => ?_
  rcases h x hx with heq | ⟨b, hb, hclass⟩
  · exact heq.symm
  · have hmem : b ∈ text := hf ▸ List.mem_flatMap.mpr ⟨x, hx, hb⟩
    rw [htext b hmem] at hclass
    cases hclass

theorem Bytes.toUpper_of_le {text : Bytes} (h : ∀ b ∈ text, 0x80 ≤ b) : toUpper text = text := by
  refine (List.map_congr_left fun b hb => ?_).trans (List.map_id text)
  have hb : 0x80 ≤ b.toNat := UInt8.le_iff_toNat_le.mp (h b hb)
  refine if_neg fun hsmall => ?_
  have hle : b.toNat ≤ 122 := UInt8.le_iff_toNat_le.mp hsmall.2
  omega

theorem Bytes.exists_toUpper_singleton (b : UInt8) :
    ∃ c, toUpper [b] = [c] ∧ (isWordByte c = true → Decimal.isDigit c = false →
      isWordByte b = true ∧ Decimal.isDigit b = false) := by
  refine ⟨if 97 ≤ b ∧ b ≤ 122 then b - 32 else b, rfl, ?_⟩
  split
  · next hsmall =>
    have hlow : 97 ≤ b.toNat := UInt8.le_iff_toNat_le.mp hsmall.1
    have hhigh : b.toNat ≤ 122 := UInt8.le_iff_toNat_le.mp hsmall.2
    intro _ _
    constructor
    · simp only [isWordByte, CharClass.isWord, Bool.or_eq_true, Bool.and_eq_true, decide_eq_true_eq]
      omega
    · simp only [Decimal.isDigit, Bool.and_eq_false_iff, decide_eq_false_iff_not,
        UInt8.le_iff_toNat_le]
      right
      exact Nat.not_le.mpr (Nat.lt_of_lt_of_le (by decide) hlow)
  · exact fun hword hdigit => ⟨hword, hdigit⟩

namespace SessionCommand

theorem capital_ascii {b : UInt8} (h : b < 0x80) : capital ⟨b.toNat, [b]⟩ = Bytes.toUpper [b] := by
  have hb : b.toNat < 0x80 := h
  rw [capital, if_neg (by simp only; omega), if_neg (by simp only; omega)]

theorem capitals_append {word : Bytes} (h : Utf8.IsAscii word) (rest : Bytes) :
    capitals (word ++ rest) = Bytes.toUpper word ++ capitals rest := by
  have hword : (Utf8.characters word).flatMap capital = Bytes.toUpper word := by
    rw [Utf8.characters_ascii h, List.flatMap_map, Bytes.toUpper, List.map_eq_flatMap]
    exact List.flatMap_congr fun b hb => capital_ascii (h b hb)
  rw [capitals, Utf8.characters_append (Utf8.isValid_ascii h), List.flatMap_append, hword]
  rfl

/-- Outside the ASCII range two letters have a capital inside of it. -/
theorem capital_cases {r : Utf8.Character} (hne : r.raw ≠ []) (hraw : ∀ b ∈ r.raw, 0x80 ≤ b) :
    (r.code = 0x131 ∧ capital r = [byte 'I']) ∨ (r.code = 0x17F ∧ capital r = [byte 'S']) ∨
      r.code ≠ 0x131 ∧ r.code ≠ 0x17F ∧ ∃ b ∈ capital r, isWordByte b = false := by
  unfold capital
  split
  · next h => exact Or.inl ⟨h, rfl⟩
  · next hdotless =>
    split
    · next h => exact Or.inr (Or.inl ⟨h, rfl⟩)
    · next hlong =>
      right; right
      refine ⟨hdotless, hlong, ?_⟩
      rw [Bytes.toUpper_of_le hraw]
      obtain ⟨b, hb⟩ := List.exists_mem_of_ne_nil _ hne
      exact ⟨b, hb, (isGapByte_iff.mp (ByteReader.isGapByte_of_le (hraw b hb))).1⟩

end SessionCommand

/-! ### Commands by the letters of all scripts -/

namespace Text.CaseRun

/-- The capital of a letter outside the ASCII range lies there, too, apart from two letters. -/
theorem le_counterpart {code : Nat} (h : 0x80 ≤ code) (hdotless : code ≠ 0x131)
    (hlong : code ≠ 0x17F) :
    0x80 ≤ counterpart smallLetters code := by
  have htable : smallLetters.all (fun run => run.last < 0x80 || 0x80 ≤ run.first + run.shift ||
      run.first == run.last && (run.first == 0x131 || run.first == 0x17F)) = true := by
        decide +kernel
  unfold counterpart
  split
  · next run hfind =>
    have hrun := List.all_eq_true.mp htable run (List.mem_of_find?_eq_some hfind)
    have hcontains := List.find?_some hfind
    simp only [contains, Bool.and_eq_true, decide_eq_true_eq] at hcontains
    simp only [Bool.or_eq_true, Bool.and_eq_true, decide_eq_true_eq, beq_iff_eq] at hrun
    omega
  · exact h

/-- In the ASCII range the capitals are those of ASCII. -/
theorem counterpart_ascii {b : UInt8} (h : b < 0x80) :
    counterpart smallLetters b.toNat = if 97 ≤ b ∧ b ≤ 122 then (b - 32).toNat else b.toNat := by
  have hb : b.toNat < 0x80 := h
  have htable : smallLetters.tail.all (fun run => 0x80 ≤ run.first) = true := by decide +kernel
  have hothers : smallLetters.tail.find? (·.contains b.toNat) = none := by
    rw [List.find?_eq_none]
    intro run hrun
    have hfirst := List.all_eq_true.mp htable run hrun
    simp only [decide_eq_true_eq] at hfirst
    simp only [contains, Bool.and_eq_true, decide_eq_true_eq]
    omega
  have hcons : smallLetters = ⟨0x61, 0x7A, 1, -32⟩ :: smallLetters.tail := rfl
  rw [counterpart, hcons, List.find?_cons, hothers]
  simp only [contains, UInt8.le_iff_toNat_le, UInt8.reduceToNat, Nat.mod_one, BEq.rfl,
    Bool.and_true]
  split_ifs with hsmall
  · rw [decide_eq_true hsmall.1, decide_eq_true hsmall.2]
    simp only [Bool.and_self]
    rw [UInt8.toNat_sub_of_le _ _ (UInt8.le_iff_toNat_le.mpr (by simp; omega))]
    simp
    omega
  · rw [Bool.and_eq_false_iff.mpr (by simpa [or_iff_not_imp_left] using hsmall)]

end Text.CaseRun

namespace SessionCommand

/-- A character has the same capital by the letters of ASCII as by those of all scripts, or neither
is a letter of ASCII. -/
theorem capital_eq_or {r : Utf8.Character} (hread : r.IsRead) :
    capital r = Utf8.encode (Text.CaseRun.counterpart Text.CaseRun.smallLetters r.code) ∨
      (∃ b ∈ capital r, isWordByte b = false) ∧
        ∃ b ∈ Utf8.encode (Text.CaseRun.counterpart Text.CaseRun.smallLetters r.code),
          isWordByte b = false := by
  cases hread with
  | ascii h =>
    left
    rw [capital_ascii h, Text.CaseRun.counterpart_ascii h, Utf8.encode, Bytes.toUpper,
      List.map_singleton]
    split
    · next b hsmall =>
      have hlow : b - 32 < 0x80 := by
        rw [UInt8.lt_iff_toNat_lt, UInt8.toNat_sub_of_le _ _ (UInt8.le_trans (by decide) hsmall.1)]
        have hb : b.toNat < 0x80 := h
        simp
        omega
      exact (Utf8.encodeChar_ascii hlow).symm
    · exact (Utf8.encodeChar_ascii h).symm
  | outside code_ge ne_nil raw_ge =>
    rcases capital_cases ne_nil raw_ge with
      ⟨hcode, hcapital⟩ | ⟨hcode, hcapital⟩ | ⟨hdotless, hlong, hgap⟩
    · left
      rw [hcapital, hcode]
      decide +kernel
    · left
      rw [hcapital, hcode]
      decide +kernel
    · exact Or.inr
        ⟨hgap, Utf8.exists_gap_in_encode (Text.CaseRun.le_counterpart code_ge hdotless hlong)⟩

theorem isWordByte_of_mem_name {command : SessionCommand} :
    ∀ b ∈ command.name, isWordByte b = true := by
  cases command with
  | _ => exact List.all_eq_true.mp (by decide)

theorem capitals_eq_name_iff {text : Bytes} {command : SessionCommand} :
    capitals text = command.name ↔ Text.toUpper text = command.name := by
  constructor
  · refine flatMap_eq_of_flatMap_eq (fun r hr => ?_) isWordByte_of_mem_name
    exact (capital_eq_or (Utf8.isRead_of_mem_characters r hr)).imp_right And.left
  · refine flatMap_eq_of_flatMap_eq (fun r hr => ?_) isWordByte_of_mem_name
    exact (capital_eq_or (Utf8.isRead_of_mem_characters r hr)).imp Eq.symm And.right

theorem ofLine_eq_iff {line : Bytes} {command : SessionCommand} (h : command ≠ .source) :
    ofLine line = command ↔ capitals (Text.trim line) = command.name := by
  have hofLine : ofLine line = (all.find? (·.name == capitals (Text.trim line))).getD .source := rfl
  rw [hofLine]
  constructor
  · intro hline
    cases hfind : all.find? (·.name == capitals (Text.trim line)) with
    | none =>
      rw [hfind] at hline
      exact absurd hline.symm h
    | some found =>
      rw [hfind] at hline
      obtain rfl : found = command := hline
      have hname := List.find?_some hfind
      exact (beq_iff_eq.mp hname).symm
  · intro hname
    rw [hname]
    cases command with
    | source => exact absurd rfl h
    | _ => rfl

/-! ### The word at the front of a command -/

/-- No command begins with a letter that is the capital of one outside the ASCII range, nor with a
digit. -/
theorem exists_head_name {command : SessionCommand} (h : command ≠ .source) :
    ∃ b tail, command.name = b :: tail ∧ Decimal.isDigit b = false ∧ b ≠ byte 'I' ∧
      b ≠ byte 'S' := by
  cases command with
  | source => exact absurd rfl h
  | _ => exact ⟨_, _, rfl, by decide, by decide, by decide⟩

/-- A text with the capitals of a command begins with a letter of ASCII. -/
theorem exists_letter_of_capitals {text : Bytes} {command : SessionCommand}
    (hcommand : command ≠ .source) (h : capitals text = command.name) :
    ∃ b tail, text = b :: tail ∧ isWordByte b = true ∧ Decimal.isDigit b = false := by
  obtain ⟨first, rest, hname, hdigit, hdotless, hlong⟩ := exists_head_name hcommand
  have hword : isWordByte first = true :=
    isWordByte_of_mem_name first (by rw [hname]; exact List.mem_cons_self)
  have htext := Utf8.ofCharacters_characters text
  have hread : ∀ r ∈ Utf8.characters text, r.IsRead := Utf8.isRead_of_mem_characters
  have hall : ∀ b ∈ capitals text, isWordByte b = true := h ▸ isWordByte_of_mem_name
  rw [hname, capitals] at h
  cases hcharacters : Utf8.characters text with
  | nil =>
    rw [hcharacters] at h
    cases h
  | cons r rs =>
    rw [capitals, hcharacters] at hall
    rw [hcharacters] at h htext hread
    rw [List.flatMap_cons] at h hall
    have hr := hread r List.mem_cons_self
    cases hr with
    | @ascii b hlow =>
      obtain ⟨c, hc, hletter⟩ := Bytes.exists_toUpper_singleton b
      rw [capital_ascii hlow, hc] at h
      obtain rfl : c = first := (List.cons.inj h).1
      exact ⟨b, Utf8.ofCharacters rs, htext.symm, hletter hword hdigit⟩
    | outside code_ge ne_nil raw_ge =>
      -- the line would begin with one of the two letters, or with what is no letter of ASCII
      rcases capital_cases ne_nil raw_ge with ⟨-, hcapital⟩ | ⟨-, hcapital⟩ | ⟨-, -, b, hb, hgap⟩
      · rw [hcapital] at h
        exact absurd (List.cons.inj h).1.symm hdotless
      · rw [hcapital] at h
        exact absurd (List.cons.inj h).1.symm hlong
      · rw [hall b (List.mem_append_left _ hb)] at hgap
        cases hgap

/-- The capitals of a keyword do not occur in a command. -/
theorem not_occursIn_name {command : SessionCommand} {keyword : Bytes}
    (h : keyword ∈ [bytes "write", bytes "for", bytes "do"]) :
    Bytes.occursIn (Bytes.toUpper keyword) command.name = false := by
  have hall : [bytes "write", bytes "for", bytes "do"].all
      (fun keyword => !Bytes.occursIn (Bytes.toUpper keyword) command.name) = true := by
    cases command with
    | _ => decide
  simpa using List.all_eq_true.mp hall keyword h

/-- A word whose capitals begin a command is not taken for a keyword. -/
theorem not_takes_of_name {command : SessionCommand} {word : Bytes}
    (h : Bytes.toUpper word <+: command.name) (rule : KeywordRule) : ¬ rule.Takes word := by
  intro htakes
  have hinside : ∃ keyword ∈ [bytes "write", bytes "for", bytes "do"], keyword <:+: word := by
    cases rule with
    | exact => exact ⟨word, htakes, List.infix_rfl⟩
    | substring => exact htakes
  obtain ⟨keyword, hkeyword, hword⟩ := hinside
  have hname : Bytes.toUpper keyword <:+: command.name := (hword.map _).trans h.isInfix
  rw [← Bytes.occursIn_iff, not_occursIn_name hkeyword] at hname
  cases hname

/-- **A command has a word at its front that no rule accepts.** -/
theorem exists_front {line : Bytes} (h : ofLine line ≠ .source) :
    ∃ word rest, Text.trim line = word ++ rest ∧ IsIdentifier word ∧ EndsBefore .keyword rest ∧
      ∀ rule : KeywordRule, rule.accepts word = false := by
  have hname := (ofLine_eq_iff h).mp rfl
  obtain ⟨b, tail, htrim, hletter, hdigit⟩ := exists_letter_of_capitals h hname
  have hall : ∀ c ∈ (Text.trim line).takeWhile isWordByte, isWordByte c = true :=
    List.all_eq_true.mp List.all_takeWhile
  have hascii : Utf8.IsAscii ((Text.trim line).takeWhile isWordByte) := by
    intro c hc
    exact UInt8.not_le.mp (ByteReader.not_le_of_isWordByte (hall c hc))
  refine ⟨(Text.trim line).takeWhile isWordByte, (Text.trim line).dropWhile isWordByte,
    List.takeWhile_append_dropWhile.symm, ⟨hall, ?_⟩, ?_, ?_⟩
  · refine ⟨b, ?_, hdigit⟩
    rw [htrim, List.takeWhile_cons_of_pos hletter]
    rfl
  · intro c hc
    have hstop := List.head?_dropWhile_not isWordByte (Text.trim line)
    rw [hc] at hstop
    exact hstop
  · intro rule
    rw [KeywordRule.accepts_eq_false_iff]
    have hfront : Bytes.toUpper ((Text.trim line).takeWhile isWordByte) <+: (ofLine line).name := by
      refine ⟨capitals ((Text.trim line).dropWhile isWordByte), ?_⟩
      rw [← hname, ← capitals_append hascii, List.takeWhile_append_dropWhile]
    exact not_takes_of_name hfront rule

/-! ### Commands in a text -/

/-- Between line ends, or any other bytes that belong to no word, the word at the front is an
identifier. -/
theorem exists_identifier {before line after : Bytes} (h : ofLine line ≠ .source)
    (hbefore : ∀ b, before.getLast? = some b → isWordByte b = false)
    (hafter : EndsBefore .keyword after) :
    ∃ i : Identifier (before ++ line ++ after), i.start < (before ++ line).length ∧
      ∀ rule : KeywordRule, rule.accepts i.word = false := by
  obtain ⟨lead, trail, hline, hlead, htrail⟩ := Text.exists_trim line
  obtain ⟨word, rest, htrim, hword, hrest, hrefused⟩ := exists_front h
  rw [htrim] at hline
  refine ⟨⟨before ++ lead, [], word, rest ++ (trail ++ after), ?_, ?_, by simp, hword, ?_⟩,
    ?_, hrefused⟩
  · rw [hline]
    simp
  · intro b hb
    rw [List.getLast?_append, Option.or_eq_some_iff] at hb
    rcases hb with hb | ⟨-, hb⟩
    · exact (isGapByte_iff.mp (hlead b (List.mem_of_getLast? hb))).1
    · exact hbefore b hb
  · cases rest with
    | nil =>
      rw [List.nil_append]
      exact endsBefore_gap_append htrail hafter
    | cons b rest => exact endsBefore_cons (hrest b rfl) _
  · have hpos := List.length_pos_iff.mpr hword.ne_nil
    simp only [Identifier.start, hline, List.length_append, List.length_nil]
    omega

/-- **A command is refused wherever it stands.** -/
theorem scan_eq_error {before line after : Bytes} (h : ofLine line ≠ .source)
    (hbefore : ∀ b, before.getLast? = some b → isWordByte b = false)
    (hafter : EndsBefore .keyword after) (rule : KeywordRule) :
    ∃ place word, scan rule (before ++ line ++ after) = .error (.lexical place word) ∧
      place.start < (before ++ line).length := by
  obtain ⟨i, hi, hrefused⟩ := exists_identifier h hbefore hafter
  rcases scan_cases rule (before ++ line ++ after) with ⟨tokens, -, hall⟩ | ⟨j, -, hfirst, herror⟩
  · have haccepted := hall i
    rw [hrefused rule] at haccepted
    cases haccepted
  · refine ⟨j.location, j.word, herror, ?_⟩
    have hle : j.start ≤ i.start := by
      by_contra hlt
      have haccepted := hfirst i (Nat.not_le.mp hlt)
      rw [hrefused rule] at haccepted
      cases haccepted
    exact Int.ofNat_lt.mpr (Nat.lt_of_le_of_lt hle hi)

end SessionCommand

/-! ### The lines of a text -/

theorem Bytes.exists_around_of_mem {line : Bytes} {lines : List Bytes} (h : line ∈ lines) :
    ∃ before after, List.intercalate [newline] lines = before ++ line ++ after ∧
      (∀ b, before.getLast? = some b → b = newline) ∧ ∀ b, after.head? = some b → b = newline := by
  induction lines with
  | nil => cases h
  | cons first lines ih =>
    cases lines with
    | nil =>
      obtain rfl := List.mem_singleton.mp h
      exact ⟨[], [], by simp, by simp, by simp⟩
    | cons second lines =>
      rw [List.intercalate_cons_cons]
      rcases List.mem_cons.mp h with rfl | hmem
      · refine ⟨[], newline :: List.intercalate [newline] (second :: lines), by simp, by simp, ?_⟩
        intro b hb
        exact (Option.some.inj hb).symm
      · obtain ⟨before, after, heq, hbefore, hafter⟩ := ih hmem
        refine ⟨first ++ [newline] ++ before, after, by rw [heq]; simp, ?_, hafter⟩
        intro b hb
        rw [List.getLast?_append, Option.or_eq_some_iff, List.getLast?_concat] at hb
        rcases hb with hb | ⟨-, hb⟩
        · exact hbefore b hb
        · exact (Option.some.inj hb).symm

/-- No line of a source that can be compiled is a command. -/
theorem ofLine_of_compile {rule : KeywordRule} {size : Int} {source : Bytes} {r : Compilation}
    (h : compile rule size source = .ok r) :
    ∀ line ∈ source.splitOn newline, SessionCommand.ofLine line = .source := by
  intro line hline
  by_contra hcommand
  obtain ⟨before, after, hsource, hbefore, hafter⟩ := Bytes.exists_around_of_mem hline
  rw [List.intercalate_splitOn] at hsource
  obtain ⟨place, word, herror, -⟩ := SessionCommand.scan_eq_error hcommand
    (fun b hb => by rw [hbefore b hb]; decide) (fun b hb => by rw [hafter b hb]; decide) rule
  obtain ⟨tokens, -, -, hscan, -⟩ := compile_eq_ok.mp h
  rw [← hsource, hscan] at herror
  cases herror

/-- Lines without a command among them all go through the accumulator. -/
theorem Session.translations_of_no_command (s : Session) {lines : List Bytes}
    (h : ∀ line ∈ lines, SessionCommand.ofLine line = .source) :
    (s.translations (lines.map .line)).map Translation.source = s.accumulator.chunks lines := by
  have hkept : ∀ line ∈ lines, SessionCommand.ofLine line ≠ .exit ∧
      SessionCommand.ofLine line ≠ .reset := by
    intro line hline
    rw [h line hline]
    decide
  rw [s.translations_source hkept, List.filter_eq_self.mpr]
  intro line hline
  exact decide_eq_true (h line hline)

/-- **No line of a program is a command.**  A line is a command if it is one of the five words once
blanks are trimmed and letters made capitals, by the letters of all scripts.  A text with such a
line in it is refused by the scanner under either rule, whatever stands before and after the line,
and at the latest for a word on that line.  So when a source that can be compiled is typed into a
session line by line, each line is fed as source, and the session compiles what its accumulator
hands out for all of the lines. -/
theorem commands_never_shadow_source :
    (∀ (line : Bytes) (command : SessionCommand), command ≠ .source →
      (SessionCommand.ofLine line = command ↔ Text.toUpper (Text.trim line) = command.name)) ∧
    (∀ line : Bytes, SessionCommand.ofLine line ≠ .source → ∀ (rule : KeywordRule) (a b : Bytes),
      ∃ place word, scan rule (a ++ [newline] ++ line ++ [newline] ++ b) =
        .error (.lexical place word) ∧ place.start < (a ++ [newline] ++ line).length) ∧
    ∀ (c : Compiler) (w : Workspace) (source : Bytes) (r : Compilation),
      (c.run source w).1 = .ok r →
      ∀ s : Session, (∀ line ∈ source.splitOn newline, SessionCommand.ofLine line = .source ∧
        s.react (.line line) = s.feed line) ∧
      (s.translations ((source.splitOn newline).map .line)).map Session.Translation.source =
        s.accumulator.chunks (source.splitOn newline) := by
  refine ⟨?_, ?_, ?_⟩
  · intro line command hcommand
    rw [SessionCommand.ofLine_eq_iff hcommand, SessionCommand.capitals_eq_name_iff]
  · intro line hline rule a b
    rw [List.append_assoc (a ++ [newline] ++ line)]
    apply SessionCommand.scan_eq_error hline
    · intro last hlast
      rw [List.getLast?_concat] at hlast
      obtain rfl := Option.some.inj hlast
      decide
    · exact endsBefore_cons (by decide) b
  · intro c w source r hr s
    rw [c.run_fst] at hr
    have hlines := ofLine_of_compile hr
    refine ⟨?_, s.translations_of_no_command hlines⟩
    intro line hline
    refine ⟨hlines line hline, ?_⟩
    rw [Session.react, hlines line hline]

/-- A command with a long s in it and a blank of another script behind it makes the scanner refuse
the text; a program of three lines is typed without a command among them. -/
theorem commands_never_shadow_source_long_s :
    SessionCommand.ofLine (bytes " re\u017fet\u3000") = .reset ∧
      (∃ place word, scan .substring
        (bytes "write;" ++ [newline] ++ bytes " re\u017fet\u3000" ++ [newline] ++ bytes "write;") =
        .error (.lexical place word)) ∧
      (({ rule := .exact } : Session).translations
        (((bytes "do\n+;write\n;").splitOn newline).map .line)).map
        Session.Translation.source = [bytes "do\n+;", bytes "write\n;"] := by
  have htext : ProgramText [.perform (bytes "+"), .write] (bytes "do\n+;write\n;") := by
    have hsource : bytes "do\n+;write\n;" = [] ++
      (Keyword.perform ++ bytes "\n" ++ bytes "+" ++ [] ++ [terminator]) ++
        ([] ++ (Keyword.write ++ bytes "\n" ++ [terminator]) ++ []) := by decide
    rw [hsource]
    exact .cons isGap_nil (.perform (by decide) (by decide) isGap_nil)
      (.cons isGap_nil (.write (by decide)) (.nil isGap_nil))
  obtain ⟨r, hr⟩ := htext.exists_run {} {}
  obtain ⟨-, hrefused, htyped⟩ := commands_never_shadow_source
  have hreset : SessionCommand.ofLine (bytes " re\u017fet\u3000") = .reset := by decide +kernel
  obtain ⟨place, word, herror, -⟩ :=
    hrefused (bytes " re\u017fet\u3000") (by rw [hreset]; decide) .substring
    (bytes "write;") (bytes "write;")
  refine ⟨hreset, ⟨place, word, herror⟩, ?_⟩
  rw [(htyped {} {} _ r hr { rule := .exact }).2]
  decide +kernel

end BufferMachine
