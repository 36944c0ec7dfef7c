import BufferMachine.Proofs.Characters
import BufferMachine.Proofs.Numerals
import BufferMachine.Text.Json
import Mathlib.Data.List.TakeWhile

/-!
# Reading JSON

A reader of JSON texts, for all of JSON and not just for what is written here: white space between
any two symbols, fractions and exponents, truth values, every escape, pairs of surrogates.  It works
in two rounds, both of which go over their input once.  `Lexer` turns the bytes of a text into
symbols, and `Stage` puts the symbols together, with the lists and records that are still open on a
stack.

`Closes` and `Spells` say that a text has certain symbols, wherever it stands; a word at the end of
a text is closed only by what follows it.  Numbers, names and strings are read back as what they
were written for.
-/

namespace BufferMachine.JsonText

/-- A value as a reader finds it. -/
inductive Value where
  | null
  | boolean (value : Bool)
  | number (value : Rat)
  | text (value : Bytes)
  | list (items : List Value)
  | record (members : List (Bytes × Value))

/-- The smallest pieces of a text: brackets, separators, and values that have no parts. -/
inductive Symbol where
  | listOpens
  | listCloses
  | recordOpens
  | recordCloses
  | comma
  | colon
  | scalar (value : Value)
  | text (value : Bytes)

/-! ### Numbers and names -/

/-- The number with a significand and an exponent of ten. -/
def scaled (significand : Int) : Int → Rat
  | .ofNat exponent => Rat.ofInt (significand * Int.ofNat (Nat.pow 10 exponent))
  | .negSucc exponent => mkRat significand (Nat.pow 10 (exponent + 1))

/-- Digits that may stand before the point: a zero alone, or digits that do not begin with one. -/
def isWhole (digits : Bytes) : Bool := digits == [byte '0'] || digits.head?.any (· != byte '0')

/-- The digits behind a point, if the text begins with one, and the rest of the text. -/
def fraction? : Bytes → Option (Bytes × Bytes)
  | [] => some ([], [])
  | b :: rest =>
    if b = byte '.' then
      if (rest.takeWhile Decimal.isDigit).isEmpty then none
      else some (rest.takeWhile Decimal.isDigit, rest.dropWhile Decimal.isDigit)
    else some ([], b :: rest)

/-- A whole number that may have either sign. -/
def signed? : Bytes → Option Int
  | [] => none
  | b :: rest =>
    if b = byte '-' then (Decimal.toNat? rest).map fun n => -(n : Int)
    else if b = byte '+' then (Decimal.toNat? rest).map fun n => (n : Int)
    else (Decimal.toNat? (b :: rest)).map fun n => (n : Int)

/-- The exponent that a text consists of; none is as good as zero. -/
def exponent? : Bytes → Option Int
  | [] => some 0
  | b :: rest => if b = byte 'e' || b = byte 'E' then signed? rest else none

/-- The significand and the exponent of a number without a sign. -/
def unsigned? (word : Bytes) : Option (Nat × Int) := do
  let whole := word.takeWhile Decimal.isDigit
  if isWhole whole then
    let (fraction, rest) ← fraction? (word.dropWhile Decimal.isDigit)
    let exponent ← exponent? rest
    return (Decimal.value (whole ++ fraction), exponent - fraction.length)
  else none

def number? : Bytes → Option Rat
  | [] => none
  | b :: rest =>
    if b = byte '-' then (unsigned? rest).map fun (n, exponent) => scaled (-(n : Int)) exponent
    else (unsigned? (b :: rest)).map fun (n, exponent) => scaled n exponent

def scalar? (word : Bytes) : Option Value :=
  if word = bytes "null" then some .null
  else if word = bytes "true" then some (.boolean true)
  else if word = bytes "false" then some (.boolean false)
  else (number? word).map .number

/-! ### From bytes to symbols -/

/-- Where in a text the reader is. -/
inductive Place where
  /-- Outside of strings, behind the bytes of a word, if there are any. -/
  | outside (word : Bytes)
  /-- In a string, behind some text. -/
  | inside (text : Bytes)
  /-- Behind a backslash. -/
  | escape (text : Bytes)
  /-- Behind `\u` and some digits, and perhaps behind the first half of a pair of surrogates. -/
  | hex (text : Bytes) (half : Option Nat) (digits : List Nat)
  /-- Behind the first half of a pair of surrogates. -/
  | half (text : Bytes) (high : Nat)
  /-- Behind the first half of a pair of surrogates and a backslash. -/
  | halfEscape (text : Bytes) (high : Nat)

/-- The symbols so far, and the place that has been reached. -/
structure Lexer where
  symbols : List Symbol := []
  place : Place := .outside []

def mark? (b : UInt8) : Option Symbol :=
  if b = byte '[' then some .listOpens
  else if b = byte ']' then some .listCloses
  else if b = byte '\x7b' then some .recordOpens
  else if b = byte '\x7d' then some .recordCloses
  else if b = byte ',' then some .comma
  else if b = byte ':' then some .colon
  else none

def isBlank (b : UInt8) : Bool := b == byte ' ' || b == newline || b == 13 || b == 9

/-- Does the byte end a word that it stands behind? -/
def endsWord (b : UInt8) : Bool := isBlank b || b == byte '"' || (mark? b).isSome

/-- What a letter behind a backslash stands for. -/
def escaped? (b : UInt8) : Option UInt8 :=
  if b = byte '"' || b = byte '\\' || b = byte '/' then some b
  else if b = byte 'b' then some 8
  else if b = byte 'f' then some 12
  else if b = byte 'n' then some 10
  else if b = byte 'r' then some 13
  else if b = byte 't' then some 9
  else none

def hexValue? (b : UInt8) : Option Nat :=
  if 48 ≤ b.toNat ∧ b.toNat ≤ 57 then some (b.toNat - 48)
  else if 97 ≤ b.toNat ∧ b.toNat ≤ 102 then some (b.toNat - 87)
  else if 65 ≤ b.toNat ∧ b.toNat ≤ 70 then some (b.toNat - 55)
  else none

def isHigh (unit : Nat) : Bool := 0xD800 ≤ unit && unit < 0xDC00

def isLow (unit : Nat) : Bool := 0xDC00 ≤ unit && unit < 0xE000

/-- The place behind the four digits of an escape. -/
def Place.behindUnit (text : Bytes) (half : Option Nat) (unit : Nat) : Option Place :=
  match half with
  | none =>
    if isHigh unit then some (.half text unit)
    else if isLow unit then none
    else some (.inside (text ++ Utf8.encode unit))
  | some high =>
    if isLow unit then
      some (.inside (text ++ Utf8.encode (0x10000 + (high - 0xD800) * 0x400 + (unit - 0xDC00))))
    else none

namespace Lexer

/-- The symbols with that of the word that is being read. -/
def closed? (l : Lexer) : Option (List Symbol) :=
  match l.place with
  | .outside [] => some l.symbols
  | .outside (b :: word) => (scalar? (b :: word)).map fun value => l.symbols ++ [.scalar value]
  | _ => none

/-- Reads a byte outside of strings that ends the word before it. -/
def behindWord (symbols : List Symbol) (b : UInt8) : Lexer :=
  if b = byte '"' then ⟨symbols, .inside []⟩
  else
    match mark? b with
    | some symbol => ⟨symbols ++ [symbol], .outside []⟩
    | none => ⟨symbols, .outside []⟩

def step (l : Lexer) (b : UInt8) : Option Lexer :=
  match l.place with
  | .outside word =>
    if endsWord b then l.closed?.map (behindWord · b) else some ⟨l.symbols, .outside (word ++ [b])⟩
  | .inside text =>
    if b = byte '"' then some ⟨l.symbols ++ [.text text], .outside []⟩
    else if b = byte '\\' then some ⟨l.symbols, .escape text⟩
    else if b < 0x20 then none
    else some ⟨l.symbols, .inside (text ++ [b])⟩
  | .escape text =>
    if b = byte 'u' then some ⟨l.symbols, .hex text none []⟩
    else (escaped? b).map fun c => ⟨l.symbols, .inside (text ++ [c])⟩
  | .hex text half digits =>
    (hexValue? b).bind fun digit =>
      if digits.length < 3 then some ⟨l.symbols, .hex text half (digits ++ [digit])⟩
      else (Place.behindUnit text half ((digits ++ [digit]).foldl (fun n d => n * 16 + d) 0)).map
        (⟨l.symbols, ·⟩)
  | .half text high => if b = byte '\\' then some ⟨l.symbols, .halfEscape text high⟩ else none
  | .halfEscape text high =>
    if b = byte 'u' then some ⟨l.symbols, .hex text (some high) []⟩ else none

end Lexer

def symbols? (text : Bytes) : Option (List Symbol) := (text.foldlM Lexer.step {}).bind Lexer.closed?

/-! ### From symbols to values -/

/-- A list or a record that is open: the items so far, or the members so far and the name of the
next one. -/
inductive Frame where
  | list (items : List Value)
  | record (members : List (Bytes × Value)) (name : Bytes)

/-- What the reader waits for, and what is open around it, the innermost first. -/
inductive Stage where
  | value (outer : List Frame)
  /-- Behind an opening bracket: an item, or the end of the list. -/
  | firstItem (outer : List Frame)
  /-- Behind an opening brace: a name, or the end of the record. -/
  | firstName (outer : List Frame)
  /-- Behind a comma in a record. -/
  | name (members : List (Bytes × Value)) (outer : List Frame)
  /-- Behind a name. -/
  | colon (members : List (Bytes × Value)) (name : Bytes) (outer : List Frame)
  /-- Behind a value. -/
  | behind (value : Value) (outer : List Frame)

namespace Stage

def begin? (outer : List Frame) : Symbol → Option Stage
  | .scalar v => some (.behind v outer)
  | .text t => some (.behind (.text t) outer)
  | .listOpens => some (.firstItem outer)
  | .recordOpens => some (.firstName outer)
  | _ => none

def step : Stage → Symbol → Option Stage
  | .value outer, symbol => begin? outer symbol
  | .firstItem outer, .listCloses => some (.behind (.list []) outer)
  | .firstItem outer, symbol => begin? (.list [] :: outer) symbol
  | .firstName outer, .recordCloses => some (.behind (.record []) outer)
  | .firstName outer, .text n => some (.colon [] n outer)
  | .name members outer, .text n => some (.colon members n outer)
  | .colon members n outer, .colon => some (.value (.record members n :: outer))
  | .behind v (.list items :: outer), .comma => some (.value (.list (items ++ [v]) :: outer))
  | .behind v (.list items :: outer), .listCloses => some (.behind (.list (items ++ [v])) outer)
  | .behind v (.record members n :: outer), .comma => some (.name (members ++ [(n, v)]) outer)
  | .behind v (.record members n :: outer), .recordCloses =>
    some (.behind (.record (members ++ [(n, v)])) outer)
  | _, _ => none

/-- The value that has been read, if nothing is open. -/
def result? : Stage → Option Value
  | .behind v [] => some v
  | _ => none

end Stage

def value? (symbols : List Symbol) : Option Value :=
  (symbols.foldlM Stage.step (.value [])).bind Stage.result?

/-- Reads a JSON text, which has to be well-formed UTF-8. -/
def read (text : Bytes) : Option Value :=
  if Utf8.isValid text then (symbols? text).bind value? else none

/-! ### Texts and their symbols -/

/-- The text is well formed; read behind any symbols, it adds the symbols and leaves no word
open. -/
structure Closes (text : Bytes) (symbols : List Symbol) : Prop where
  valid : Utf8.isValid text = true
  reads : ∀ before, text.foldlM Lexer.step ⟨before, .outside []⟩ =
    some ⟨before ++ symbols, .outside []⟩

/-- The text is well formed; read behind any symbols, it adds the symbols, the last one perhaps as a
word that is open. -/
structure Spells (text : Bytes) (symbols : List Symbol) : Prop where
  valid : Utf8.isValid text = true
  reads : ∀ before, ∃ l : Lexer,
    text.foldlM Lexer.step ⟨before, .outside []⟩ = some l ∧ l.closed? = some (before ++ symbols)

variable {a b : Bytes} {xs ys : List Symbol}

theorem Closes.spells (h : Closes a xs) : Spells a xs :=
  ⟨h.valid, fun before => ⟨_, h.reads before, rfl⟩⟩

theorem closes_nil : Closes [] [] where
  valid := Utf8.isValid_ascii (by decide)
  reads before := by simp

theorem Closes.append (ha : Closes a xs) (hb : Closes b ys) : Closes (a ++ b) (xs ++ ys) where
  valid := Utf8.isValid_append ha.valid hb.valid
  reads before := by
    rw [List.foldlM_append, ha.reads before, ← List.append_assoc]
    exact hb.reads (before ++ xs)

theorem Closes.append_spells (ha : Closes a xs) (hb : Spells b ys) :
    Spells (a ++ b) (xs ++ ys) where
  valid := Utf8.isValid_append ha.valid hb.valid
  reads before := by
    rw [List.foldlM_append, ha.reads before, ← List.append_assoc]
    exact hb.reads (before ++ xs)

/-- A byte that ends words is read behind an open word as it is behind a closed one. -/
theorem step_of_closed {l : Lexer} {symbols : List Symbol} {c : UInt8}
    (h : l.closed? = some symbols) (hc : endsWord c = true) :
    l.step c = Lexer.step ⟨symbols, .outside []⟩ c := by
  obtain ⟨before, place⟩ := l
  cases place with
  | outside word =>
    simp only [Lexer.step, hc, if_true, h]
    rfl
  | inside text => cases h
  | escape text => cases h
  | hex text half digits => cases h
  | half text high => cases h
  | halfEscape text high => cases h

/-- A word is closed by what follows, if that does not go on with it. -/
theorem Spells.append_closes {c : UInt8} (ha : Spells a xs) (hb : Closes (c :: b) ys)
    (hc : endsWord c = true) :
    Closes (a ++ c :: b) (xs ++ ys) where
  valid := Utf8.isValid_append ha.valid hb.valid
  reads before := by
    obtain ⟨l, hread, hclosed⟩ := ha.reads before
    rw [List.foldlM_append, hread, ← List.append_assoc, ← hb.reads (before ++ xs)]
    exact congrArg (· >>= fun l => b.foldlM Lexer.step l) (step_of_closed hclosed hc)

theorem Spells.symbols?_eq (h : Spells a xs) : symbols? a = some xs := by
  obtain ⟨l, hread, hclosed⟩ := h.reads []
  rw [symbols?, hread]
  exact hclosed

theorem closes_mark {c : UInt8} {symbol : Symbol} (h : mark? c = some symbol) (hascii : c < 0x80)
    (hquote : c ≠ byte '"') : Closes [c] [symbol] where
  valid := Utf8.isValid_ascii (by simpa [Utf8.IsAscii] using hascii)
  reads before := by
    have hends : endsWord c = true := by simp [endsWord, h]
    simp [Lexer.step, hends, Lexer.closed?, Lexer.behindWord, hquote, h]

theorem closes_listOpens : Closes [byte '['] [.listOpens] := closes_mark rfl (by decide) (by decide)

theorem closes_listCloses : Closes [byte ']'] [.listCloses] :=
  closes_mark rfl (by decide) (by decide)

theorem closes_recordOpens : Closes [byte '\x7b'] [.recordOpens] :=
  closes_mark rfl (by decide) (by decide)

theorem closes_recordCloses : Closes [byte '\x7d'] [.recordCloses] :=
  closes_mark rfl (by decide) (by decide)

theorem closes_comma : Closes [byte ','] [.comma] := closes_mark rfl (by decide) (by decide)

theorem closes_colon : Closes [byte ':'] [.colon] := closes_mark rfl (by decide) (by decide)

theorem closes_blank {c : UInt8} (h : c = byte ' ' ∨ c = newline) : Closes [c] [] := by
  rcases h with rfl | rfl
  · exact ⟨Utf8.isValid_ascii (by decide), fun before => by rw [List.append_nil]; rfl⟩
  · exact ⟨Utf8.isValid_ascii (by decide), fun before => by rw [List.append_nil]; rfl⟩

theorem closes_lineAt (depth : Nat) : Closes (Json.lineAt depth) [] := by
  have hspaces : ∀ count, Closes (List.replicate count (byte ' ')) [] := by
    intro count
    induction count with
    | zero => exact closes_nil
    | succ count ih => exact (closes_blank (Or.inl rfl)).append ih
  exact (closes_blank (Or.inr rfl)).append (hspaces _)

/-- A word is closed by the end of its line, and so can be followed by anything. -/
theorem Spells.append_lineAt (ha : Spells a xs) (depth : Nat) (hb : Closes b ys) :
    Closes (a ++ Json.lineAt depth ++ b) (xs ++ ys) := by
  have hclosed := (ha.append_closes (closes_lineAt depth) rfl).append hb
  rwa [List.append_nil] at hclosed

/-! ### Words -/

/-- Bytes that make up a word: none of them ends it. -/
def IsWord (word : Bytes) : Prop := ∀ b ∈ word, endsWord b = false ∧ b < 0x80

instance (word : Bytes) : Decidable (IsWord word) :=
  decidable_of_iff (word.all (fun b => !endsWord b && b < 0x80) = true) (by simp [IsWord])

theorem foldlM_word {word : Bytes} (h : IsWord word) (symbols : List Symbol) (front : Bytes) :
    word.foldlM Lexer.step ⟨symbols, .outside front⟩ =
      some ⟨symbols, .outside (front ++ word)⟩ := by
  induction word generalizing front with
  | nil => simp
  | cons b word ih =>
    rw [IsWord, List.forall_mem_cons] at h
    have hstep : Lexer.step ⟨symbols, .outside front⟩ b =
        some ⟨symbols, .outside (front ++ [b])⟩ := by
      simp [Lexer.step, h.1.1]
    rw [List.foldlM_cons, hstep]
    simpa using ih h.2 (front ++ [b])

theorem spells_word {word : Bytes} {value : Value} (h : IsWord word)
    (hvalue : scalar? word = some value) (hne : word ≠ []) :
    Spells word [.scalar value] where
  valid := Utf8.isValid_ascii fun b hb => (h b hb).2
  reads before := by
    refine ⟨_, foldlM_word h before [], ?_⟩
    obtain ⟨b, rest, rfl⟩ := List.exists_cons_of_ne_nil hne
    simp only [List.nil_append, Lexer.closed?, hvalue, Option.map_some]

theorem isWhole_ofNat (n : Nat) : isWhole (Decimal.ofNat n) = true := by
  have hcanonical := Decimal.isCanonical_ofNat n
  obtain ⟨b, rest, hcons⟩ := List.exists_cons_of_ne_nil hcanonical.isRun.ne_nil
  rw [isWhole, Bool.or_eq_true, beq_iff_eq, hcons]
  by_cases hb : b = byte '0'
  · left
    rw [← hcons]
    exact hcanonical.no_leading_zero (by rw [hcons, hb]; rfl)
  · exact Or.inr (by simpa using hb)

theorem unsigned?_ofNat (n : Nat) : unsigned? (Decimal.ofNat n) = some (n, 0) := by
  have hrun := Decimal.isRun_ofNat n
  rw [unsigned?, List.takeWhile_eq_self_iff.mpr hrun.all, List.dropWhile_eq_nil_iff.mpr hrun.all,
    isWhole_ofNat]
  simp [fraction?, exponent?, Decimal.value_ofNat]

theorem scaled_zero (n : Int) : scaled n 0 = Rat.ofInt n := by
  have h : scaled n 0 = Rat.ofInt (n * Int.ofNat 1) := rfl
  rw [h]
  exact congrArg Rat.ofInt (Int.mul_one n)

theorem ne_of_isDigit {b c : UInt8} (hb : Decimal.isDigit b = true)
    (hc : Decimal.isDigit c = false) : b ≠ c := by
  rintro rfl
  rw [hb] at hc
  cases hc

theorem number?_ofInt (n : Int) : number? (Decimal.ofInt n) = some (Rat.ofInt n) := by
  cases n with
  | ofNat n =>
    have hrun := Decimal.isRun_ofNat n
    obtain ⟨b, rest, hcons⟩ := List.exists_cons_of_ne_nil hrun.ne_nil
    have hb : b ≠ byte '-' := ne_of_isDigit (hrun.all b (by simp [hcons])) (by decide)
    have hunsigned := unsigned?_ofNat n
    rw [hcons] at hunsigned
    rw [Decimal.ofInt, hcons, number?, if_neg hb, hunsigned]
    exact congrArg some (scaled_zero n)
  | negSucc n =>
    rw [Decimal.ofInt, number?, if_pos rfl, unsigned?_ofNat]
    exact congrArg some (scaled_zero _)

theorem word_of_isDigit {b : UInt8} (h : Decimal.isDigit b = true) :
    endsWord b = false ∧ b < 0x80 := by
  obtain ⟨hlt, hb⟩ := Decimal.digit_sub h
  rw [← hb]
  generalize b.toNat - 48 = d at hlt
  revert d
  decide

/-- The numeral of a number begins with a digit or a minus sign, so it is none of the names. -/
theorem exists_ofInt_eq_cons (n : Int) :
    ∃ b rest, Decimal.ofInt n = b :: rest ∧ (Decimal.isDigit b = true ∨ b = byte '-') ∧
      ∀ c ∈ rest, Decimal.isDigit c = true := by
  cases n with
  | ofNat n =>
    have hrun := Decimal.isRun_ofNat n
    obtain ⟨b, rest, hcons⟩ := List.exists_cons_of_ne_nil hrun.ne_nil
    have hall := hrun.all
    rw [hcons, List.forall_mem_cons] at hall
    exact ⟨b, rest, hcons, Or.inl hall.1, hall.2⟩
  | negSucc n => exact ⟨byte '-', _, rfl, Or.inr rfl, (Decimal.isRun_ofNat _).all⟩

theorem scalar?_ofInt (n : Int) : scalar? (Decimal.ofInt n) = some (.number (Rat.ofInt n)) := by
  obtain ⟨b, rest, hcons, hb, -⟩ := exists_ofInt_eq_cons n
  have hname : ∀ (name : Bytes) (c : UInt8), name.head? = some c → Decimal.isDigit c = false →
    c ≠ byte '-' →
      Decimal.ofInt n ≠ name := by
    rintro name c hc hdigit hminus rfl
    rw [hcons, List.head?_cons, Option.some.injEq] at hc
    rcases hb with hb | hb
    · exact ne_of_isDigit hb hdigit hc
    · exact hminus (hc.symm.trans hb)
  rw [scalar?, if_neg (hname _ (byte 'n') rfl (by decide) (by decide)),
    if_neg (hname _ (byte 't') rfl (by decide) (by decide)),
    if_neg (hname _ (byte 'f') rfl (by decide) (by decide)), number?_ofInt]
  rfl

theorem spells_number (n : Int) : Spells (Decimal.ofInt n) [.scalar (.number (Rat.ofInt n))] := by
  obtain ⟨b, rest, hcons, hb, hrest⟩ := exists_ofInt_eq_cons n
  refine spells_word ?_ (scalar?_ofInt n) (by simp [hcons])
  rw [hcons, IsWord, List.forall_mem_cons]
  refine ⟨?_, fun c hc => word_of_isDigit (hrest c hc)⟩
  rcases hb with hb | rfl
  · exact word_of_isDigit hb
  · decide

theorem spells_null : Spells (bytes "null") [.scalar .null] :=
  spells_word (by decide) rfl (by decide)

/-! ### Strings -/

/-- A byte that stands for itself inside a string. -/
def IsPlain (b : UInt8) : Prop := b ≠ byte '"' ∧ b ≠ byte '\\' ∧ ¬ b < 0x20

theorem foldlM_plain {raw : Bytes} (h : ∀ b ∈ raw, IsPlain b) (symbols : List Symbol)
    (text : Bytes) :
    raw.foldlM Lexer.step ⟨symbols, .inside text⟩ = some ⟨symbols, .inside (text ++ raw)⟩ := by
  induction raw generalizing text with
  | nil => simp
  | cons b raw ih =>
    rw [List.forall_mem_cons] at h
    obtain ⟨hquote, hescape, hcontrol⟩ := h.1
    have hstep : Lexer.step ⟨symbols, .inside text⟩ b = some ⟨symbols, .inside (text ++ [b])⟩ := by
      simp only [Lexer.step, if_neg hquote, if_neg hescape, if_neg hcontrol]
    rw [List.foldlM_cons, hstep]
    simpa using ih h.2 (text ++ [b])

theorem hexValue?_hexDigit {d : Nat} (h : d < 16) : hexValue? (Json.hexDigit d) = some d := by
  revert d
  decide

theorem foldlM_hexEscape {code : Nat} (hcode : code < 0xD800) (symbols : List Symbol)
    (text : Bytes) :
    (Json.hexEscape code).foldlM Lexer.step ⟨symbols, .inside text⟩ =
      some ⟨symbols, .inside (text ++ Utf8.encode code)⟩ := by
  have h₁ := hexValue?_hexDigit (show code / 4096 % 16 < 16 by omega)
  have h₂ := hexValue?_hexDigit (show code / 256 % 16 < 16 by omega)
  have h₃ := hexValue?_hexDigit (show code / 16 % 16 < 16 by omega)
  have h₄ := hexValue?_hexDigit (show code % 16 < 16 by omega)
  have hsum : ((code / 4096 % 16 * 16 + code / 256 % 16) * 16 + code / 16 % 16) * 16 +
      code % 16 = code := by
    omega
  have hhigh : isHigh code = false := by
    simp only [isHigh, Bool.and_eq_false_iff, decide_eq_false_iff_not]
    omega
  have hlow : isLow code = false := by
    simp only [isLow, Bool.and_eq_false_iff, decide_eq_false_iff_not]
    omega
  have hopen : (bytes "\\u").foldlM Lexer.step ⟨symbols, .inside text⟩ =
    some ⟨symbols, .hex text none []⟩ := rfl
  rw [Json.hexEscape, List.foldlM_append, hopen]
  simp [Lexer.step, h₁, h₂, h₃, h₄, Place.behindUnit, hsum, hhigh, hlow]

/-- The bytes of a character outside the ASCII range lie outside of it, too. -/
theorem le_of_mem_encodeChar {c : Char} (h : 0x80 ≤ c.toNat) :
    ∀ b ∈ String.utf8EncodeChar c, 0x80 ≤ b.toNat := by
  rw [String.utf8EncodeChar.eq_1, show c.val.toNat = c.toNat from rfl, if_neg (by omega)]
  generalize c.toNat = v
  split
  · simp
    omega
  · split
    · simp
      omega
    · simp
      omega

theorem isPlain_of_le {b : UInt8} (h : 0x80 ≤ b.toNat) : IsPlain b := by
  refine ⟨?_, ?_, ?_⟩
  · rintro rfl
    exact absurd h (by decide)
  · rintro rfl
    exact absurd h (by decide)
  · rw [UInt8.lt_iff_toNat_lt]
    simp
    omega

theorem encodeChar_of_lt {c : Char} (h : c.toNat < 0x80) :
    String.utf8EncodeChar c = [UInt8.ofNat c.toNat] := by
  rw [String.utf8EncodeChar.eq_1]
  exact if_pos (Nat.lt_succ_iff.mp h)

theorem shortEscape?_spec {code : Nat} {short : Bytes} (h : Json.shortEscape? code = some short) :
    code < 0x80 ∧ Utf8.IsAscii short ∧
      ∀ symbols text, short.foldlM Lexer.step ⟨symbols, .inside text⟩ =
        some ⟨symbols, .inside (text ++ [UInt8.ofNat code])⟩ := by
  unfold Json.shortEscape? at h
  split_ifs at h
  all_goals
    cases h
    subst code
    exact ⟨by decide, by decide, fun _ _ => rfl⟩

theorem lt_of_needsHex {code : Nat} (h : Json.needsHex code = true) : code < 0xD800 := by
  simp only [Json.needsHex, Bool.or_eq_true, decide_eq_true_eq, beq_iff_eq] at h
  omega

/-- A character that is not escaped consists of bytes that stand for themselves. -/
theorem isPlain_of_not_escaped {c : Char} (hshort : Json.shortEscape? c.toNat = none)
    (hhex : Json.needsHex c.toNat = false) : ∀ b ∈ String.utf8EncodeChar c, IsPlain b := by
  by_cases hascii : c.toNat < 0x80
  · rw [encodeChar_of_lt hascii, List.forall_mem_singleton]
    have hb := UInt8.toNat_ofNat_of_lt' (show c.toNat < 256 by omega)
    refine ⟨?_, ?_, ?_⟩
    · intro hquote
      rw [show c.toNat = 0x22 by rw [← hb, hquote]; rfl] at hshort
      cases hshort
    · intro hescape
      rw [show c.toNat = 0x5C by rw [← hb, hescape]; rfl] at hshort
      cases hshort
    · rw [UInt8.lt_iff_toNat_lt, hb]
      intro hcontrol
      have hlow : c.toNat < 0x20 := hcontrol
      simp [Json.needsHex, hlow] at hhex
  · intro b hb
    exact isPlain_of_le (le_of_mem_encodeChar (by omega) b hb)

theorem foldlM_escape (c : Char) (symbols : List Symbol) (text : Bytes) :
    (Json.escape ⟨c.toNat, String.utf8EncodeChar c⟩).foldlM Lexer.step ⟨symbols, .inside text⟩ =
      some ⟨symbols, .inside (text ++ String.utf8EncodeChar c)⟩ := by
  unfold Json.escape
  split
  · next short hshort =>
    obtain ⟨hlt, -, hread⟩ := shortEscape?_spec hshort
    rw [hread, encodeChar_of_lt hlt]
  · next hshort =>
    split
    · next hhex =>
      have hencode : Utf8.encode c.toNat = String.utf8EncodeChar c := by
        rw [Utf8.encode, Char.ofNat_toNat]
      rw [foldlM_hexEscape (lt_of_needsHex hhex), hencode]
    · next hhex =>
      rw [Bool.not_eq_true] at hhex
      rw [Utf8.isUndecodable_character, if_neg Bool.false_ne_true]
      exact foldlM_plain (isPlain_of_not_escaped hshort hhex) symbols text

theorem escape_stray (b : UInt8) : Json.escape ⟨Utf8.replacement, [b]⟩ = Utf8.replacementBytes := by
  simp [Json.escape, Json.shortEscape?, Json.needsHex, Utf8.Character.isUndecodable,
    Utf8.replacement]

theorem foldlM_replacement (symbols : List Symbol) (text : Bytes) :
    Utf8.replacementBytes.foldlM Lexer.step ⟨symbols, .inside text⟩ =
      some ⟨symbols, .inside (text ++ Utf8.replacementBytes)⟩ := by
  apply foldlM_plain
  intro b hb
  exact isPlain_of_le (le_of_mem_encodeChar (c := Char.ofNat 0xFFFD) (by decide) b hb)

/-- What stands between the quotation marks of a string is read as the string, repaired. -/
theorem foldlM_escapes (t : Bytes) (symbols : List Symbol) (text : Bytes) :
    ((Utf8.characters t).flatMap Json.escape).foldlM Lexer.step ⟨symbols, .inside text⟩ =
      some ⟨symbols, .inside (text ++ Utf8.repair t)⟩ := by
  induction t using Utf8.characterInduction generalizing text with
  | nil => simp [Utf8.characters, Utf8.repair]
  | character c rest ih =>
    rw [Utf8.characters_character, List.flatMap_cons, List.foldlM_append, foldlM_escape,
      Utf8.repair_character, ← List.append_assoc]
    exact ih _
  | stray b rest hstray ih =>
    rw [Utf8.characters_stray hstray, List.flatMap_cons, escape_stray, List.foldlM_append,
      foldlM_replacement, Utf8.repair_stray hstray, ← List.append_assoc]
    exact ih _

theorem isValid_escape (c : Char) :
    Utf8.isValid (Json.escape ⟨c.toNat, String.utf8EncodeChar c⟩) = true := by
  unfold Json.escape
  split
  · next short hshort => exact Utf8.isValid_ascii (shortEscape?_spec hshort).2.1
  · split
    · have hdigit : ∀ d < 16, Json.hexDigit d < 0x80 := by decide
      refine Utf8.isValid_ascii
        (List.forall_mem_append.mpr ⟨(by decide : Utf8.IsAscii (bytes "\\u")), ?_⟩)
      simp only [List.forall_mem_cons]
      refine ⟨hdigit _ (by omega), hdigit _ (by omega), hdigit _ (by omega),
        hdigit _ (by omega), by simp⟩
    · rw [Utf8.isUndecodable_character, if_neg Bool.false_ne_true]
      exact Utf8.isValid_encodeChar c

theorem isValid_escapes (t : Bytes) :
    Utf8.isValid ((Utf8.characters t).flatMap Json.escape) = true := by
  induction t using Utf8.characterInduction with
  | nil =>
    rw [Utf8.characters]
    exact Utf8.isValid_ascii (by decide)
  | character c rest ih =>
    rw [Utf8.characters_character, List.flatMap_cons]
    exact Utf8.isValid_append (isValid_escape c) ih
  | stray b rest hstray ih =>
    rw [Utf8.characters_stray hstray, List.flatMap_cons, escape_stray]
    exact Utf8.isValid_append (Utf8.isValid_encodeChar (Char.ofNat 0xFFFD)) ih

/-- A string in quotation marks is read as the string, repaired. -/
theorem closes_quoted (t : Bytes) : Closes (Json.quoted t) [.text (Utf8.repair t)] where
  valid := Utf8.isValid_append
    (Utf8.isValid_append (Utf8.isValid_ascii (by decide)) (isValid_escapes t))
    (Utf8.isValid_ascii (by decide))
  reads before := by
    have hopen : [byte '"'].foldlM Lexer.step ⟨before, .outside []⟩ =
      some ⟨before, .inside []⟩ := rfl
    rw [Json.quoted, List.foldlM_append, List.foldlM_append, hopen]
    simp only [Option.bind_eq_bind, Option.bind_some, foldlM_escapes]
    rfl

end BufferMachine.JsonText
