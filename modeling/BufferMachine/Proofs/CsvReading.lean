import BufferMachine.Text.Csv
import Mathlib.Data.List.Basic

/-!
# Reading comma-separated records

A plain reader of comma-separated records, one byte after the other.  A comma ends a field, a line
feed ends a record, and neither does so between quotation marks, where two quotation marks stand for
one.  All other bytes stand for themselves.  The reader refuses a quotation mark inside a bare
field, anything else than the end of the field behind a closing mark, and a last record without its
line feed.

The reader finds in `Csv.render records` those records (`CsvText.read_render`).  Whether a field was
written bare or in quotation marks, the reader has it, and the field can end there
(`CsvText.foldlM_field`).
-/

namespace BufferMachine.CsvText

/-- Where in a field the reader is. -/
inductive Place where
  /-- Before its first byte. -/
  | start
  /-- In a field without quotation marks. -/
  | bare
  /-- Between quotation marks. -/
  | quoted
  /-- Behind a quotation mark that either closes the field or is the first of two. -/
  | mark
deriving DecidableEq, Repr

/-- What was read so far: the records that have ended, the fields of the next one that have ended,
and the field at hand. -/
structure Reader where
  records : List (List Bytes) := []
  fields : List Bytes := []
  field : Bytes := []
  place : Place := .start
deriving DecidableEq, Repr

namespace Reader

def take (r : Reader) (place : Place) (b : UInt8) : Reader :=
  { r with field := r.field ++ [b], place }

def endField (r : Reader) : Reader := { records := r.records, fields := r.fields ++ [r.field] }

def endRecord (r : Reader) : Reader := { records := r.records ++ [r.fields ++ [r.field]] }

def step (r : Reader) (b : UInt8) : Option Reader :=
  if r.place = .quoted then
    some (if b = byte '"' then { r with place := .mark } else r.take .quoted b)
  else if b = byte ',' then some r.endField
  else if b = newline then some r.endRecord
  else if b = byte '"' then
    match r.place with
    | .start => some { r with place := .quoted }
    | .mark => some (r.take .quoted b)
    | _ => none
  else if r.place = .mark then none
  else some (r.take .bare b)

/-- The records, if the last one has ended. -/
def result? (r : Reader) : Option (List (List Bytes)) :=
  if r = { records := r.records } then some r.records else none

end Reader

def read (text : Bytes) : Option (List (List Bytes)) :=
  (text.foldlM Reader.step {}).bind Reader.result?

/-! ### Fields -/

theorem step_comma {r : Reader} (h : r.place ≠ .quoted) : r.step (byte ',') = some r.endField := by
  simp [Reader.step, h]

theorem step_newline {r : Reader} (h : r.place ≠ .quoted) : r.step newline = some r.endRecord := by
  have hcomma : newline ≠ byte ',' := by decide
  simp [Reader.step, h, hcomma]

/-- A byte that calls for no quotation marks is taken into a bare field. -/
theorem step_bare {r : Reader} {b : UInt8} (hr : r.place = .start ∨ r.place = .bare)
    (hb : Csv.isSpecial b = false) :
    r.step b = some (r.take .bare b) := by
  simp only [Csv.isSpecial, Bool.or_eq_false_iff, beq_eq_false_iff_ne] at hb
  obtain ⟨⟨⟨hcomma, hquote⟩, -⟩, hnewline⟩ := hb
  rcases hr with hr | hr <;> simp [Reader.step, hr, hcomma, hquote, newline, hnewline]

theorem foldlM_bare {text : Bytes} {r : Reader} (hr : r.place = .bare)
    (htext : ∀ b ∈ text, Csv.isSpecial b = false) :
    text.foldlM Reader.step r = some { r with field := r.field ++ text } := by
  induction text generalizing r with
  | nil => simp
  | cons b text ih =>
    rw [List.foldlM_cons, step_bare (.inr hr) (htext b (by simp))]
    have hrest := ih (r := r.take .bare b) rfl fun c hc => htext c (by simp [hc])
    simpa [Reader.take, hr] using hrest

theorem foldlM_quoteByte {r : Reader} (hr : r.place = .quoted) (b : UInt8) :
    (Csv.quoteByte b).foldlM Reader.step r = some (r.take .quoted b) := by
  unfold Csv.quoteByte
  by_cases hb : b = byte '"'
  · subst hb
    have hcomma : byte '"' ≠ byte ',' := by decide
    have hnewline : byte '"' ≠ newline := by decide
    simp [Reader.step, Reader.take, hr, hcomma, hnewline]
  · simp [Reader.step, hr, hb]

theorem foldlM_quoted (text : Bytes) {r : Reader} (hr : r.place = .quoted) :
    (text.flatMap Csv.quoteByte).foldlM Reader.step r =
      some { r with field := r.field ++ text } := by
  induction text generalizing r with
  | nil => simp
  | cons b text ih =>
    rw [List.flatMap_cons, List.foldlM_append, foldlM_quoteByte hr]
    have hrest := ih (r := r.take .quoted b) rfl
    simpa [Reader.take, hr] using hrest

/-- **Fields.**  A field is read as it was, and whatever comes next may end it. -/
theorem foldlM_field (records : List (List Bytes)) (fields : List Bytes) (text : Bytes) :
    ∃ place, place ≠ .quoted ∧
      (Csv.field text).foldlM Reader.step { records, fields } =
        some { records, fields, field := text, place } := by
  unfold Csv.field
  split
  · -- from one quotation mark to the other
    refine ⟨.mark, by decide, ?_⟩
    have hopen : Reader.step { records, fields } (byte '"') =
      some { records, fields, place := .quoted } := rfl
    have hinside := foldlM_quoted text (r := { records, fields, place := .quoted }) rfl
    rw [List.nil_append] at hinside
    rw [List.foldlM_append, List.foldlM_append, List.foldlM_cons, hopen]
    simp only [List.foldlM_nil, Option.bind_eq_bind, Option.bind_some, hinside, Option.pure_def]
    rfl
  · next h =>
    have hbare : ∀ b ∈ text, Csv.isSpecial b = false := by
      intro b hb
      simp only [Csv.needsQuotes, Bool.not_eq_true, Bool.or_eq_false_iff, List.any_eq_false] at h
      simpa using h.1.2 b hb
    cases text with
    | nil => exact ⟨.start, by decide, rfl⟩
    | cons b text =>
      refine ⟨.bare, by decide, ?_⟩
      rw [List.foldlM_cons, step_bare (.inl rfl) (hbare b (by simp))]
      exact foldlM_bare rfl fun c hc => hbare c (by simp [hc])

/-! ### Records -/

/-- The reader takes a record up to its line feed, and is then ready for the next one. -/
theorem foldlM_record (records : List (List Bytes)) (before : List Bytes) {fields : List Bytes}
    (hne : fields ≠ []) :
    (Csv.record fields).foldlM Reader.step { records, fields := before } =
      some { records := records ++ [before ++ fields] } := by
  induction fields generalizing before with
  | nil => exact absurd rfl hne
  | cons field fields ih =>
    obtain ⟨place, hplace, hfield⟩ := foldlM_field records before field
    by_cases hlast : fields = []
    · subst hlast
      have hrecord : Csv.record [field] = Csv.field field ++ [newline] := by simp [Csv.record]
      have hend := step_newline (r := { records, fields := before, field, place }) hplace
      rw [hrecord, List.foldlM_append, hfield]
      simp only [List.foldlM_cons, List.foldlM_nil, Option.bind_eq_bind, Option.bind_some, hend]
      rfl
    · have hrecord :
          Csv.record (field :: fields) = Csv.field field ++ byte ',' :: Csv.record fields := by
        obtain ⟨next, rest, rfl⟩ := List.exists_cons_of_ne_nil hlast
        simp [Csv.record, List.intercalate]
      have hend := step_comma (r := { records, fields := before, field, place }) hplace
      rw [hrecord, List.foldlM_append, hfield]
      simp only [List.foldlM_cons, Option.bind_eq_bind, Option.bind_some, hend]
      have hrest := ih (before ++ [field]) hlast
      rwa [List.append_assoc, List.singleton_append] at hrest

theorem foldlM_render (read : List (List Bytes)) {records : List (List Bytes)}
    (h : ∀ record ∈ records, record ≠ []) :
    (Csv.render records).foldlM Reader.step { records := read } =
      some { records := read ++ records } := by
  unfold Csv.render
  induction records generalizing read with
  | nil => simp
  | cons record records ih =>
    rw [List.flatMap_cons, List.foldlM_append, foldlM_record read [] (h record (by simp))]
    have hrest := ih (read ++ [record]) fun next hnext => h next (by simp [hnext])
    rwa [List.append_assoc, List.singleton_append] at hrest

/-- **Records read back.**  Every record has a field, because no field and an empty one are written
alike. -/
theorem read_render {records : List (List Bytes)} (h : ∀ record ∈ records, record ≠ []) :
    read (Csv.render records) = some records := by
  unfold CsvText.read
  rw [foldlM_render [] h]
  simp [Reader.result?]

end BufferMachine.CsvText
