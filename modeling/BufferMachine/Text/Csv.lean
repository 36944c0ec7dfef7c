import BufferMachine.Text.Blank

/-!
# Comma-separated records

A record is a line of fields with commas between them.  A field is put into quotation marks where a
reader could otherwise take it for something else, and a quotation mark inside it is written twice;
all other bytes stand for themselves.
-/

namespace BufferMachine.Csv

def isSpecial (b : UInt8) : Bool := b == byte ',' || b == byte '"' || b == 13 || b == 10

/-- Is the field put into quotation marks?  So are fields that begin with a blank, and the mark that
ends the data in some readers. -/
def needsQuotes (field : Bytes) : Bool :=
  field == bytes "\\." || field.any isSpecial || Text.startsBlank field

def quoteByte (b : UInt8) : Bytes := if b = byte '"' then [b, b] else [b]

def field (text : Bytes) : Bytes :=
  if needsQuotes text then [byte '"'] ++ text.flatMap quoteByte ++ [byte '"'] else text

/-- A record as it is written, with the line feed that ends it. -/
def record (fields : List Bytes) : Bytes :=
  List.intercalate [byte ','] (fields.map field) ++ [newline]

def render (records : List (List Bytes)) : Bytes := records.flatMap record

end BufferMachine.Csv
