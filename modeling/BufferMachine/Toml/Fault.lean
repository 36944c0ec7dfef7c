import BufferMachine.Number.Literal
import BufferMachine.Text.Quoted

/-!
# Faults of TOML texts

Everything that can be wrong with a TOML text, from its characters to the tables it describes, and
how it is told to users.
-/

namespace BufferMachine.Toml

/-- What a name stands for, as far as the text before has fixed it. -/
inductive NameKind where
  | value
  | table
  | tableList
deriving DecidableEq, Repr

/-- The word for what a name stands for. -/
def NameKind.word : NameKind → Bytes
  | .value => bytes "value"
  | .table => bytes "table"
  | .tableList => bytes "array table"

inductive Fault where
  -- Structure of lines
  | needed (c : Char)
  | neededAtEnd (c : Char)
  | neededLineEnd (found : Nat)
  | lineEndCutOff
  | lineEndBroken
  | badComment
  | noKey
  | badKeyStart (found : Nat)
  | noEquals
  | noValue
  -- Strings
  | badCharacter
  | badEncoding
  | hiddenCharacter (found : Nat)
  | newlineInLiteral
  | newlineInBasic
  | openLiteral
  | openBasic
  | openLongLiteral
  | openLongBasic
  | quotesInLongLiteral
  | quotesInLongBasic
  | returnAlone
  | nothingEscaped
  | unknownEscape (found : Nat)
  | fewDigits (wanted found : Nat)
  | notHexadecimal
  | noCodePoint
  -- Words and numbers
  | notWord (word : String)
  | strayLetter (c : Char)
  | noNumber
  | underscoreFirst
  | underscoreLast
  | underscoresTogether
  | underscoreBeforeExponent
  | underscoreAfterExponent
  | underscoreAfterPoint
  | underscoreBeforePoint
  | leadingZero
  | badInteger (base : String) (digits : Bytes) (cause : Literal.Fault)
  | pointFirst
  | pointLast
  | twoPoints
  | nothingBeforePoint
  | nothingAfterPoint
  | leadingZeros
  | badFraction (digits : Bytes) (cause : Literal.Fault)
  -- Dates and times
  | badDate
  | noDigit
  | impossibleDate
  | badMoment
  | badSeparator
  | badTime
  | hourTooLarge
  | noColonAfterHour
  | minuteTooLarge
  | noColonAfterMinute
  | secondTooLarge
  | pointWithoutDigit
  | noFractionDigit
  | badZone
  | badZoneSign
  | noColonInZone
  | zoneHourTooLarge
  | zoneMinuteTooLarge
  | afterZone
  | afterTime
  | afterMoment
  -- Lists and tables
  | listCutOff
  | commaFirst
  | noComma
  | tableCutOff
  | notATable (name : Bytes) (kind : NameKind)
  | shouldBeTable (name : Bytes) (kind : NameKind)
  | shouldBeTableList (name : Bytes) (kind : NameKind)
  | tableAgain (name : Bytes)
  | tableClosed (name : Bytes)
  | nameAgain (name : Bytes)
deriving DecidableEq, Repr

namespace Fault

/-- A number in hexadecimal digits with capitals, at least four of them. -/
def codeDigits (n : Nat) : Bytes :=
  Bytes.toUpper (Text.hexadecimal (if n < 0x10000 then 4 else if n < 0x100000 then 5 else 6) n)

/-- A code point and, if it can be seen, its character. -/
def codePoint (n : Nat) : Bytes :=
  bytes "U+" ++ codeDigits n ++ if Text.isShown n then
    bytes " '" ++ Utf8.encode n ++ bytes "'" else []

def unread (what reader : String) (digits : Bytes) (cause : Literal.Fault) : Bytes :=
  bytes what ++ bytes ": strconv." ++ bytes reader ++ bytes ": parsing " ++ Text.quoted digits ++
    bytes ": " ++ cause.message

def wording : Fault → Bytes
  | .needed c => bytes "expected character " ++ bytes (String.singleton c)
  | .neededAtEnd c => bytes "expected character " ++ bytes (String.singleton c) ++
    bytes " but the document ended here"
  | .neededLineEnd found => bytes "expected newline but got " ++ codePoint found
  | .lineEndCutOff => bytes "windows new line expected"
  | .lineEndBroken => bytes "windows new line should be \\r\\n"
  | .badComment => bytes "invalid character in comment"
  | .noKey => bytes "expected key but found none"
  | .badKeyStart found => bytes "invalid character at start of key: " ++ Utf8.encode found
  | .noEquals => bytes "expected = after a key, but the document ends there"
  | .noValue => bytes "expected value, not eof"
  | .badCharacter => bytes "invalid character"
  | .badEncoding => bytes "invalid UTF-8"
  | .hiddenCharacter found => bytes "invalid character " ++ codePoint found
  | .newlineInLiteral => bytes "literal strings cannot have new lines"
  | .newlineInBasic => bytes "basic strings cannot have new lines"
  | .openLiteral => bytes "unterminated literal string"
  | .openBasic => bytes "basic string not terminated by \""
  | .openLongLiteral => bytes "multiline literal string not terminated by '''"
  | .openLongBasic => bytes "multiline basic string not terminated by \"\"\""
  | .quotesInLongLiteral => bytes "''' not allowed in multiline literal string"
  | .quotesInLongBasic => bytes "\"\"\" not allowed in multiline basic string"
  | .returnAlone => bytes "need a \\n after \\r"
  | .nothingEscaped => bytes "need a character after \\"
  | .unknownEscape found => bytes "invalid escaped character " ++ codePoint found
  | .fewDigits wanted found =>
    bytes "unicode point needs " ++ Decimal.ofNat wanted ++ bytes " character, not " ++
      Decimal.ofNat found
  | .notHexadecimal => bytes "non-hex character"
  | .noCodePoint => bytes "escape sequence is invalid Unicode code point"
  | .notWord word => bytes "expected '" ++ bytes word ++ bytes "'"
  | .strayLetter c =>
    bytes "unexpected character '" ++ bytes (String.singleton c) ++
      bytes "' while scanning for a number"
  | .noNumber => bytes "incomplete number"
  | .underscoreFirst => bytes "number cannot start with underscore"
  | .underscoreLast => bytes "number cannot end with underscore"
  | .underscoresTogether => bytes "number must have at least one digit between underscores"
  | .underscoreBeforeExponent => bytes "cannot have underscore before exponent"
  | .underscoreAfterExponent => bytes "cannot have underscore after exponent"
  | .underscoreAfterPoint => bytes "cannot have underscore after decimal point"
  | .underscoreBeforePoint => bytes "cannot have underscore before decimal point"
  | .leadingZero => bytes "leading zero not allowed on decimal number"
  | .badInteger base digits cause =>
    unread ("couldn't parse " ++ base ++ " number") "ParseInt" digits cause
  | .pointFirst => bytes "float cannot start with a dot"
  | .pointLast => bytes "float cannot end with a dot"
  | .twoPoints => bytes "float can have at most one decimal point"
  | .nothingBeforePoint => bytes "float decimal point must be preceded by a digit"
  | .nothingAfterPoint => bytes "float decimal point must be followed by a digit"
  | .leadingZeros => bytes "float integer part cannot have leading zeroes"
  | .badFraction digits cause => unread "unable to parse float" "ParseFloat" digits cause
  | .badDate => bytes "dates are expected to have the format YYYY-MM-DD"
  | .noDigit => bytes "expected digit (0-9)"
  | .impossibleDate => bytes "impossible date"
  | .badMoment =>
    bytes "local datetimes are expected to have the format YYYY-MM-DDTHH:MM:SS[.NNNNNNNNN]"
  | .badSeparator => bytes "datetime separator is expected to be T or a space"
  | .badTime => bytes "times are expected to have the format HH:MM:SS[.NNNNNN]"
  | .hourTooLarge => bytes "hour cannot be greater 23"
  | .noColonAfterHour => bytes "expecting colon between hours and minutes"
  | .minuteTooLarge => bytes "minutes cannot be greater 59"
  | .noColonAfterMinute => bytes "expecting colon between minutes and seconds"
  | .secondTooLarge => bytes "seconds cannot be greater 60"
  | .pointWithoutDigit => bytes "need at least one digit after fraction point"
  | .noFractionDigit => bytes "nanoseconds need at least one digit"
  | .badZone => bytes "invalid date-time timezone"
  | .badZoneSign => bytes "invalid timezone offset character"
  | .noColonInZone => bytes "expected a : separator"
  | .zoneHourTooLarge => bytes "invalid timezone offset hours"
  | .zoneMinuteTooLarge => bytes "invalid timezone offset minutes"
  | .afterZone => bytes "extra bytes at the end of the timezone"
  | .afterTime => bytes "extra characters at the end of a local time"
  | .afterMoment => bytes "extra characters at the end of a local date time"
  | .listCutOff => bytes "array is incomplete"
  | .commaFirst => bytes "array cannot start with comma"
  | .noComma => bytes "array elements must be separated by commas"
  | .tableCutOff => bytes "inline table is incomplete"
  | .notATable name kind => bytes "expected " ++ name ++ bytes " to be a table, not a " ++ kind.word
  | .shouldBeTable name kind =>
    bytes "key " ++ name ++ bytes " should be a table, not a " ++ kind.word
  | .shouldBeTableList name kind =>
    bytes "key " ++ kind.word ++ bytes " already exists as a " ++ name ++
      bytes ",  but should be an array table"
  | .tableAgain name => bytes "table " ++ name ++ bytes " already exists"
  | .tableClosed name =>
    bytes "cannot redefine table " ++ name ++ bytes " that has already been explicitly defined"
  | .nameAgain name => bytes "key " ++ name ++ bytes " is already defined"

def message (f : Fault) : Bytes := bytes "toml: " ++ f.wording

end Fault

end BufferMachine.Toml
