import BufferMachine.Text.Bytes

/-!
# Keywords

The language has three keywords.  A rule says which identifiers the scanner takes for keywords: by
default every identifier in which a keyword occurs, or else only the keywords themselves.
-/

namespace BufferMachine

def Keyword.write : Bytes := bytes "write"

def Keyword.loop : Bytes := bytes "for"

def Keyword.perform : Bytes := bytes "do"

/-- The keywords, in the order in which they are listed to users. -/
def Keyword.all : List Bytes := [Keyword.write, Keyword.loop, Keyword.perform]

/-- Which identifiers are taken for keywords. -/
inductive KeywordRule where
  | substring
  | exact
deriving DecidableEq, Repr

namespace KeywordRule

/-- The rule with a given code: one asks for exact spelling, every other code does not. -/
def ofCode (code : Int) : KeywordRule := if code = 1 then .exact else .substring

def name : KeywordRule → Bytes
  | .substring => bytes "substring"
  | .exact => bytes "exact"

/-- Is the identifier taken for a keyword? -/
def accepts : KeywordRule → Bytes → Bool
  | .exact, identifier => Keyword.all.contains identifier
  | .substring, identifier => Keyword.all.any (Bytes.occursIn · identifier)

end KeywordRule

end BufferMachine
