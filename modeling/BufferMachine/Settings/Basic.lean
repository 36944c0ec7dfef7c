import BufferMachine.Compile.Compiler
import BufferMachine.Settings.Tree

/-!
# Settings

Settings are values under names.  A name is looked up without regard to case, and a setting that is
not there counts as zero, false or empty.
-/

namespace BufferMachine

/-- Values of settings under their names, in small letters. -/
structure Settings where
  entries : List (Bytes × SettingValue) := []
deriving DecidableEq, Repr

namespace Settings

/-- The settings with the given names and values, set one after the other.  A setting takes the
place of those whose names go on after its own, and of one that is the beginning of its own. -/
def ofList (entries : List (Bytes × SettingValue)) : Settings :=
  let tree := entries.foldl (fun tree (name, value) =>
    tree.put (.leaf value) (Bytes.pieces (byte '.') (Text.toLower name))) (SettingTree.table [])
  ⟨tree.leaves.map fun (name, tree) => (name, tree.value)⟩

def get? (s : Settings) (name : String) : Option SettingValue := s.entries.lookup (bytes name)

def number (s : Settings) (name : String) : Int := ((s.get? name).map SettingValue.toInt).getD 0

def truth (s : Settings) (name : String) : Bool :=
  ((s.get? name).map SettingValue.toBool).getD false

def text (s : Settings) (name : String) : Bytes := ((s.get? name).map SettingValue.toText).getD []

def keywordRule (s : Settings) : KeywordRule :=
  if s.truth "bufc.strict-keywords" then .exact else .substring

def bufferSize (s : Settings) : Int := s.number "bufc.buffer-size"

/-- Where dumps of a source go, if the settings ask for them: a directory named after the file. -/
def dumpDirectory (s : Settings) (path : Bytes) : Option Bytes :=
  if s.truth "bufc.debug" then
    some (Path.join (s.text "bufc.representation") (Path.base path))
  else none

def compiler (s : Settings) (path : Bytes) : Compiler :=
  { rule := s.keywordRule, bufferSize := s.bufferSize, dumps := s.dumpDirectory path }

end Settings

end BufferMachine
