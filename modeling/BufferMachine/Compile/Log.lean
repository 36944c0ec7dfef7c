import BufferMachine.Text.Json

/-!
# Log entries

What a run has to say while it goes on.  An entry has a level, usually a message, and some fields;
fields that a run gives to all of its entries are set beforehand, and a field that is set again
keeps the last value.
-/

namespace BufferMachine

/-- How much an entry matters. -/
inductive LogLevel where
  | trace
  | debug
  | info
  | warn
  | error
deriving DecidableEq, Repr

def LogLevel.name : LogLevel → Bytes
  | .trace => bytes "trace"
  | .debug => bytes "debug"
  | .info => bytes "info"
  | .warn => bytes "warn"
  | .error => bytes "error"

/-- The short name of a level, for people. -/
def LogLevel.tag : LogLevel → Bytes
  | .trace => bytes "TRC"
  | .debug => bytes "DBG"
  | .info => bytes "INF"
  | .warn => bytes "WRN"
  | .error => bytes "ERR"

def LogLevel.weight : LogLevel → Nat
  | .trace => 0
  | .debug => 1
  | .info => 2
  | .warn => 3
  | .error => 4

inductive LogValue where
  | text (value : Bytes)
  | number (value : Int)
  | texts (values : List Bytes)
deriving DecidableEq, Repr

structure LogEntry where
  level : LogLevel
  message : Option Bytes := none
  fields : List (Bytes × LogValue) := []
deriving DecidableEq, Repr

def LogValue.toJson : LogValue → Json
  | .text value => .text value
  | .number value => .number value
  | .texts values => .list (values.map Json.text)

namespace LogEntry

def say (level : LogLevel) (message : String) : LogEntry :=
  { level, message := some (bytes message) }

/-- Sets a field; an earlier value of the same field is dropped. -/
def set (e : LogEntry) (name : String) (value : LogValue) : LogEntry :=
  { e with fields := e.fields.filter (·.1 != bytes name) ++ [(bytes name, value)] }

def withText (e : LogEntry) (name : String) (value : Bytes) : LogEntry := e.set name (.text value)

def withNumber (e : LogEntry) (name : String) (value : Int) : LogEntry := e.set name (.number value)

/-- Gives the entry the fields of its run, as far as it does not set them itself. -/
def inContext (context : List (Bytes × LogValue)) (e : LogEntry) : LogEntry :=
  { e with fields := context.filter (fun (name, _) => !e.fields.any (·.1 == name)) ++ e.fields }

def readableLine (e : LogEntry) : Bytes :=
  let shown := e.fields.map fun (name, value) =>
    name ++ bytes "=" ++ match value with
      | .text text => text
      | value => value.toJson.compact
  List.intercalate (bytes " ") ([e.level.tag] ++ e.message.toList ++ shown)

def toJson (e : LogEntry) : Json :=
  .record ([(bytes "level", .text e.level.name)] ++
    e.fields.map (fun (name, value) => (name, value.toJson)) ++
    match e.message with
    | some message => [(bytes "message", .text message)]
    | none => [])

end LogEntry

end BufferMachine
