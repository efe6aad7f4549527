/-!
# Records

What a program says about its own work: a level, the part of the program that speaks, a
message and named values.
-/
namespace SarifDigest

/-- The levels of records, from the one that no record has to the most detailed. -/
inductive LogLevel
  | off
  | error
  | warn
  | info
  | debug
  | trace
deriving DecidableEq

namespace LogLevel

/-- The levels in order. -/
def all : List LogLevel := [off, error, warn, info, debug, trace]

/-- The position of a level among all. -/
def rank : LogLevel → Nat
  | off => 0
  | error => 1
  | warn => 2
  | info => 3
  | debug => 4
  | trace => 5

/-- The level at a position; past the last it is the last. -/
def ofRank (rank : Nat) : LogLevel :=
  all.getD rank trace

/-- The word of a level. -/
def word : LogLevel → String
  | off => "off"
  | error => "error"
  | warn => "warn"
  | info => "info"
  | debug => "debug"
  | trace => "trace"

/-- The name of a level in front of a record. -/
def name : LogLevel → String
  | off => "OFF"
  | error => "ERROR"
  | warn => "WARN"
  | info => "INFO"
  | debug => "DEBUG"
  | trace => "TRACE"

end LogLevel

/-- One thing that is said. -/
structure Record where
  level : LogLevel
  target : String
  message : String
  fields : List (String × String)
deriving DecidableEq

/-- The text of a record. -/
def Record.text (record : Record) : String :=
  record.level.name ++ " " ++ record.message ++
    String.join (record.fields.map fun (name, value) => " " ++ name ++ "=" ++ value)

end SarifDigest
