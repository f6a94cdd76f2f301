import Telemetry.Double.Decimal
import Telemetry.Json.Value
import Telemetry.Text.Case
import Telemetry.Text.Digit

/-!
# The log

A log entry has a level, a text and named fields, and leaves the program as one JSON object
on a line of its own if its level reaches the threshold.
-/

namespace Telemetry.Log

/-- How grave an entry is. -/
inductive Level
  | debug
  | info
  | warning
  | error
  | critical
  deriving DecidableEq

namespace Level

def word : Level → String
  | debug => "debug"
  | info => "info"
  | warning => "warning"
  | error => "error"
  | critical => "critical"

def ofWord? (s : String) : Option Level :=
  [debug, info, warning, error, critical].find? fun level => level.word = s

def rank : Level → Nat
  | debug => 10
  | info => 20
  | warning => 30
  | error => 40
  | critical => 50

@[simp] theorem ofWord?_word (level : Level) : ofWord? level.word = some level := by
  cases level <;> decide

end Level

/-- The least rank that is logged, from the name of a level in any case.  An unknown name
means the level info. -/
def threshold (name : String) : Nat :=
  match Text.upper name with
  | "NOTSET" => 0
  | "DEBUG" => 10
  | "WARN" | "WARNING" => 30
  | "ERROR" => 40
  | "FATAL" | "CRITICAL" => 50
  | _ => 20

/-- One entry. -/
structure Entry where
  level : Level
  event : String
  fields : List (String × Json)

def Entry.field? (name : String) (entry : Entry) : Option Json := Json.last? name entry.fields

/-- Whether an entry reaches a threshold. -/
def Entry.reaches (least : Nat) (entry : Entry) : Bool := least ≤ entry.level.rank

/-- Whether an entry is graver than a level. -/
def Entry.exceeds (level : Level) (entry : Entry) : Bool := level.rank < entry.level.rank

/-! ### Arguments -/

def argumentText : Json → String
  | .null => "None"
  | .bool b => if b then "True" else "False"
  | .int i => Text.ofInt i
  | .float x => x.toText
  | .string s => s
  | _ => ""

/-- Put arguments in the place of `%s` and `%d`; two percent signs stand for one. -/
def interpolate : List Char → List Json → List Char
  | '%' :: '%' :: rest, args => '%' :: interpolate rest args
  | '%' :: c :: rest, arg :: args =>
      if c = 's' || c = 'd' then (argumentText arg).toList ++ interpolate rest args
      else '%' :: c :: interpolate rest (arg :: args)
  | c :: rest, args => c :: interpolate rest args
  | [], _ => []

/-- The text of an event.  Without arguments it stands as it is. -/
def eventText (event : String) (args : List Json) : String :=
  if args.isEmpty then event else String.ofList (interpolate event.toList args)

/-! ### Lines -/

/-- The line of an entry, for a logger and a time. -/
def Entry.toJson (logger : String) (timestamp : Json) (entry : Entry) : Json :=
  .object (entry.fields ++
    [("event", .string entry.event), ("logger", .string logger),
     ("level", .string entry.level.word), ("timestamp", timestamp)])

/-- The lines of the entries that reach a threshold. -/
def lines (least : Nat) (logger : String) (timestamp : Json) (entries : List Entry) : List Json :=
  (entries.filter (Entry.reaches least)).map (Entry.toJson logger timestamp)

end Telemetry.Log
