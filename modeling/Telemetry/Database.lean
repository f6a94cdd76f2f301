import Telemetry.Failure
import Telemetry.Table
import Telemetry.Text.Numeral

/-!
# The database

The database of metrics has three tables: gauges and counters, one row per name, and the
list of migrations.  A cell holds a whole number of 64 bits, a double or a text, whichever
the affinity of its column makes of what is stored.  `Database.execute` says what each
statement changes, and `Connection` adds transactions: a change is pending until it is
committed, and a rollback drops it.
-/

namespace Telemetry

/-! ### Cells -/

/-- The content of a cell. -/
inductive Cell
  | whole (value : Int)
  | real (value : Double)
  | text (value : String)
  deriving DecidableEq

namespace Cell

/-- The whole numbers that a cell can hold, from `-2⁶³` to `2⁶³ - 1`. -/
def Fits (i : Int) : Prop := -9223372036854775808 ≤ i ∧ i < 9223372036854775808

instance (i : Int) : Decidable (Fits i) := inferInstanceAs (Decidable (_ ∧ _))

/-- Whether characters hold a point or an exponent. -/
def hasFraction (cs : List Char) : Bool := cs.any fun c => c = '.' || c = 'e' || c = 'E'

/-- The number that a sign, digits, an optional point and an optional exponent denote: a whole
number if there is neither point nor exponent and it fits. -/
def number? (cs : List Char) : Option Cell :=
  let (negative, rest) := Numeral.splitSign cs
  (Numeral.magnitude? rest).map fun d =>
    let i := Numeral.signed negative d.digits
    if !hasFraction rest && Fits i then whole i else real (d.toDouble negative)

/-- The blanks that numbers in texts are trimmed of. -/
def isPadding (c : Char) : Bool := (9 ≤ c.toNat && c.toNat ≤ 13) || c = ' '

/-- The number that a text denotes. -/
def ofNumeral? (s : String) : Option Cell := number? (Text.trim isPadding s.toList)

/-- The longest start of a text that denotes a number, zero if none does. -/
def leading (s : String) : Cell :=
  let cs := s.toList.dropWhile isPadding
  ((List.range (cs.length + 1)).reverse.findSome? fun n => number? (cs.take n)).getD (whole 0)

/-- A double without a fraction, less than `2⁶³` in magnitude, as a whole number. -/
def integral (x : Double) : Cell :=
  match x.toInt? with
  | some i => if i.natAbs < Nat.pow 2 63 then whole i else real x
  | none => real x

/-- What a column of doubles makes of a cell: numbers become doubles, and negative zero
loses its sign. -/
def inRealColumn (cell : Cell) : Cell :=
  match cell with
  | text s =>
      match ofNumeral? s with
      | some (whole i) => real (Double.ofInt i)
      | some (real x) => real (plainZero x)
      | _ => text s
  | whole i => real (Double.ofInt i)
  | real x => real (plainZero x)
where
  /-- A double, with the sign of zero dropped. -/
  plainZero (x : Double) : Double := if x.toInt? = some 0 then .zero else x

/-- What a column of whole numbers makes of a cell: a double without a fraction becomes a
whole number if it fits. -/
def inWholeColumn (cell : Cell) : Cell :=
  match cell with
  | text s =>
      match ofNumeral? s with
      | some (real x) => integral x
      | some number => number
      | none => text s
  | whole i => whole i
  | real x => integral x

/-- The double that a number cell denotes. -/
def toReal : Cell → Double
  | whole i => Double.ofInt i
  | real x => x
  | text _ => .zero

/-- The sum of two cells.  A text counts as the number it starts with, and a sum of whole
numbers that does not fit is a double. -/
def add (a b : Cell) : Cell :=
  match number a, number b with
  | whole i, whole j => if Fits (i + j) then whole (i + j) else real ((Double.ofInt i).add (Double.ofInt j))
  | a, b => real (a.toReal.add b.toReal)
where
  /-- A cell as a number. -/
  number : Cell → Cell
    | text s => leading s
    | cell => cell

end Cell

/-! ### Statements -/

/-- The rows of a table, by name and in order of their numbers. -/
abbrev Rows := Table String Cell

/-- The tables of a database; a table may not be there. -/
structure Database where
  gauges : Option Rows
  counters : Option Rows
  migrations : Option (List String)
  deriving DecidableEq

/-- A statement that changes the database. -/
inductive Statement
  /-- Create the list of migrations unless it is there. -/
  | createMigrations
  /-- Create the table of gauges unless it is there. -/
  | createGauges
  /-- Create the table of counters unless it is there. -/
  | createCounters
  | recordMigration (name : String)
  /-- Set the row of a gauge. -/
  | putGauge (name : String) (value : Double)
  /-- Add to the row of a counter. -/
  | addCounter (name : String) (delta : Int)
  /-- Set the row of a counter. -/
  | putCounter (name : String) (value : Int)

namespace Database

/-- The database without tables. -/
def empty : Database := ⟨none, none, none⟩

/-- The failure of a statement on a table that is not there. -/
def noTable (name : String) : Failure := .database (some 1) ("no such table: " ++ name)

/-- The failure to store not-a-number, which counts as no value. -/
def noValue (column : String) : Failure :=
  .database (some 1299) ("NOT NULL constraint failed: " ++ column)

def notUnique (column : String) : Failure :=
  .database (some 2067) ("UNIQUE constraint failed: " ++ column)

/-- The failure to hand over a whole number of more than 64 bits. -/
def unbindable : Failure :=
  .mishap .tooLarge "Python int too large to convert to SQLite INTEGER"

/-- Change a table that must be there. -/
def onTable (name : String) (table : Option Rows) (f : Rows → Except Failure Rows) :
    Except Failure (Option Rows) :=
  match table with
  | none => .error (noTable name)
  | some rows => some <$> f rows

def execute (d : Database) : Statement → Except Failure Database
  | .createMigrations => .ok { d with migrations := some (d.migrations.getD []) }
  | .createGauges => .ok { d with gauges := some (d.gauges.getD .empty) }
  | .createCounters => .ok { d with counters := some (d.counters.getD .empty) }
  | .recordMigration name =>
      match d.migrations with
      | none => .error (noTable "schema_migrations")
      | some names =>
          if names.contains name then .error (notUnique "schema_migrations.name")
          else .ok { d with migrations := some (names ++ [name]) }
  | .putGauge name value => do
      let gauges ← onTable "gauge" d.gauges fun rows =>
        if value = .nan then .error (noValue "gauge.value")
        else .ok (rows.put name (Cell.real value).inRealColumn)
      pure { d with gauges }
  | .addCounter name delta => do
      let counters ← onTable "counter" d.counters fun rows =>
        if Cell.Fits delta then
          match rows.get? name with
          | none => .ok (rows.put name (.whole delta))
          | some cell => .ok (rows.put name (cell.add (.whole delta)).inWholeColumn)
        else .error unbindable
      pure { d with counters }
  | .putCounter name value => do
      let counters ← onTable "counter" d.counters fun rows =>
        if Cell.Fits value then .ok (rows.put name (.whole value)) else .error unbindable
      pure { d with counters }

/-- Whether a statement belongs to a transaction; the creation of a table takes effect at
once unless a transaction is open. -/
def Statement.opens : Statement → Bool
  | .createMigrations | .createGauges | .createCounters => false
  | _ => true

end Database

/-! ### Transactions -/

/-- A database with the changes of an open transaction. -/
structure Connection where
  committed : Database
  /-- The database as the open transaction sees it, if there is one. -/
  pending : Option Database := none
  deriving DecidableEq

namespace Connection

/-- The database as statements of this connection see it. -/
def current (c : Connection) : Database := c.pending.getD c.committed

/-- Execute a statement.  One that fails changes nothing. -/
def execute (c : Connection) (statement : Statement) : Except Failure Connection := do
  let d ← c.current.execute statement
  if Database.Statement.opens statement || c.pending.isSome then pure { c with pending := some d }
  else pure { c with committed := d }

def commit (c : Connection) : Connection := ⟨c.current, none⟩

def rollback (c : Connection) : Connection := { c with pending := none }

@[simp] theorem committed_rollback (c : Connection) : c.rollback.committed = c.committed := rfl

@[simp] theorem current_rollback (c : Connection) : c.rollback.current = c.committed := rfl

@[simp] theorem committed_commit (c : Connection) : c.commit.committed = c.current := rfl

@[simp] theorem current_commit (c : Connection) : c.commit.current = c.current := rfl

end Connection
end Telemetry
