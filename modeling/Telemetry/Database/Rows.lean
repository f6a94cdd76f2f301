import Telemetry.Database

/-!
# Rows handled from outside

Other programs may list, replace or delete rows, and drop tables, between the operations of
a store.
-/

namespace Telemetry.Database

/-- A table by its name. -/
inductive TableName
  | gauge
  | counter
  | migrations
  deriving DecidableEq

def TableName.ofWord? : String → Option TableName
  | "gauge" => some gauge
  | "counter" => some counter
  | "schema_migrations" => some migrations
  | _ => none

/-- The rows of a table of cells, if it is there. -/
def rows? (d : Database) : TableName → Option Rows
  | .gauge => d.gauges
  | .counter => d.counters
  | .migrations => none

/-- Replace a row, which then comes last. -/
def replaceRow (d : Database) (table : TableName) (name : String) (cell : Cell) : Database :=
  match table with
  | .gauge =>
      { d with gauges := d.gauges.map fun rows => (rows.erase name).put name cell.inRealColumn }
  | .counter =>
      { d with counters := d.counters.map fun rows => (rows.erase name).put name cell.inWholeColumn }
  | .migrations => d

def clear (d : Database) : TableName → Database
  | .gauge => { d with gauges := d.gauges.map fun _ => .empty }
  | .counter => { d with counters := d.counters.map fun _ => .empty }
  | .migrations => { d with migrations := d.migrations.map fun _ => [] }

def drop (d : Database) : TableName → Database
  | .gauge => { d with gauges := none }
  | .counter => { d with counters := none }
  | .migrations => { d with migrations := none }

end Telemetry.Database
