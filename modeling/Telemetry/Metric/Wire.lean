import Telemetry.Field
import Telemetry.Json.Reader
import Telemetry.Json.Writer
import Telemetry.Metric

/-!
# Metric records as JSON

A record is an object with the fields `id`, `type`, `delta` and `value`; absent fields are
left out, and unknown ones are ignored.  A snapshot is an array of records.  Reading is
lenient (see `Raw`) and reports every fault with its place; writing a snapshot and reading
it back gives the same records.
-/

namespace Telemetry

def Json.toRaw : Json → Raw
  | .null => .null
  | .bool b => .bool b
  | .int i => .int i
  | .float x => .float x
  | .string s => .text s
  | .array _ => .compound
  | .object _ => .compound

def Json.ofRaw : Raw → Json
  | .null => .null
  | .bool b => .bool b
  | .int i => .int i
  | .float x => .float x
  | .text s => .string s
  | .compound => .null

/-! ### Reading -/

/-- A field that must be there. -/
def Json.required (read : Raw → Except Fault α) (fields : List (String × Json))
    (name : String) : Except Issue α :=
  match Json.last? name fields with
  | none => .error ⟨.missing, [.field name]⟩
  | some value => (read value.toRaw).mapError fun fault => ⟨fault, [.field name]⟩

/-- A field that may be left out. -/
def Json.omittable (read : Raw → Except Fault α) (fields : List (String × Json))
    (name : String) (default : α) : Except Issue α :=
  match Json.last? name fields with
  | none => .ok default
  | some value => (read value.toRaw).mapError fun fault => ⟨fault, [.field name]⟩

/-- The record of a JSON value.  All faults are reported, in the order of the fields. -/
def Metric.ofJson : Json → Except (List Issue) Metric
  | .object fields =>
      let id := Json.required Raw.toText fields "id"
      let type := Json.required Raw.toText fields "type"
      let delta := Json.omittable (Raw.optional Raw.toInt) fields "delta" none
      let value := Json.omittable (Raw.optional Raw.toDouble) fields "value" none
      match id, type, delta, value with
      | .ok id, .ok type, .ok delta, .ok value => .ok ⟨id, type, delta, value⟩
      | _, _, _, _ => .error (Issue.of id ++ Issue.of type ++ Issue.of delta ++ Issue.of value)
  | _ => .error [⟨.notARecord, []⟩]

def Metric.ofBytes (bytes : Bytes) : Except (List Issue) Metric :=
  match Json.ofBytes? bytes with
  | none => .error [⟨.invalidJson, []⟩]
  | some json => Metric.ofJson json

namespace Snapshot

/-- The records of items that start at an index, with all faults of all items. -/
def ofItems (index : Nat) : List Json → Except (List Issue) (List Metric)
  | [] => .ok []
  | item :: items =>
      let first := (Metric.ofJson item).mapError fun issues =>
        issues.map fun issue => { issue with place := .item index :: issue.place }
      match first, ofItems (index + 1) items with
      | .ok m, .ok ms => .ok (m :: ms)
      | .ok _, .error issues => .error issues
      | .error issues, .ok _ => .error issues
      | .error issues, .error more => .error (issues ++ more)

def ofJson : Json → Except (List Issue) (List Metric)
  | .array items => ofItems 0 items
  | _ => .error [⟨.notAList, []⟩]

def ofBytes (bytes : Bytes) : Except (List Issue) (List Metric) :=
  match Json.ofBytes? bytes with
  | none => .error [⟨.invalidJson, []⟩]
  | some json => ofJson json

end Snapshot

/-! ### Writing -/

/-- A field, unless it is absent. -/
def Json.present (name : String) (value : Option α) (write : α → Json) : List (String × Json) :=
  match value with
  | none => []
  | some a => [(name, write a)]

/-- The JSON of a record, given the JSON of its value. -/
def Metric.toJsonWith (writeValue : Double → Json) (m : Metric) : Json :=
  .object ([("id", .string m.id), ("type", .string m.type)]
    ++ Json.present "delta" m.delta .int ++ Json.present "value" m.value writeValue)

def Metric.toJson (m : Metric) : Json := m.toJsonWith .float

/-- The JSON of a record in a snapshot, where values that are not finite are null. -/
def Metric.toSnapshotJson (m : Metric) : Json :=
  m.toJsonWith fun x => if x.isFinite then .float x else .null

namespace Snapshot

def toText (indent : Option Nat) (metrics : List Metric) : String :=
  Json.toText (.snapshot indent) (.array (metrics.map Metric.toSnapshotJson))

def toBytes (indent : Option Nat) (metrics : List Metric) : Bytes :=
  Utf8.encode (toText indent metrics)

end Snapshot
end Telemetry
