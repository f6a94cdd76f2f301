import Telemetry.Double

/-!
# Metrics

A metric record names a metric, its type, and a value or a change.  Records come from
outside and may hold any combination; a `Reading` is what a well-formed record says: a gauge
with its value, or a counter with an amount.  `Metric.reading` decides which records are well
formed, and `reading_toMetric` says that a reading's own record is, if its name is not empty,
its value is finite, and its amount has at most 64 bits.
-/

namespace Telemetry

/-- The least amount of a counter, `-2⁶³`. -/
def minAmount : Int := -9223372036854775808

/-- The greatest amount of a counter, `2⁶³ - 1`. -/
def maxAmount : Int := 9223372036854775807

/-- The amounts that a counter can hold. -/
def InRange (amount : Int) : Prop := minAmount ≤ amount ∧ amount ≤ maxAmount

instance (amount : Int) : Decidable (InRange amount) :=
  inferInstanceAs (Decidable (_ ∧ _))

/-- How updates of a metric combine: the last value of a gauge wins, the amounts of a counter
add up. -/
inductive Kind
  | gauge
  | counter
  deriving DecidableEq

namespace Kind

def word : Kind → String
  | gauge => "gauge"
  | counter => "counter"

/-- The kind that a word stands for. -/
def ofWord? (s : String) : Option Kind :=
  if s = "gauge" then some gauge else if s = "counter" then some counter else none

@[simp] theorem ofWord?_word (kind : Kind) : ofWord? kind.word = some kind := by
  cases kind <;> rfl

theorem ofWord?_eq_some_iff {s : String} {kind : Kind} :
    ofWord? s = some kind ↔ s = kind.word := by
  constructor
  · unfold ofWord?
    split
    · rintro ⟨⟩; assumption
    · split
      · rintro ⟨⟩; assumption
      · nofun
  · rintro rfl; exact ofWord?_word kind

end Kind

/-- A metric record as it travels. -/
structure Metric where
  id : String
  type : String
  delta : Option Int
  value : Option Double
  deriving DecidableEq

/-- A gauge with its value, or a counter with an amount. -/
inductive Reading
  | gauge (name : String) (value : Double)
  | counter (name : String) (amount : Int)
  deriving DecidableEq

/-- The record of a reading. -/
def Reading.toMetric : Reading → Metric
  | gauge name value => ⟨name, Kind.gauge.word, none, some value⟩
  | counter name amount => ⟨name, Kind.counter.word, some amount, none⟩

def Reading.name : Reading → String
  | gauge name _ => name
  | counter name _ => name

def Reading.kind : Reading → Kind
  | gauge .. => .gauge
  | counter .. => .counter

/-- Why an update is not acceptable. -/
inductive Invalid
  | missingId
  | missingValue (id : String)
  | unexpectedDelta (id : String)
  | nonFiniteValue (id : String)
  | missingDelta (id : String)
  | unexpectedValue (id : String)
  | deltaOutOfRange (id : String)
  | unknownType (type id : String)
  | emptyBatch
  | unknownKind (id : String)
  /-- The counter would leave its range. -/
  | overflow (name : String)
  deriving DecidableEq

def Invalid.message : Invalid → String
  | missingId => "Missing metric ID"
  | missingValue id => "Missing 'value' for gauge metric " ++ id
  | unexpectedDelta id => "Unexpected 'delta' for gauge metric " ++ id
  | nonFiniteValue id => "Non-finite 'value' for gauge metric " ++ id
  | missingDelta id => "Missing 'delta' for counter metric " ++ id
  | unexpectedValue id => "Unexpected 'value' for counter metric " ++ id
  | deltaOutOfRange id => "'delta' out of int64 range for counter metric " ++ id
  | unknownType type id => "Unknown metric type '" ++ type ++ "' for " ++ id
  | emptyBatch => "Empty batch not allowed"
  | unknownKind id => "Unknown metric type for " ++ id
  | overflow name => "counter " ++ name ++ " would leave the int64 range"

namespace Metric

/-- The kind of a record, if its type is known. -/
def kind? (m : Metric) : Option Kind := Kind.ofWord? m.type

/-- What a record says, if it is a well-formed update.  A gauge carries exactly a finite
value, a counter exactly a change within range. -/
def reading (m : Metric) : Except Invalid Reading :=
  if m.id = "" then .error .missingId
  else
    match m.kind? with
    | some .gauge =>
        match m.value, m.delta with
        | none, _ => .error (.missingValue m.id)
        | some _, some _ => .error (.unexpectedDelta m.id)
        | some x, none =>
            if x.isFinite then .ok (.gauge m.id x) else .error (.nonFiniteValue m.id)
    | some .counter =>
        match m.delta, m.value with
        | none, _ => .error (.missingDelta m.id)
        | some _, some _ => .error (.unexpectedValue m.id)
        | some n, none =>
            if InRange n then .ok (.counter m.id n) else .error (.deltaOutOfRange m.id)
    | none => .error (.unknownType m.type m.id)

/-- What the records of a batch say, if all are well formed and there is one. -/
def readings (batch : List Metric) : Except Invalid (List Reading) :=
  if batch.isEmpty then .error .emptyBatch else batch.mapM reading

end Metric

/-- A reading that a record may carry: named, finite, and within range. -/
def Reading.Sound : Reading → Prop
  | gauge name value => name ≠ "" ∧ value.isFinite = true
  | counter name amount => name ≠ "" ∧ InRange amount

theorem Metric.reading_toMetric {r : Reading} (h : r.Sound) : r.toMetric.reading = .ok r := by
  cases r <;> obtain ⟨hname, hsound⟩ := h <;>
    simp [Reading.toMetric, Metric.reading, Metric.kind?, hname, hsound]

theorem Metric.toMetric_of_reading {m : Metric} {r : Reading} (h : m.reading = .ok r) :
    m = r.toMetric ∧ r.Sound := by
  obtain ⟨id, type, delta, value⟩ := m
  unfold Metric.reading at h
  split at h
  · cases h
  next hid =>
    split at h
    next hk =>
      have htype := Kind.ofWord?_eq_some_iff.1 hk
      split at h
      · cases h
      · cases h
      next hv hd =>
        split at h
        next hx => cases h; simp_all [Reading.toMetric, Reading.Sound]
        · cases h
    next hk =>
      have htype := Kind.ofWord?_eq_some_iff.1 hk
      split at h
      · cases h
      · cases h
      next hv hd =>
        split at h
        next hx => cases h; simp_all [Reading.toMetric, Reading.Sound]
        · cases h
    · cases h

end Telemetry
