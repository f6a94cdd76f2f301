import Telemetry.Metric.Wire
import Telemetry.Proofs.Json.Document

/-!
# Snapshots read back

A snapshot has no word for a value that is not finite and writes nothing in its place.  Otherwise
a record is the record of its own JSON (`ofJson_toSnapshotJson`), and that JSON can be written and
read unless its change is too long.  So the bytes of a snapshot are read as the records that it was
made of (`Snapshot.ofBytes_toBytes`), on one line or indented.
-/

namespace Telemetry

open Json

/-- A record that a snapshot can say: its change is not too long, and its value is finite. -/
structure Metric.Sayable (m : Metric) : Prop where
  delta : ∀ n, m.delta = some n → IsShort n
  value : ∀ x, m.value = some x → x.isFinite = true

/-- The change of a record, if it has one, is not too long. -/
def Metric.Short (m : Metric) : Prop := ∀ n, m.delta = some n → IsShort n

/-- What a snapshot says of a record: a value that is not finite is lost. -/
def Metric.said (m : Metric) : Metric := { m with value := m.value.filter Double.isFinite }

theorem Metric.said_eq_self_iff {m : Metric} :
    m.said = m ↔ ∀ x, m.value = some x → x.isFinite = true := by
  obtain ⟨id, type, delta, value⟩ := m
  cases value with
  | none => exact ⟨nofun, fun _ => rfl⟩
  | some x => cases finite : x.isFinite <;> simp [said, Option.filter_some, finite]

/-- A whole number within range is not too long. -/
theorem isShort_of_inRange {i : Int} (h : InRange i) : IsShort i := by
  have small : i.natAbs < 10 ^ 20 := by
    unfold InRange minAmount maxAmount at h
    omega
  have length := (Nat.length_toDigits_le_iff (b := 10) (by decide) (show 0 < 20 by decide)).2 small
  exact Nat.le_trans length (by decide)

/-- **A record is the record of its own JSON**, up to what a snapshot does not say. -/
theorem Metric.ofJson_toSnapshotJson (m : Metric) : Metric.ofJson m.toSnapshotJson = .ok m.said := by
  obtain ⟨id, type, delta, value⟩ := m
  cases value with
  | none => cases delta <;> rfl
  | some x =>
    cases finite : x.isFinite with
    | true =>
      have kept : said ⟨id, type, delta, some x⟩ = ⟨id, type, delta, some x⟩ := by
        rw [said, Option.filter_some, if_pos finite]
      rw [kept]
      cases delta <;> simp only [toSnapshotJson, toJsonWith, present, finite, if_true] <;> rfl
    | false =>
      have lost : said ⟨id, type, delta, some x⟩ = ⟨id, type, delta, none⟩ := by
        rw [said, Option.filter_some, if_neg (by rw [finite]; decide)]
      rw [lost]
      cases delta <;> simp only [toSnapshotJson, toJsonWith, present, finite, Bool.false_eq_true,
        if_false] <;> rfl

/-- The JSON of a record can be written. -/
theorem Metric.fits_toSnapshotJson {m : Metric} (short : m.Short) (depth : Nat) :
    Fits (depth + 1) m.toSnapshotJson := by
  obtain ⟨id, type, delta, value⟩ := m
  refine Fits.object fun field hfield => ?_
  simp only [List.mem_append, List.mem_cons, List.not_mem_nil, or_false] at hfield
  rcases hfield with ((rfl | rfl) | hdelta) | hvalue
  · exact .string id
  · exact .string type
  · cases delta with
    | none => cases hdelta
    | some n =>
      cases List.mem_singleton.1 hdelta
      exact .int (short n rfl)
  · cases value with
    | none => cases hvalue
    | some x =>
      cases List.mem_singleton.1 hvalue
      dsimp only
      split
      next finite => exact .float finite
      next => exact .null

namespace Snapshot

/-- Snapshots are written in a style that is read back. -/
theorem neat_snapshot (indent : Option Nat) : (Style.snapshot indent).Neat where
  items := ⟨[], (by decide : ",".toList = [',']), nofun⟩
  names := by
    cases indent with
    | none => exact ⟨[], (by decide : ":".toList = [':']), nofun⟩
    | some width =>
      refine ⟨[' '], (by decide : ": ".toList = [':', ' ']), fun c hc => ?_⟩
      rw [List.mem_singleton.1 hc]
      decide
  layout := (by constructor <;> decide : IsReadable Style.snapshotLayout)

theorem ofItems_map (ms : List Metric) (index : Nat) :
    ofItems index (ms.map Metric.toSnapshotJson) = .ok (ms.map Metric.said) := by
  induction ms generalizing index with
  | nil => rfl
  | cons m ms ih =>
    rw [List.map_cons, ofItems, Metric.ofJson_toSnapshotJson, ih]
    rfl

/-- The bytes of a snapshot are read as what it says of its records. -/
theorem ofBytes_toBytes_said (indent : Option Nat) {ms : List Metric}
    (short : ∀ m ∈ ms, m.Short) :
    Snapshot.ofBytes (toBytes indent ms) = .ok (ms.map Metric.said) := by
  have fits : Fits maxDepth (.array (ms.map Metric.toSnapshotJson)) := by
    refine Fits.array fun item hitem => ?_
    obtain ⟨m, hm, rfl⟩ := List.mem_map.1 hitem
    exact Metric.fits_toSnapshotJson (short m hm) 198
  rw [Snapshot.ofBytes, toBytes, toText, ofBytes?_toText (neat_snapshot indent) fits]
  exact ofItems_map ms 0

/-- **The bytes of a snapshot are read as its records.** -/
theorem ofBytes_toBytes (indent : Option Nat) {ms : List Metric} (sayable : ∀ m ∈ ms, m.Sayable) :
    Snapshot.ofBytes (toBytes indent ms) = .ok ms := by
  have said : ms.map Metric.said = ms :=
    (List.map_congr_left fun m hm => Metric.said_eq_self_iff.2 (sayable m hm).value).trans
      (List.map_id ms)
  rw [ofBytes_toBytes_said indent fun m hm => (sayable m hm).delta, said]

end Snapshot
end Telemetry
