import Telemetry.Contents
import Telemetry.Proofs.Table

/-!
# Snapshots of contents

A snapshot lists what the look-ups find (`mem_snapshot_gauge`, `mem_snapshot_counter`) and
nothing else about the contents: contents that agree on every look-up have the same snapshot
(`snapshot_congr`).  Taking over the records of a snapshot gives contents that agree with the
ones it was made of (`restore_records`).
-/

namespace Telemetry.Contents

/-! ### Look-ups -/

/-- Contents that agree on the value of every gauge and on the sum of every counter. -/
structure Agree (c d : Contents) : Prop where
  gauges : ∀ name, c.gauges.get? name = d.gauges.get? name
  counters : ∀ name, c.counters.get? name = d.counters.get? name

theorem Agree.refl (c : Contents) : c.Agree c := ⟨fun _ => rfl, fun _ => rfl⟩

theorem Agree.symm {c d : Contents} (h : c.Agree d) : d.Agree c :=
  ⟨fun name => (h.gauges name).symm, fun name => (h.counters name).symm⟩

theorem Agree.trans {c d e : Contents} (h : c.Agree d) (h' : d.Agree e) : c.Agree e :=
  ⟨fun name => (h.gauges name).trans (h'.gauges name),
    fun name => (h.counters name).trans (h'.counters name)⟩

theorem Agree.total {c d : Contents} (h : c.Agree d) (name : String) :
    c.total name = d.total name :=
  congrArg (·.getD 0) (h.counters name)

def Bounded (c : Contents) : Prop :=
  ∀ name amount, c.counters.get? name = some amount → InRange amount

theorem bounded_empty : Bounded empty := by
  intro name amount h
  cases h

theorem Bounded.setCounter {c : Contents} (h : c.Bounded) {name : String} {value : Int}
    (range : InRange value) : (c.setCounter name value).Bounded := by
  intro other amount hamount
  simp only [Contents.setCounter, Table.get?_put] at hamount
  split at hamount
  · cases hamount
    exact range
  · exact h other amount hamount

theorem agree_setGauge_self {c : Contents} {name : String} {value : Double}
    (h : c.gauges.get? name = some value) : (c.setGauge name value).Agree c := by
  refine ⟨fun other => ?_, fun _ => rfl⟩
  simp only [setGauge, Table.get?_put]
  split
  next heq => rw [← heq, h]
  next => rfl

theorem agree_setCounter_self {c : Contents} {name : String} {value : Int}
    (h : c.counters.get? name = some value) : (c.setCounter name value).Agree c := by
  refine ⟨fun _ => rfl, fun other => ?_⟩
  simp only [setCounter, Table.get?_put]
  split
  next heq => rw [← heq, h]
  next => rfl

/-! ### Snapshots -/

theorem mem_snapshot_gauge {c : Contents} {name : String} {value : Double} :
    .gauge name value ∈ c.snapshot ↔ c.gauges.get? name = some value := by
  simp [snapshot, ← Table.mem_sorted_iff]

theorem mem_snapshot_counter {c : Contents} {name : String} {amount : Int} :
    .counter name amount ∈ c.snapshot ↔ c.counters.get? name = some amount := by
  simp [snapshot, ← Table.mem_sorted_iff]

/-- **A snapshot depends on the look-ups only.** -/
theorem snapshot_congr {c d : Contents} (h : c.Agree d) : c.snapshot = d.snapshot := by
  have gauges : c.gauges.sorted = d.gauges.sorted := by
    simpa using Table.sorted_congr (f := id) (g := id) fun key => by simp [h.gauges key]
  have counters : c.counters.sorted = d.counters.sorted := by
    simpa using Table.sorted_congr (f := id) (g := id) fun key => by simp [h.counters key]
  rw [snapshot, snapshot, gauges, counters]

@[simp] theorem snapshot_empty : empty.snapshot = [] := by
  simp [snapshot, empty, Table.sorted, Table.empty]

/-- Only contents that hold nothing list nothing. -/
theorem eq_empty_of_snapshot {c : Contents} (h : c.snapshot = []) : c = .empty := by
  have none {α : Type} {t : Table String α} (h : t.sorted = []) : t = .empty := by
    refine Table.ext_entries ?_
    have perm := t.sorted_perm
    rw [h] at perm
    exact perm.nil_eq.symm
  rw [snapshot, List.append_eq_nil_iff, List.map_eq_nil_iff, List.map_eq_nil_iff] at h
  obtain ⟨gauges, counters⟩ := c
  cases none (t := gauges) h.1
  cases none (t := counters) h.2
  rfl

/-! ### Restoring -/

/-- Taking over gauge records puts them into the table of gauges. -/
theorem foldl_accept_gauges (l : List (String × Double)) (c : Contents) :
    (l.map fun e => (Reading.gauge e.1 e.2).toMetric).foldl accept c
      = ⟨l.foldl (fun t e => t.put e.1 e.2) c.gauges, c.counters⟩ := by
  induction l generalizing c with
  | nil => rfl
  | cons e rest ih => rw [List.map_cons, List.foldl_cons, accept_gauge, ih]; rfl

/-- Taking over counter records puts them into the table of counters. -/
theorem foldl_accept_counters (l : List (String × Int)) (c : Contents) :
    (l.map fun e => (Reading.counter e.1 e.2).toMetric).foldl accept c
      = ⟨c.gauges, l.foldl (fun t e => t.put e.1 e.2) c.counters⟩ := by
  induction l generalizing c with
  | nil => rfl
  | cons e rest ih => rw [List.map_cons, List.foldl_cons, accept_counter, ih]; rfl

/-- The table of a listing agrees with the table that is listed. -/
theorem get?_ofList_sorted {α : Type} (t : Table String α) (name : String) :
    (Table.ofList t.sorted).get? name = t.get? name := by
  refine Option.ext fun a => ?_
  rw [← Table.mem_entries_iff, Table.entries_ofList t.nodup_sorted, Table.mem_sorted_iff]

/-- **Restoring the records of a snapshot gives back what it was made of.** -/
theorem restore_records (c : Contents) : (Contents.empty.restore c.records).Agree c := by
  have restored : Contents.empty.restore c.records
      = ⟨Table.ofList c.gauges.sorted, Table.ofList c.counters.sorted⟩ := by
    rw [restore, records, snapshot, List.map_append, List.map_map, List.map_map,
      List.foldl_append, Function.comp_def, Function.comp_def, foldl_accept_gauges,
      foldl_accept_counters]
    rfl
  rw [restored]
  exact ⟨get?_ofList_sorted c.gauges, get?_ofList_sorted c.counters⟩

end Telemetry.Contents
