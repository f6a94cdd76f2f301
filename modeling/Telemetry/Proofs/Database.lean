import Telemetry.Database
import Telemetry.Proofs.Contents

/-!
# Tables that mirror contents

A database mirrors contents if its tables of gauges and counters have exactly the rows that the
contents have entries, with the same numbers (`Database.Mirrors`).  Columns of doubles do not
keep the sign of zero, so doubles are compared without it.

A statement that puts or adds a number keeps a database a mirror of the contents that are
changed in the same way, as long as counters stay within range.
-/

namespace Telemetry

/-! ### The sign of zero -/

open Cell.inRealColumn (plainZero)

theorem plainZero_plainZero (x : Double) : plainZero (plainZero x) = plainZero x := by
  by_cases h : x.toInt? = some 0
  · simp [plainZero, h]
  · simp [plainZero, h]

/-- A cell with the sign of zero dropped. -/
def Cell.plain : Cell → Cell
  | .real x => .real (plainZero x)
  | cell => cell

/-- A reading with the sign of zero dropped. -/
def Reading.plain : Reading → Reading
  | .gauge name value => .gauge name (plainZero value)
  | .counter name amount => .counter name amount

@[simp] theorem Cell.plain_whole (i : Int) : (Cell.whole i).plain = .whole i := rfl

@[simp] theorem Cell.plain_real (x : Double) : (Cell.real x).plain = .real (plainZero x) := rfl

/-- What a column of doubles makes of a double is the same number. -/
@[simp] theorem Cell.plain_inRealColumn (x : Double) :
    (Cell.real x).inRealColumn.plain = .real (plainZero x) :=
  congrArg Cell.real (plainZero_plainZero x)

@[simp] theorem Cell.inWholeColumn_whole (i : Int) : (Cell.whole i).inWholeColumn = .whole i := rfl

theorem Cell.fits_of_inRange {i : Int} (h : InRange i) : Cell.Fits i := by
  unfold InRange minAmount maxAmount at h
  unfold Cell.Fits
  omega

/-- Contents with the same numbers, the sign of zero aside. -/
structure Contents.Alike (c d : Contents) : Prop where
  gauges : ∀ name, (c.gauges.get? name).map plainZero = (d.gauges.get? name).map plainZero
  counters : ∀ name, c.counters.get? name = d.counters.get? name

/-- Contents whose numbers are the same list the same. -/
theorem Contents.Alike.map_plain_snapshot {c d : Contents} (h : c.Alike d) :
    c.snapshot.map Reading.plain = d.snapshot.map Reading.plain := by
  have hcounters : c.counters.sorted = d.counters.sorted := by
    simpa using Table.sorted_congr (f := id) (g := id) fun key => by simp [h.counters key]
  have hgauges : c.gauges.sorted.map (fun e => Reading.gauge e.1 (plainZero e.2))
      = d.gauges.sorted.map fun e => Reading.gauge e.1 (plainZero e.2) := by
    have h := congrArg (List.map fun e => Reading.gauge e.1 e.2) (Table.sorted_congr h.gauges)
    simpa [Function.comp_def] using h
  simp only [Contents.snapshot, List.map_append, List.map_map, Function.comp_def, Reading.plain,
    hcounters, hgauges]

namespace Database

/-! ### Numbers that can be handed over -/

/-- The whole number of a statement, if it has one, is of at most 64 bits. -/
def Statement.Fits : Statement → Prop
  | .addCounter _ delta => Cell.Fits delta
  | .putCounter _ value => Cell.Fits value
  | _ => True

theorem onTable_error {name : String} {table : Option Rows} {f : Rows → Except Failure Rows}
    {e : Failure} (h : onTable name table f = .error e) :
    e = noTable name ∨ ∃ rows, f rows = .error e := by
  cases table with
  | none =>
    left
    exact (Except.error.inj h).symm
  | some rows =>
    right
    refine ⟨rows, ?_⟩
    cases hf : f rows with
    | error e' =>
      rw [onTable, hf] at h
      cases h
      rfl
    | ok rows' =>
      rw [onTable, hf] at h
      cases h

/-- **A statement whose number fits fails only because the database refuses it.** -/
theorem isDatabase_of_execute {d : Database} {statement : Statement}
    (fits : Statement.Fits statement) {e : Failure} (h : d.execute statement = .error e) :
    e.isDatabase = true := by
  have bound {table : Except Failure (Option Rows)} {build : Option Rows → Database}
      (h : (do let rows ← table; pure (build rows)) = .error e) : table = .error e := by
    cases table with
    | error e' =>
      cases h
      rfl
    | ok rows => cases h
  cases statement with
  | createMigrations | createGauges | createCounters => cases h
  | recordMigration name =>
    simp only [execute] at h
    split at h
    · cases h
      rfl
    · split at h
      · cases h
        rfl
      · cases h
  | putGauge name value =>
    rcases onTable_error (bound h) with rfl | ⟨rows, hrows⟩
    · rfl
    · split at hrows
      · cases hrows
        rfl
      · cases hrows
  | addCounter name delta =>
    have hfits : Cell.Fits delta := fits
    rcases onTable_error (bound h) with rfl | ⟨rows, hrows⟩
    · rfl
    · rw [if_pos hfits] at hrows
      split at hrows
      · cases hrows
      · cases hrows
  | putCounter name value =>
    have hfits : Cell.Fits value := fits
    rcases onTable_error (bound h) with rfl | ⟨rows, hrows⟩
    · rfl
    · rw [if_pos hfits] at hrows
      cases hrows

/-! ### Mirrors -/

/-- The tables have exactly the entries of the contents, the sign of zero aside. -/
structure Mirrors (d : Database) (c : Contents) : Prop where
  gauges : ∃ rows, d.gauges = some rows ∧
    ∀ name, (rows.get? name).map Cell.plain
      = (c.gauges.get? name).map fun value => (Cell.real value).plain
  counters : ∃ rows, d.counters = some rows ∧
    ∀ name, rows.get? name = (c.counters.get? name).map Cell.whole

variable {d d' : Database} {c : Contents} {name : String}

theorem Mirrors.congr {c' : Contents} (h : d.Mirrors c) (agree : c.Agree c') : d.Mirrors c' := by
  obtain ⟨rows, hrows, hgauges⟩ := h.gauges
  obtain ⟨rows', hrows', hcounters⟩ := h.counters
  refine ⟨⟨rows, hrows, fun name => ?_⟩, ⟨rows', hrows', fun name => ?_⟩⟩
  · rw [hgauges, agree.gauges]
  · rw [hcounters, agree.counters]

/-- Contents that one database mirrors have the same numbers. -/
theorem Mirrors.alike {c' : Contents} (h : d.Mirrors c) (h' : d.Mirrors c') : c.Alike c' := by
  obtain ⟨rows, hrows, hgauges⟩ := h.gauges
  obtain ⟨rows', hrows', hgauges'⟩ := h'.gauges
  obtain ⟨counts, hcounts, hcounters⟩ := h.counters
  obtain ⟨counts', hcounts', hcounters'⟩ := h'.counters
  cases hrows.symm.trans hrows'
  cases hcounts.symm.trans hcounts'
  refine ⟨fun name => ?_, fun name => ?_⟩
  · have cells := (hgauges name).symm.trans (hgauges' name)
    cases hc : c.gauges.get? name <;> cases hc' : c'.gauges.get? name <;>
      simp_all [Option.map]
  · have cells := (hcounters name).symm.trans (hcounters' name)
    cases hc : c.counters.get? name <;> cases hc' : c'.counters.get? name <;>
      simp_all [Option.map]

/-- So they list the same, the sign of zero aside. -/
theorem Mirrors.snapshot_eq {c' : Contents} (h : d.Mirrors c) (h' : d.Mirrors c') :
    c.snapshot.map Reading.plain = c'.snapshot.map Reading.plain :=
  (h.alike h').map_plain_snapshot

/-- A gauge is put into a table that is there, unless it is not a number. -/
theorem execute_putGauge {rows : Rows} (h : d.gauges = some rows) (name : String) (value : Double) :
    d.execute (.putGauge name value)
      = if value = .nan then .error (noValue "gauge.value")
        else .ok { d with gauges := some (rows.put name (Cell.real value).inRealColumn) } := by
  simp only [execute, onTable, h]
  split
  · rfl
  · rfl

/-- A counter is put into a table that is there, if its sum can be handed over. -/
theorem execute_putCounter {rows : Rows} (h : d.counters = some rows) (name : String)
    (value : Int) :
    d.execute (.putCounter name value)
      = if Cell.Fits value then .ok { d with counters := some (rows.put name (.whole value)) }
        else .error unbindable := by
  simp only [execute, onTable, h]
  split
  · rfl
  · rfl

theorem Mirrors.putGauge {value : Double} (h : d.Mirrors c)
    (hd : d.execute (.putGauge name value) = .ok d') : d'.Mirrors (c.setGauge name value) := by
  obtain ⟨rows, hrows, hgauges⟩ := h.gauges
  have put : d' = { d with gauges := some (rows.put name (Cell.real value).inRealColumn) } := by
    rw [execute_putGauge hrows] at hd
    split at hd
    · cases hd
    · exact (Except.ok.inj hd).symm
  subst put
  refine ⟨⟨_, rfl, fun other => ?_⟩, h.counters⟩
  simp only [Contents.setGauge, Table.get?_put]
  split
  · exact congrArg some (Cell.plain_inRealColumn value)
  · exact hgauges other

theorem Mirrors.putCounter {value : Int} (h : d.Mirrors c)
    (hd : d.execute (.putCounter name value) = .ok d') : d'.Mirrors (c.setCounter name value) := by
  obtain ⟨rows, hrows, hcounters⟩ := h.counters
  have put : d' = { d with counters := some (rows.put name (.whole value)) } := by
    rw [execute_putCounter hrows] at hd
    split at hd
    · exact (Except.ok.inj hd).symm
    · cases hd
  subst put
  refine ⟨h.gauges, ⟨_, rfl, fun other => ?_⟩⟩
  simp only [Contents.setCounter, Table.get?_put]
  split
  · rfl
  · exact hcounters other

/-- **The database adds as the contents do**, because the sum is within range. -/
theorem Mirrors.addCounter {delta : Int} (h : d.Mirrors c) (range : InRange (c.total name + delta))
    (hd : d.execute (.addCounter name delta) = .ok d') :
    d'.Mirrors (c.setCounter name (c.total name + delta)) := by
  obtain ⟨rows, hrows, hcounters⟩ := h.counters
  have put : d' = { d with
      counters := some (rows.put name (.whole (c.total name + delta))) } := by
    simp only [execute, onTable, hrows, hcounters] at hd
    split at hd
    · unfold Contents.total at range ⊢
      cases hsum : c.counters.get? name with
      | none =>
        simp only [hsum] at hd
        simpa using (Except.ok.inj hd).symm
      | some sum =>
        have fits := Cell.fits_of_inRange range
        simp only [hsum, Option.getD_some] at fits
        simp only [hsum, Option.map_some, Cell.add, Cell.add.number, fits, if_true] at hd
        simpa using (Except.ok.inj hd).symm
    · cases hd
  subst put
  refine ⟨h.gauges, ⟨_, rfl, fun other => ?_⟩⟩
  simp only [Contents.setCounter, Table.get?_put]
  split
  · rfl
  · exact hcounters other

end Database
end Telemetry
