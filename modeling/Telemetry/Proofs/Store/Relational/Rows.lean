import Telemetry.Proofs.Store.Relational.WriteThrough

/-!
# Rows that are put anew

Putting the rows of some contents changes these rows and nothing else, whatever the tables held
(`Executes.renewed`).
-/

namespace Telemetry

namespace Contents.Puts

variable {c : Contents} {name : String}

/-- A sum that is in range can be handed over. -/
theorem fits {statement : Statement} (h : c.Puts statement) (bounded : c.Bounded) :
    Database.Statement.Fits statement := by
  cases h with
  | gauge => trivial
  | counter h => exact Cell.fits_of_inRange (bounded _ _ h)

/-- A name has one value. -/
theorem gauge_eq {value value' : Double} (h : c.Puts (.putGauge name value))
    (h' : c.Puts (.putGauge name value')) : value = value' := by
  cases h with
  | gauge h =>
    cases h' with
    | gauge h' => exact Option.some.inj (h.symm.trans h')

/-- A name has one sum. -/
theorem counter_eq {amount amount' : Int} (h : c.Puts (.putCounter name amount))
    (h' : c.Puts (.putCounter name amount')) : amount = amount' := by
  cases h with
  | counter h =>
    cases h' with
    | counter h' => exact Option.some.inj (h.symm.trans h')

end Contents.Puts

namespace Database

def gauge? (d : Database) (name : String) : Option Cell := d.gauges.bind (·.get? name)

def counter? (d : Database) (name : String) : Option Cell := d.counters.bind (·.get? name)

/-- Some rows are put anew, and everything else is as it was. -/
structure Renewed (put : List Statement) (d d' : Database) : Prop where
  gauge : ∀ name value, .putGauge name value ∈ put →
    d'.gauge? name = some (Cell.real value).inRealColumn
  otherGauge : ∀ name, (∀ value, .putGauge name value ∉ put) → d'.gauge? name = d.gauge? name
  counter : ∀ name amount, .putCounter name amount ∈ put → d'.counter? name = some (.whole amount)
  otherCounter : ∀ name, (∀ amount, .putCounter name amount ∉ put) →
    d'.counter? name = d.counter? name
  /-- No table comes or goes. -/
  tables : d'.gauges.isSome = d.gauges.isSome ∧ d'.counters.isSome = d.counters.isSome ∧
    d'.migrations = d.migrations

theorem renewed_nil (d : Database) : Renewed [] d d :=
  ⟨nofun, fun _ _ => rfl, nofun, fun _ _ => rfl, rfl, rfl, rfl⟩

variable {c : Contents} {d d' d'' : Database} {statement : Statement} {put : List Statement}

/-- What is put into a table that must be there was put into the rows of the table. -/
theorem exists_rows {name : String} {table : Option Rows} {f : Rows → Except Failure Rows}
    {build : Option Rows → Database}
    (h : (do let rows ← onTable name table f; pure (build rows)) = .ok d') :
    ∃ rows rows', table = some rows ∧ f rows = .ok rows' ∧ d' = build (some rows') := by
  cases table with
  | none => cases h
  | some rows =>
    cases hf : f rows with
    | error e =>
      rw [onTable, hf] at h
      cases h
    | ok rows' =>
      rw [onTable, hf] at h
      exact ⟨rows, rows', rfl, hf, (Except.ok.inj h).symm⟩

/-- **A statement that puts a row changes this row only.** -/
theorem renewed_of_execute (puts : c.Puts statement) (h : d.execute statement = .ok d') :
    Renewed [statement] d d' := by
  cases puts with
  | @gauge name value =>
    obtain ⟨rows, rows', table, put, rfl⟩ := exists_rows h
    split at put
    · cases put
    cases put
    constructor
    · intro other value' mem
      cases List.mem_singleton.1 mem
      exact Table.get?_put_self rows name _
    · intro other absent
      have different : name ≠ other := by
        rintro rfl
        exact absent value List.mem_cons_self
      rw [gauge?, gauge?, table]
      exact Table.get?_put_of_ne rows _ different
    · intro other amount mem
      cases List.mem_singleton.1 mem
    · exact fun _ _ => rfl
    · exact ⟨by rw [table]; rfl, rfl, rfl⟩
  | @counter name amount =>
    obtain ⟨rows, rows', table, put, rfl⟩ := exists_rows h
    split at put
    case isFalse => cases put
    cases put
    constructor
    · intro other value mem
      cases List.mem_singleton.1 mem
    · exact fun _ _ => rfl
    · intro other amount' mem
      cases List.mem_singleton.1 mem
      exact Table.get?_put_self rows name _
    · intro other absent
      have different : name ≠ other := by
        rintro rfl
        exact absent amount List.mem_cons_self
      rw [counter?, counter?, table]
      exact Table.get?_put_of_ne rows _ different
    · exact ⟨rfl, by rw [table]; rfl, rfl⟩

/-- Rows put after others are put with them, if no row is put with two values. -/
theorem Renewed.cons (first : Renewed [statement] d d') (rest : Renewed put d' d'')
    (puts : ∀ s ∈ statement :: put, c.Puts s) : Renewed (statement :: put) d d'' := by
  have single {s : Statement} (mem : s ∈ statement :: put) (late : s ∉ put) : s ∈ [statement] :=
    List.mem_singleton.2 ((List.mem_cons.1 mem).resolve_right late)
  constructor
  · intro name value mem
    by_cases late : .putGauge name value ∈ put
    · exact rest.gauge name value late
    · -- The contents have one value for the name, so it is not put again.
      have alone : ∀ value', .putGauge name value' ∉ put := by
        intro value' mem'
        obtain rfl := (puts _ mem).gauge_eq (puts _ (List.mem_cons_of_mem _ mem'))
        exact late mem'
      rw [rest.otherGauge name alone]
      exact first.gauge name value (single mem late)
  · intro name absent
    rw [rest.otherGauge name fun value mem => absent value (List.mem_cons_of_mem _ mem)]
    refine first.otherGauge name fun value mem => absent value ?_
    exact List.mem_cons.2 (.inl (List.mem_singleton.1 mem))
  · intro name amount mem
    by_cases late : .putCounter name amount ∈ put
    · exact rest.counter name amount late
    · have alone : ∀ amount', .putCounter name amount' ∉ put := by
        intro amount' mem'
        obtain rfl := (puts _ mem).counter_eq (puts _ (List.mem_cons_of_mem _ mem'))
        exact late mem'
      rw [rest.otherCounter name alone]
      exact first.counter name amount (single mem late)
  · intro name absent
    rw [rest.otherCounter name fun amount mem => absent amount (List.mem_cons_of_mem _ mem)]
    refine first.otherCounter name fun amount mem => absent amount ?_
    exact List.mem_cons.2 (.inl (List.mem_singleton.1 mem))
  · obtain ⟨gauges, counters, migrations⟩ := first.tables
    obtain ⟨gauges', counters', migrations'⟩ := rest.tables
    exact ⟨gauges'.trans gauges, counters'.trans counters, migrations'.trans migrations⟩

end Database

namespace Store.Relational

/-- Statements executed one after the other. -/
inductive Executes : Database → List Statement → Database → Prop
  | nil (d : Database) : Executes d [] d
  | cons {d d' d'' : Database} {statement : Statement} {later : List Statement}
      (h : d.execute statement = .ok d') (rest : Executes d' later d'') :
      Executes d (statement :: later) d''

/-- **Statements that put the rows of some contents renew these rows.** -/
theorem Executes.renewed {c : Contents} {d d' : Database} {put : List Statement}
    (h : Executes d put d') (puts : ∀ s ∈ put, c.Puts s) : Database.Renewed put d d' := by
  induction h with
  | nil d => exact Database.renewed_nil d
  | cons h rest ih =>
    have later := ih fun s mem => puts s (List.mem_cons_of_mem _ mem)
    exact (Database.renewed_of_execute (puts _ List.mem_cons_self) h).cons later puts

end Store.Relational
end Telemetry
