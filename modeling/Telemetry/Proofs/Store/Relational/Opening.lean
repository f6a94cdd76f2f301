import Telemetry.Proofs.Database
import Telemetry.Proofs.Store.Relational.Change

/-!
# Opening a database

A well-kept database opens, and the contents that it opens with are those of its tables
(`opened_eq`).  Opening brings the tables up to date first, which keeps the rows that are there.
-/

namespace Telemetry.Database

/-- Gauges are doubles, counters are whole numbers within range, and tables that are recorded as
made are there. -/
structure WellKept (d : Database) : Prop where
  gauges : ∀ rows name cell, d.gauges = some rows → rows.get? name = some cell →
    ∃ value, cell = .real value
  counters : ∀ rows name cell, d.counters = some rows → rows.get? name = some cell →
    ∃ amount, cell = .whole amount ∧ InRange amount
  made : "001_metrics_tables" ∈ d.migrations.getD [] →
    (∃ rows, d.gauges = some rows) ∧ ∃ rows, d.counters = some rows

theorem Mirrors.wellKept {d : Database} {c : Contents} (h : d.Mirrors c) (bounded : c.Bounded) :
    d.WellKept := by
  obtain ⟨rows, hrows, hgauges⟩ := h.gauges
  obtain ⟨rows', hrows', hcounters⟩ := h.counters
  refine ⟨fun rows₁ name cell h₁ hcell => ?_, fun rows₁ name cell h₁ hcell => ?_,
    fun _ => ⟨⟨rows, hrows⟩, ⟨rows', hrows'⟩⟩⟩
  · cases hrows.symm.trans h₁
    have hplain := hgauges name
    rw [hcell, Option.map_some] at hplain
    obtain ⟨value, -, hvalue⟩ := Option.map_eq_some_iff.1 hplain.symm
    cases cell with
    | real x => exact ⟨x, rfl⟩
    | whole i => cases hvalue
    | text s => cases hvalue
  · cases hrows'.symm.trans h₁
    obtain ⟨amount, hamount, rfl⟩ := Option.map_eq_some_iff.1 ((hcounters name).symm.trans hcell)
    exact ⟨amount, rfl, bounded name amount hamount⟩

/-- The database after it has been brought up to date. -/
def prepared (d : Database) : Database :=
  let names := d.migrations.getD []
  if names.contains "001_metrics_tables" then { d with migrations := some names }
  else
    { gauges := some (d.gauges.getD .empty), counters := some (d.counters.getD .empty),
      migrations := some (names ++ ["001_metrics_tables"]) }

/-- Bringing a well-kept database up to date makes the tables that are missing. -/
theorem WellKept.tables_prepared {d : Database} (h : d.WellKept) :
    d.prepared.gauges = some (d.gauges.getD .empty)
      ∧ d.prepared.counters = some (d.counters.getD .empty) := by
  by_cases hmade : (d.migrations.getD []).contains "001_metrics_tables"
  · obtain ⟨⟨rows, hrows⟩, ⟨rows', hrows'⟩⟩ := h.made (List.contains_iff_mem.1 hmade)
    rw [prepared, if_pos hmade, hrows, hrows']
    exact ⟨rfl, rfl⟩
  · rw [prepared, if_neg hmade]
    exact ⟨rfl, rfl⟩

/-- Bringing a database with all tables up to date changes no row. -/
theorem Mirrors.prepared {d : Database} {c : Contents} (h : d.Mirrors c) :
    d.prepared.Mirrors c := by
  obtain ⟨rows, hrows, hgauges⟩ := h.gauges
  obtain ⟨rows', hrows', hcounters⟩ := h.counters
  by_cases hmade : (d.migrations.getD []).contains "001_metrics_tables"
  · rw [Database.prepared, if_pos hmade]
    exact ⟨h.gauges, h.counters⟩
  · rw [Database.prepared, if_neg hmade, hrows, hrows']
    exact ⟨⟨rows, rfl, hgauges⟩, ⟨rows', rfl, hcounters⟩⟩

end Telemetry.Database

namespace Telemetry.Store.Relational

open Dialogue

/-! ### Migrations -/

/-- A statement that the script does not refuse does what it does to the connection. -/
theorem run_execute {c : Contents} {connection connection' : Connection} {statement : Statement}
    {tried : Nat} (h : connection.execute statement = .ok connection') :
    run (alone Faulty.perform) (take (.execute statement)) ⟨c, { connection, tried }⟩
      = (.value (), ⟨c, { connection := connection', tried := tried + 1 }⟩) := by
  have performed : ({ connection, tried } : Faulty).unlessRefused (fun c => c.execute statement)
      = (.value (), { connection := connection', tried := tried + 1 }) := by
    unfold Faulty.unlessRefused
    simp only [h, List.tail_nil]
  exact congrArg (fun r => (r.1, World.mk c r.2)) performed

/-- Any database can be brought up to date. -/
theorem run_migrate (c : Contents) (d : Database) :
    ∃ tried, run (alone Faulty.perform) migrate ⟨c, { connection := ⟨d, none⟩ }⟩
      = (.value (), ⟨c, { connection := ⟨d.prepared, none⟩, tried }⟩) := by
  let world (d : Database) (pending : Option Database) (tried : Nat) : World Faulty :=
    ⟨c, { connection := ⟨d, pending⟩, tried }⟩
  let names := d.migrations.getD []
  have listed : run (alone Faulty.perform) migrate (world d none 0)
      = run (alone Faulty.perform) (migrateEach names allMigrations)
          (world { d with migrations := some names } none 2) := by
    refine (run_andThen_value rfl).trans ?_
    refine (run_andThen_value rfl).trans ?_
    exact run_andThen_value rfl
  by_cases h : names.contains "001_metrics_tables"
  · refine ⟨2, listed.trans ?_⟩
    rw [allMigrations, migrateEach, if_pos h, Database.prepared, if_pos h]
    rfl
  · refine ⟨6, listed.trans ?_⟩
    let made : Database := ⟨some (d.gauges.getD .empty), some (d.counters.getD .empty), some names⟩
    have executed : made.execute (.recordMigration "001_metrics_tables") = .ok d.prepared := by
      simp only [made, Database.execute, Database.prepared, names]
      rw [if_neg h, if_neg h]
    have recorded : run (alone Faulty.perform)
        (take (.execute (.recordMigration "001_metrics_tables"))) (world made none 4)
        = (.value (), world made (some d.prepared) 5) := by
      refine run_execute ?_
      rw [execute_clean rfl, executed]
      rfl
    rw [allMigrations, migrateEach, if_neg h]
    refine (run_andThen_value (t := world made (some d.prepared) 5) (a := ()) ?_).trans rfl
    refine (run_andThen_value rfl).trans ?_
    refine (run_andThen_value rfl).trans ?_
    exact (run_andThen_value recorded).trans rfl

/-! ### Loading -/

/-- Rows that were all written in one way make a table of what was written. -/
theorem tableOf_entries {α : Type} (f : Cell → Except Failure α) (write : α → Cell) {rows : Rows}
    (reads : ∀ a, f (write a) = .ok a)
    (written : ∀ name cell, rows.get? name = some cell → ∃ a, cell = write a) :
    ∃ t, tableOf f rows.entries = .ok t ∧ ∀ name, rows.get? name = (t.get? name).map write := by
  have readable (l : List (String × Cell)) (hl : ∀ e ∈ l, ∃ a, e.2 = write a) :
      ∃ read : List (String × α), l.mapM (fun row => (row.1, ·) <$> f row.2) = .ok read ∧
        l = read.map fun e => (e.1, write e.2) := by
    induction l with
    | nil => exact ⟨[], rfl, rfl⟩
    | cons e rest ih =>
      obtain ⟨name, cell⟩ := e
      obtain ⟨a, rfl⟩ := hl _ List.mem_cons_self
      obtain ⟨read, hread, hrest⟩ := ih fun e' he' => hl e' (List.mem_cons_of_mem _ he')
      refine ⟨(name, a) :: read, ?_, ?_⟩
      · rw [List.mapM_cons, hread, reads]
        rfl
      · rw [List.map_cons, ← hrest]
  obtain ⟨read, hread, hentries⟩ := readable rows.entries fun e he =>
    written e.1 e.2 (Table.mem_entries_iff.1 he)
  have keys : read.map (·.1) = rows.entries.map (·.1) := by
    rw [hentries, List.map_map]
    rfl
  refine ⟨Table.ofList read, ?_, fun name => ?_⟩
  · rw [tableOf, hread]
    rfl
  · rw [Table.get?, Table.get?, Table.entries_ofList (keys ▸ rows.distinct), hentries,
      Table.valueIn_map]

/-- A well-kept database with all tables mirrors what is loaded from it. -/
theorem run_load {d : Database} (wellKept : d.WellKept) {gauges counters : Rows}
    (hgauges : d.gauges = some gauges) (hcounters : d.counters = some counters) (c : Contents)
    (tried : Nat) :
    ∃ loaded, run (alone Faulty.perform) load ⟨c, { connection := ⟨d, none⟩, tried }⟩
        = (.value loaded, ⟨c, { connection := ⟨d, none⟩, tried }⟩)
      ∧ d.Mirrors loaded ∧ loaded.Bounded := by
  obtain ⟨t, ht, hread⟩ := tableOf_entries doubleOf Cell.real (fun _ => rfl)
    (fun name cell hcell => wellKept.gauges gauges name cell hgauges hcell)
  have whole (name : String) (cell : Cell) (hcell : counters.get? name = some cell) :
      ∃ amount, cell = .whole amount := by
    obtain ⟨amount, rfl, -⟩ := wellKept.counters counters name cell hcounters hcell
    exact ⟨amount, rfl⟩
  obtain ⟨t', ht', hread'⟩ := tableOf_entries wholeOf Cell.whole (fun _ => rfl) whole
  refine ⟨⟨t, t'⟩, ?_, ⟨⟨gauges, hgauges, fun name => ?_⟩, ⟨counters, hcounters, hread'⟩⟩, ?_⟩
  · let world : World Faulty := ⟨c, { connection := ⟨d, none⟩, tried }⟩
    have gaugeRows : run (alone Faulty.perform) (take .gaugeRows) world
        = (.value gauges.entries, world) := by
      show (rowsOrFailure "gauge" d.gauges, world) = _
      rw [hgauges]
      rfl
    have counterRows : run (alone Faulty.perform) (take .counterRows) world
        = (.value counters.entries, world) := by
      show (rowsOrFailure "counter" d.counters, world) = _
      rw [hcounters]
      rfl
    refine (run_andThen_value gaugeRows).trans ?_
    rw [ht]
    refine (run_andThen_value counterRows).trans ?_
    rw [ht']
    rfl
  · rw [hread, Option.map_map]
    rfl
  · intro name amount hamount
    have hcell := hread' name
    rw [hamount] at hcell
    obtain ⟨amount', heq, range⟩ := wellKept.counters counters name _ hcounters hcell
    cases heq
    exact range

/-! ### Opening -/

/-- The result of opening a database, and the connection that it leaves. -/
def opened (name : String) (d : Database) : Outcome Error Contents × Connection :=
  let result := run (alone Faulty.perform) (openAs name)
    ⟨.empty, { connection := { committed := d } }⟩
  (result.1, result.2.medium.connection)

/-- **A well-kept database opens with the contents of its tables.** -/
theorem opened_eq (name : String) {d : Database} (wellKept : d.WellKept) :
    ∃ c, opened name d = (.value c, ⟨d.prepared, none⟩) ∧ d.prepared.Mirrors c ∧ c.Bounded := by
  obtain ⟨hgauges, hcounters⟩ := wellKept.tables_prepared
  have prepared : d.prepared.WellKept := by
    refine ⟨fun rows key cell h hcell => ?_, fun rows key cell h hcell => ?_,
      fun _ => ⟨⟨_, hgauges⟩, ⟨_, hcounters⟩⟩⟩
    · cases hgauges.symm.trans h
      cases hd : d.gauges with
      | none => rw [hd] at hcell; cases hcell
      | some rows => rw [hd] at hcell; exact wellKept.gauges rows key cell hd hcell
    · cases hcounters.symm.trans h
      cases hd : d.counters with
      | none => rw [hd] at hcell; cases hcell
      | some rows => rw [hd] at hcell; exact wellKept.counters rows key cell hd hcell
  obtain ⟨tried, hmigrate⟩ := run_migrate .empty d
  obtain ⟨c, hload, mirrors, bounded⟩ := run_load prepared hgauges hcounters .empty tried
  have connected : run (alone Faulty.perform) ((take .connect).andThen fun _ => migrate)
      ⟨.empty, { connection := ⟨d, none⟩ }⟩
      = (.value (), ⟨.empty, { connection := ⟨d.prepared, none⟩, tried }⟩) :=
    (run_andThen_value rfl).trans hmigrate
  refine ⟨c, ?_, mirrors, bounded⟩
  have result : run (alone Faulty.perform) (openAs name) ⟨.empty, { connection := ⟨d, none⟩ }⟩
      = (.value c, ⟨.empty, { connection := ⟨d.prepared, none⟩, tried }⟩) := by
    rw [openAs, run_bind, connected]
    show run _ (load >>= _) _ = _
    rw [run_bind, hload]
    rfl
  rw [opened, result]

end Telemetry.Store.Relational
