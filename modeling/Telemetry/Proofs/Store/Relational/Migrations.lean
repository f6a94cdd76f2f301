import Mathlib.Data.List.Nodup
import Telemetry.Proofs.Store.Relational.Opening

/-!
# Migrations that are broken off

A table is there as soon as it is created, and the migration that created it is recorded by a later
commit.  So whatever breaks off an open leaves a database whose tables may be ahead of its records,
but never behind them (`InStep`).  A table that is there is left alone when it is to be created
again, so the next open goes on from there: no row is lost, and once all migrations are recorded
nothing changes any more (`migrations_resume`).
-/

namespace Telemetry

/-! ### Tables that are there -/

namespace Database

/-- A table is as it was, or it was not there and is empty. -/
def KeptTable (before after : Option Rows) : Prop :=
  after = before ∨ before = none ∧ after = some .empty

/-- A database has grown: no row has changed, and no record of a migration has gone. -/
structure Grown (d e : Database) : Prop where
  gauges : KeptTable d.gauges e.gauges
  counters : KeptTable d.counters e.counters
  migrations : ∀ names, d.migrations = some names →
    ∃ names', e.migrations = some names' ∧ names <+: names'

variable {d e f : Database} {statement : Statement}

theorem KeptTable.trans {before between after : Option Rows} (h : KeptTable before between)
    (h' : KeptTable between after) : KeptTable before after := by
  rcases h with rfl | ⟨rfl, rfl⟩
  · exact h'
  · rcases h' with rfl | ⟨absent, -⟩
    · exact .inr ⟨rfl, rfl⟩
    · cases absent

/-- A table that was there is as it was. -/
theorem KeptTable.eq_of_isSome {before after : Option Rows} (h : KeptTable before after)
    (there : before.isSome) : after = before := by
  rcases h with rfl | ⟨rfl, -⟩
  · rfl
  · cases there

/-- To create a table unless it is there keeps it. -/
theorem keptTable_create (table : Option Rows) : KeptTable table (some (table.getD .empty)) := by
  cases table with
  | none => exact .inr ⟨rfl, rfl⟩
  | some rows => exact .inl rfl

theorem Grown.refl (d : Database) : Grown d d :=
  ⟨.inl rfl, .inl rfl, fun names h => ⟨names, h, List.prefix_rfl⟩⟩

theorem Grown.trans (h : Grown d e) (h' : Grown e f) : Grown d f where
  gauges := h.gauges.trans h'.gauges
  counters := h.counters.trans h'.counters
  migrations := by
    intro names listed
    obtain ⟨names', listed', before⟩ := h.migrations names listed
    obtain ⟨names'', listed'', before'⟩ := h'.migrations names' listed'
    exact ⟨names'', listed'', before.trans before'⟩

/-- The tables of a database are there in another. -/
structure TablesIn (d e : Database) : Prop where
  gauges : d.gauges.isSome → e.gauges.isSome
  counters : d.counters.isSome → e.counters.isSome
  migrations : d.migrations.isSome → e.migrations.isSome

/-- A table that was there is there. -/
theorem Grown.tables (h : Grown d e) : d.TablesIn e where
  gauges there := (h.gauges.eq_of_isSome there).symm ▸ there
  counters there := (h.counters.eq_of_isSome there).symm ▸ there
  migrations there := by
    obtain ⟨names, there⟩ := Option.isSome_iff_exists.1 there
    obtain ⟨names', there', -⟩ := h.migrations names there
    rw [there']
    rfl

/-- A statement creates a table, and the table is there. -/
structure Settled (d : Database) (statement : Statement) : Prop where
  creates : Statement.opens statement = false
  unchanged : d.execute statement = .ok d

/-- The migrations that are recorded. -/
def recorded (d : Database) : List String := d.migrations.getD []

/-- **A table can be created once more**: what was there before is kept, and it is there
afterwards. -/
theorem exists_create (d : Database) (creates : Statement.opens statement = false) :
    ∃ e, d.execute statement = .ok e ∧ d.Grown e ∧ e.Settled statement ∧
      e.recorded = d.recorded := by
  have listed (names : List String) (h : d.migrations = some names) :
      ∃ names', some (d.migrations.getD []) = some names' ∧ names <+: names' := by
    rw [h]
    exact ⟨names, rfl, List.prefix_rfl⟩
  cases statement with
  | createMigrations => exact ⟨_, rfl, ⟨.inl rfl, .inl rfl, listed⟩, ⟨rfl, rfl⟩, rfl⟩
  | createGauges =>
    exact ⟨_, rfl, ⟨keptTable_create _, .inl rfl, (Grown.refl d).migrations⟩, ⟨rfl, rfl⟩, rfl⟩
  | createCounters =>
    exact ⟨_, rfl, ⟨.inl rfl, keptTable_create _, (Grown.refl d).migrations⟩, ⟨rfl, rfl⟩, rfl⟩
  | recordMigration => cases creates
  | putGauge => cases creates
  | addCounter => cases creates
  | putCounter => cases creates

theorem settled_createMigrations : d.Settled .createMigrations ↔ d.migrations.isSome := by
  constructor
  · intro h
    rw [← congrArg migrations (Except.ok.inj h.unchanged)]
    rfl
  · intro there
    obtain ⟨gauges, counters, migrations⟩ := d
    obtain ⟨names, rfl⟩ := Option.isSome_iff_exists.1 there
    exact ⟨rfl, rfl⟩

theorem settled_createGauges : d.Settled .createGauges ↔ d.gauges.isSome := by
  constructor
  · intro h
    rw [← congrArg gauges (Except.ok.inj h.unchanged)]
    rfl
  · intro there
    obtain ⟨gauges, counters, migrations⟩ := d
    obtain ⟨rows, rfl⟩ := Option.isSome_iff_exists.1 there
    exact ⟨rfl, rfl⟩

theorem settled_createCounters : d.Settled .createCounters ↔ d.counters.isSome := by
  constructor
  · intro h
    rw [← congrArg counters (Except.ok.inj h.unchanged)]
    rfl
  · intro there
    obtain ⟨gauges, counters, migrations⟩ := d
    obtain ⟨rows, rfl⟩ := Option.isSome_iff_exists.1 there
    exact ⟨rfl, rfl⟩

/-- Rows do not matter to whether a table is there. -/
theorem Settled.of_tablesIn (h : d.Settled statement) (tables : d.TablesIn e) :
    e.Settled statement := by
  obtain ⟨creates, -⟩ := id h
  cases statement with
  | createMigrations =>
    exact settled_createMigrations.2 (tables.migrations (settled_createMigrations.1 h))
  | createGauges => exact settled_createGauges.2 (tables.gauges (settled_createGauges.1 h))
  | createCounters =>
    exact settled_createCounters.2 (tables.counters (settled_createCounters.1 h))
  | recordMigration => cases creates
  | putGauge => cases creates
  | addCounter => cases creates
  | putCounter => cases creates

/-- A table that is there stays. -/
theorem Settled.grown (h : d.Settled statement) (grown : d.Grown e) : e.Settled statement :=
  h.of_tablesIn grown.tables

/-- **A migration can be recorded** unless it is recorded. -/
theorem exists_record {name : String} (listed : d.Settled .createMigrations)
    (new : name ∉ d.recorded) :
    ∃ e, d.execute (.recordMigration name) = .ok e ∧ d.Grown e ∧
      e.recorded = d.recorded ++ [name] := by
  obtain ⟨names, there⟩ := Option.isSome_iff_exists.1 (settled_createMigrations.1 listed)
  have same : d.recorded = names := by rw [recorded, there, Option.getD_some]
  rw [same] at new ⊢
  refine ⟨{ d with migrations := some (names ++ [name]) }, ?_, ⟨.inl rfl, .inl rfl, ?_⟩, rfl⟩
  · have absent : ¬ names.contains name := by rwa [List.contains_iff_mem]
    simp only [execute, there, if_neg absent]
  · intro names' there'
    cases there.symm.trans there'
    exact ⟨_, rfl, List.prefix_append _ _⟩

/-! ### Records and tables -/

/-- Migrations as they are listed, each with what it does. -/
abbrev Migrations := List (String × List Statement)

/-- **Records do not run ahead of tables**: if a migration is recorded, its tables are there. -/
structure InStep (d : Database) (migrations : Migrations) : Prop where
  once : d.recorded.Nodup
  settled : ∀ migration ∈ migrations, migration.1 ∈ d.recorded →
    ∀ statement ∈ migration.2, d.Settled statement

variable {migrations : Migrations}

theorem inStep_empty : InStep .empty migrations := ⟨List.nodup_nil, nofun⟩

/-- What is in step stays so with more tables and fewer records, or other ones. -/
theorem InStep.of_tablesIn (h : d.InStep migrations) (tables : d.TablesIn e)
    (once : e.recorded.Nodup)
    (before : ∀ migration ∈ migrations, migration.1 ∈ e.recorded → migration.1 ∈ d.recorded) :
    e.InStep migrations where
  once := once
  settled migration mem there statement makes :=
    (h.settled migration mem (before migration mem there) statement makes).of_tablesIn tables

/-- A new table is no record. -/
theorem InStep.create (h : d.InStep migrations) (grown : d.Grown e)
    (same : e.recorded = d.recorded) : e.InStep migrations :=
  h.of_tablesIn grown.tables (same ▸ h.once) fun _ _ there => same ▸ there

/-- A record comes after its tables. -/
theorem InStep.record {name : String} (h : d.InStep migrations) (grown : d.Grown e)
    (recorded : e.recorded = d.recorded ++ [name]) (new : name ∉ d.recorded)
    (made : ∀ migration ∈ migrations, migration.1 = name →
      ∀ statement ∈ migration.2, d.Settled statement) : e.InStep migrations where
  once := by
    rw [recorded]
    exact List.nodup_append.2 ⟨h.once, List.nodup_singleton _, fun old mem other mem' same =>
      new (List.mem_singleton.1 mem' ▸ same ▸ mem)⟩
  settled := by
    intro migration mem there statement makes
    rw [recorded] at there
    rcases List.mem_append.1 there with old | now
    · exact (h.settled migration mem old statement makes).grown grown
    · exact (made migration mem (List.mem_singleton.1 now) statement makes).grown grown

end Database

namespace Store.Relational

open Dialogue
open Database (Migrations Grown InStep Settled)

/-! ### Connections -/

theorem execute_create {d e : Database} {statement : Statement}
    (creates : Database.Statement.opens statement = false) (h : d.execute statement = .ok e) :
    Connection.execute ⟨d, none⟩ statement = .ok ⟨e, none⟩ := by
  have current : Connection.current ⟨d, none⟩ = d := rfl
  rw [Connection.execute, current, h, creates]
  rfl

/-- Migrations with names of their own that do nothing but create tables. -/
structure Rerunnable (migrations : Migrations) : Prop where
  distinct : (migrations.map Prod.fst).Nodup
  creates : ∀ migration ∈ migrations, ∀ statement ∈ migration.2,
    Database.Statement.opens statement = false

theorem rerunnable_allMigrations : Rerunnable allMigrations where
  distinct := by decide
  creates := by simp [allMigrations, Database.Statement.opens]

/-! ### Opening from anywhere -/

variable {migrations later : Migrations} {names : List String} {made whole : List Statement}
  {d e : Database} {w : World Faulty} {statement : Statement} {name : String}

/-- A database as it stands while migrations run: it has grown by some of them. -/
structure Standing (migrations : Migrations) (d e : Database) : Prop where
  grown : d.Grown e
  inStep : e.InStep migrations
  known : ∀ name ∈ e.recorded, name ∈ d.recorded ∨ name ∈ migrations.map Prod.fst

/-- What is committed stands so at every moment. -/
def StandingIn (migrations : Migrations) (d : Database) (w : World Faulty) : Prop :=
  Standing migrations d w.medium.connection.committed

/-- A database as it stands, with these migrations recorded and some tables there. -/
structure Come (migrations : Migrations) (d : Database) (names : List String)
    (made : List Statement) (e : Database) : Prop extends Standing migrations d e where
  names : e.recorded = names
  made : ∀ statement ∈ made, e.Settled statement

/-- A connection with nothing pending, to a database of some sort. -/
def StandsAt (p : Database → Prop) (w : World Faulty) : Prop :=
  ∃ e, w.medium.connection = ⟨e, none⟩ ∧ p e

theorem StandsAt.standing (h : StandsAt (Come migrations d names made) w) :
    StandingIn migrations d w := by
  obtain ⟨e, clean, come⟩ := h
  rw [StandingIn, clean]
  exact come.toStanding

/-- Where a connection starts. -/
theorem StandsAt.start (inStep : d.InStep migrations) (start : w.medium.connection = ⟨d, none⟩) :
    StandsAt (Come migrations d d.recorded []) w :=
  ⟨d, start, ⟨.refl d, inStep, fun _ => .inl⟩, rfl, nofun⟩

/-- A table more is there. -/
theorem Come.create {e' : Database} (h : Come migrations d names made e) (grown : e.Grown e')
    (settled : e'.Settled statement) (same : e'.recorded = e.recorded) :
    Come migrations d names (statement :: made) e' where
  grown := h.grown.trans grown
  inStep := h.inStep.create grown same
  known := same ▸ h.known
  names := same.trans h.names
  made := List.forall_mem_cons.2 ⟨settled, fun other mem => (h.made other mem).grown grown⟩

/-- A migration more is recorded. -/
theorem Come.record {e' : Database} (rerunnable : Rerunnable migrations)
    (own : (name, whole) ∈ migrations) (h : Come migrations d names made e) (new : name ∉ names)
    (listed : .createMigrations ∈ made) (all : ∀ statement ∈ whole, statement ∈ made)
    (grown : e.Grown e') (recorded : e'.recorded = e.recorded ++ [name]) :
    Come migrations d (names ++ [name]) [.createMigrations] e' where
  grown := h.grown.trans grown
  inStep := by
    refine h.inStep.record grown recorded (h.names.symm ▸ new) fun migration mem same => ?_
    cases List.inj_on_of_nodup_map rerunnable.distinct mem own same
    exact fun statement makes => h.made statement (all statement makes)
  known := by
    rw [recorded]
    intro other mem
    rcases List.mem_append.1 mem with mem | mem
    · exact h.known other mem
    · rw [List.mem_singleton.1 mem]
      exact .inr (List.mem_map_of_mem own)
  names := by rw [recorded, h.names]
  made := List.forall_mem_singleton.2 ((h.made _ listed).grown grown)

/-- What comes of a statement or a commit that cannot fail on its own account: it is done, or it is
refused and nothing has changed. -/
theorem Met.standing {f : Connection → Except Failure Connection} {c : Connection}
    {after : World Faulty → Prop} {answer : Outcome Failure Unit} {m : Faulty}
    (met : Met f w.medium answer m) (does : f w.medium.connection = .ok c)
    (now : StandingIn migrations d w)
    (done : ∀ m' : Faulty, m'.connection = c →
      StandingIn migrations d { w with medium := m' } ∧ after { w with medium := m' }) :
    StandingIn migrations d { w with medium := m } ∧
      Ends (fun _ => after) (fun _ _ => True) answer { w with medium := m } := by
  cases met with
  | done does' => exact done m (Except.ok.inj (does'.symm.trans does))
  | failed fails => cases fails.symm.trans does
  | refused r same =>
    refine ⟨?_, trivial⟩
    show Standing migrations d m.connection.committed
    rw [same]
    exact now

/-- **A table is created, or the database refuses** and nothing has changed. -/
theorem always_create (creates : Database.Statement.opens statement = false)
    (h : StandsAt (Come migrations d names made) w) :
    Always (within Faulty.may) (StandingIn migrations d)
      (Ends (fun _ => StandsAt (Come migrations d names (statement :: made))) fun _ _ => True)
      (take (.execute statement)) w := by
  have now := h.standing
  obtain ⟨e, clean, come⟩ := h
  obtain ⟨e', executed, grown, settled, same⟩ := Database.exists_create e creates
  have created : w.medium.connection.execute statement = .ok ⟨e', none⟩ := by
    rw [clean]
    exact execute_create creates executed
  refine always_step now fun _ _ met => Met.standing met created now fun m' connection => ?_
  have stands : StandsAt (Come migrations d names (statement :: made)) { w with medium := m' } :=
    ⟨e', connection, come.create grown settled same⟩
  exact ⟨stands.standing, stands⟩

/-- **A migration is recorded, but not yet committed**, once its tables are there. -/
theorem always_record (rerunnable : Rerunnable migrations) (own : (name, whole) ∈ migrations)
    (new : name ∉ names) (listed : .createMigrations ∈ made)
    (all : ∀ statement ∈ whole, statement ∈ made)
    (h : StandsAt (Come migrations d names made) w) :
    Always (within Faulty.may) (StandingIn migrations d)
      (Ends (fun _ w' => Come migrations d (names ++ [name]) [.createMigrations]
        w'.medium.connection.current) fun _ _ => True)
      (take (.execute (.recordMigration name))) w := by
  have now := h.standing
  obtain ⟨e, clean, come⟩ := h
  obtain ⟨e', executed, grown, records⟩ :=
    Database.exists_record (come.made _ listed) (come.names.symm ▸ new)
  have recorded : w.medium.connection.execute (.recordMigration name) = .ok ⟨e, some e'⟩ := by
    rw [clean, execute_clean rfl, executed]
    rfl
  refine always_step now fun _ _ met => Met.standing met recorded now fun m' connection => ?_
  show Standing migrations d m'.connection.committed ∧ Come _ _ _ _ m'.connection.current
  rw [connection]
  exact ⟨come.toStanding, come.record rerunnable own new listed all grown records⟩

/-- What the connection sees is committed, or stays pending. -/
theorem always_commit_standing {p : Database → Prop} (stands : ∀ e, p e → Standing migrations d e)
    (now : StandingIn migrations d w) (h : p w.medium.connection.current) :
    Always (within Faulty.may) (StandingIn migrations d)
      (Ends (fun _ => StandsAt p) fun _ _ => True) (take .commit) w := by
  refine always_step now fun _ _ met => Met.standing met rfl now fun m' connection => ?_
  show Standing migrations d m'.connection.committed ∧ _
  rw [connection]
  exact ⟨stands _ h, _, connection, h⟩

/-- The statements of a migration are executed in order, and its record comes last. -/
theorem always_executeEach {statements : List Statement} (rerunnable : Rerunnable migrations)
    (own : (name, whole) ∈ migrations) (new : name ∉ names) (listed : .createMigrations ∈ made)
    (creates : ∀ statement ∈ statements, Database.Statement.opens statement = false)
    (all : ∀ statement ∈ whole, statement ∈ made ∨ statement ∈ statements)
    (h : StandsAt (Come migrations d names made) w) :
    Always (within Faulty.may) (StandingIn migrations d)
      (Ends (fun _ w' => Come migrations d (names ++ [name]) [.createMigrations]
        w'.medium.connection.current) fun _ _ => True)
      (executeEach (statements ++ [.recordMigration name])) w := by
  -- The induction is on the statements to come; those before them have made their tables.
  induction statements generalizing made w with
  | nil =>
    have recorded := always_record rerunnable own new listed
      (fun statement mem => (all statement mem).resolve_right List.not_mem_nil) h
    exact recorded.andThen_ends (fun _ _ now h => ⟨now, h⟩) fun _ _ h => h
  | cons statement rest ih =>
    have created := always_create (creates statement List.mem_cons_self) h
    refine created.andThen_ends (fun _ w' _ h' => ?_) fun _ _ h => h
    apply ih (List.mem_cons_of_mem _ listed)
      (fun other mem => creates other (List.mem_cons_of_mem _ mem)) ?_ h'
    intro other mem
    rcases all other mem with before | mem
    · exact .inl (List.mem_cons_of_mem _ before)
    · rcases List.mem_cons.1 mem with rfl | mem
      · exact .inl List.mem_cons_self
      · exact .inr mem

/-- A database as it stands, with at least these migrations recorded. -/
def Reaches (migrations : Migrations) (d : Database) (names : List String) (e : Database) : Prop :=
  Come migrations d e.recorded [.createMigrations] e ∧ names ⊆ e.recorded

theorem reaches_of_subset {fewer : List String} {outcome : Outcome Failure Unit}
    (less : fewer ⊆ names)
    (h : Ends (fun _ => StandsAt (Reaches migrations d names)) (fun _ _ => True) outcome w) :
    Ends (fun _ => StandsAt (Reaches migrations d fewer)) (fun _ _ => True) outcome w := by
  cases outcome with
  | failure => exact h
  | cancelled => exact h
  | value =>
    obtain ⟨e, clean, come, reached⟩ := h
    exact ⟨e, clean, come, fun name mem => reached (less mem)⟩

/-- **Migrations go on from where they are**, and come to their end unless they are broken off.
Those that were recorded when they were listed are passed over. -/
theorem always_migrateEach (rerunnable : Rerunnable migrations) {recorded : List String}
    (own : ∀ migration ∈ later, migration ∈ migrations) (distinct : (later.map Prod.fst).Nodup)
    (agree : ∀ migration ∈ later, migration.1 ∈ recorded ↔ migration.1 ∈ names)
    (h : StandsAt (Come migrations d names [.createMigrations]) w) :
    Always (within Faulty.may) (StandingIn migrations d)
      (Ends (fun _ => StandsAt (Reaches migrations d (names ++ later.map Prod.fst))) fun _ _ => True)
      (migrateEach recorded later) w := by
  -- The induction is on the migrations to come; what is recorded of them is as it was listed.
  induction later generalizing names w with
  | nil =>
    have now := h.standing
    obtain ⟨e, clean, come⟩ := h
    rw [List.map_nil, List.append_nil]
    refine ⟨now, e, clean, ?_, ?_⟩
    · rw [come.names]
      exact come
    · rw [come.names]
      exact List.Subset.refl _
  | cons migration rest ih =>
    obtain ⟨name, statements⟩ := migration
    obtain ⟨fresh, distinct⟩ := List.nodup_cons.1 distinct
    have mine : (name, statements) ∈ migrations := own _ List.mem_cons_self
    have ownRest : ∀ migration ∈ rest, migration ∈ migrations :=
      fun migration mem => own migration (List.mem_cons_of_mem _ mem)
    rw [migrateEach]
    by_cases there : name ∈ recorded
    · rw [if_pos (List.contains_iff_mem.2 there)]
      have passed := ih ownRest distinct
        (fun migration mem => agree migration (List.mem_cons_of_mem _ mem)) h
      have old : name ∈ names := (agree _ List.mem_cons_self).1 there
      have same : names ++ name :: rest.map Prod.fst ⊆ names ++ rest.map Prod.fst :=
        List.append_subset.2 ⟨List.subset_append_left _ _,
          List.cons_subset.2 ⟨List.mem_append_left _ old, List.subset_append_right _ _⟩⟩
      exact passed.mono fun _ _ _ => reaches_of_subset same
    · have absent : ¬ recorded.contains name := by rwa [List.contains_iff_mem]
      have new : name ∉ names := fun mem => there ((agree _ List.mem_cons_self).2 mem)
      have agree' : ∀ migration ∈ rest, migration.1 ∈ recorded ↔ migration.1 ∈ names ++ [name] := by
        intro migration mem
        have other : migration.1 ≠ name :=
          fun same => fresh (List.mem_map.2 ⟨migration, mem, same⟩)
        rw [agree migration (List.mem_cons_of_mem _ mem), List.mem_append, List.mem_singleton,
          or_iff_left other]
      rw [if_neg absent]
      have executed := always_executeEach rerunnable mine new List.mem_cons_self
        (rerunnable.creates _ mine) (fun _ mem => .inr mem) h
      refine executed.andThen_ends (fun _ w' now come => ?_) fun _ _ h => h
      have committed := always_commit_standing (fun e come => Come.toStanding come) now come
      refine committed.andThen_ends (fun _ w'' _ h'' => ?_) fun _ _ h => h
      have finished := ih ownRest distinct agree' h''
      rwa [List.append_assoc, List.singleton_append] at finished

/-- A step that only looks has one answer, and leaves everything as it is. -/
theorem always_look (s : Step) (seen : s.Answer)
    (looks : ∀ answer m, Faulty.may s w answer m → (answer, m) = (seen, w.medium))
    {during : World Faulty → Prop} (now : during w) :
    Always (within Faulty.may) during (fun answer w' => answer = seen ∧ w' = w) (take s) w := by
  refine always_step now fun answer m hm => ?_
  obtain ⟨rfl, rfl⟩ := Prod.mk.inj (looks answer m hm)
  exact ⟨now, rfl, rfl⟩

/-- Loading changes nothing, whether or not the rows can be read. -/
theorem always_load {during : World Faulty → Prop} (now : during w) :
    Always (within Faulty.may) during (fun _ w' => w' = w) load w := by
  have gaugeRows := always_look .gaugeRows
    (rowsOrFailure "gauge" w.medium.connection.current.gauges) (fun _ _ h => h) now
  have counterRows := always_look .counterRows
    (rowsOrFailure "counter" w.medium.connection.current.counters) (fun _ _ h => h) now
  refine gaugeRows.andThen ?_ (fun _ _ _ h => h.2) fun _ _ h => h.2
  rintro rows _ - ⟨-, rfl⟩
  cases tableOf doubleOf rows with
  | error => exact ⟨now, rfl⟩
  | ok gauges =>
    exact counterRows.andThen (fun _ _ now h => ⟨now, h.2⟩) (fun _ _ _ h => h.2) fun _ _ h => h.2

/-- **From wherever migrations have come, they come to their end**, unless the database refuses. -/
theorem always_migrate (inStep : d.InStep allMigrations) (start : w.medium.connection = ⟨d, none⟩) :
    Always (within Faulty.may) (StandingIn allMigrations d)
      (Ends (fun _ => StandsAt (Reaches allMigrations d (allMigrations.map Prod.fst)))
        fun _ _ => True) migrate w := by
  have stands := StandsAt.start inStep start
  have created := always_create (Eq.refl (Database.Statement.opens .createMigrations)) stands
  refine created.andThen_ends (fun _ w₁ now₁ h₁ => ?_) fun _ _ h => h
  have seen : Come allMigrations d d.recorded [.createMigrations] w₁.medium.connection.current := by
    obtain ⟨e, clean, come⟩ := h₁
    rw [clean]
    exact come
  have committed := always_commit_standing (fun e come => Come.toStanding come) now₁ seen
  refine committed.andThen_ends (fun _ w₂ now₂ h₂ => ?_) fun _ _ h => h
  have recorded : w₂.medium.connection.current.recorded = d.recorded := by
    obtain ⟨e, clean, come⟩ := h₂
    rw [clean]
    exact come.names
  have listed := always_look .migrations (.value d.recorded) (fun _ _ h => recorded ▸ h) now₂
  refine listed.andThen ?_ (fun _ _ _ h => nomatch h.1) fun _ _ h => nomatch h.1
  rintro _ w' - ⟨⟨⟩, rfl⟩
  have rerunnable := rerunnable_allMigrations
  have finished := always_migrateEach rerunnable (fun _ own => own) rerunnable.distinct
    (fun _ _ => Iff.rfl) h₂
  exact finished.mono fun _ _ _ => reaches_of_subset (List.subset_append_right _ _)

/-- **However an open goes**, it keeps what there is, and one that returns has come to the end of
the migrations. -/
theorem always_openAs (name : String) (inStep : d.InStep allMigrations)
    (start : w.medium.connection = ⟨d, none⟩) :
    Always (within Faulty.may) (StandingIn allMigrations d)
      (fun outcome w' => ∀ c, outcome = .value c →
        StandsAt (Reaches allMigrations d (allMigrations.map Prod.fst)) w')
      (openAs name) w := by
  have now := (StandsAt.start inStep start).standing
  have connected := always_look .connect (.value ()) (fun _ _ h => h) now
  have migrated : Always (within Faulty.may) (StandingIn allMigrations d)
      (Ends (fun _ => StandsAt (Reaches allMigrations d (allMigrations.map Prod.fst)))
        fun _ _ => True) ((take .connect).andThen fun _ => migrate) w := by
    refine connected.andThen ?_ (fun _ _ _ h => nomatch h.1) fun _ _ h => nomatch h.1
    rintro _ _ - ⟨-, rfl⟩
    exact always_migrate inStep start
  refine always_bind.2 (migrated.mono fun outcome w' now' h => ?_)
  cases outcome with
  | failure => exact ⟨now', nofun⟩
  | cancelled => exact h.elim
  | value =>
    refine always_bind.2 ((always_load now').mono ?_)
    rintro loaded _ now'' rfl
    exact ⟨now'', fun _ _ => h⟩

/-! ### Visits -/

/-- One open of a database: what is refused meanwhile, and after how many steps it is broken off, if
it is. -/
structure Visit where
  /-- What the database is called. -/
  name : String
  script : List (Option Refusal) := []
  steps : Option Nat := none

namespace Visit

def start (v : Visit) (d : Database) : World Faulty :=
  ⟨.empty, { connection := ⟨d, none⟩, script := v.script }⟩

/-- The database that a visit leaves.  What is pending is dropped with the connection. -/
def leaves (v : Visit) (d : Database) : Database :=
  let left :=
    match v.steps with
    | none => (run (alone Faulty.perform) (openAs v.name) (v.start d)).2
    | some n => runFor (alone Faulty.perform) n (openAs v.name) (v.start d)
  left.medium.connection.committed

/-- A visit is not broken off, and the database is opened. -/
def Completes (v : Visit) (d : Database) : Prop :=
  v.steps = none ∧ ∃ c, (run (alone Faulty.perform) (openAs v.name) (v.start d)).1 = .value c

end Visit

/-- What visits leave, one after the other. -/
def leftBy (visits : List Visit) (d : Database) : Database :=
  visits.foldl (fun d v => v.leaves d) d

/-- A database that may be there instead of another: it has the tables of that one and perhaps more,
and of the migrations only those recorded there.  What the rows are does not matter, nor what else
is recorded. -/
structure Resembles (d e : Database) : Prop where
  tables : d.TablesIn e
  once : e.recorded.Nodup
  migrations : ∀ migration ∈ allMigrations, migration.1 ∈ e.recorded → migration.1 ∈ d.recorded

/-- The databases that there may be: a new one, one that a visit has left, and any that may be there
instead. -/
inductive Reached : Database → Prop
  | new : Reached .empty
  | visited {d : Database} (v : Visit) (before : Reached d) : Reached (v.leaves d)
  | resembling {d e : Database} (before : Reached d) (like : Resembles d e) : Reached e

/-- Both tables are there, and each migration is recorded once. -/
structure UpToDate (d : Database) : Prop where
  gauges : d.gauges.isSome
  counters : d.counters.isSome
  listed : d.migrations.isSome
  once : ∀ migration ∈ allMigrations, d.recorded.count migration.1 = 1

/-- A database that has come to the end of the migrations is up to date. -/
theorem upToDate_of_reaches (h : Reaches allMigrations d (allMigrations.map Prod.fst) e) :
    UpToDate e := by
  obtain ⟨come, all⟩ := h
  have recorded (migration : String × List Statement) (mem : migration ∈ allMigrations) :
      migration.1 ∈ e.recorded := all (List.mem_map_of_mem mem)
  have settled (statement : Statement) (mem : statement ∈ [.createGauges, .createCounters]) :
      e.Settled statement :=
    come.inStep.settled ("001_metrics_tables", [.createGauges, .createCounters])
      List.mem_cons_self (recorded _ List.mem_cons_self) statement mem
  exact ⟨Database.settled_createGauges.1 (settled _ (by simp)),
    Database.settled_createCounters.1 (settled _ (by simp)),
    Database.settled_createMigrations.1 (come.made _ List.mem_cons_self),
    fun migration mem => List.count_eq_one_of_mem come.inStep.once (recorded migration mem)⟩

/-- A database that is up to date has nothing to grow by. -/
theorem UpToDate.eq_of_standing (h : UpToDate d) (standing : Standing allMigrations d e) :
    e = d := by
  obtain ⟨names, listed⟩ := Option.isSome_iff_exists.1 h.listed
  obtain ⟨_, listed', more, rfl⟩ := standing.grown.migrations names listed
  have before : d.recorded = names := by rw [Database.recorded, listed, Option.getD_some]
  have after : e.recorded = names ++ more := by rw [Database.recorded, listed', Option.getD_some]
  -- What is recorded besides is a migration, and each of these was recorded before.
  have none : more = [] := by
    refine List.eq_nil_iff_forall_not_mem.2 fun name mem => ?_
    have once := standing.inStep.once
    rw [after, List.nodup_append] at once
    have there : name ∈ names := by
      have known := standing.known name (after ▸ List.mem_append_right _ mem)
      rw [before] at known
      refine known.elim id fun own => ?_
      obtain ⟨migration, listed, rfl⟩ := List.mem_map.1 own
      rw [← before]
      exact List.count_pos_iff.1 (h.once migration listed ▸ Nat.one_pos)
    exact once.2.2 name there name mem rfl
  obtain ⟨dGauges, dCounters, dMigrations⟩ := d
  obtain ⟨eGauges, eCounters, eMigrations⟩ := e
  have sameGauges : eGauges = dGauges := standing.grown.gauges.eq_of_isSome h.gauges
  have sameCounters : eCounters = dCounters := standing.grown.counters.eq_of_isSome h.counters
  have sameMigrations : eMigrations = dMigrations := by
    rw [none, List.append_nil] at listed'
    exact listed'.trans listed.symm
  rw [sameGauges, sameCounters, sameMigrations]

/-! ### Any number of visits -/

theorem Standing.trans {f : Database} (h : Standing migrations d e) (h' : Standing migrations e f) :
    Standing migrations d f where
  grown := h.grown.trans h'.grown
  inStep := h'.inStep
  known name mem := (h'.known name mem).elim (h.known name) .inr

/-- What a faulty connection does may come of it. -/
theorem within_perform (q : Question Step) (w : World Faulty) :
    within Faulty.may q w (alone Faulty.perform q w).1 (alone Faulty.perform q w).2 :=
  within_alone (Faulty.may_perform w) q

namespace Visit

/-- **A visit keeps what there is**, wherever it is broken off. -/
theorem standing_leaves (v : Visit) (h : d.InStep allMigrations) :
    Standing allMigrations d (v.leaves d) := by
  have always := always_openAs v.name h (Eq.refl (v.start d).medium.connection)
  unfold leaves
  cases v.steps with
  | none => exact (always.mono fun _ _ now _ => now).run within_perform
  | some n => exact always.runFor within_perform n

/-- A visit that completes leaves a database that is up to date. -/
theorem upToDate_of_completes {v : Visit} (h : d.InStep allMigrations)
    (completes : v.Completes d) : UpToDate (v.leaves d) := by
  obtain ⟨unbroken, c, opened⟩ := completes
  have always := always_openAs v.name h (Eq.refl (v.start d).medium.connection)
  obtain ⟨e, clean, reaches⟩ := always.run within_perform c opened
  have left : v.leaves d = e := by
    unfold leaves
    rw [unbroken]
    exact congrArg Connection.committed clean
  rw [left]
  exact upToDate_of_reaches reaches

/-- A visit that is left alone brings any database up to date. -/
theorem upToDate_of_undisturbed (name : String) (h : d.InStep allMigrations) :
    UpToDate (leaves ⟨name, [], none⟩ d) := by
  let w : World Faulty := ⟨.empty, { connection := ⟨d, none⟩ }⟩
  obtain ⟨tried, migrated⟩ := run_migrate .empty d
  let prepared : World Faulty := ⟨.empty, { connection := ⟨d.prepared, none⟩, tried }⟩
  have ended := (always_migrate h (Eq.refl w.medium.connection)).run within_perform
  rw [migrated] at ended
  obtain ⟨e, clean, reaches⟩ := ended
  cases clean
  have connected : run (alone Faulty.perform) ((take .connect).andThen fun _ => migrate) w
      = (.value (), prepared) :=
    (run_andThen_value rfl).trans migrated
  have loaded : (run (alone Faulty.perform) load prepared).2 = prepared :=
    (always_load (Eq.refl prepared)).run within_perform
  have left : leaves ⟨name, [], none⟩ d = d.prepared := by
    show (run (alone Faulty.perform) (openAs name) w).2.medium.connection.committed = _
    rw [openAs, run_bind, connected]
    show (run _ (load >>= _) prepared).2.medium.connection.committed = _
    rw [run_bind, loaded]
    rfl
  rw [left]
  exact upToDate_of_reaches reaches

/-- A visit to a database whose rows can be read completes if it is left alone. -/
theorem completes_of_wellKept (name : String) (wellKept : d.WellKept) :
    Completes ⟨name, [], none⟩ d := by
  obtain ⟨c, opens, -⟩ := opened_eq name wellKept
  exact ⟨rfl, c, congrArg Prod.fst opens⟩

end Visit

/-- **Visits keep what there is**, one after the other. -/
theorem standing_leftBy (visits : List Visit) (h : d.InStep allMigrations) :
    Standing allMigrations d (leftBy visits d) := by
  induction visits generalizing d with
  | nil => exact ⟨.refl d, h, fun _ => .inl⟩
  | cons v rest ih =>
    have first := v.standing_leaves h
    exact first.trans (ih first.inStep)

theorem Reached.inStep (reached : Reached d) : d.InStep allMigrations := by
  induction reached with
  | new => exact Database.inStep_empty
  | visited v _ ih => exact (v.standing_leaves ih).inStep
  | resembling _ like ih => exact ih.of_tablesIn like.tables like.once like.migrations

/-- **Migrations that are broken off go on with the next open.**  Whatever visits there are to a
database that may be there, no row is lost or changed.  After the first visit that completes the
database is up to date, and no later visit changes it.  A visit that is left alone always gets the
database so far. -/
theorem migrations_resume (reached : Reached d) (visits : List Visit) :
    d.Grown (leftBy visits d) ∧
    (∀ before v later, visits = before ++ v :: later → v.Completes (leftBy before d) →
      UpToDate (leftBy (before ++ [v]) d) ∧ leftBy visits d = leftBy (before ++ [v]) d) ∧
    ∀ name, UpToDate (Visit.leaves ⟨name, [], none⟩ (leftBy visits d)) := by
  have standing := standing_leftBy visits reached.inStep
  refine ⟨standing.grown, ?_, fun name => Visit.upToDate_of_undisturbed name standing.inStep⟩
  rintro before v later rfl completes
  have inStep := (standing_leftBy before reached.inStep).inStep
  have upToDate := Visit.upToDate_of_completes inStep completes
  have last : leftBy (before ++ [v]) d = v.leaves (leftBy before d) := by
    rw [leftBy, List.foldl_append]
    rfl
  have rest : leftBy (before ++ v :: later) d = leftBy later (v.leaves (leftBy before d)) := by
    rw [leftBy, List.foldl_append]
    rfl
  rw [last, rest]
  have unchanged := standing_leftBy later (v.standing_leaves inStep).inStep
  exact ⟨upToDate, upToDate.eq_of_standing unchanged⟩

/-- The tables are created, and the first visit is broken off before that is recorded.  Then a gauge
is written, and something else is recorded; the database refuses the second visit its record, and
the third one completes. -/
theorem migrations_resume_of_unrecordedTables :
    let first : Visit := ⟨"metrics.db", [], some 6⟩
    let second : Visit := ⟨"metrics.db", [none, none, none, none, some ⟨some 5, "locked"⟩], none⟩
    let third : Visit := ⟨"metrics.db", [], none⟩
    let rows : Rows := ⟨[("load", .real .zero)], by decide⟩
    let d : Database := ⟨some rows, some .empty, some ["000_before"]⟩
    first.leaves .empty = ⟨some .empty, some .empty, some []⟩ ∧ Reached d ∧
      third.Completes (leftBy [second] d) ∧ UpToDate (leftBy [second, third] d) ∧
      leftBy [second, third, first] d = leftBy [second, third] d ∧
      (leftBy [second, third, first] d).gauges = some rows := by
  intro first second third rows d
  have left : first.leaves .empty = ⟨some .empty, some .empty, some []⟩ := rfl
  have visited : Reached ⟨some .empty, some .empty, some []⟩ := left ▸ .visited first .new
  have like : Resembles ⟨some .empty, some .empty, some []⟩ d :=
    ⟨⟨fun _ => rfl, fun _ => rfl, fun _ => rfl⟩, List.nodup_singleton _, by decide⟩
  have reached : Reached d := .resembling visited like
  have wellKept : d.WellKept := by
    refine ⟨?_, ?_, by simp [d]⟩
    · rintro _ name cell ⟨⟩ there
      have mem : (name, cell) ∈ [("load", Cell.real .zero)] := Table.mem_entries_iff.2 there
      cases List.mem_singleton.1 mem
      exact ⟨_, rfl⟩
    · rintro _ name cell ⟨⟩ there
      rw [Table.get?_empty] at there
      cases there
  have unchanged : leftBy [second] d = d := rfl
  have completes : third.Completes (leftBy [second] d) := by
    rw [unchanged]
    exact Visit.completes_of_wellKept "metrics.db" wellKept
  obtain ⟨grown, completed, -⟩ := migrations_resume reached [second, third, first]
  obtain ⟨upToDate, later⟩ := completed [second] third [first] rfl completes
  exact ⟨left, reached, completes, upToDate, later, grown.gauges.eq_of_isSome rfl⟩

end Store.Relational
end Telemetry
