import Telemetry.Proofs.Store.Relational.Opening

/-!
# The database mirrors the contents

Between calls, a relational store has nothing pending, and what is committed mirrors its contents
(`AtRest`).  Every call keeps this, whatever the database refuses (`always_serve`): a change
reaches the contents only when it has been committed, and saving puts the rows that are there
already.  So a database that is closed and opened again gives the same snapshot.
-/

namespace Telemetry

/-! ### Rows that are put anew -/

/-- A statement puts the row of an entry of the contents. -/
inductive Contents.Puts (c : Contents) : Statement → Prop
  | gauge {name : String} {value : Double} (h : c.gauges.get? name = some value) :
      c.Puts (.putGauge name value)
  | counter {name : String} {amount : Int} (h : c.counters.get? name = some amount) :
      c.Puts (.putCounter name amount)

theorem Contents.Puts.opens {c : Contents} {statement : Statement} (h : c.Puts statement) :
    Database.Statement.opens statement = true := by
  cases h with
  | gauge => rfl
  | counter => rfl

/-- Putting a row anew keeps the mirror, or is refused by the database. -/
theorem Database.Mirrors.puts {d : Database} {c : Contents} {statement : Statement}
    (h : d.Mirrors c) (bounded : c.Bounded) (puts : c.Puts statement) :
    (∃ d', d.execute statement = .ok d' ∧ d'.Mirrors c)
      ∨ ∃ e, d.execute statement = .error e ∧ e.isDatabase = true := by
  cases puts with
  | @gauge name value hname =>
    obtain ⟨rows, hrows, -⟩ := h.gauges
    have executed := execute_putGauge hrows name value
    by_cases hnan : value = .nan
    · rw [if_pos hnan] at executed
      exact .inr ⟨_, executed, rfl⟩
    · rw [if_neg hnan] at executed
      exact .inl ⟨_, executed, (h.putGauge executed).congr (Contents.agree_setGauge_self hname)⟩
  | @counter name amount hname =>
    obtain ⟨rows, hrows, -⟩ := h.counters
    have executed := execute_putCounter hrows name amount
    rw [if_pos (Cell.fits_of_inRange (bounded name amount hname))] at executed
    exact .inl ⟨_, executed, (h.putCounter executed).congr (Contents.agree_setCounter_self hname)⟩

namespace Store.Relational

open Dialogue

theorem puts_of_mem_rowsOf {c : Contents} {statement : Statement} (h : statement ∈ rowsOf c) :
    c.Puts statement := by
  rcases List.mem_append.1 h with hg | hc
  · obtain ⟨e, he, rfl⟩ := List.mem_map.1 hg
    exact .gauge (Table.mem_entries_iff.1 he)
  · obtain ⟨e, he, rfl⟩ := List.mem_map.1 hc
    exact .counter (Table.mem_entries_iff.1 he)

/-! ### Giving up -/

variable {α : Type} {w : World Faulty} {c : Contents}

/-- What is kept by attempts that the database refuses is kept by all of them. -/
theorem always_tryHard {ready done : World Faulty → Prop}
    {operation : Doing Step.Answer (Outcome Failure α)}
    (once : ∀ w, ready w → Always (within Faulty.may) (fun _ => True)
      (Ends (fun _ => done) fun e w' => e.isDatabase = true ∧ ready w') operation w)
    (h : ready w) :
    Always (within Faulty.may) (fun _ => True)
      (Ends (fun _ => done) fun cause w' => expected cause = true ∧ ready w')
      (tryHard operation) w :=
  Retry.always_run calm_surroundings once (fun _ _ h => h.2) (fun _ _ h => h) (fun _ h => h)
    (fun _ _ _ h => h) (fun _ _ _ _ h => ⟨rfl, h.2⟩) h

/-! ### Saving -/

/-- Between the statements of a save, what is committed and what is pending both mirror the
contents. -/
structure Saving (c : Contents) (w : World Faulty) : Prop where
  contents : w.contents = c
  committed : w.medium.connection.committed.Mirrors c
  current : w.medium.connection.current.Mirrors c

/-- Nothing is pending, and what is committed mirrors the contents. -/
structure AtRest (w : World Faulty) : Prop where
  clean : w.medium.connection.pending = none
  mirrors : w.medium.connection.committed.Mirrors w.contents
  bounded : w.contents.Bounded

theorem AtRest.connection_eq (h : AtRest w) :
    w.medium.connection = ⟨w.medium.connection.committed, none⟩ :=
  congrArg (Connection.mk w.medium.connection.committed) h.clean

theorem AtRest.saving (h : AtRest w) : Saving w.contents w := by
  refine ⟨rfl, h.mirrors, ?_⟩
  rw [h.connection_eq]
  exact h.mirrors

/-- One row of a save. -/
theorem always_put {statement : Statement} (bounded : c.Bounded) (puts : c.Puts statement)
    (h : Saving c w) :
    Always (within Faulty.may) (fun _ => True)
      (Ends (fun _ => Saving c) fun e w' => e.isDatabase = true ∧ Saving c w')
      (take (.execute statement)) w := by
  have executed : (∃ d', w.medium.connection.execute statement
          = .ok ⟨w.medium.connection.committed, some d'⟩ ∧ d'.Mirrors c)
      ∨ ∃ e, w.medium.connection.execute statement = .error e ∧ e.isDatabase = true := by
    rw [execute_opens _ puts.opens]
    rcases h.current.puts bounded puts with ⟨d', hd, mirrors⟩ | ⟨e, hd, he⟩
    · rw [hd]
      exact .inl ⟨d', rfl, mirrors⟩
    · rw [hd]
      exact .inr ⟨e, rfl, he⟩
  refine always_take (.execute statement) ?_
  intro answer m hm
  -- A statement that fails leaves the connection, and with it both mirrors.
  have same (heq : m.connection = w.medium.connection) : Saving c { w with medium := m } := by
    refine ⟨h.contents, ?_, ?_⟩
    · rw [heq]; exact h.committed
    · rw [heq]; exact h.current
  cases hm with
  | done hdone =>
    rcases executed with ⟨d', hd, mirrors⟩ | ⟨e, hd, -⟩
    · have hm : m.connection = ⟨w.medium.connection.committed, some d'⟩ :=
        (Except.ok.inj (hd.symm.trans hdone)).symm
      refine ⟨h.contents, ?_, ?_⟩
      · rw [hm]; exact h.committed
      · rw [hm]; exact mirrors
    · cases hd.symm.trans hdone
  | failed hfailed heq =>
    rcases executed with ⟨d', hd, -⟩ | ⟨e, hd, he⟩
    · cases hd.symm.trans hfailed
    · cases hd.symm.trans hfailed
      exact ⟨he, same heq⟩
  | refused r heq => exact ⟨rfl, same heq⟩

/-- **Going through the rows keeps both mirrors**, past all that fail. -/
theorem always_executeAll (bounded : c.Bounded) {statements : List Statement}
    (puts : ∀ statement ∈ statements, c.Puts statement) (h : Saving c w) :
    Always (within Faulty.may) (fun _ => True) (Ends (fun _ => Saving c) fun _ _ => False)
      (executeAll statements) w := by
  -- `Saving` carries the induction: it holds before each statement, done or given up.
  induction statements generalizing w with
  | nil => exact ⟨trivial, h⟩
  | cons statement later ih =>
    have rest := fun statement hmem => puts statement (List.mem_cons_of_mem _ hmem)
    have tried := always_tryHard (fun w' => always_put bounded (puts _ List.mem_cons_self)) h
    refine always_bind.2 (tried.mono ?_)
    rintro outcome w' - houtcome
    cases outcome with
    | value => exact ih rest houtcome
    | cancelled => exact houtcome.elim
    | failure cause =>
      dsimp only
      rw [if_pos houtcome.1]
      exact (ih rest houtcome.2).andThen_ends (fun _ _ _ h'' => ⟨trivial, h''⟩) fun _ _ => id

/-- A commit in a save makes the mirror lasting, or is refused. -/
theorem always_commit (bounded : c.Bounded) (h : Saving c w) :
    Always (within Faulty.may) (fun _ => True)
      (Ends (fun _ w' => AtRest w' ∧ w'.contents = c)
        fun e w' => e.isDatabase = true ∧ Saving c w')
      (take .commit) w := by
  refine always_take .commit ?_
  intro answer m hm
  cases hm with
  | done hdone =>
    have hm : m.connection = w.medium.connection.commit := (Except.ok.inj hdone).symm
    refine ⟨⟨?_, ?_, h.contents ▸ bounded⟩, h.contents⟩
    · rw [hm]
      rfl
    · rw [hm, Connection.committed_commit]
      exact h.contents ▸ h.current
  | failed hfailed => cases hfailed
  | refused r heq =>
    refine ⟨rfl, h.contents, ?_, ?_⟩
    · rw [heq]; exact h.committed
    · rw [heq]; exact h.current

/-- **Nothing is left pending after a save**, committed or not. -/
theorem always_commitAll (bounded : c.Bounded) (h : Saving c w) :
    Always (within Faulty.may) (fun _ => True)
      (Ends (fun _ w' => AtRest w' ∧ w'.contents = c)
        fun e w' => (∃ fault, e = .storage fault) ∧ AtRest w' ∧ w'.contents = c)
      commitAll w := by
  have tried := always_tryHard (fun w' => always_commit bounded) h
  refine always_bind.2 (tried.mono ?_)
  rintro outcome w' - houtcome
  cases outcome with
  | value => exact ⟨trivial, houtcome⟩
  | cancelled => exact houtcome.elim
  | failure cause =>
    obtain ⟨hexpected, saving⟩ := houtcome
    dsimp only
    rw [if_pos hexpected]
    -- The rollback falls back on what is committed, which mirrors the contents as well.
    refine always_rollbackAnd.mono ?_
    rintro _ w'' - ⟨rfl, hcontents, hrolled⟩
    have rest : AtRest w'' := by
      refine ⟨?_, ?_, ?_⟩
      · rw [hrolled]
        rfl
      · rw [hrolled, hcontents, saving.contents]
        exact saving.committed
      · rw [hcontents, saving.contents]
        exact bounded
    refine ⟨?_, rest, hcontents.trans saving.contents⟩
    cases cause with
    | fatal e =>
      have hdatabase : e.isDatabase = true := hexpected
      refine ⟨.notCommitted (.fatal e), ?_⟩
      rw [errorOf, if_pos hdatabase]
    | exhausted n e => exact ⟨.notCommitted (.exhausted n e), rfl⟩

/-- **A save leaves the contents alone** and fails only with a storage fault. -/
theorem always_save (h : AtRest w) :
    Always (within Faulty.may) (fun _ => True)
      (Ends (fun _ w' => AtRest w' ∧ w'.contents = w.contents)
        fun e w' => (∃ fault, e = .storage fault) ∧ AtRest w' ∧ w'.contents = w.contents)
      save w := by
  refine always_locked (always_contents ?_)
  dsimp only
  split
  · exact ⟨trivial, h, rfl⟩
  · have rows := always_executeAll h.bounded (fun _ => puts_of_mem_rowsOf) h.saving
    refine rows.andThen_ends (fun causes w' _ saving => ?_) fun _ _ => False.elim
    refine (always_commitAll h.bounded saving).andThen_ends (fun _ w'' _ rest => ?_) fun _ _ => id
    cases causes with
    | nil => exact ⟨trivial, rest⟩
    | cons first => exact ⟨trivial, ⟨_, rfl⟩, rest⟩

/-! ### Every call -/

/-- A change rests where it is done, if the database follows the contents. -/
theorem Changed.atRest {statement : Statement} {effect : Contents → Except Error Contents}
    {outcome : Outcome Error Unit} {w' : World Faulty} (rest : AtRest w)
    (follows : ∀ after d', effect w.contents = .ok after →
      w.medium.connection.committed.execute statement = .ok d' → d'.Mirrors after ∧ after.Bounded)
    (h : Changed statement effect w w.medium.connection.committed outcome w') : AtRest w' := by
  cases h with
  | @done after d' _ heffect hd hcontents hconnection =>
    obtain ⟨mirrors, bounded⟩ := follows _ _ heffect hd
    subst hcontents
    exact ⟨by rw [hconnection], by rw [hconnection]; exact mirrors, bounded⟩
  | refused => exact rest
  | failed _ _ hcontents hconnection =>
    refine ⟨by rw [hconnection], ?_, ?_⟩
    · rw [hconnection, hcontents]; exact rest.mirrors
    · rw [hcontents]; exact rest.bounded

/-- A change is answered as its effect is, if its number can be handed over. -/
theorem Changed.answered {statement : Statement} {effect : Contents → Except Error Contents}
    {d : Database} {outcome : Outcome Error Unit} {w' : World Faulty}
    (fits : ∀ after, effect w.contents = .ok after → Database.Statement.Fits statement)
    (h : Changed statement effect w d outcome w') :
    Answered effect (fun _ => ()) w outcome w' := by
  cases h with
  | done heffect _ hcontents =>
    subst hcontents
    exact ⟨.done heffect, fun e he => nomatch heffect.symm.trans he⟩
  | refused heffect => exact ⟨.refused heffect, fun _ _ => rfl⟩
  | failed heffect he hcontents =>
    refine ⟨?_, fun e he => nomatch heffect.symm.trans he⟩
    rw [hcontents]
    rcases he with ⟨fault, rfl⟩ | ⟨failure, hd, hfailure⟩
    · exact .failed heffect fault
    · rw [Database.isDatabase_of_execute (fits _ heffect) hd] at hfailure
      cases hfailure

/-- **Every call comes to rest**, whatever the database refuses, and is answered as its effect
is. -/
theorem always_serve (call : Call) (h : AtRest w) :
    Always (within Faulty.may) (fun _ => True)
      (fun outcome w' => AtRest w' ∧
        (call.Bindable → Answered call.effect call.found w outcome w'))
      (serve call) w := by
  -- The three calls that change a metric differ in their statement and their effect only.
  have changed {kind : Kind} {name : String} (statement : Statement)
      {effect : Contents → Except Error Contents}
      (opens : Database.Statement.opens statement = true)
      (follows : ∀ after d', effect w.contents = .ok after →
        w.medium.connection.committed.execute statement = .ok d' →
          d'.Mirrors after ∧ after.Bounded)
      (fits : call.Bindable → ∀ after, effect w.contents = .ok after →
        Database.Statement.Fits statement) :
      Always (within Faulty.may) (fun _ => True)
        (fun outcome w' => AtRest w' ∧
          (call.Bindable → Answered effect (fun _ => ()) w outcome w'))
        (change kind name statement effect) w :=
    (always_change opens h.connection_eq).mono fun _ _ _ h' =>
      ⟨h'.atRest h follows, fun bindable => h'.answered (fits bindable)⟩
  cases call with
  | updateGauge name value =>
    refine changed (.putGauge name value) rfl (fun after d' heffect hd => ?_) fun _ _ _ => trivial
    cases heffect
    exact ⟨h.mirrors.putGauge hd, h.bounded⟩
  | updateCounter name delta =>
    refine changed (.addCounter name delta) rfl (fun after d' heffect hd => ?_)
      fun bindable _ _ => Cell.fits_of_inRange bindable
    obtain ⟨range, rfl⟩ := setCounter_checked heffect
    exact ⟨h.mirrors.addCounter range hd, h.bounded.setCounter range⟩
  | setCounter name value =>
    refine changed (.putCounter name value) rfl (fun after d' heffect hd => ?_)
      fun _ _ heffect => Cell.fits_of_inRange (setCounter_checked heffect).1
    obtain ⟨range, rfl⟩ := setCounter_checked heffect
    exact ⟨h.mirrors.putCounter hd, h.bounded.setCounter range⟩
  | getGauge name => exact always_lookUp trivial ⟨h, fun _ => answered_lookUp rfl⟩
  | getCounter name => exact always_lookUp trivial ⟨h, fun _ => answered_lookUp rfl⟩
  | getAll => exact always_lookUp trivial ⟨h, fun _ => answered_lookUp rfl⟩
  | save =>
    refine (always_save h).mono ?_
    rintro outcome w' - houtcome
    cases outcome with
    | value =>
      obtain ⟨rest, hcontents⟩ := houtcome
      refine ⟨rest, fun _ => ⟨?_, fun e he => nomatch he⟩⟩
      rw [hcontents]
      exact .done rfl
    | failure =>
      obtain ⟨⟨fault, rfl⟩, rest, hcontents⟩ := houtcome
      refine ⟨rest, fun _ => ⟨?_, fun e he => nomatch he⟩⟩
      rw [hcontents]
      exact .failed rfl fault
    | cancelled => exact houtcome.elim
  | ping =>
    refine always_bind.2 (always_take .probe ?_)
    rintro _ _ ⟨⟩
    exact ⟨trivial, h, fun _ => answered_lookUp rfl⟩

/-- **What is committed mirrors the contents after any calls**, whatever the database refuses, and
opening it anew gives the same snapshot, the sign of zero aside. -/
theorem committed_mirrors_contents (name : String) {d : Database} (wellKept : d.WellKept) :
    ∃ c connection, opened name d = (.value c, connection) ∧
      ∀ (script : List (Option Refusal)) (calls : List Call),
        let w := (run (alone Faulty.perform) (serveEach serve calls)
          ⟨c, { connection, script }⟩).2
        w.medium.connection.committed.Mirrors w.contents ∧
          ∃ c' connection', opened name w.medium.connection.committed = (.value c', connection') ∧
            c'.snapshot.map Reading.plain = w.contents.snapshot.map Reading.plain := by
  obtain ⟨c, hopened, mirrors, bounded⟩ := opened_eq name wellKept
  refine ⟨c, _, hopened, fun script calls => ?_⟩
  have rest : AtRest ⟨c, { connection := ⟨d.prepared, none⟩, script }⟩ := ⟨rfl, mirrors, bounded⟩
  have always : Always (within Faulty.may) (fun _ => True) (fun _ w' => AtRest w')
      (serveEach serve calls) ⟨c, { connection := ⟨d.prepared, none⟩, script }⟩ :=
    always_serveEach (fun _ _ => trivial)
      (fun call _ w h => (always_serve call h).mono fun _ _ _ h' => h'.1) rest
  -- A script is one way for the medium to answer, so what always holds holds of its run.
  have rest' := always.run fun q w => within_alone (Faulty.may_perform w) q
  intro w
  obtain ⟨c', hopened', mirrors', -⟩ :=
    opened_eq name (rest'.mirrors.wellKept rest'.bounded)
  exact ⟨rest'.mirrors, c', _, hopened', mirrors'.snapshot_eq rest'.mirrors.prepared⟩

/-- The case of a database with a row in each table, where the first commit finds it busy. -/
theorem committed_mirrors_contents_of_busy :
    let d : Database := ⟨some ⟨[("load", .real .zero)], by decide⟩,
      some ⟨[("hits", .whole 3)], by decide⟩, some ["001_metrics_tables"]⟩
    d.WellKept ∧ ∃ c connection, opened "metrics.db" d = (.value c, connection) ∧
      let w := (run (alone Faulty.perform) (serveEach serve [.updateCounter "hits" 4])
        ⟨c, { connection, script := [none, some ⟨some 5, "database is locked"⟩] }⟩).2
      w.medium.connection.committed.Mirrors w.contents ∧
        ∃ c' connection', opened "metrics.db" w.medium.connection.committed
            = (.value c', connection') ∧
          c'.snapshot.map Reading.plain = w.contents.snapshot.map Reading.plain := by
  intro d
  have wellKept : d.WellKept := by
    refine ⟨fun rows name cell hrows hcell => ?_, fun rows name cell hrows hcell => ?_,
      fun _ => ⟨⟨_, rfl⟩, ⟨_, rfl⟩⟩⟩
    · cases hrows
      cases List.mem_singleton.1 (Table.mem_entries_iff.2 hcell)
      exact ⟨_, rfl⟩
    · cases hrows
      cases List.mem_singleton.1 (Table.mem_entries_iff.2 hcell)
      exact ⟨_, rfl, by decide⟩
  obtain ⟨c, connection, hopened, h⟩ := committed_mirrors_contents "metrics.db" wellKept
  exact ⟨wellKept, c, connection, hopened, h _ _⟩

end Store.Relational
end Telemetry
