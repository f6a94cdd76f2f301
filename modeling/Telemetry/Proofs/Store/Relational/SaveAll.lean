import Mathlib.Algebra.Group.Int.Defs
import Telemetry.Proofs.Store.Relational.Deeds
import Telemetry.Proofs.Store.Relational.Rows

/-!
# What a save of all rows comes to

A save makes one effort for each row, past those that are given up, then one for the commit, and
rolls back if that is given up.  `Saved` says what is to come of it, for any contents, any tables and
any script of refusals.  It holds exactly where each statement that fails is refused by the database
(`accounts_iff`); a sum that cannot be handed over to the database breaks the save off
(`not_accounts_of_large_sum`).
-/

namespace Telemetry.Store.Relational

open Dialogue
open Database (Renewed)
open Retry (GivenUp InTurn)

/-! ### The rows -/

/-- Whether a save is broken off: what is given up as stores expect it does not do so. -/
def Writing.breaks (e : Writing Statement) : Bool := e.cause?.any fun cause => !expected cause

/-- Why rows were given up. -/
def causes (rows : List (Writing Statement)) : List (GivenUp Failure) :=
  rows.filterMap Writing.cause?

/-- What comes of the efforts for rows: how the save is broken off, or why rows were given up. -/
def ending (rows : List (Writing Statement)) : Outcome Error (List (GivenUp Failure)) :=
  match (causes rows).find? fun cause => !expected cause with
  | some cause => .failure (errorOf .notCommitted cause)
  | none => .value (causes rows)

/-- The statements of the rows that were put. -/
def puts (rows : List (Writing Statement)) : List Statement :=
  (rows.filter (·.succeeded)).map (·.subject)

section

variable {e : Writing Statement} {cause : GivenUp Failure}

theorem errorOf_of_expected {fault : GivenUp Failure → Fault} (expects : expected cause = true) :
    errorOf fault cause = .storage (fault cause) := by
  cases cause with
  | fatal f => exact if_pos expects
  | exhausted n f => rfl

theorem errorOf_of_unexpected {fault : GivenUp Failure → Fault}
    (unexpected : expected cause = false) : ∃ f, errorOf fault cause = .unexpected f := by
  cases cause with
  | fatal f => exact ⟨f, if_neg (ne_true_of_eq_false unexpected)⟩
  | exhausted n f => cases unexpected

theorem causes_cons_put (put : e.result = .value ()) (rows : List (Writing Statement)) :
    causes (e :: rows) = causes rows :=
  List.filterMap_cons_none (by rw [Writing.cause?, put])

theorem ending_cons_put (put : e.result = .value ()) (rows : List (Writing Statement)) :
    ending (e :: rows) = ending rows := by
  rw [ending, ending, causes_cons_put put]

theorem causes_cons (givenUp : e.result = .failure cause) (rows : List (Writing Statement)) :
    causes (e :: rows) = cause :: causes rows :=
  List.filterMap_cons_some (by rw [Writing.cause?, givenUp])

theorem ending_cons_passed (givenUp : e.result = .failure cause) (expects : expected cause = true)
    (rows : List (Writing Statement)) :
    ending (e :: rows) = (ending rows).map (cause :: ·) := by
  rw [ending, ending, causes_cons givenUp, List.find?_cons_of_neg (by simp [expects])]
  split <;> rfl

theorem ending_cons_broken (givenUp : e.result = .failure cause)
    (unexpected : expected cause = false) (rows : List (Writing Statement)) :
    ending (e :: rows) = .failure (errorOf .notCommitted cause) := by
  rw [ending, causes_cons givenUp, List.find?_cons_of_pos (by simp [unexpected])]

theorem puts_cons_put (put : e.result = .value ()) (rows : List (Writing Statement)) :
    puts (e :: rows) = e.subject :: puts rows := by
  have succeeded : e.succeeded = true := by rw [Writing.succeeded, put]
  simp [puts, succeeded]

theorem puts_cons_givenUp (givenUp : e.result = .failure cause) (rows : List (Writing Statement)) :
    puts (e :: rows) = puts rows := by
  have failed : e.succeeded = false := by rw [Writing.succeeded, givenUp]
  simp [puts, failed]

theorem Writing.breaks_of_givenUp (givenUp : e.result = .failure cause) :
    e.breaks = !expected cause := by
  rw [Writing.breaks, Writing.cause?, givenUp]
  rfl

end

/-- What comes of the efforts for some statements: what is done, what is returned, and what becomes
of the connection. -/
structure Passed (c c' : Connection) (statements : List Statement) (rows : List (Writing Statement))
    (done : List Deed) (result : Outcome Error (List (GivenUp Failure))) : Prop where
  full : ∀ e ∈ rows, e.Full
  uncancelled : ∀ e ∈ rows, e.result ≠ .cancelled
  turns : InTurn Writing.breaks statements rows
  deeds : done = rows.flatMap (·.rows)
  result_eq : result = ending rows
  committed : c'.committed = c.committed
  /-- Rows that are given up leave the others alone. -/
  executes : Executes c.current (puts rows) c'.current

section

variable {c c' c'' : Connection} {e : Writing Statement} {statements : List Statement}
  {rows : List (Writing Statement)} {done : List Deed}
  {result : Outcome Error (List (GivenUp Failure))}

/-- A row that has been put is followed by the next ones. -/
theorem Passed.put (full : e.Full) (put : e.result = .value ())
    (opens : Database.Statement.opens e.subject = true) (h : c.execute e.subject = .ok c')
    (rest : Passed c' c'' statements rows done result) :
    Passed c c'' (e.subject :: statements) (e :: rows) (e.rows ++ done) result := by
  have calm : e.breaks = false := by rw [Writing.breaks, Writing.cause?, put]; rfl
  obtain ⟨d', executed, rfl⟩ : ∃ d', c.current.execute e.subject = .ok d' ∧
      c' = ⟨c.committed, some d'⟩ := by
    rw [execute_opens c opens] at h
    cases executed : c.current.execute e.subject with
    | error f =>
      rw [executed] at h
      cases h
    | ok d' =>
      rw [executed] at h
      exact ⟨d', rfl, (Except.ok.inj h).symm⟩
  constructor
  · exact List.forall_mem_cons.2 ⟨full, rest.full⟩
  · exact List.forall_mem_cons.2 ⟨by rw [put]; nofun, rest.uncancelled⟩
  · exact .next calm rest.turns
  · rw [rest.deeds, List.flatMap_cons]
  · rw [rest.result_eq, ending_cons_put put]
  · exact rest.committed
  · rw [puts_cons_put put]
    exact .cons executed rest.executes

/-- So is one that is given up as stores expect it. -/
theorem Passed.pass (full : e.Full) {cause : GivenUp Failure} (givenUp : e.result = .failure cause)
    (expects : expected cause = true) (rest : Passed c c' statements rows done result) :
    Passed c c' (e.subject :: statements) (e :: rows) (e.rows ++ done)
      (result.map (cause :: ·)) := by
  have calm : e.breaks = false := by rw [Writing.breaks_of_givenUp givenUp, expects]; rfl
  constructor
  · exact List.forall_mem_cons.2 ⟨full, rest.full⟩
  · exact List.forall_mem_cons.2 ⟨by rw [givenUp]; nofun, rest.uncancelled⟩
  · exact .next calm rest.turns
  · rw [rest.deeds, List.flatMap_cons]
  · rw [rest.result_eq, ending_cons_passed givenUp expects]
  · exact rest.committed
  · rw [puts_cons_givenUp givenUp]
    exact rest.executes

/-- Nothing is put after one that breaks off. -/
theorem Passed.stop (full : e.Full) {cause : GivenUp Failure} (givenUp : e.result = .failure cause)
    (unexpected : expected cause = false) (same : c' = c) (statements : List Statement) :
    Passed c c' (e.subject :: statements) [e] (e.rows ++ [])
      (.failure (errorOf .notCommitted cause)) := by
  subst same
  have breaks : e.breaks = true := by rw [Writing.breaks_of_givenUp givenUp, unexpected]; rfl
  constructor
  · exact List.forall_mem_singleton.2 full
  · exact List.forall_mem_singleton.2 (by rw [givenUp]; nofun)
  · exact .broken statements breaks
  · rw [List.flatMap_cons, List.flatMap_nil]
  · rw [ending_cons_broken givenUp unexpected]
  · rfl
  · rw [puts_cons_givenUp givenUp]
    exact .nil _

end

/-- **Each row gets one full effort**, up to one that breaks off. -/
theorem exists_passed {statements : List Statement}
    (opens : ∀ s ∈ statements, Database.Statement.opens s = true) (w : World Faulty) :
    ∃ rows, Passed w.medium.connection (after (executeAll statements) w).2.medium.connection
      statements rows (deeds (executeAll statements) w) (after (executeAll statements) w).1 := by
  induction statements generalizing w with
  | nil =>
    exact ⟨[], List.forall_mem_nil _, List.forall_mem_nil _, .done, rfl, rfl, rfl, .nil _⟩
  | cons statement later ih =>
    obtain ⟨e, rfl, full, hrun, hdeeds, fared⟩ := exists_row statement w
    rw [executeAll, deeds_bind, after_bind, hdeeds, hrun]
    generalize (after (tryHard (take (.execute e.subject))) w).2 = w' at fared ⊢
    obtain ⟨rows, rest⟩ := ih (fun s mem => opens s (List.mem_cons_of_mem _ mem)) w'
    cases result : e.result with
    | cancelled =>
      rw [result] at fared
      cases fared
    | value =>
      rw [result] at fared
      cases fared with
      | done h => exact ⟨e :: rows, rest.put full result (opens _ List.mem_cons_self) h⟩
    | failure cause =>
      rw [result] at fared
      dsimp only
      cases expects : expected cause with
      | true =>
        rw [if_pos rfl, deeds_andThen_map, after_andThen_map]
        rw [fared.eq_of_givenUp] at rest
        exact ⟨e :: rows, rest.pass full result expects⟩
      | false =>
        rw [if_neg Bool.false_ne_true]
        exact ⟨[e], .stop full result expects fared.eq_of_givenUp later⟩

/-! ### The commit -/

/-- **A commit that is given up is rolled back.** -/
theorem exists_commitAll (w : World Faulty) :
    ∃ e : Writing Unit, e.Full ∧
      (e.result = .value () ∧ deeds commitAll w = e.commits ∧
          (after commitAll w).1 = .value () ∧
          (after commitAll w).2.medium.connection = w.medium.connection.commit ∨
        ∃ cause, e.result = .failure cause ∧
          deeds commitAll w = e.commits ++ [.rollback (.value ())] ∧
          (after commitAll w).1 = .failure (.storage (.notCommitted cause)) ∧
          (after commitAll w).2.medium.connection = w.medium.connection.rollback) := by
  obtain ⟨e, full, hrun, hdeeds, fared⟩ := exists_commit w
  refine ⟨e, full, ?_⟩
  rw [commitAll, deeds_bind, after_bind, hdeeds, hrun]
  generalize (after (tryHard (take .commit)) w).2 = w' at fared ⊢
  obtain ⟨result, committed⟩ | ⟨cause, result, expects, same⟩ := fared
  · rw [result]
    exact .inl ⟨rfl, List.append_nil _, rfl, committed⟩
  · rw [result, ← same]
    dsimp only
    rw [if_pos expects]
    exact .inr ⟨cause, rfl, rfl, congrArg _ (errorOf_of_expected expects), rfl⟩

/-! ### The account of a save -/

/-- **What a save reports**: nothing if every row was put, and otherwise how many of them were given
up, and why the first one was. -/
inductive Reports (total : Nat) : List (Writing Statement) → Outcome Error Unit → Prop
  | nothing {rows : List (Writing Statement)} (put : ∀ e ∈ rows, e.result = .value ()) :
      Reports total rows (.value ())
  | incomplete {first : List (Writing Statement)} {e : Writing Statement}
      {cause : GivenUp Failure} (put : ∀ e ∈ first, e.result = .value ())
      (givenUp : e.result = .failure cause) (later : List (Writing Statement)) :
      Reports total (first ++ e :: later) (.failure (.storage
        (.incomplete ((first ++ e :: later).countP fun e => !e.succeeded) total cause)))

/-- How a save ends after its rows: what is done then, what is returned, and the connection. -/
inductive Finished (c : Contents) (d : Database) (rows : List (Writing Statement))
    (commit : Writing Unit) : List Deed → Outcome Error Unit → Connection → Prop
  /-- The rows that were put are committed, and nothing else. -/
  | committed {d' : Database} {result : Outcome Error Unit} (put : commit.result = .value ())
      (renewed : Renewed (puts rows) d d')
      (reports : Reports (c.gauges.size + c.counters.size) rows result) :
      Finished c d rows commit commit.commits result ⟨d', none⟩
  | rolledBack {cause : GivenUp Failure} (givenUp : commit.result = .failure cause) :
      Finished c d rows commit (commit.commits ++ [.rollback (.value ())])
        (.failure (.storage (.notCommitted cause))) ⟨d, none⟩

/-- **What is to come of a save**: every row is tried on the whole schedule, whatever came of the
rows before it, and then the commit. -/
structure Saved (c : Contents) (d : Database) (done : List Deed) (result : Outcome Error Unit)
    (w : World Faulty) (rows : List (Writing Statement)) (commit : Writing Unit) (last : List Deed) :
    Prop where
  every : rows.map (·.subject) = rowsOf c
  full : ∀ e ∈ rows, e.Full
  commit_full : commit.Full
  deeds : done = rows.flatMap (·.rows) ++ last
  contents : w.contents = c
  finished : Finished c d rows commit last result w.medium.connection

/-- A store with some contents, over some tables, before it meets a script of refusals. -/
def facing (c : Contents) (d : Database) (script : List (Option Refusal)) : World Faulty :=
  ⟨c, { connection := ⟨d, none⟩, script }⟩

/-- A save of some contents into some tables comes to what it is to come to. -/
structure Accounts (c : Contents) (d : Database) (script : List (Option Refusal)) : Prop where
  /-- There is nothing to be done without rows. -/
  empty : rowsOf c = [] → deeds save (facing c d script) = [] ∧
    after save (facing c d script) = (.value (), facing c d script)
  rows : rowsOf c ≠ [] → ∃ rows commit last,
    Saved c d (deeds save (facing c d script)) (after save (facing c d script)).1
      (after save (facing c d script)).2 rows commit last

theorem length_rowsOf (c : Contents) : (rowsOf c).length = c.gauges.size + c.counters.size := by
  rw [rowsOf, List.length_append, List.length_map, List.length_map]
  rfl

/-- What a save says of the rows that were given up. -/
def report (total : Nat) : List (GivenUp Failure) → Outcome Error Unit
  | [] => .value ()
  | first :: later => .failure (.storage (.incomplete (later.length + 1) total first))

/-- What a save goes on with after its rows. -/
def conclude (total : Nat) (causes : List (GivenUp Failure)) :
    Doing Step.Answer (Outcome Error Unit) :=
  commitAll.andThen fun _ => pure (report total causes)

/-- A save inside its lock. -/
def saveRows (statements : List Statement) : Doing Step.Answer (Outcome Error Unit) :=
  if statements.isEmpty then pure (.value ())
  else (executeAll statements).andThen (conclude statements.length)

theorem save_eq : save = locked .write (contents >>= fun c => saveRows (rowsOf c)) := by
  unfold save saveRows conclude
  congr
  funext c
  dsimp only
  congr
  funext causes
  congr
  funext _
  cases causes <;> rfl

theorem deeds_save (w : World Faulty) :
    deeds save w = deeds (saveRows (rowsOf w.contents)) w ∧
      after save w = after (saveRows (rowsOf w.contents)) w := by
  rw [save_eq]
  exact deeds_locked .write (contents >>= fun c => saveRows (rowsOf c)) w

section

variable {rows : List (Writing Statement)}

theorem causes_eq_nil (uncancelled : ∀ e ∈ rows, e.result ≠ .cancelled) (none : causes rows = []) :
    ∀ e ∈ rows, e.result = .value () := by
  intro e mem
  have cause := List.filterMap_eq_nil_iff.1 none e mem
  rw [Writing.cause?] at cause
  cases result : e.result with
  | value => rfl
  | failure cause' =>
    rw [result] at cause
    cases cause
  | cancelled => exact absurd result (uncancelled e mem)

/-- As many causes are reported as rows are given up. -/
theorem length_causes (uncancelled : ∀ e ∈ rows, e.result ≠ .cancelled) :
    (causes rows).length = rows.countP fun e => !e.succeeded := by
  induction rows with
  | nil => rfl
  | cons e rows ih =>
    have later := ih fun e' mem => uncancelled e' (List.mem_cons_of_mem _ mem)
    rw [List.countP_cons, ← later]
    cases result : e.result with
    | value => simp [causes, Writing.cause?, Writing.succeeded, result]
    | failure cause => simp [causes, Writing.cause?, Writing.succeeded, result]
    | cancelled => exact absurd result (uncancelled e List.mem_cons_self)

/-- The first cause is of the first row that is given up. -/
theorem exists_first {cause : GivenUp Failure} {causes' : List (GivenUp Failure)}
    (uncancelled : ∀ e ∈ rows, e.result ≠ .cancelled) (some : causes rows = cause :: causes') :
    ∃ first e later, rows = first ++ e :: later ∧ (∀ e ∈ first, e.result = .value ()) ∧
      e.result = .failure cause := by
  induction rows with
  | nil => cases some
  | cons e rows ih =>
    cases result : e.result with
    | cancelled => exact absurd result (uncancelled e List.mem_cons_self)
    | failure cause' =>
      rw [causes_cons result] at some
      cases some
      exact ⟨[], e, rows, rfl, List.forall_mem_nil _, result⟩
    | value =>
      rw [causes_cons_put result] at some
      obtain ⟨first, e', later, rfl, put, givenUp⟩ :=
        ih (fun e' mem => uncancelled e' (List.mem_cons_of_mem _ mem)) some
      exact ⟨e :: first, e', later, rfl, List.forall_mem_cons.2 ⟨result, put⟩, givenUp⟩

/-- What is said of the causes is a report of the rows. -/
theorem reports_causes (uncancelled : ∀ e ∈ rows, e.result ≠ .cancelled) (total : Nat) :
    Reports total rows (report total (causes rows)) := by
  cases h : causes rows with
  | nil => exact .nothing (causes_eq_nil uncancelled h)
  | cons cause later =>
    have length := length_causes uncancelled
    obtain ⟨first, e, rest, rfl, put, givenUp⟩ := exists_first uncancelled h
    rw [h, List.length_cons] at length
    rw [report, length]
    exact .incomplete put givenUp rest

end

section

variable {c : Contents} {d : Database} {script : List (Option Refusal)}
  {rows : List (Writing Statement)}

/-- What follows on rows that did not break off. -/
theorem exists_finished {w : World Faulty} {done : List Deed}
    {result : Outcome Error (List (GivenUp Failure))}
    (passed : Passed ⟨d, none⟩ w.medium.connection (rowsOf c) rows done result) :
    ∃ commit : Writing Unit, commit.Full ∧
      Finished c d rows commit (deeds (conclude (rowsOf c).length (causes rows)) w)
        (after (conclude (rowsOf c).length (causes rows)) w).1
        (after (conclude (rowsOf c).length (causes rows)) w).2.medium.connection := by
  obtain ⟨commit, full, finished⟩ := exists_commitAll w
  refine ⟨commit, full, ?_⟩
  rw [conclude]
  rcases finished with
    ⟨put, hdeeds, hresult, hconnection⟩ | ⟨cause, givenUp, hdeeds, hresult, hconnection⟩
  · have among : ∀ s ∈ puts rows, c.Puts s := by
      intro s mem
      obtain ⟨e, he, rfl⟩ := List.mem_map.1 mem
      refine puts_of_mem_rowsOf (passed.turns.order.subset ?_)
      exact List.mem_map_of_mem (List.mem_filter.1 he).1
    have renewed := passed.executes.renewed among
    have reports := reports_causes passed.uncancelled (rowsOf c).length
    obtain ⟨all, left⟩ := andThen_of_value
      (f := fun _ => pure (report (rowsOf c).length (causes rows))) hresult
    rw [length_rowsOf] at reports all left ⊢
    rw [all, left, hdeeds]
    change Finished c d rows commit (commit.commits ++ []) (report _ (causes rows))
      (after commitAll w).2.medium.connection
    rw [List.append_nil, hconnection]
    exact .committed put renewed reports
  · have committed : w.medium.connection.rollback = ⟨d, none⟩ :=
      congrArg (Connection.mk · none) passed.committed
    obtain ⟨all, left⟩ := andThen_of_failure
      (f := fun _ => pure (report (rowsOf c).length (causes rows))) hresult
    rw [all, left, hdeeds]
    dsimp only
    rw [hconnection, committed]
    exact .rolledBack givenUp

/-- Rows break a save off, or they are all tried. -/
theorem Passed.broken_or_calm {k k' : Connection} {statements : List Statement} {done : List Deed}
    {result : Outcome Error (List (GivenUp Failure))}
    (h : Passed k k' statements rows done result) :
    ((∃ e ∈ rows, e.breaks = true) ∧ ∃ f, result = .failure (.unexpected f)) ∨
      (∀ e ∈ rows, e.breaks = false) ∧ result = .value (causes rows) := by
  have ended := h.result_eq
  rw [ending] at ended
  cases broken : (causes rows).find? fun cause => !expected cause with
  | some cause =>
    rw [broken] at ended
    have unexpected : expected cause = false := by simpa using List.find?_some broken
    obtain ⟨e, mem, hcause⟩ := List.mem_filterMap.1 (List.mem_of_find?_eq_some broken)
    obtain ⟨f, hf⟩ := errorOf_of_unexpected unexpected
    refine .inl ⟨⟨e, mem, ?_⟩, f, by rw [ended]; exact congrArg _ hf⟩
    rw [Writing.breaks, hcause]
    simp [unexpected]
  | none =>
    rw [broken] at ended
    refine .inr ⟨fun e mem => ?_, ended⟩
    cases hcause : e.cause? with
    | none => rw [Writing.breaks, hcause]; rfl
    | some cause =>
      have calm := List.find?_eq_none.1 broken cause (List.mem_filterMap.2 ⟨e, mem, hcause⟩)
      rw [Writing.breaks, hcause]
      simpa using calm

section

variable {commit : Writing Unit} {last : List Deed} {result : Outcome Error Unit} {k : Connection}

/-- After the rows there is nothing but a commit, and perhaps a rollback. -/
theorem Finished.of_mem (h : Finished c d rows commit last result k) {deed : Deed}
    (mem : deed ∈ last) :
    (∃ seconds, deed = .pause seconds) ∨ (∃ outcome, deed = .commit outcome) ∨
      deed = .rollback (.value ()) := by
  have trying (mem : deed ∈ commit.commits) :
      (∃ seconds, deed = .pause seconds) ∨ ∃ outcome, deed = .commit outcome :=
    (Retry.of_mem_course mem).imp_right fun ⟨outcome, _, h⟩ => ⟨outcome, h⟩
  cases h with
  | committed => exact (trying mem).imp_right .inl
  | rolledBack =>
    rcases List.mem_append.1 mem with mem | mem
    · exact (trying mem).imp_right .inl
    · exact .inr (.inr (List.mem_singleton.1 mem))

theorem Finished.unset (h : Finished c d rows commit last result k) (c' : Contents) :
    Deed.set c' ∉ rows.flatMap (·.rows) ++ last := by
  intro mem
  rcases List.mem_append.1 mem with mem | mem
  · obtain ⟨e, -, mem⟩ := List.mem_flatMap.1 mem
    rcases Retry.of_mem_course mem with ⟨seconds, h⟩ | ⟨o, -, h⟩ <;> cases h
  · rcases h.of_mem mem with ⟨seconds, h⟩ | ⟨outcome, h⟩ | h <;> cases h

theorem Finished.result_ne (h : Finished c d rows commit last result k) (f : Failure) :
    result ≠ .failure (.unexpected f) := by
  cases h with
  | committed put renewed reports => cases reports <;> nofun
  | rolledBack => nofun

end

theorem save_of_empty (d : Database) (script : List (Option Refusal)) (empty : rowsOf c = []) :
    deeds save (facing c d script) = [] ∧
      after save (facing c d script) = (.value (), facing c d script) := by
  obtain ⟨hdeeds, hafter⟩ := deeds_save (facing c d script)
  have body : saveRows (rowsOf (facing c d script).contents) = pure (.value ()) :=
    if_pos (by simp [facing, empty])
  rw [hdeeds, hafter, body]
  exact ⟨rfl, rfl⟩

/-- **A save makes its efforts for the rows**, up to one that breaks it off, and if none does, it
comes to what it is to come to. -/
theorem exists_save (d : Database) (script : List (Option Refusal)) (filled : rowsOf c ≠ []) :
    ∃ rows, (∀ e ∈ rows, e.Full ∧ e.subject ∈ rowsOf c) ∧
      ((∃ e ∈ rows, e.breaks = true) ∧ deeds save (facing c d script) = rows.flatMap (·.rows) ∧
          (∃ f, (after save (facing c d script)).1 = .failure (.unexpected f)) ∨
        (∀ e ∈ rows, e.breaks = false) ∧ ∃ commit last,
          Saved c d (deeds save (facing c d script)) (after save (facing c d script)).1
            (after save (facing c d script)).2 rows commit last) := by
  have opens : ∀ s ∈ rowsOf c, Database.Statement.opens s = true :=
    fun s mem => (puts_of_mem_rowsOf mem).opens
  obtain ⟨rows, passed⟩ := exists_passed opens (facing c d script)
  refine ⟨rows, fun e mem => ⟨passed.full e mem,
    passed.turns.order.subset (List.mem_map_of_mem mem)⟩, ?_⟩
  obtain ⟨hdeeds, hafter⟩ := deeds_save (facing c d script)
  have body : saveRows (rowsOf (facing c d script).contents)
      = (executeAll (rowsOf c)).andThen (conclude (rowsOf c).length) :=
    if_neg (by simp [facing, filled])
  rw [body] at hdeeds hafter
  rcases passed.broken_or_calm with ⟨broken, f, unexpected⟩ | ⟨calm, value⟩
  · obtain ⟨all, left⟩ := andThen_of_failure (f := conclude (rowsOf c).length) unexpected
    rw [hdeeds, hafter, all, left]
    exact .inl ⟨broken, passed.deeds, f, rfl⟩
  · obtain ⟨all, left⟩ := andThen_of_value (f := conclude (rowsOf c).length) value
    rw [all, passed.deeds] at hdeeds
    rw [left] at hafter
    obtain ⟨commit, full, finished⟩ := exists_finished passed
    rw [← hafter] at finished
    have contents : (after save (facing c d script)).2.contents = c :=
      contents_after fun c' => by rw [hdeeds]; exact finished.unset c'
    exact .inr ⟨calm, commit, _,
      passed.turns.all calm, passed.full, full, hdeeds, contents, finished⟩

/-! ### What breaks a save off -/

theorem isDatabase_of_retriable {f : Failure} (h : f.writeProspect = .retriable) :
    f.isDatabase = true := by
  cases f with
  | database => rfl
  | network | response | mishap => cases h

/-- A save is broken off by a failure that is none of the database. -/
theorem exists_of_breaks {e : Writing Statement} (full : e.Full) (breaks : e.breaks = true) :
    ∃ f, Deed.execute e.subject (.failure f) ∈ e.rows ∧ f.isDatabase = false := by
  obtain ⟨cause, result, unexpected⟩ :
      ∃ cause, e.result = .failure cause ∧ expected cause = false := by
    cases result : e.result with
    | value | cancelled =>
      rw [Writing.breaks, Writing.cause?, result] at breaks
      cases breaks
    | failure cause =>
      rw [Writing.breaks_of_givenUp result] at breaks
      exact ⟨cause, rfl, by simpa using breaks⟩
  cases cause with
  | exhausted => cases unexpected
  | fatal f =>
    have last := Retry.Tried.getLast?_course full Deed.pause (Deed.execute e.subject)
    rw [result] at last
    exact ⟨f, List.mem_of_getLast? last, unexpected⟩

/-- Any such failure breaks it off. -/
theorem breaks_of_mem {e : Writing Statement} (full : e.Full) {statement : Statement} {f : Failure}
    (mem : Deed.execute statement (.failure f) ∈ e.rows) (foreign : f.isDatabase = false) :
    e.breaks = true := by
  have hopeless : f.writeProspect ≠ .retriable := fun h => by
    rw [isDatabase_of_retriable h] at foreign
    cases foreign
  obtain ⟨before, outcomes, hopeful⟩ := Retry.Tried.outcomes_eq full
  have last : Retry.last e.result = .failure f := by
    rcases Retry.of_mem_course mem with ⟨seconds, h⟩ | ⟨o, ho, h⟩
    · cases h
    · cases h
      rw [outcomes] at ho
      rcases List.mem_append.1 ho with ho | ho
      · obtain ⟨f', same, retriable⟩ := hopeful _ ho
        cases same
        exact absurd retriable hopeless
      · exact (List.mem_singleton.1 ho).symm
  cases result : e.result with
  | value | cancelled =>
    rw [result] at last
    cases last
  | failure cause =>
    rw [result] at last
    rw [Writing.breaks_of_givenUp result]
    cases cause with
    | fatal f' =>
      cases last
      rw [expected, foreign]
      rfl
    | exhausted n f' =>
      cases last
      exact absurd (Retry.Tried.exhausted_inv full result).2.2 hopeless

/-- A save that accounts for its rows ends as stores expect it. -/
theorem Accounts.result_ne (h : Accounts c d script) (f : Failure) :
    (after save (facing c d script)).1 ≠ .failure (.unexpected f) := by
  intro unexpected
  by_cases empty : rowsOf c = []
  · rw [(h.empty empty).2] at unexpected
    cases unexpected
  · obtain ⟨rows, commit, last, saved⟩ := h.rows empty
    exact saved.finished.result_ne f unexpected

/-- **A save accounts for all its rows**, whatever contents it saves, whatever the tables hold and
whatever the database refuses, exactly if each statement that fails is refused by the database. -/
theorem accounts_iff (c : Contents) (d : Database) (script : List (Option Refusal)) :
    Accounts c d script ↔
      ∀ statement f, Deed.execute statement (.failure f) ∈ deeds save (facing c d script) →
        f.isDatabase = true := by
  by_cases empty : rowsOf c = []
  · have nothing := save_of_empty d script empty
    constructor
    · intro _ statement f mem
      rw [nothing.1] at mem
      cases mem
    · exact fun _ => ⟨fun _ => nothing, fun filled => absurd empty filled⟩
  · obtain ⟨rows, full, ⟨⟨e, mem, breaks⟩, hdeeds, f, unexpected⟩ | ⟨calm, commit, last, saved⟩⟩ :=
      exists_save d script empty
    · -- A row breaks the save off, so the result is none that is expected.
      refine ⟨fun h => absurd unexpected (h.result_ne f), fun refused => ?_⟩
      obtain ⟨f', failed, foreign⟩ := exists_of_breaks (full e mem).1 breaks
      have among := List.mem_flatMap.2 ⟨e, mem, failed⟩
      rw [← hdeeds] at among
      cases foreign.symm.trans (refused e.subject f' among)
    · refine ⟨fun _ statement f failed => ?_, fun _ => ⟨fun h => absurd h empty, fun _ =>
        ⟨rows, commit, last, saved⟩⟩⟩
      rw [saved.deeds] at failed
      rcases List.mem_append.1 failed with failed | failed
      · obtain ⟨e, mem, failed⟩ := List.mem_flatMap.1 failed
        cases database : f.isDatabase with
        | true => rfl
        | false =>
          cases (breaks_of_mem (full e mem).1 failed database).symm.trans (calm e mem)
      · rcases saved.finished.of_mem failed with ⟨seconds, h⟩ | ⟨outcome, h⟩ | h <;> cases h

end

/-- A sum that was read from a column of doubles may be of more than 64 bits.  It is not handed over
to the database, and the row after it is never tried. -/
theorem not_accounts_of_large_sum :
    ¬ Accounts ⟨.empty, .ofList [("big", 10 ^ 19), ("hits", 5)]⟩
      ⟨some .empty, some (.ofList [("big", .real (.ofInt (10 ^ 19))), ("hits", .whole 1)]), some []⟩
      [] :=
  fun h => h.result_ne Database.unbindable (by rfl)

end Telemetry.Store.Relational
