import Telemetry.Proofs.Retry.Effort
import Telemetry.Proofs.Store.Relational.Change

/-!
# What a relational store does to its connection

The deeds of a store are the statements, commits and rollbacks that it tries, with what each of them
met, and the pauses between them.  The deeds of a run say what becomes of the connection
(`leads_deeds`): a statement or a commit that fails leaves it alone.  So an effort that succeeds does
to the connection what its last attempt does, and one that is given up does nothing
(`exists_row`, `exists_commit`).
-/

namespace Telemetry.Store.Relational

open Dialogue
open Retry (Effort GivenUp course)

variable {α τ : Type}

/-! ### Deeds -/

/-- What a store does with its contents and its connection. -/
inductive Deed
  | set (c : Contents)
  | pause (seconds : Double)
  | execute (statement : Statement) (outcome : Outcome Failure Unit)
  | commit (outcome : Outcome Failure Unit)
  | rollback (outcome : Outcome Failure Unit)

/-- The deed that a question of a store is, if it is one. -/
def Deed.of? : (q : Question Step) × Answer Step.Answer q → Option Deed
  | ⟨.setContents c, _⟩ => some (set c)
  | ⟨.step (.pause seconds), _⟩ => some (pause seconds)
  | ⟨.step (.execute statement), outcome⟩ => some (execute statement outcome)
  | ⟨.step .commit, outcome⟩ => some (commit outcome)
  | ⟨.step .rollback, outcome⟩ => some (rollback outcome)
  | _ => none

/-- The world after something is done on a faulty connection, and its result. -/
def after (d : Doing Step.Answer α) (w : World Faulty) : α × World Faulty :=
  Dialogue.run (alone Faulty.perform) d w

def deeds (d : Doing Step.Answer α) (w : World Faulty) : List Deed :=
  told (alone Faulty.perform) Deed.of? d w

theorem deeds_bind {β : Type} (d : Doing Step.Answer α) (f : α → Doing Step.Answer β)
    (w : World Faulty) :
    deeds (d >>= f) w = deeds d w ++ deeds (f (after d w).1) (after d w).2 :=
  told_bind (alone Faulty.perform) Deed.of? d f w

theorem after_bind {β : Type} (d : Doing Step.Answer α) (f : α → Doing Step.Answer β)
    (w : World Faulty) : after (d >>= f) w = after (f (after d w).1) (after d w).2 :=
  run_bind (alone Faulty.perform) d f w

section

variable {ε β : Type} {d : Doing Step.Answer (Outcome ε α)}
  {f : α → Doing Step.Answer (Outcome ε β)} {w : World Faulty}

/-- A step with a value is followed by the next one. -/
theorem andThen_of_value {a : α} (h : (after d w).1 = .value a) :
    deeds (d.andThen f) w = deeds d w ++ deeds (f a) (after d w).2 ∧
      after (d.andThen f) w = after (f a) (after d w).2 := by
  rw [andThen, deeds_bind, after_bind, h]
  exact ⟨rfl, rfl⟩

/-- A step that fails is the last one. -/
theorem andThen_of_failure {e : ε} (h : (after d w).1 = .failure e) :
    deeds (d.andThen f) w = deeds d w ∧
      after (d.andThen f) w = (.failure e, (after d w).2) := by
  rw [andThen, deeds_bind, after_bind, h]
  exact ⟨List.append_nil _, rfl⟩

/-- A lock is no deed, nor does it make a difference to a store that is alone. -/
theorem deeds_locked (mode : Lock.Mode) (d : Doing Step.Answer (Outcome ε α)) (w : World Faulty) :
    deeds (locked mode d) w = deeds d w ∧ after (locked mode d) w = after d w := by
  have entered : deeds (locked mode d) w
      = deeds (d >>= fun outcome => Dialogue.say Question.leave >>= fun _ => pure outcome) w ∧
      after (locked mode d) w
        = after (d >>= fun outcome => Dialogue.say Question.leave >>= fun _ => pure outcome) w :=
    ⟨rfl, rfl⟩
  rw [entered.1, entered.2, deeds_bind, after_bind]
  exact ⟨List.append_nil _, rfl⟩

end

/-- A value may be changed at the end. -/
theorem after_andThen_map {β ε : Type} (d : Doing Step.Answer (Outcome ε α)) (g : α → β)
    (w : World Faulty) :
    after (d.andThen fun a => pure (.value (g a))) w = ((after d w).1.map g, (after d w).2) :=
  run_andThen_map (alone Faulty.perform) d g w

theorem deeds_andThen_map {β ε : Type} (d : Doing Step.Answer (Outcome ε α)) (g : α → β)
    (w : World Faulty) :
    deeds (d.andThen fun a => pure (.value (g a))) w = deeds d w :=
  told_andThen_map (alone Faulty.perform) Deed.of? d g w

/-- Contents that are not set stay. -/
theorem contents_after {d : Doing Step.Answer α} {w : World Faulty}
    (unset : ∀ c, Deed.set c ∉ deeds d w) : (after d w).2.contents = w.contents := by
  induction d generalizing w with
  | done a => rfl
  | ask q next ih =>
    have rest := ih (alone Faulty.perform q w).1 (w := (alone Faulty.perform q w).2)
    cases q with
    | enter | leave | takeTurn | endTurn | contents => exact rest unset
    | setContents c => exact absurd List.mem_cons_self (unset c)
    | step s =>
      cases s with
      | connect | migrations | gaugeRows | counterRows | probe | note => exact rest unset
      | execute | commit | rollback | pause =>
        exact rest fun c mem => unset c (List.mem_cons_of_mem _ mem)

/-! ### What becomes of the connection -/

/-- What a deed does to a connection. -/
inductive Does : Connection → Deed → Connection → Prop
  | set (c : Contents) (connection : Connection) : Does connection (.set c) connection
  | pause (seconds : Double) (connection : Connection) : Does connection (.pause seconds) connection
  | executed {statement : Statement} {connection connection' : Connection}
      (h : connection.execute statement = .ok connection') :
      Does connection (.execute statement (.value ())) connection'
  /-- The database refuses, or the statement fails on its own account. -/
  | failed {statement : Statement} {connection : Connection} {f : Failure}
      (h : f.isDatabase = true ∨ connection.execute statement = .error f) :
      Does connection (.execute statement (.failure f)) connection
  | committed (connection : Connection) : Does connection (.commit (.value ())) connection.commit
  | refused {connection : Connection} {f : Failure} (h : f.isDatabase = true) :
      Does connection (.commit (.failure f)) connection
  | rolledBack (connection : Connection) :
      Does connection (.rollback (.value ())) connection.rollback

theorem does_execute {statement : Statement} {m m' : Faulty} {outcome : Outcome Failure Unit}
    (h : Met (fun c => c.execute statement) m outcome m') :
    Does m.connection (.execute statement outcome) m'.connection := by
  cases h with
  | done h => exact .executed h
  | failed h same => rw [same]; exact .failed (.inr h)
  | refused r same => rw [same]; exact .failed (.inl rfl)

theorem does_commit {m m' : Faulty} {outcome : Outcome Failure Unit}
    (h : Met (fun c => .ok c.commit) m outcome m') :
    Does m.connection (.commit outcome) m'.connection := by
  cases h with
  | done h => rw [← Except.ok.inj h]; exact .committed _
  | failed h => cases h
  | refused r same => rw [same]; exact .refused rfl

/-- Deeds one after the other. -/
inductive Leads : Connection → List Deed → Connection → Prop
  | nil (connection : Connection) : Leads connection [] connection
  | cons {first second last : Connection} {deed : Deed} {later : List Deed}
      (does : Does first deed second) (rest : Leads second later last) :
      Leads first (deed :: later) last

/-- **The deeds of a run lead to its connection.** -/
theorem leads_deeds (d : Doing Step.Answer α) (w : World Faulty) :
    Leads w.medium.connection (deeds d w) (after d w).2.medium.connection := by
  induction d generalizing w with
  | done a => exact .nil _
  | ask q next ih =>
    have rest := ih (alone Faulty.perform q w).1 (alone Faulty.perform q w).2
    cases q with
    | enter | leave | takeTurn | endTurn | contents => exact rest
    | setContents c => exact .cons (.set c _) rest
    | step s =>
      cases s with
      | connect | migrations | gaugeRows | counterRows | probe | note => exact rest
      | pause seconds => exact .cons (.pause seconds _) rest
      | rollback => exact .cons (.rolledBack _) rest
      | execute statement =>
        exact .cons (does_execute (met_unlessRefused w.medium _)) rest
      | commit => exact .cons (does_commit (met_unlessRefused w.medium _)) rest

/-! ### Efforts -/

/-- What is tried on a schedule. -/
abbrev Writing (τ : Type) : Type := Effort τ Failure Unit

namespace Writing

variable (e : Writing τ)

/-- Attempts are made on the standard schedule, as long as there is some prospect. -/
def Full : Prop := Effort.Full Failure.writeProspect .standard e

def succeeded : Bool :=
  match e.result with
  | .value _ => true
  | _ => false

/-- Why the effort was given up, if it was. -/
def cause? : Option (GivenUp Failure) :=
  match e.result with
  | .failure cause => some cause
  | _ => none

/-- The deeds of the effort for a statement. -/
def rows (e : Writing Statement) : List Deed :=
  course Deed.pause (Deed.execute e.subject) Schedule.standard.delays e.outcomes

/-- The deeds of the effort for a commit. -/
def commits (e : Writing Unit) : List Deed :=
  course Deed.pause Deed.commit Schedule.standard.delays e.outcomes

end Writing

/-- Something tried hard is one full effort. -/
theorem exists_tryHard (subject : τ) (operation : Doing Step.Answer (Outcome Failure Unit))
    (trying : Outcome Failure Unit → Deed)
    (once : ∀ w, deeds operation w = [trying (after operation w).1]) (w : World Faulty) :
    ∃ e : Writing τ, e.subject = subject ∧ e.Full ∧ (after (tryHard operation) w).1 = e.result ∧
      deeds (tryHard operation) w
        = course Deed.pause trying Schedule.standard.delays e.outcomes := by
  have plain : surroundings.Plain (alone Faulty.perform) Deed.of? operation Deed.pause trying :=
    ⟨fun _ _ => rfl, fun _ _ => rfl, fun _ _ => rfl, once⟩
  obtain ⟨outcomes, tried, hdeeds⟩ :=
    Retry.exists_tried plain Failure.writeProspect .standard w
  exact ⟨⟨subject, outcomes, _⟩, rfl, tried, rfl, hdeeds⟩

theorem leads_paused {c c' : Connection} {delay : Double} {later : List Deed}
    (h : Leads c ((if delay.isPositive then [.pause delay] else []) ++ later) c') :
    Leads c later c' := by
  split at h
  · cases h with
    | cons does rest =>
      cases does
      exact rest
  · exact h

/-- **An effort does what its last attempt does**, if attempts that fail do nothing. -/
theorem does_last {trying : Outcome Failure Unit → Deed}
    (idle : ∀ f c c', Does c (trying (.failure f)) c' → c' = c) {prospect : Failure → Prospect}
    {attempts : Nat} {delays : List Double} {outcomes : List (Outcome Failure Unit)}
    {result : Outcome (GivenUp Failure) Unit}
    (h : Retry.Tried prospect attempts delays outcomes result)
    {c c' : Connection} (leads : Leads c (course Deed.pause trying delays outcomes) c') :
    Does c (trying (Retry.last result)) c' := by
  have only {o : Outcome Failure Unit} {delay : Double} {later : List Double}
      (leads : Leads c (course Deed.pause trying (delay :: later) [o]) c') :
      Does c (trying o) c' := by
    rw [Retry.course_cons] at leads
    cases leads_paused leads with
    | cons does rest =>
      have none : course Deed.pause trying later [] = [] := by simp [course]
      rw [none] at rest
      cases rest
      exact does
  induction h with
  | value | cancelled | fatal | exhausted => exact only leads
  | again hopeful rest ih =>
    rw [Retry.course_cons] at leads
    cases leads_paused leads with
    | cons does rest =>
      rw [idle _ _ _ does] at rest
      exact ih rest

/-- How the effort for a statement ends, and how it leaves the connection. -/
inductive Fared (statement : Statement) (c : Connection) :
    Outcome (GivenUp Failure) Unit → Connection → Prop
  | done {c' : Connection} (h : c.execute statement = .ok c') :
      Fared statement c (.value ()) c'
  | givenUp (cause : GivenUp Failure) : Fared statement c (.failure cause) c

/-- A statement that is given up leaves the connection alone. -/
theorem Fared.eq_of_givenUp {statement : Statement} {c c' : Connection} {cause : GivenUp Failure}
    (h : Fared statement c (.failure cause) c') : c' = c := by
  cases h
  rfl

/-- **A statement gets one full effort**, which does nothing unless it succeeds. -/
theorem exists_row (statement : Statement) (w : World Faulty) :
    ∃ e : Writing Statement, e.subject = statement ∧ e.Full ∧
      (after (tryHard (take (.execute statement))) w).1 = e.result ∧
      deeds (tryHard (take (.execute statement))) w = e.rows ∧
      Fared statement w.medium.connection e.result
        (after (tryHard (take (.execute statement))) w).2.medium.connection := by
  obtain ⟨e, rfl, full, hrun, hdeeds⟩ :=
    exists_tryHard statement (take (.execute statement)) (.execute statement) (fun _ => rfl) w
  have leads := leads_deeds (tryHard (take (.execute e.subject))) w
  rw [hdeeds] at leads
  have does := does_last (fun f c c' does => by cases does; rfl) full leads
  refine ⟨e, rfl, full, hrun, hdeeds, ?_⟩
  generalize (after (tryHard (take (.execute e.subject))) w).2.medium.connection = c' at does ⊢
  cases result : e.result with
  | value =>
    rw [result] at does
    cases does with
    | executed h => exact .done h
  | cancelled =>
    rw [result] at does
    cases does
  | failure cause =>
    rw [result] at does
    cases cause <;> cases does <;> exact .givenUp _

/-- **A commit gets one full effort**, which does nothing unless it succeeds, and is given up only as
stores expect it. -/
theorem exists_commit (w : World Faulty) :
    ∃ e : Writing Unit, e.Full ∧ (after (tryHard (take .commit)) w).1 = e.result ∧
      deeds (tryHard (take .commit)) w = e.commits ∧
      (e.result = .value () ∧ (after (tryHard (take .commit)) w).2.medium.connection
          = w.medium.connection.commit ∨
        ∃ cause, e.result = .failure cause ∧ expected cause = true ∧
          (after (tryHard (take .commit)) w).2.medium.connection = w.medium.connection) := by
  obtain ⟨e, -, full, hrun, hdeeds⟩ :=
    exists_tryHard () (take .commit) .commit (fun _ => rfl) w
  have leads := leads_deeds (tryHard (take .commit)) w
  rw [hdeeds] at leads
  have does := does_last (fun f c c' does => by cases does; rfl) full leads
  refine ⟨e, full, hrun, hdeeds, ?_⟩
  generalize (after (tryHard (take .commit)) w).2.medium.connection = c' at does ⊢
  cases result : e.result with
  | value =>
    rw [result] at does
    cases does
    exact .inl ⟨rfl, rfl⟩
  | cancelled =>
    rw [result] at does
    cases does
  | failure cause =>
    rw [result] at does
    refine .inr ⟨cause, rfl, ?_⟩
    cases cause with
    | fatal f =>
      cases does with
      | refused h => exact ⟨h, rfl⟩
    | exhausted n f =>
      cases does
      exact ⟨rfl, rfl⟩

end Telemetry.Store.Relational
