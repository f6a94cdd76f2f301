import Telemetry.Proofs.Dialogue
import Telemetry.Retry.Trial

/-!
# The course of an operation on a schedule

The outcomes that the attempts of a schedule would meet say all that happens.  Attempts are made up
to the first one that settles the operation, or up to the end of the schedule if there is none
(`made`).  A `Course` says what is asked then and in which order, what the result is, and what is
logged.  Every trial takes its course, whatever the schedule, the classifier and the script
(`course_run`).
-/

namespace Telemetry.Retry

open Dialogue

variable {α : Type}

/-! ### Questions -/

namespace Question

def isCall : Question → Bool
  | call => true
  | _ => false

def isNote : Question → Bool
  | note _ => true
  | _ => false

def pause? : Question → Option Double
  | pause seconds => some seconds
  | _ => none

/-- The log entry that a question makes for an operation of some name. -/
def entry? (operation : String) : Question → Option Log.Entry
  | note n => n.entry? operation Failure.message
  | _ => none

variable (n : Note Failure)

@[simp] theorem isCall_note : (note n).isCall = false := rfl
@[simp] theorem isNote_note : (note n).isNote = true := rfl
@[simp] theorem pause?_note : (note n).pause? = none := rfl

end Question

/-- What the questions of an operation of some name log. -/
def logged (operation : String) (events : List Question) : List Log.Entry :=
  events.filterMap (Question.entry? operation)

@[simp] theorem logged_append (operation : String) (events events' : List Question) :
    logged operation (events ++ events') = logged operation events ++ logged operation events' :=
  List.filterMap_append

@[simp] theorem logged_note (operation : String) (n : Note Failure) (events : List Question) :
    logged operation (.note n :: events)
      = (n.entry? operation Failure.message).toList ++ logged operation events := by
  cases h : n.entry? operation Failure.message <;> simp [logged, Question.entry?, h]

/-- What is asked for an attempt, notes aside: a pause, if there is to be one, and then a call. -/
def steps (delay : Double) : List Question :=
  (if delay.isPositive then [.pause delay] else []) ++ [.call]

/-! ### Outcomes -/

/-- No attempt follows one with this outcome, however long the schedule is. -/
def settles (prospect : Failure → Prospect) : Outcome Failure α → Bool
  | .value _ => true
  | .cancelled => true
  | .failure e => prospect e = .fatal

variable (prospect : Failure → Prospect)

/-- The number of attempts that are made: up to the first one that settles the operation. -/
def made (outcomes : List (Outcome Failure α)) : Nat :=
  min outcomes.length (outcomes.findIdx (settles prospect) + 1)

/-- How an operation ends: as the first outcome that settles it says, or with the last failure. -/
inductive Ends (attempts : Nat) (outcomes : List (Outcome Failure α)) :
    Outcome (GivenUp Failure) α → Prop
  | value {a : α} (first : outcomes.find? (settles prospect) = some (.value a)) :
      Ends attempts outcomes (.value a)
  | cancelled (first : outcomes.find? (settles prospect) = some .cancelled) :
      Ends attempts outcomes .cancelled
  | fatal {e : Failure} (first : outcomes.find? (settles prospect) = some (.failure e)) :
      Ends attempts outcomes (.failure (.fatal e))
  | exhausted {e : Failure} (none : outcomes.find? (settles prospect) = none)
      (last : outcomes.getLast? = some (.failure e)) :
      Ends attempts outcomes (.failure (.exhausted attempts e))

/-- The warning of an attempt that failed, before the pause that comes next. -/
def warning? (operation : String) (number : Nat) (next : Double) :
    Outcome Failure α → Option Log.Entry
  | .failure e =>
      some ⟨.warning, "Retriable error, retrying",
        [("operation", .string operation), ("attempt", .int number), ("next_delay", .float next),
         ("error", .string e.message)]⟩
  | _ => none

/-- The errors that are logged where an operation ends, at an attempt with a number. -/
def errors (operation : String) (number : Nat) : Outcome (GivenUp Failure) α → List Log.Entry
  | .failure (.fatal e) =>
      [⟨.error, "Fatal error, not retrying",
        [("operation", .string operation), ("attempt", .int number),
         ("error", .string e.message)]⟩]
  | .failure (.exhausted attempts e) =>
      [⟨.error, "Retry schedule exhausted",
        [("operation", .string operation), ("attempts", .int attempts),
         ("error", .string e.message)]⟩]
  | _ => []

/-- **What happens on a schedule**, from an attempt with a number on: its pause and those of the
attempts after it are given, and what all of them would meet. -/
structure Course (number : Nat) (first : Double) (later : List Double)
    (outcomes : List (Outcome Failure α)) (events : List Question)
    (result : Outcome (GivenUp Failure) α) : Prop where
  calls : events.countP Question.isCall = made prospect outcomes
  pauses : events.filterMap Question.pause?
    = ((first :: later).take (made prospect outcomes)).filter Double.isPositive
  /-- Each pause comes right before its attempt. -/
  order : events.filter (!·.isNote) = ((first :: later).take (made prospect outcomes)).flatMap steps
  ends : Ends prospect (number + later.length) outcomes result
  /-- There is a warning for each attempt that another one follows, with the pause before that. -/
  warnings : ∀ operation, (logged operation events).filter (·.level = .warning)
    = (((outcomes.zip later).take (made prospect outcomes - 1)).zipIdx number).filterMap fun a =>
        warning? operation a.2 a.1.2 a.1.1
  /-- There is an error if the operation is given up, and none otherwise. -/
  errors : ∀ operation, (logged operation events).filter (·.level = .error)
    = errors operation (number + made prospect outcomes - 1) result

/-! ### One attempt -/

variable {prospect}

theorem made_of_settles {o : Outcome Failure α} (h : settles prospect o = true)
    (outcomes : List (Outcome Failure α)) : made prospect (o :: outcomes) = 1 := by
  simp [made, List.findIdx_cons, h]

theorem made_of_not_settles {o : Outcome Failure α} (h : settles prospect o = false)
    (outcomes : List (Outcome Failure α)) :
    made prospect (o :: outcomes) = made prospect outcomes + 1 := by
  simp [made, List.findIdx_cons, h]

variable (prospect) in
theorem made_pos {outcomes : List (Outcome Failure α)} (h : outcomes ≠ []) :
    0 < made prospect outcomes := by
  have := List.length_pos_iff.2 h
  simp only [made]
  omega

/-- What is asked for an attempt up to its outcome. -/
def asking (number : Nat) (delay : Double) : List Question :=
  (if delay.isPositive then [.pause delay] else []) ++ [.note (.attempt number), .call]

section

variable (number : Nat) (delay : Double)

@[simp] theorem countP_isCall_asking : (asking number delay).countP Question.isCall = 1 := by
  unfold asking
  split <;> simp [Question.isCall]

@[simp] theorem filterMap_pause?_asking :
    (asking number delay).filterMap Question.pause? = [delay].filter Double.isPositive := by
  unfold asking
  split <;> simp [Question.pause?, *]

@[simp] theorem filter_isNote_asking :
    (asking number delay).filter (!·.isNote) = steps delay := by
  unfold asking steps
  split <;> simp [Question.isNote]

@[simp] theorem logged_asking (operation : String) :
    logged operation (asking number delay) = [] := by
  unfold asking logged
  split <;> simp [Question.entry?, Note.entry?]

end

/-! ### Courses -/

section

variable {number : Nat} {first next : Double} {later : List Double}
  {outcomes : List (Outcome Failure α)} {events : List Question}
  {result : Outcome (GivenUp Failure) α} {e : Failure}

/-- The course of an operation that ends with one attempt, after which there are only notes. -/
theorem course_of_last (notes : List (Note Failure)) (one : made prospect outcomes = 1)
    (ends : Ends prospect (number + later.length) outcomes result)
    (logs : ∀ operation, notes.filterMap (Note.entry? operation Failure.message)
      = errors operation number result) :
    Course prospect number first later outcomes (asking number first ++ notes.map .note)
      result := by
  have logs' (operation : String) :
      logged operation (asking number first ++ notes.map .note)
        = errors operation number result := by
    rw [logged_append, logged_asking, List.nil_append, ← logs, logged, List.filterMap_map]
    rfl
  have level (operation : String) :
      ∀ entry ∈ errors operation number result, entry.level = .error := by
    unfold errors
    split <;> simp
  constructor
  · simp [one, List.countP_map, Function.comp_def]
  · simp [one, List.filterMap_map, Function.comp_def]
  · simp [one, List.filter_map, Function.comp_def]
  · exact ends
  · intro operation
    rw [logs', one, List.filter_eq_nil_iff.2]
    · simp
    · intro entry h
      simp [level operation entry h]
  · intro operation
    rw [logs', one, List.filter_eq_self.2]
    · simp
    · intro entry h
      simp [level operation entry h]

/-- **Where an attempt fails with some prospect, the course of the later ones follows it.** -/
theorem Course.cons (h : prospect e = .retriable) (nonempty : outcomes ≠ [])
    (rest : Course prospect (number + 1) next later outcomes events result) :
    Course prospect number first (next :: later) (.failure e :: outcomes)
      (asking number first ++ .note (.retrying number next e) :: events) result := by
  have unsettled : settles prospect (.failure e : Outcome Failure α) = false := by
    simp [settles, h]
  have more := made_of_not_settles unsettled outcomes
  obtain ⟨n, some⟩ := Nat.exists_eq_add_one.2 (made_pos prospect nonempty)
  constructor
  · simp [more, rest.calls, Nat.add_comm]
  · rw [more, List.take_succ_cons, List.filterMap_append, filterMap_pause?_asking,
      List.filterMap_cons_none (Question.pause?_note _), rest.pauses, ← List.filter_append,
      List.singleton_append]
  · simp [more, rest.order]
  · have skip : (Outcome.failure e :: outcomes).find? (settles prospect)
        = outcomes.find? (settles prospect) := by
      rw [List.find?_cons, unsettled]
    have length : number + (next :: later).length = number + 1 + later.length := by
      simp
      omega
    rw [length]
    cases rest.ends with
    | value first => exact .value (skip.trans first)
    | cancelled first => exact .cancelled (skip.trans first)
    | fatal first => exact .fatal (skip.trans first)
    | exhausted none last =>
      refine .exhausted (skip.trans none) ?_
      rw [List.getLast?_cons, last]
      rfl
  · intro operation
    have := rest.warnings operation
    simp only [some, Nat.add_sub_cancel] at this
    simp [more, some, Note.entry?, this, warning?]
  · intro operation
    have := rest.errors operation
    simp only [some] at this
    simp [more, some, Note.entry?, this]
    congr 1
    omega

end

/-! ### Trials -/

namespace Trial

/-- The outcomes of the next calls, so many of them. -/
def outcomes (t : Trial α) (n : Nat) : List (Outcome Failure α) :=
  (List.range n).map fun i => t.script.getD i t.afterwards

/-- What the next call meets. -/
def next (t : Trial α) : Outcome Failure α := t.script.head?.getD t.afterwards

theorem outcomes_succ (t : Trial α) (n : Nat) :
    t.outcomes (n + 1) = t.next :: { t with script := t.script.tail }.outcomes n := by
  simp only [outcomes, List.range_succ_eq_map, List.map_cons, List.map_map]
  cases h : t.script <;> simp [next, h, Function.comp_def]

theorem outcomes_ne_nil (t : Trial α) (n : Nat) : t.outcomes (n + 1) ≠ [] := by
  simp [outcomes_succ]

/-- The same calls meet the same outcomes. -/
theorem outcomes_congr {t u : Trial α} (script : t.script = u.script)
    (afterwards : t.afterwards = u.afterwards) (n : Nat) : t.outcomes n = u.outcomes n := by
  simp [outcomes, script, afterwards]

end Trial

/-- The operation of a trial. -/
def call (α : Type) : Dialogue Question (Answer α) (Outcome Failure α) := say Question.call

section

variable (t : Trial α)

@[simp] theorem run_pause (d : Double) :
    Dialogue.run Trial.answer ((Trial.surroundings α).pause d) t
      = (true, { t with
          clock := t.clock + (d.units?.getD 0).toNat
          pauses := t.pauses ++ [d] }) := rfl

@[simp] theorem run_note (n : Note Failure) :
    Dialogue.run Trial.answer ((Trial.surroundings α).note n) t
      = ((), { t with notes := t.notes ++ [n] }) := rfl

@[simp] theorem run_call :
    Dialogue.run Trial.answer (call α) t
      = (t.next, { t with script := t.script.tail, calls := t.calls ++ [t.clock] }) := by
  obtain ⟨script, _⟩ := t
  cases script <;> rfl

@[simp] theorem asked_pause (d : Double) :
    asked Trial.answer ((Trial.surroundings α).pause d) t = [.pause d] := rfl

@[simp] theorem asked_note (n : Note Failure) :
    asked Trial.answer ((Trial.surroundings α).note n) t = [.note n] := rfl

@[simp] theorem asked_call : asked Trial.answer (call α) t = [.call] := rfl

end

variable (prospect) in
/-- What an attempt with an outcome leaves to be said: the notes, and how the operation is settled
unless another attempt could succeed. -/
def verdict (number : Nat) :
    Outcome Failure α → List (Note Failure) × Except Failure (Outcome (GivenUp Failure) α)
  | .value a => ([], .ok (.value a))
  | .cancelled => ([], .ok .cancelled)
  | .failure e =>
      match prospect e with
      | .retriable => ([], .error e)
      | .fatal => ([.fatal number e], .ok (.failure (.fatal e)))

variable (prospect) in
/-- **One attempt of a trial** takes one outcome from the script. -/
theorem attempt_of_trial (number : Nat) (delay : Double) (t : Trial α) :
    let d := attempt (Trial.surroundings α) prospect (call α) number delay
    (Dialogue.run Trial.answer d t).1 = (verdict prospect number t.next).2 ∧
      asked Trial.answer d t
        = asking number delay ++ (verdict prospect number t.next).1.map Question.note ∧
      (Dialogue.run Trial.answer d t).2.script = t.script.tail ∧
      (Dialogue.run Trial.answer d t).2.afterwards = t.afterwards := by
  intro d
  simp only [d, attempt, asking, verdict, Trial.next]
  cases h : t.script.head?.getD t.afterwards with
  | value | cancelled => split <;> simp [run_bind, asked_bind, asked, Trial.next, h]
  | failure e =>
    cases hp : prospect e <;> split <;>
      simp [run_bind, asked_bind, asked, Trial.next, h, hp]

section

variable {number : Nat} {first : Double} {later : List Double} {o : Outcome Failure α}
  {outcomes : List (Outcome Failure α)} {result : Outcome (GivenUp Failure) α} {e : Failure}

/-- An attempt that settles the operation is the last one. -/
theorem course_of_ok (h : (verdict prospect number o).2 = .ok result) :
    Course prospect number first later (o :: outcomes)
      (asking number first ++ (verdict prospect number o).1.map Question.note) result := by
  have settled : settles prospect o = true := by
    cases o with
    | value | cancelled => rfl
    | failure e => cases hp : prospect e <;> simp [verdict, settles, hp] at h ⊢
  have one := made_of_settles settled outcomes
  have found : (o :: outcomes).find? (settles prospect) = some o := by
    rw [List.find?_cons, settled]
  refine course_of_last _ one ?_ fun operation => ?_
  · cases o with
    | value a => cases h; exact .value found
    | cancelled => cases h; exact .cancelled found
    | failure e =>
      cases hp : prospect e <;> simp only [verdict, hp] at h <;> cases h
      exact .fatal found
  · cases o with
    | value a => cases h; rfl
    | cancelled => cases h; rfl
    | failure e =>
      cases hp : prospect e <;> simp only [verdict, hp] at h <;> cases h
      simp [verdict, hp, Note.entry?, errors]

theorem verdict_eq_error (h : (verdict prospect number o).2 = .error e) :
    o = .failure e ∧ prospect e = .retriable ∧ (verdict prospect number o).1 = [] := by
  cases o with
  | value | cancelled => cases h
  | failure e =>
    cases hp : prospect e <;> simp only [verdict, hp] at h <;> cases h
    simp [verdict, hp]

end

variable (prospect) in
/-- The run of a trial from an attempt with a number on. -/
theorem course_of_runFrom (number : Nat) (first : Double) (later : List Double) (t : Trial α) :
    let d := runFrom (Trial.surroundings α) prospect (call α) number first later
    Course prospect number first later (t.outcomes (later.length + 1)) (asked Trial.answer d t)
      (Dialogue.run Trial.answer d t).1 := by
  -- The induction is on the pauses to come, over all trials: each attempt takes one outcome.
  induction later generalizing number first t with
  | nil =>
    intro d
    obtain ⟨result, events, -, -⟩ := attempt_of_trial prospect number first t
    simp only [d, runFrom, run_bind, asked_bind, result, events, Trial.outcomes_succ]
    cases h : (verdict prospect number t.next).2 with
    | ok outcome => simpa [asked] using course_of_ok h
    | error e =>
      obtain ⟨failed, hp, silent⟩ := verdict_eq_error h
      have unsettled : settles prospect (.failure e : Outcome Failure α) = false := by
        simp [settles, hp]
      have one : made prospect [(.failure e : Outcome Failure α)] = 1 := by
        simp [made]
      have last : Ends prospect number [(.failure e : Outcome Failure α)]
          (.failure (.exhausted number e)) := by
        refine .exhausted ?_ rfl
        simp [unsettled]
      rw [silent, failed]
      simp only [run_bind, asked_bind, run_note, asked_note]
      have course : Course prospect number first [] _ _ (.failure (.exhausted number e)) :=
        course_of_last [.exhausted number e] one last fun operation => rfl
      simpa [Trial.outcomes, asked] using course
  | cons next later ih =>
    intro d
    obtain ⟨result, events, script, afterwards⟩ :=
      attempt_of_trial prospect number first t
    simp only [d, runFrom, run_bind, asked_bind, result, events, Trial.outcomes_succ]
    cases h : (verdict prospect number t.next).2 with
    | ok outcome => simpa [asked] using course_of_ok h
    | error e =>
      obtain ⟨failed, hp, silent⟩ := verdict_eq_error h
      rw [silent, failed]
      simp only [run_bind, asked_bind, run_note, asked_note, List.length_cons, List.map_nil,
        List.append_nil, List.singleton_append]
      refine Course.cons hp (Trial.outcomes_ne_nil _ _) ?_
      have rest (u : Trial α) (hs : u.script = t.script.tail)
          (ha : u.afterwards = t.afterwards) :=
        Trial.outcomes_congr (u := { t with script := t.script.tail }) hs ha (later.length + 1)
          ▸ ih (number + 1) next u
      apply rest
      · exact script
      · exact afterwards

/-- **A trial takes the course that its outcomes give it**, for any schedule, classifier and
script. -/
theorem course_run (prospect : Failure → Prospect) (schedule : Schedule) (start : Trial α) :
    Course prospect 1 schedule.first schedule.later (start.outcomes schedule.attempts)
      (asked Trial.answer (Retry.run (Trial.surroundings α) prospect schedule (call α)) start)
      (start.run prospect schedule).1 :=
  course_of_runFrom prospect 1 schedule.first schedule.later start

end Telemetry.Retry
