import Telemetry.Proofs.Retry

/-!
# The effort that an operation takes

`Tried` says what the attempts of an operation may meet, one after the other, and what comes of them
all: each attempt but the last one fails with some prospect, and the last one settles the operation
or ends the schedule.  Whatever an operation is and whatever answers it, its run on a schedule is an
effort of this kind, and all that is to be told of it is a pause, where there is one, and an attempt,
again and again (`exists_tried`).
-/

namespace Telemetry.Retry

open Dialogue

variable {ε Q α σ D τ : Type} {A : Q → Type}

/-! ### Attempts -/

/-- **What the attempts of an operation meet in turn, and what comes of them**, given the pauses
before the attempts that are left and the number of all attempts there may be. -/
inductive Tried (prospect : ε → Prospect) (attempts : Nat) :
    List Double → List (Outcome ε α) → Outcome (GivenUp ε) α → Prop
  | value (a : α) {delay : Double} {later : List Double} :
      Tried prospect attempts (delay :: later) [.value a] (.value a)
  | cancelled {delay : Double} {later : List Double} :
      Tried prospect attempts (delay :: later) [.cancelled] .cancelled
  | fatal {e : ε} {delay : Double} {later : List Double} (hopeless : prospect e = .fatal) :
      Tried prospect attempts (delay :: later) [.failure e] (.failure (.fatal e))
  | exhausted {e : ε} {delay : Double} (hopeful : prospect e = .retriable) :
      Tried prospect attempts [delay] [.failure e] (.failure (.exhausted attempts e))
  | again {e : ε} {delay next : Double} {later : List Double} {outcomes : List (Outcome ε α)}
      {result : Outcome (GivenUp ε) α} (hopeful : prospect e = .retriable)
      (rest : Tried prospect attempts (next :: later) outcomes result) :
      Tried prospect attempts (delay :: next :: later) (.failure e :: outcomes) result

/-- What is done for attempts with some pauses and outcomes. -/
def course (pausing : Double → D) (trying : Outcome ε α → D) (delays : List Double)
    (outcomes : List (Outcome ε α)) : List D :=
  (delays.zip outcomes).flatMap fun a =>
    (if a.1.isPositive then [pausing a.1] else []) ++ [trying a.2]

theorem course_cons (pausing : Double → D) (trying : Outcome ε α → D) (delay : Double)
    (delays : List Double) (outcome : Outcome ε α) (outcomes : List (Outcome ε α)) :
    course pausing trying (delay :: delays) (outcome :: outcomes)
      = (if delay.isPositive then [pausing delay] else []) ++ trying outcome
        :: course pausing trying delays outcomes := by
  simp [course]

/-- All that is done are pauses and attempts. -/
theorem of_mem_course {pausing : Double → D} {trying : Outcome ε α → D} {delays : List Double}
    {outcomes : List (Outcome ε α)} {deed : D} (h : deed ∈ course pausing trying delays outcomes) :
    (∃ seconds, deed = pausing seconds) ∨ ∃ o ∈ outcomes, deed = trying o := by
  obtain ⟨⟨delay, o⟩, mem, h⟩ := List.mem_flatMap.1 h
  rcases List.mem_append.1 h with h | h
  · split at h
    · exact .inl ⟨delay, List.mem_singleton.1 h⟩
    · cases h
  · exact .inr ⟨o, (List.of_mem_zip mem).2, List.mem_singleton.1 h⟩

/-- What is tried on a schedule, what each attempt meets, and what comes of it all. -/
structure Effort (τ ε α : Type) where
  subject : τ
  outcomes : List (Outcome ε α)
  result : Outcome (GivenUp ε) α

/-- Attempts are made until one settles the matter, or until the schedule ends. -/
def Effort.Full (prospect : ε → Prospect) (schedule : Schedule) (effort : Effort τ ε α) : Prop :=
  Tried prospect schedule.attempts schedule.delays effort.outcomes effort.result

section

variable {prospect : ε → Prospect} {attempts : Nat} {delays : List Double}
  {outcomes : List (Outcome ε α)} {result : Outcome (GivenUp ε) α}

/-- The last outcome that an attempt may have met if this came of it. -/
def last : Outcome (GivenUp ε) α → Outcome ε α
  | .value a => .value a
  | .cancelled => .cancelled
  | .failure (.fatal e) => .failure e
  | .failure (.exhausted _ e) => .failure e

/-- **All attempts but the last one fail with some prospect.** -/
theorem Tried.outcomes_eq (h : Tried prospect attempts delays outcomes result) :
    ∃ before, outcomes = before ++ [last result] ∧
      ∀ o ∈ before, ∃ e, o = .failure e ∧ prospect e = .retriable := by
  induction h with
  | value | cancelled | fatal | exhausted => exact ⟨[], rfl, nofun⟩
  | @again e _ _ _ _ _ hopeful _ ih =>
    obtain ⟨before, rfl, all⟩ := ih
    exact ⟨.failure e :: before, rfl, List.forall_mem_cons.2 ⟨⟨e, rfl, hopeful⟩, all⟩⟩

/-- The last attempt is the last thing that is done. -/
theorem Tried.getLast?_course (h : Tried prospect attempts delays outcomes result)
    (pausing : Double → D) (trying : Outcome ε α → D) :
    (course pausing trying delays outcomes).getLast? = some (trying (last result)) := by
  induction h with
  | value | cancelled | fatal | exhausted => simp [course, last]
  | again hopeful rest ih => rw [course_cons, List.getLast?_append, List.getLast?_cons, ih]; rfl

/-- A schedule is exhausted by a failure with some prospect, in as many attempts as it has. -/
theorem Tried.exhausted_inv {n : Nat} {e : ε} (h : Tried prospect attempts delays outcomes result)
    (exhausted : result = .failure (.exhausted n e)) :
    n = attempts ∧ outcomes.length = delays.length ∧ prospect e = .retriable := by
  induction h with
  | value | cancelled | fatal => cases exhausted
  | exhausted hopeful =>
    cases exhausted
    exact ⟨rfl, rfl, hopeful⟩
  | again _ _ ih =>
    obtain ⟨all, length, hopeful⟩ := ih exhausted
    exact ⟨all, congrArg (· + 1) length, hopeful⟩

end

/-! ### Efforts in turn -/

/-- **Each subject has its turn**, with one effort, up to an effort that breaks off. -/
inductive InTurn (breaks : Effort τ ε α → Bool) : List τ → List (Effort τ ε α) → Prop
  | done : InTurn breaks [] []
  | broken {e : Effort τ ε α} (later : List τ) (h : breaks e = true) :
      InTurn breaks (e.subject :: later) [e]
  | next {e : Effort τ ε α} {later : List τ} {efforts : List (Effort τ ε α)}
      (calm : breaks e = false) (rest : InTurn breaks later efforts) :
      InTurn breaks (e.subject :: later) (e :: efforts)

namespace InTurn

variable {breaks : Effort τ ε α → Bool} {subjects : List τ} {efforts : List (Effort τ ε α)}

/-- The turns are in order. -/
theorem order (h : InTurn breaks subjects efforts) : efforts.map (·.subject) <+: subjects := by
  induction h with
  | done => exact List.nil_prefix
  | broken later => exact List.cons_prefix_cons.2 ⟨rfl, List.nil_prefix⟩
  | next _ _ ih => exact List.cons_prefix_cons.2 ⟨rfl, ih⟩

/-- Where nothing breaks off, every subject has its turn. -/
theorem all (h : InTurn breaks subjects efforts) (calm : ∀ e ∈ efforts, breaks e = false) :
    efforts.map (·.subject) = subjects := by
  induction h with
  | done => rfl
  | broken later breaks => cases breaks.symm.trans (calm _ List.mem_cons_self)
  | next _ _ ih => exact congrArg _ (ih fun e mem => calm e (List.mem_cons_of_mem _ mem))

/-- What breaks off is the last effort, and the only one. -/
theorem exists_before (h : InTurn breaks subjects efforts) {e : Effort τ ε α} (mem : e ∈ efforts)
    (broken : breaks e = true) :
    ∃ before, efforts = before ++ [e] ∧ ∀ e' ∈ before, breaks e' = false := by
  induction h with
  | done => cases mem
  | broken later =>
    cases List.mem_singleton.1 mem
    exact ⟨[], rfl, nofun⟩
  | @next first _ _ calm rest ih =>
    rcases List.mem_cons.1 mem with rfl | mem
    · cases broken.symm.trans calm
    · obtain ⟨before, rfl, calms⟩ := ih mem
      exact ⟨first :: before, rfl, List.forall_mem_cons.2 ⟨calm, calms⟩⟩

end InTurn

/-! ### Runs -/

/-- Surroundings in which pauses go through, and an operation of which only its outcome is to be
told. -/
structure Surroundings.Plain (handler : (q : Q) → σ → A q × σ) (tell : (q : Q) × A q → Option D)
    (around : Surroundings ε Q A) (operation : Dialogue Q A (Outcome ε α)) (pausing : Double → D)
    (trying : Outcome ε α → D) : Prop where
  through : ∀ d s, (Dialogue.run handler (around.pause d) s).1 = true
  pause : ∀ d s, told handler tell (around.pause d) s = [pausing d]
  note : ∀ n s, told handler tell (around.note n) s = []
  once : ∀ s, told handler tell operation s = [trying (Dialogue.run handler operation s).1]

section

variable {handler : (q : Q) → σ → A q × σ} {tell : (q : Q) × A q → Option D}
  {around : Surroundings ε Q A} {operation : Dialogue Q A (Outcome ε α)} {pausing : Double → D}
  {trying : Outcome ε α → D}

/-- Whether an outcome settles an operation, and how. -/
def settled (prospect : ε → Prospect) : Outcome ε α → Except ε (Outcome (GivenUp ε) α)
  | .value a => .ok (.value a)
  | .cancelled => .ok .cancelled
  | .failure e =>
      match prospect e with
      | .retriable => .error e
      | .fatal => .ok (.failure (.fatal e))

theorem tried_of_settled {prospect : ε → Prospect} {attempts : Nat} {delay : Double}
    {later : List Double} {outcome : Outcome ε α} {result : Outcome (GivenUp ε) α}
    (h : settled prospect outcome = .ok result) :
    Tried prospect attempts (delay :: later) [outcome] result := by
  cases outcome with
  | value a => cases h; exact .value a
  | cancelled => cases h; exact .cancelled
  | failure e =>
    cases hp : prospect e <;> simp only [settled, hp] at h <;> cases h
    exact .fatal hp

theorem settled_eq_error {prospect : ε → Prospect} {outcome : Outcome ε α} {e : ε}
    (h : settled prospect outcome = .error e) :
    outcome = .failure e ∧ prospect e = .retriable := by
  cases outcome with
  | value | cancelled => cases h
  | failure e =>
    cases hp : prospect e <;> simp only [settled, hp] at h <;> cases h
    exact ⟨rfl, hp⟩

/-- One attempt has one outcome, after its pause. -/
theorem exists_attempted (plain : around.Plain handler tell operation pausing trying)
    (prospect : ε → Prospect) (number : Nat) (delay : Double) (s : σ) :
    ∃ outcome,
      (Dialogue.run handler (attempt around prospect operation number delay) s).1
        = settled prospect outcome ∧
      told handler tell (attempt around prospect operation number delay) s
        = (if delay.isPositive then [pausing delay] else []) ++ [trying outcome] := by
  -- The pause changes the state, so the outcome is that of the operation in the state after it.
  have paused (steps : Bool → Dialogue Q A (Except ε (Outcome (GivenUp ε) α)))
      (each : ∀ t, ∃ outcome, (Dialogue.run handler (steps true) t).1 = settled prospect outcome ∧
        told handler tell (steps true) t = [trying outcome]) :
      ∃ outcome,
        (Dialogue.run handler (if delay.isPositive then around.pause delay >>= steps
          else pure true >>= steps) s).1 = settled prospect outcome ∧
        told handler tell (if delay.isPositive then around.pause delay >>= steps
          else pure true >>= steps) s
            = (if delay.isPositive then [pausing delay] else []) ++ [trying outcome] := by
    split
    · obtain ⟨outcome, hrun, htold⟩ := each (Dialogue.run handler (around.pause delay) s).2
      refine ⟨outcome, ?_, ?_⟩
      · rw [run_bind, plain.through]
        exact hrun
      · rw [told_bind, plain.pause, plain.through, htold]
    · exact each s
  unfold attempt
  refine paused _ fun t => ?_
  dsimp only
  rw [if_pos rfl]
  generalize hu : (Dialogue.run handler (around.note (.attempt number)) t).2 = u
  refine ⟨(Dialogue.run handler operation u).1, ?_, ?_⟩
  · rw [run_bind, run_bind, hu]
    cases (Dialogue.run handler operation u).1 with
    | value | cancelled => rfl
    | failure e =>
      dsimp only [settled]
      cases prospect e with
      | retriable => rfl
      | fatal => rw [run_bind]; rfl
  · rw [told_bind, plain.note, told_bind, hu, plain.once, List.nil_append]
    cases (Dialogue.run handler operation u).1 with
    | value | cancelled => rfl
    | failure e =>
      dsimp only
      cases prospect e with
      | retriable => rfl
      | fatal =>
        rw [told_bind, plain.note]
        rfl

/-- The run of an operation from an attempt with a number on. -/
theorem exists_tried_from (plain : around.Plain handler tell operation pausing trying)
    (prospect : ε → Prospect) (number : Nat) (first : Double) (later : List Double) (s : σ) :
    ∃ outcomes,
      Tried prospect (number + later.length) (first :: later) outcomes
        (Dialogue.run handler (runFrom around prospect operation number first later) s).1 ∧
      told handler tell (runFrom around prospect operation number first later) s
        = course pausing trying (first :: later) outcomes := by
  -- The induction is on the pauses to come, from any attempt and any state.
  induction later generalizing number first s with
  | nil =>
    obtain ⟨outcome, hrun, htold⟩ := exists_attempted plain prospect number first s
    rw [runFrom, Dialogue.run_bind, told_bind, hrun, htold]
    refine ⟨[outcome], ?_, ?_⟩
    · cases h : settled prospect outcome with
      | ok result => exact tried_of_settled h
      | error e =>
        obtain ⟨rfl, hopeful⟩ := settled_eq_error h
        rw [Dialogue.run_bind]
        exact .exhausted hopeful
    · rw [course_cons, course]
      cases settled prospect outcome with
      | ok result => simp [told, heard]
      | error e =>
        dsimp only
        rw [told_bind, plain.note]
        simp [told, heard]
  | cons next later ih =>
    obtain ⟨outcome, hrun, htold⟩ := exists_attempted plain prospect number first s
    rw [runFrom, Dialogue.run_bind, told_bind, hrun, htold]
    cases h : settled prospect outcome with
    | ok result =>
      refine ⟨[outcome], tried_of_settled h, ?_⟩
      simp [course, told, heard]
    | error e =>
      obtain ⟨rfl, hopeful⟩ := settled_eq_error h
      dsimp only
      rw [Dialogue.run_bind, told_bind, plain.note, List.nil_append]
      obtain ⟨outcomes, htried, hrest⟩ := ih (number + 1) next _
      rw [Nat.add_right_comm] at htried
      refine ⟨.failure e :: outcomes, .again hopeful htried, ?_⟩
      rw [course_cons, hrest, List.append_assoc, List.singleton_append]

/-- **The run of an operation on a schedule is an effort**, and nothing is to be told of it but its
pauses and its attempts. -/
theorem exists_tried (plain : around.Plain handler tell operation pausing trying)
    (prospect : ε → Prospect) (schedule : Schedule) (s : σ) :
    ∃ outcomes,
      Tried prospect schedule.attempts schedule.delays outcomes
        (Dialogue.run handler (run around prospect schedule operation) s).1 ∧
      told handler tell (run around prospect schedule operation) s
        = course pausing trying schedule.delays outcomes := by
  have length : schedule.attempts = 1 + schedule.later.length := Nat.add_comm _ 1
  rw [length]
  exact exists_tried_from plain prospect 1 schedule.first schedule.later s

end

end Telemetry.Retry
