import Telemetry.Proofs.Lock.Counters

/-!
# Tasks at a lock

A scene is a lock with tasks that run one after the other in any order.  Between two of its
waits a task runs alone, so that what happens at the lock is a list of moves.  A task that is
cancelled does not run at once: it is interrupted, and learns of it when it runs the next time.
What happens in between happens with the task still at its place.

Whatever the order of the moves, and whichever tasks are interrupted, there is never a writer
inside together with anyone else, and the counters of the lock say what the tasks do
(`exclusive_of_legal`).
-/

namespace Telemetry.Lock

variable {ι : Type} [DecidableEq ι]

/-- How far a task at a lock has come. -/
def phase? (l : Lock ι) (task : ι) : Option Phase := (l.visitor? task).map (·.phase)

/-- A lock, and the tasks at it that have been cancelled and have not run since. -/
structure Scene (ι : Type) where
  lock : Lock ι := {}
  interrupted : List ι := []
  deriving DecidableEq

namespace Scene

/-- What can happen next at a lock. -/
inductive Move (ι : Type)
  | arrive (task : ι) (mode : Mode)
  /-- A woken task runs. -/
  | resume (task : ι)
  | leave (task : ι)
  /-- A task is cancelled, wherever it waits. -/
  | interrupt (task : ι)
  /-- A task runs that has been cancelled: it goes away, out of the queue or from inside. -/
  | abandon (task : ι)
  deriving DecidableEq

/-- Whether a move can happen.  A woken task that has been interrupted does not go on. -/
def Enabled (s : Scene ι) : Move ι → Prop
  | .arrive task _ => s.lock.phase? task = none
  | .resume task => s.lock.phase? task = some .woken ∧ task ∉ s.interrupted
  | .leave task => s.lock.phase? task = some .inside
  | .interrupt task => s.lock.phase? task ≠ none
  | .abandon task => s.lock.phase? task ≠ none ∧ task ∈ s.interrupted

def next (s : Scene ι) : Move ι → Scene ι
  | .arrive task mode => { s with lock := s.lock.arrive task mode }
  | .resume task => { s with lock := s.lock.resume task }
  | .leave task =>
      { lock := s.lock.leave task, interrupted := s.interrupted.filter (· ≠ task) }
  | .interrupt task => { s with interrupted := task :: s.interrupted }
  | .abandon task =>
      { lock := s.lock.cancel task, interrupted := s.interrupted.filter (· ≠ task) }

/-- Whether moves can happen one after the other. -/
def Legal : Scene ι → List (Move ι) → Prop
  | _, [] => True
  | s, move :: rest => s.Enabled move ∧ Legal (s.next move) rest

/-- The scene after some moves. -/
def after (s : Scene ι) (moves : List (Move ι)) : Scene ι := moves.foldl next s

instance (s : Scene ι) : DecidablePred s.Enabled
  | .arrive _ _ => inferInstanceAs (Decidable (_ = _))
  | .resume _ => inferInstanceAs (Decidable (_ ∧ _))
  | .leave _ => inferInstanceAs (Decidable (_ = _))
  | .interrupt _ => inferInstanceAs (Decidable (_ ≠ _))
  | .abandon _ => inferInstanceAs (Decidable (_ ∧ _))

instance instDecidableLegal : (s : Scene ι) → (moves : List (Move ι)) → Decidable (s.Legal moves)
  | _, [] => inferInstanceAs (Decidable True)
  | s, move :: rest =>
      have := instDecidableLegal (s.next move) rest
      inferInstanceAs (Decidable (s.Enabled move ∧ Legal (s.next move) rest))

variable {s : Scene ι} {move : Move ι} {moves more : List (Move ι)}

theorem after_append : s.after (moves ++ more) = (s.after moves).after more :=
  List.foldl_append

theorem legal_append :
    s.Legal (moves ++ more) ↔ s.Legal moves ∧ (s.after moves).Legal more := by
  induction moves generalizing s with
  | nil => simp [Legal, after]
  | cons move rest ih =>
    simp only [List.cons_append, Legal, ih, and_assoc]
    exact Iff.rfl

/-- **A move keeps the lock sound**, also that of a task that has been cancelled. -/
theorem sound_next (sound : s.lock.Sound) (enabled : s.Enabled move) :
    (s.next move).lock.Sound := by
  cases move with
  | arrive task mode =>
    have absent : s.lock.visitor? task = none := Option.map_eq_none_iff.1 enabled
    exact sound.arrive absent
  | resume task => exact sound.resume
  | leave task => exact sound.leave
  | interrupt task => exact sound
  | abandon task => exact sound.cancel

/-- A property that every enabled move keeps holds after every legal run. -/
theorem after_induction {p : Scene ι → Prop} (start : p s)
    (step : ∀ s move, p s → s.Enabled move → p (s.next move)) (legal : s.Legal moves) :
    p (s.after moves) := by
  induction moves generalizing s with
  | nil => exact start
  | cons move rest ih =>
    obtain ⟨enabled, legal⟩ := legal
    exact ih (step s move start enabled) legal

theorem sound_after (legal : Legal {} moves) : (after {} moves : Scene ι).lock.Sound :=
  after_induction sound_empty (fun _ _ => sound_next) legal

end Scene

/-- **Writers exclude everyone else, and the counters are right**: whatever tasks come to a lock, in
whatever order they run, and wherever they are cancelled, in the queue, just after they have been
woken or inside. -/
theorem Scene.exclusive_of_legal (moves : List (Scene.Move ι)) (legal : Scene.Legal {} moves) :
    let l := (Scene.after {} moves).lock
    (l.inside .write = 0 ∨ l.inside .write = 1 ∧ l.inside .read = 0) ∧
    l.readers = l.inside .read ∧
    (l.writing = true ↔ ∃ v ∈ l.visitors, v.mode = .write ∧ v.phase = .inside) ∧
    l.waitingWriters = l.queued .write ∧
    (l.visitors.map (·.task)).Nodup := by
  have sound := sound_after legal
  exact ⟨sound.exclusive, sound.readers, sound.writing_iff, sound.waiting, sound.distinct⟩

/-- Tasks that are cancelled asleep (1), just woken (3) and inside (2). -/
def Scene.cancellations : List (Scene.Move Nat) :=
  [.arrive 0 .read, .arrive 1 .write, .arrive 2 .read, .arrive 3 .write, .interrupt 1, .abandon 1,
    .leave 0, .interrupt 3, .abandon 3, .resume 2, .arrive 4 .write, .interrupt 2, .abandon 2,
    .resume 4, .arrive 5 .read]

theorem Scene.exclusive_of_cancellations :
    Scene.Legal {} cancellations ∧
    let l := (Scene.after {} cancellations).lock
    (l.inside .write = 0 ∨ l.inside .write = 1 ∧ l.inside .read = 0) ∧
    l.readers = l.inside .read ∧
    (l.writing = true ↔ ∃ v ∈ l.visitors, v.mode = .write ∧ v.phase = .inside) ∧
    l.waitingWriters = l.queued .write ∧
    (l.visitors.map (·.task)).Nodup :=
  ⟨by decide, exclusive_of_legal cancellations (by decide)⟩

end Telemetry.Lock
