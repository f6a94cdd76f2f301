/-!
# A lock for many readers or one writer

Many tasks may be inside a lock as readers, or one as a writer.  A writer that waits keeps
new readers out, so that reading cannot starve updates.  A task that cannot enter is parked
in a queue.  Leaving wakes the parked tasks; each of them tests for itself, when it is resumed,
whether it may enter, and is parked again at the end of the queue if it may not.

A task that is cancelled while it waits leaves the queue and wakes nobody.
-/

namespace Telemetry

namespace Lock

/-- What a task wants a lock for. -/
inductive Mode
  | read
  | write
  deriving DecidableEq

/-- How far a task has come. -/
inductive Phase
  /-- It sleeps in the queue. -/
  | parked
  /-- It has been woken, and has not run since. -/
  | woken
  | inside
  deriving DecidableEq

/-- A task at a lock. -/
structure Visitor (ι : Type) where
  task : ι
  mode : Mode
  phase : Phase
  deriving DecidableEq

end Lock

/-- The state of a lock. -/
structure Lock (ι : Type) where
  /-- The number of readers inside. -/
  readers : Nat := 0
  /-- Whether a writer is inside. -/
  writing : Bool := false
  /-- The number of writers that wait. -/
  waitingWriters : Nat := 0
  /-- The tasks at the lock; those that sleep stand in the order of the queue. -/
  visitors : List (Lock.Visitor ι) := []
  deriving DecidableEq

namespace Lock

variable {ι : Type} [DecidableEq ι]

/-- Whether a task may enter now. -/
def admits (l : Lock ι) : Mode → Bool
  | .read => !l.writing && l.waitingWriters = 0
  | .write => !l.writing && l.readers = 0

def visitor? (l : Lock ι) (task : ι) : Option (Visitor ι) :=
  l.visitors.find? fun v => v.task = task

def others (l : Lock ι) (task : ι) : List (Visitor ι) :=
  l.visitors.filter fun v => v.task ≠ task

def tasksIn (l : Lock ι) (phase : Phase) : List ι :=
  (l.visitors.filter fun v => v.phase = phase).map (·.task)

def enter (l : Lock ι) : Mode → Lock ι
  | .read => { l with readers := l.readers + 1 }
  | .write => { l with writing := true }

/-- A visitor that is woken if it sleeps. -/
def Visitor.wake (v : Visitor ι) : Visitor ι :=
  match v.phase with
  | .parked => { v with phase := .woken }
  | _ => v

def wakeAll (l : Lock ι) : Lock ι := { l with visitors := l.visitors.map Visitor.wake }

/-- A task comes to the lock: it enters at once or is parked. -/
def arrive (l : Lock ι) (task : ι) (mode : Mode) : Lock ι :=
  if l.admits mode then
    { l.enter mode with visitors := l.visitors ++ [⟨task, mode, .inside⟩] }
  else
    { l with
      waitingWriters := if mode = .write then l.waitingWriters + 1 else l.waitingWriters
      visitors := l.visitors ++ [⟨task, mode, .parked⟩] }

/-- A woken task runs again: it enters, or is parked again at the end of the queue. -/
def resume (l : Lock ι) (task : ι) : Lock ι :=
  match l.visitor? task with
  | some ⟨_, mode, .woken⟩ =>
      if l.admits mode then
        { l.enter mode with
          waitingWriters := if mode = .write then l.waitingWriters - 1 else l.waitingWriters
          visitors := l.visitors.map fun v =>
            if v.task = task then { v with phase := .inside } else v }
      else { l with visitors := l.others task ++ [⟨task, mode, .parked⟩] }
  | _ => l

/-- A task goes out; the last reader out and a writer wake all that sleep. -/
def leave (l : Lock ι) (task : ι) : Lock ι :=
  match l.visitor? task with
  | some ⟨_, .read, .inside⟩ =>
      let l := { l with readers := l.readers - 1, visitors := l.others task }
      if l.readers = 0 then l.wakeAll else l
  | some ⟨_, .write, .inside⟩ => { l with writing := false, visitors := l.others task }.wakeAll
  | _ => l

/-- A task is cancelled: from inside it goes out, and from the queue it disappears. -/
def cancel (l : Lock ι) (task : ι) : Lock ι :=
  match l.visitor? task with
  | some ⟨_, _, .inside⟩ => l.leave task
  | some ⟨_, .read, _⟩ => { l with visitors := l.others task }
  | some ⟨_, .write, _⟩ =>
      { l with waitingWriters := l.waitingWriters - 1, visitors := l.others task }
  | none => l

end Lock
end Telemetry
