import Telemetry.Lock

/-!
# Sessions at a lock

A session hands tasks to a lock one after the other and lets all of them settle in between.
A task stays inside until it is let go; one that is let go while it waits goes out as soon as
it gets in.
-/

namespace Telemetry.Lock

/-- What happens to a task. -/
inductive Event (ι : Type)
  | arrive (task : ι) (mode : Mode)
  | release (task : ι)
  | cancel (task : ι)

/-- A lock and the tasks that have been let go while they waited. -/
structure Session (ι : Type) where
  lock : Lock ι := {}
  released : List ι := []

namespace Session

variable {ι : Type} [DecidableEq ι]

/-- Whether a task is inside. -/
def isInside (s : Session ι) (task : ι) : Bool := (s.lock.tasksIn .inside).contains task

/-- Let a task out that is inside and has been let go. -/
def letOut (s : Session ι) (task : ι) : Session ι :=
  if s.isInside task && s.released.contains task then
    { lock := s.lock.leave task, released := s.released.filter (· ≠ task) }
  else s

/-- Run the first woken task, if there is one. -/
def step? (s : Session ι) : Option (Session ι) :=
  match s.lock.tasksIn .woken with
  | [] => none
  | task :: _ => some ({ s with lock := s.lock.resume task }.letOut task)

/-- Run woken tasks until there are none. -/
def settleWithin : Nat → Session ι → Session ι
  | 0, s => s
  | fuel + 1, s =>
      match s.step? with
      | none => s
      | some s => settleWithin fuel s

/-- Run woken tasks until there are none.  Each of `n` tasks goes out at most once, and runs at
most once after another has gone out. -/
def settle (s : Session ι) : Session ι :=
  settleWithin ((s.lock.visitors.length + 1) * (s.lock.visitors.length + 1)) s

/-- One event, after which all tasks settle. -/
def handle (s : Session ι) (event : Event ι) : Session ι :=
  settle <|
    match event with
    | .arrive task mode => { s with lock := s.lock.arrive task mode }.letOut task
    | .release task =>
        if (s.lock.visitor? task).isSome then
          { s with released := s.released ++ [task] }.letOut task
        else s
    | .cancel task =>
        { lock := s.lock.cancel task, released := s.released.filter (· ≠ task) }

/-- The tasks that are inside in a mode. -/
def inside (s : Session ι) (mode : Mode) : List ι :=
  (s.lock.visitors.filter fun v => v.phase = .inside ∧ v.mode = mode).map (·.task)

/-- The tasks that wait. -/
def waiting (s : Session ι) : List ι :=
  (s.lock.visitors.filter fun v => v.phase ≠ .inside).map (·.task)

end Session
end Telemetry.Lock
