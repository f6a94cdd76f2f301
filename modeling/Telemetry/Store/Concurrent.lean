import Telemetry.Store

/-!
# Calls at the same time

A crowd is a number of tasks that work on one store at the same time.  A task runs until it
takes a step of the medium or has to wait; then another task goes on.  `Crowd.proceed` is one
such run, and `Crowd.gather` lets the tasks go on first come, first served.
-/

namespace Telemetry.Store

/-- How a task stands that does not run. -/
inductive Standing {S : Type} (A : S → Type) (α : Type)
  /-- It can go on. -/
  | ready (rest : Doing A α)
  /-- It waits at the lock. -/
  | atLock (next : Bool → Doing A α)
  /-- It waits for its turn to write. -/
  | forTurn (next : Bool → Doing A α)
  | ended (result : α)

/-- Tasks at work on one store. -/
structure Crowd {S : Type} (A : S → Type) (α ω : Type) where
  world : World ω
  lock : Lock Nat := {}
  /-- Whether a task has the turn to write. -/
  taken : Bool := false
  /-- The tasks that wait for their turn. -/
  turns : List Nat := []
  tasks : List (Standing A α)
  /-- The tasks that can go on, in order. -/
  queue : List Nat

namespace Crowd

variable {S : Type} {A : S → Type} {α ω : Type}

def stand (c : Crowd A α ω) (i : Nat) (standing : Standing A α) : Crowd A α ω :=
  { c with tasks := c.tasks.set i standing }

def enqueue (c : Crowd A α ω) (tasks : List Nat) : Crowd A α ω :=
  { c with queue := c.queue ++ tasks }

/-- A task leaves the lock, and those that it wakes can go on. -/
def leave (c : Crowd A α ω) (i : Nat) : Crowd A α ω :=
  let lock := c.lock.leave i
  { c with lock }.enqueue ((lock.tasksIn .woken).filter fun j => !(c.lock.tasksIn .woken).contains j)

/-- Run a task up to its next step or wait. -/
def proceed (perform : (s : S) → World ω → A s × ω) (i : Nat) :
    Doing A α → Crowd A α ω → Crowd A α ω
  | .done a, c => c.stand i (.ended a)
  | .ask (.enter mode) next, c =>
      let c := { c with lock := c.lock.arrive i mode }
      if (c.lock.tasksIn .inside).contains i then proceed perform i (next true) c
      else c.stand i (.atLock next)
  | .ask .leave next, c => proceed perform i (next ()) (c.leave i)
  | .ask .takeTurn next, c =>
      if !c.taken && c.turns.isEmpty then proceed perform i (next true) { c with taken := true }
      else { c with turns := c.turns ++ [i] }.stand i (.forTurn next)
  | .ask .endTurn next, c =>
      proceed perform i (next ()) ({ c with taken := false }.enqueue (c.turns.take 1))
  | .ask .contents next, c => proceed perform i (next c.world.contents) c
  | .ask (.setContents contents) next, c =>
      proceed perform i (next ()) { c with world := { c.world with contents } }
  | .ask (.step s) next, c =>
      let (answer, medium) := perform s c.world
      ({ c with world := { c.world with medium } }.stand i (.ready (next answer))).enqueue [i]

/-- Let a task go on that stands. -/
def goOn (perform : (s : S) → World ω → A s × ω) (c : Crowd A α ω) (i : Nat) : Crowd A α ω :=
  match c.tasks[i]? with
  | some (.ready rest) => proceed perform i rest c
  | some (.atLock next) =>
      let c := { c with lock := c.lock.resume i }
      if (c.lock.tasksIn .inside).contains i then proceed perform i (next true) c else c
  | some (.forTurn next) =>
      proceed perform i (next true) { c with taken := true, turns := c.turns.filter (· ≠ i) }
  | _ => c

/-- Let the tasks of the queue go on, at most so many times. -/
def runWithin (perform : (s : S) → World ω → A s × ω) : Nat → Crowd A α ω → Crowd A α ω
  | 0, c => c
  | fuel + 1, c =>
      match c.queue with
      | [] => c
      | i :: queue => runWithin perform fuel (goOn perform { c with queue } i)

/-- The results of the tasks that have ended. -/
def results (c : Crowd A α ω) : List α :=
  c.tasks.filterMap fun
    | .ended a => some a
    | _ => none

/-- Start tasks together and let them go on, at most so many times. -/
def gather (perform : (s : S) → World ω → A s × ω) (fuel : Nat) (tasks : List (Doing A α))
    (world : World ω) : List α × World ω :=
  let c := runWithin perform fuel
    { world, tasks := tasks.map .ready, queue := List.range tasks.length }
  (c.results, c.world)

end Crowd
end Telemetry.Store
