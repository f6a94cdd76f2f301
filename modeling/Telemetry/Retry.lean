import Telemetry.Failure
import Telemetry.Log
import Telemetry.Outcome

/-!
# Trying again

A schedule gives the pause before each attempt, so its length is the number of attempts.  An
operation is tried until it succeeds, is cancelled, fails with no prospect of success, or the
schedule ends.  `Retry.run` is a dialogue over any surroundings that can pause and take notes.
-/

namespace Telemetry

/-- The pauses in seconds before the attempts of an operation. -/
structure Schedule where
  first : Double
  later : List Double

namespace Schedule

def delays (s : Schedule) : List Double := s.first :: s.later

def attempts (s : Schedule) : Nat := s.delays.length

/-- The schedule of a list of pauses, if it has any. -/
def ofList? : List Double → Option Schedule
  | [] => none
  | first :: later => some ⟨first, later⟩

/-- At once, then after one, three and five seconds. -/
def standard : Schedule :=
  ⟨.zero, [Double.ofInt 1, Double.ofInt 3, Double.ofInt 5]⟩

end Schedule

namespace Retry

/-- What is noted while an operation is tried. -/
inductive Note (ε : Type)
  /-- An attempt begins. -/
  | attempt (number : Nat)
  /-- No further attempt is worth while. -/
  | fatal (number : Nat) (error : ε)
  /-- Another attempt follows after a pause. -/
  | retrying (number : Nat) (nextDelay : Double) (error : ε)
  /-- The schedule has ended. -/
  | exhausted (attempts : Nat) (error : ε)

/-- Why an operation was given up. -/
inductive GivenUp (ε : Type)
  | fatal (error : ε)
  | exhausted (attempts : Nat) (last : ε)
  deriving DecidableEq

/-- What is said when an operation is given up. -/
def GivenUp.message (describe : ε → String) : GivenUp ε → String
  | fatal error => describe error
  | exhausted attempts last =>
      "failed after " ++ toString attempts ++ " attempts: " ++ describe last

/-- The log entry of a note, if it has one. -/
def Note.entry? (operation : String) (describe : ε → String) : Note ε → Option Log.Entry
  | attempt _ => none
  | fatal number error =>
      some ⟨.error, "Fatal error, not retrying",
        [("operation", .string operation), ("attempt", .int number),
         ("error", .string (describe error))]⟩
  | retrying number nextDelay error =>
      some ⟨.warning, "Retriable error, retrying",
        [("operation", .string operation), ("attempt", .int number),
         ("next_delay", .float nextDelay), ("error", .string (describe error))]⟩
  | exhausted attempts error =>
      some ⟨.error, "Retry schedule exhausted",
        [("operation", .string operation), ("attempts", .int attempts),
         ("error", .string (describe error))]⟩

/-- What surroundings must offer to operations that are tried again. -/
structure Surroundings (ε : Type) (Q : Type) (A : Q → Type) where
  /-- Wait for some seconds; the answer says whether the wait went through. -/
  pause : Double → Dialogue Q A Bool
  /-- Take a note. -/
  note : Note ε → Dialogue Q A Unit

variable {ε Q α : Type} {A : Q → Type}

/-- One attempt after its pause.  The result is an error if another attempt could succeed,
and settles the operation otherwise. -/
def attempt (around : Surroundings ε Q A) (prospect : ε → Prospect)
    (operation : Dialogue Q A (Outcome ε α)) (number : Nat) (delay : Double) :
    Dialogue Q A (Except ε (Outcome (GivenUp ε) α)) := do
  let through ← if delay.isPositive then around.pause delay else pure true
  if through then
    around.note (.attempt number)
    match ← operation with
    | .value a => pure (.ok (.value a))
    | .cancelled => pure (.ok .cancelled)
    | .failure error =>
        match prospect error with
        | .retriable => pure (.error error)
        | .fatal => do
            around.note (.fatal number error)
            pure (.ok (.failure (.fatal error)))
  else pure (.ok .cancelled)

/-- The attempt with a number, and those after it. -/
def runFrom (around : Surroundings ε Q A) (prospect : ε → Prospect)
    (operation : Dialogue Q A (Outcome ε α)) (number : Nat) (delay : Double) :
    List Double → Dialogue Q A (Outcome (GivenUp ε) α)
  | [] => do
      match ← attempt around prospect operation number delay with
      | .ok outcome => pure outcome
      | .error error => do
          around.note (.exhausted number error)
          pure (.failure (.exhausted number error))
  | next :: later => do
      match ← attempt around prospect operation number delay with
      | .ok outcome => pure outcome
      | .error error => do
          around.note (.retrying number next error)
          runFrom around prospect operation (number + 1) next later

def run (around : Surroundings ε Q A) (prospect : ε → Prospect) (schedule : Schedule)
    (operation : Dialogue Q A (Outcome ε α)) : Dialogue Q A (Outcome (GivenUp ε) α) :=
  runFrom around prospect operation 1 schedule.first schedule.later

end Retry
end Telemetry
