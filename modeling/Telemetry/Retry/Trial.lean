import Telemetry.Retry

/-!
# Trials

A trial runs an operation on a script of outcomes and a virtual clock, and records every
pause, every call with its time, and every note.
-/

namespace Telemetry.Retry

/-- What an operation on a script asks. -/
inductive Question
  | pause (seconds : Double)
  | note (note : Note Failure)
  | call

def Answer (α : Type) : Question → Type
  | .pause _ => Bool
  | .note _ => Unit
  | .call => Outcome Failure α

/-- The record of a trial. -/
structure Trial (α : Type) where
  script : List (Outcome Failure α)
  /-- The outcome of calls past the end of the script. -/
  afterwards : Outcome Failure α
  /-- The time passed, in units of `2⁻¹⁰⁷⁴` seconds. -/
  clock : Nat := 0
  pauses : List Double := []
  calls : List Nat := []
  notes : List (Note Failure) := []

namespace Trial

variable {α : Type}

def answer : (q : Question) → Trial α → Answer α q × Trial α
  | .pause d, t =>
      (true, { t with
        clock := t.clock + (d.units?.getD 0).toNat
        pauses := t.pauses ++ [d] })
  | .note n, t => ((), { t with notes := t.notes ++ [n] })
  | .call, t =>
      let t := { t with calls := t.calls ++ [t.clock] }
      match t.script with
      | [] => (t.afterwards, t)
      | outcome :: script => (outcome, { t with script })

def surroundings (α : Type) : Surroundings Failure Question (Answer α) where
  pause d := Dialogue.say (Question.pause d)
  note n := Dialogue.say (Question.note n)

def run (prospect : Failure → Prospect) (schedule : Schedule) (start : Trial α) :
    Outcome (GivenUp Failure) α × Trial α :=
  Dialogue.run answer
    (Retry.run (surroundings α) prospect schedule (Dialogue.say Question.call)) start

/-- The milliseconds nearest to a time of the clock. -/
def milliseconds (time : Nat) : Nat := Double.divideHalfEven (time * 1000) Double.scale

def entries (operation : String) (t : Trial α) : List Log.Entry :=
  t.notes.filterMap (Note.entry? operation Failure.message)

end Trial
end Telemetry.Retry
