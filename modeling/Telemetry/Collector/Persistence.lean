import Telemetry.Log
import Telemetry.Store

/-!
# Saving from time to time

A saver saves the store after every interval until it is stopped, and once more then.  With an
interval of zero there is no loop, only the last save.  A save that fails because of storage is
logged and the loop goes on; any other failure breaks the loop, and the next stop ends with it.
-/

namespace Telemetry.Collector

open Store (Error Backend)

inductive Saving
  | save
  | note (entry : Log.Entry)

/-- The answers to what a saver asks.  A save that is under way when the saver is stopped is
cancelled. -/
def Saving.Answer : Saving → Type
  | save => Outcome Error Unit
  | note _ => Unit

/-- What the loop is doing. -/
inductive Loop
  /-- There is none, or it has been cancelled. -/
  | absent
  /-- It waits for its next save. -/
  | waiting
  /-- It ended with a failure. -/
  | broken (error : Error)

/-- A saver. -/
structure Saver where
  backend : Backend
  /-- Seconds between saves. -/
  interval : Int
  running : Bool := false
  loop : Loop := .absent

namespace Saver

/-- What a saver does, one question at a time. -/
abbrev Doing := Dialogue Saving Saving.Answer

def ask (question : Saving) : Doing question.Answer := Dialogue.say question

/-- Whether a save failed because of storage. -/
def isStorage : Error → Bool
  | .storage _ => true
  | .unexpected (.mishap .storage _) => true
  | _ => false

/-- The log entry of a save that failed. -/
def failed (event : String) (error : Error) : Log.Entry :=
  ⟨.error, event, [("error", .string error.message)]⟩

/-- Start the saver, unless it runs. -/
def start (s : Saver) : Doing Saver := do
  if s.running then pure s
  else
    ask (.note ⟨.info, "Persistence service started",
      [("interval", .int s.interval), ("backend", .string s.backend.word)]⟩)
    pure { s with running := true, loop := if 0 < s.interval then .waiting else s.loop }

def tick (s : Saver) : Doing Saver := do
  match ← ask .save with
  | .value () => do
      ask (.note ⟨.debug, "Periodic save completed", []⟩)
      pure s
  | .failure error =>
      if isStorage error then do
        ask (.note (failed "Periodic save failed" error))
        pure s
      else pure { s with loop := .broken error }
  | .cancelled => pure { s with loop := .absent }

/-- The last save. -/
def finish : Doing (Outcome Error Unit) := do
  let stopped : Log.Entry := ⟨.info, "Persistence service stopped", []⟩
  match ← ask .save with
  | .value () => do
      ask (.note stopped)
      pure (.value ())
  | .failure error =>
      if isStorage error then do
        ask (.note (failed "Final save failed" error))
        ask (.note stopped)
        pure (.value ())
      else pure (.failure error)
  | .cancelled => pure .cancelled

/-- Stop the saver.  A loop that ended with a failure ends this stop, too. -/
def stop (s : Saver) : Doing (Outcome Error Unit × Saver) := do
  match s.loop with
  | .broken error => pure (.failure error, { s with running := false })
  | _ => do
      let outcome ← finish
      pure (outcome, { s with running := false, loop := .absent })

end Saver

/-! ### In time -/

/-- A saver on a virtual clock, with a record of its saves and its log. -/
structure SaverTrial where
  saver : Saver
  outcome : Outcome Error Unit := .value ()
  /-- The time in milliseconds. -/
  clock : Nat := 0
  /-- When the loop goes on, if its first wait has begun. -/
  wake : Option Nat := none
  /-- Whether its wait began before the last `advance`. -/
  early : Bool := false
  saves : List Nat := []
  entries : List Log.Entry := []

namespace SaverTrial

def answer : (question : Saving) → SaverTrial → question.Answer × SaverTrial
  | .save, t => (t.outcome, { t with saves := t.saves ++ [t.clock] })
  | .note entry, t => ((), { t with entries := t.entries ++ [entry] })

/-- Milliseconds from save to save. -/
def period (t : SaverTrial) : Nat := (t.saver.interval * 1000).toNat

/-- Start the saver.  The wait of its loop begins when time passes. -/
def start (t : SaverTrial) : SaverTrial :=
  let wake := if t.saver.running then t.wake else none
  let (saver, t) := Dialogue.run answer t.saver.start t
  { t with saver, wake }

def stop (t : SaverTrial) : Outcome Error Unit × SaverTrial :=
  let ((outcome, saver), t) := Dialogue.run answer t.saver.stop t
  (outcome, { t with saver })

def await (t : SaverTrial) : SaverTrial :=
  { t with wake := some (t.clock + t.period), early := false }

/-- The time of the next save, if it comes before a moment; at the moment itself, only a wait that
began early ends. -/
def due? (t : SaverTrial) (moment : Nat) : Option Nat :=
  match t.saver.loop with
  | .waiting => t.wake.filter fun wake => wake < moment || (wake = moment && t.early)
  | _ => none

/-- Play what happens up to a moment; `fuel` bounds the number of saves. -/
def playUntil (moment : Nat) : Nat → SaverTrial → SaverTrial
  | 0, t => { t with clock := moment }
  | fuel + 1, t =>
      match t.due? moment with
      | none => { t with clock := moment }
      | some wake =>
          let (saver, t) := Dialogue.run answer t.saver.tick { t with clock := wake }
          playUntil moment fuel { t with saver }.await

/-- Let some milliseconds pass. -/
def advance (t : SaverTrial) (span : Nat) : SaverTrial :=
  let t := if t.wake.isNone then t.await else { t with early := true }
  playUntil (t.clock + span) (span + 1) t

end SaverTrial
end Telemetry.Collector
