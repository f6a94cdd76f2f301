import Telemetry.Agent.Registry
import Telemetry.Agent.Report
import Telemetry.Retry.Trial

/-!
# Trials of an agent

A trial answers what an agent asks from a script of replies, on a clock that stands still, and
records every request, every pause and every log entry.
-/

namespace Telemetry.Agent

/-- How one request is answered. -/
structure Reply where
  outcome : Outcome Failure Http.Response
  /-- The milliseconds until the answer. -/
  delay : Nat := 0
  /-- A sample that is taken while the request is on its way. -/
  sample : Option (List (String × Double)) := none

/-- The response of a collector that accepts everything. -/
def Reply.accepted : Reply := { outcome := .value ⟨200, [], []⟩ }

/-- The state and the record of a trial. -/
structure Trial where
  registry : Registry := .empty
  /-- Whether batches have been given up. -/
  degraded : Bool := false
  /-- The replies to come; later requests are accepted. -/
  script : List Reply := []
  /-- The time in milliseconds. -/
  clock : Nat := 0
  requests : List (Nat × Http.Request) := []
  pauses : List Double := []
  entries : List Log.Entry := []

namespace Trial

def fresh (t : Trial) : Trial := { t with requests := [], pauses := [], entries := [] }

def log (t : Trial) (entry : Log.Entry) : Trial := { t with entries := t.entries ++ [entry] }

/-- Record a request and take its reply off the script. -/
def receive (t : Trial) (request : Http.Request) : Reply × Trial :=
  let reply := t.script.headD .accepted
  let registry :=
    match reply.sample with
    | none => t.registry
    | some sample => t.registry.poll sample
  (reply, { t with
    registry
    script := t.script.drop 1
    requests := t.requests ++ [(t.clock, request)] })

def answer : (call : Call) → Trial → call.Answer × Trial
  | .send request, t => ((t.receive request).1.outcome, (t.receive request).2)
  | .pause seconds, t => (true, { t with pauses := t.pauses ++ [seconds] })
  | .note entry, t => ((), t.log entry)
  | .snapshot, t => (t.registry.snapshot, t)
  | .acknowledge m, t => ((), { t with registry := t.registry.acknowledge m })
  | .degraded, t => (t.degraded, t)
  | .degrade, t => ((), { t with degraded := true })

/-- Do something without waiting. -/
def run (t : Trial) (d : Doing α) : α × Trial := Dialogue.run answer d t

/-! ### Waiting -/

/-- How far something has come: it has ended, or goes on at a later time. -/
inductive Progress (α : Type)
  | ended (result : α)
  | asleep (wake : Nat) (rest : Doing α)

/-- The milliseconds of a pause. -/
def pauseLength (seconds : Double) : Nat :=
  Retry.Trial.milliseconds (seconds.units?.getD 0).toNat

/-- Do something until it has to wait. -/
def drive : Doing α → Trial → Progress α × Trial
  | .done a, t => (.ended a, t)
  | .ask (.pause seconds) next, t =>
      (.asleep (t.clock + pauseLength seconds) (next true),
        { t with pauses := t.pauses ++ [seconds] })
  | .ask (.send request) next, t =>
      let (reply, t) := t.receive request
      if reply.delay = 0 then drive (next reply.outcome) t
      else (.asleep (t.clock + reply.delay) (next reply.outcome), t)
  | .ask call next, t => drive (next (answer call t).1) (answer call t).2

end Trial
end Telemetry.Agent
