import Telemetry.Agent.Trial

/-!
# The life of an agent

Two loops work side by side: one polls and then waits, the other waits and then reports.  Each can
be started and stopped at any time; stopping breaks off what the loop is doing.  A timeline plays
both on a virtual clock.  Of what is due at one moment, the wait that began first ends first.
-/

namespace Telemetry.Agent

/-- A sample, or the reason why there is none. -/
abbrev Sampling := Except String (List (String × Double))

/-- A loop that waits. -/
structure Sleeper (α : Type) where
  /-- When it goes on. -/
  wake : Nat
  /-- How many waits began before this one. -/
  rank : Nat
  /-- What it does then. -/
  rest : α

/-- Whether one wait ends before another. -/
def Sleeper.precedes (a : Sleeper α) (b : Sleeper β) : Bool :=
  a.wake < b.wake || (a.wake = b.wake && a.rank < b.rank)

/-- The state of an agent in time. -/
structure Timeline where
  reporter : Reporter
  /-- Milliseconds from poll to poll. -/
  pollInterval : Nat
  /-- Milliseconds from report to report. -/
  reportInterval : Nat
  trial : Trial := {}
  /-- How many waits have begun. -/
  waits : Nat := 0
  /-- What comes of the polls, and of all polls after them. -/
  samples : List Sampling := []
  laterSample : Sampling := .ok []
  /-- The times of the polls. -/
  polls : List Nat := []
  /-- Whether the agent, the polling and the reporting have been started and not stopped. -/
  running : Bool := false
  polling : Bool := false
  reporting : Bool := false
  pollLoop : Option (Sleeper Unit) := none
  /-- The loop of reports, which begins with a wait and goes on with a report. -/
  reportLoop : Option (Sleeper (Option (Doing (Outcome Failure Nat)))) := none

namespace Timeline

/-- The time in milliseconds. -/
def now (t : Timeline) : Nat := t.trial.clock

def log (t : Timeline) (entry : Log.Entry) : Timeline := { t with trial := t.trial.log entry }

/-- Milliseconds of seconds. -/
def milliseconds (seconds : Int) : Nat := (seconds * 1000).toNat

/-- The agent of some settings before it is started, for a script of replies. -/
def ofSettings (settings : Settings) (script : List Reply) : Except Url.Fault Timeline :=
  (Reporter.ofSettings settings).map fun reporter =>
    { reporter
      pollInterval := milliseconds settings.pollInterval
      reportInterval := milliseconds settings.reportInterval
      trial := { script } }

def fresh (t : Timeline) : Timeline := { t with polls := [], trial := t.trial.fresh }

/-! ### Loops -/

/-- A number of seconds in a log entry. -/
def secondsField (interval : Nat) : String × Json := ("interval", .int (interval / 1000))

def awaitPoll (t : Timeline) (wake : Nat) : Timeline :=
  { t with pollLoop := some ⟨wake, t.waits, ()⟩, waits := t.waits + 1 }

def awaitReport (t : Timeline) (wake : Nat) (rest : Option (Doing (Outcome Failure Nat))) :
    Timeline :=
  { t with reportLoop := some ⟨wake, t.waits, rest⟩, waits := t.waits + 1 }

/-- Start to poll, at once. -/
def startPolling (t : Timeline) : Timeline :=
  if t.polling then t
  else
    { t.awaitPoll t.now with polling := true }.log
      ⟨.info, "Telemetry collector started", [secondsField t.pollInterval]⟩

def stopPolling (t : Timeline) : Timeline :=
  { t with polling := false, pollLoop := none }.log ⟨.info, "Telemetry collector stopped", []⟩

/-- Start to report, after the first wait. -/
def startReporting (t : Timeline) : Timeline :=
  if t.reporting then t
  else
    { t.awaitReport t.now none with reporting := true }.log
      ⟨.info, "Reporter started",
        [secondsField t.reportInterval, ("protocol", .string t.reporter.protocol.word),
         ("fallback", .string t.reporter.fallback.word)]⟩

def stopReporting (t : Timeline) : Timeline :=
  { t with reporting := false, reportLoop := none }.log ⟨.info, "Reporter stopped", []⟩

/-- Take a sample and put it into the registry, then wait. -/
def poll (t : Timeline) : Timeline :=
  let sample := t.samples.headD t.laterSample
  let t := { t.awaitPoll (t.now + t.pollInterval) with
    samples := t.samples.drop 1
    polls := t.polls ++ [t.now] }
  match sample with
  | .ok gauges => { t with trial := { t.trial with registry := t.trial.registry.poll gauges } }
  | .error reason => t.log ⟨.error, "Collection error", [("error", .string reason)]⟩

def awaitNext (t : Timeline) : Timeline :=
  t.awaitReport (t.now + t.reportInterval) (some t.reporter.report)

/-- Go on with a report.  Whatever it comes to, the next one follows after a wait, unless the
report was cancelled. -/
def goOn (t : Timeline) : Option (Doing (Outcome Failure Nat)) → Timeline
  | none => t.awaitNext
  | some rest =>
      let (progress, trial) := Trial.drive rest t.trial
      let t := { t with trial }
      match progress with
      | .asleep wake rest => t.awaitReport wake (some rest)
      | .ended (.value _) => t.awaitNext
      | .ended (.failure f) =>
          t.awaitNext.log ⟨.error, "Report error", [("error", .string f.message)]⟩
      | .ended .cancelled => { t with reportLoop := none }

/-! ### Time -/

def moveTo (t : Timeline) (time : Nat) : Timeline := { t with trial := { t.trial with clock := time } }

/-- Play what happens before a wait ends; `fuel` bounds the number of steps. -/
def playUntil (own : Sleeper Unit) : Nat → Timeline → Timeline
  | 0, t => t.moveTo own.wake
  | fuel + 1, t =>
      match t.pollLoop.filter (·.precedes own), t.reportLoop.filter (·.precedes own) with
      | none, none => t.moveTo own.wake
      | some p, none => playUntil own fuel (t.moveTo p.wake).poll
      | none, some r => playUntil own fuel ((t.moveTo r.wake).goOn r.rest)
      | some p, some r =>
          if p.precedes r then playUntil own fuel (t.moveTo p.wake).poll
          else playUntil own fuel ((t.moveTo r.wake).goOn r.rest)

/-- Wait for some milliseconds.  Every step of a loop but the first takes a millisecond or more. -/
def advance (t : Timeline) (span : Nat) : Timeline :=
  playUntil ⟨t.now + span, t.waits, ()⟩ (2 * span + 4) { t with waits := t.waits + 1 }

/-- Let time pass up to a moment that was waited for before anything else. -/
def advanceTo (t : Timeline) (moment : Nat) : Timeline :=
  playUntil ⟨max t.now moment, 0, ()⟩ (2 * (moment - t.now) + 4) t

/-! ### The whole agent -/

def start (t : Timeline) : Timeline := { t with running := true }.startPolling.startReporting

/-- The agent as it is left when polling cannot be started. -/
def failToStart (t : Timeline) (reason : String) : Timeline :=
  { t with running := true }.log ⟨.error, "Agent failed", [("error", .string reason)]⟩

/-- Stop the agent, if it runs. -/
def stop (t : Timeline) : Timeline :=
  if t.running then { t with running := false }.stopReporting.stopPolling else t

/-- Whether the agent runs, polls and reports. -/
def flags (t : Timeline) : List Bool := [t.running, t.polling, t.reporting]

/-- Look at the flags at some moments, and let time pass until the last one. -/
def watch (t : Timeline) (last : Nat) : List Nat → List (Nat × List Bool) × Timeline
  | [] => ([], t.advanceTo last)
  | moment :: later =>
      if moment ≤ last then
        let t := t.advanceTo moment
        let (seen, t) := watch t last later
        ((moment, t.flags) :: seen, t)
      else watch t last later

/-- Start the agent, look at its flags at some moments, and stop it at the last one.  Reporting is
stopped first, so a poll that is due then is still made. -/
def live (t : Timeline) (last : Nat) (moments : List Nat) : List (Nat × List Bool) × Timeline :=
  let (seen, t) := watch t.start last moments
  let t := if t.pollLoop.any (·.wake ≤ last) then t.poll else t
  (seen, t.stop)

end Timeline
end Telemetry.Agent
