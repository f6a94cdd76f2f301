import Telemetry.Agent.Client
import Telemetry.Agent.Settings
import Telemetry.Retry

/-!
# Reports

A report sends what there is to report and acknowledges exactly what was delivered.  Under the
JSON protocol it tries a batch first and sends the records one by one if the batch fails; under
the sticky policy no batch is tried any more after that.  Every request is tried on a schedule.
A failure that is no failure of a send breaks the report off.
-/

namespace Telemetry.Agent

structure Reporter where
  client : Client
  protocol : Protocol
  fallback : Fallback

namespace Reporter

/-- The reporter that some settings ask for. -/
def ofSettings (settings : Settings) : Except Url.Fault Reporter :=
  (Client.ofAddress settings.baseUrl settings.signingKey).map fun client =>
    ⟨client, settings.protocol, settings.fallback⟩

/-- The surroundings for trying requests again: notes are logged. -/
def surroundings : Retry.Surroundings Failure Call Call.Answer where
  pause seconds := ask (.pause seconds)
  note n :=
    match n.entry? "report" Failure.message with
    | some entry => ask (.note entry)
    | none => pure ()

def tried (request : Http.Request) : Doing (Outcome (Retry.GivenUp Failure) Unit) :=
  Retry.run surroundings Failure.sendProspect .standard (deliver request)

/-- Whether giving up counts as a failed send. -/
def isSendFailure : Retry.GivenUp Failure → Bool
  | .fatal f => f.isSendFailure
  | .exhausted _ _ => true

/-- The failure that breaks a report off. -/
def cause : Retry.GivenUp Failure → Failure
  | .fatal f => f
  | .exhausted _ f => f

/-- The log entry of a batch that failed. -/
def batchFailed (size : Nat) (reason : Retry.GivenUp Failure) : Log.Entry :=
  ⟨.warning, "Batch send failed, falling back to single updates",
    [("size", .int size), ("error", .string (reason.message Failure.message))]⟩

/-- The log entry of a record that could not be sent. -/
def sendFailed (m : Metric) (reason : Retry.GivenUp Failure) : Log.Entry :=
  ⟨.error, "Metric send failed",
    [("metric", .string m.id), ("type", .string m.type),
     ("error", .string (reason.message Failure.message))]⟩

/-- Send one record; tell whether it was delivered. -/
def sendOne (request : Metric → Http.Request) (m : Metric) : Doing (Outcome Failure Bool) := do
  match ← tried (request m) with
  | .value () => do
      ask (.acknowledge m)
      pure (.value true)
  | .failure reason =>
      if isSendFailure reason then do
        ask (.note (sendFailed m reason))
        pure (.value false)
      else pure (.failure (cause reason))
  | .cancelled => pure .cancelled

/-- Send records one by one, and count the delivered ones. -/
def sendEach (request : Metric → Http.Request) : List Metric → Doing (Outcome Failure Nat)
  | [] => pure (.value 0)
  | m :: rest =>
      (sendOne request m).andThen fun delivered =>
        (sendEach request rest).andThen fun n =>
          pure (.value (if delivered then n + 1 else n))

def acknowledgeAll : List Metric → Doing Unit
  | [] => pure ()
  | m :: rest => do
      ask (.acknowledge m)
      acknowledgeAll rest

/-- Send a batch, or its records one by one if that fails.  Under the sticky policy this was
the last batch then. -/
def sendBatch (reporter : Reporter) (batch : List Metric) : Doing (Outcome Failure Nat) := do
  match ← tried (reporter.client.batchRequest batch) with
  | .value () => do
      acknowledgeAll batch
      pure (.value batch.length)
  | .failure reason =>
      if isSendFailure reason then do
        ask (.note (batchFailed batch.length reason))
        if reporter.fallback = .sticky then ask .degrade
        sendEach reporter.client.singleRequest batch
      else pure (.failure (cause reason))
  | .cancelled => pure .cancelled

/-- Make one report; the result is the number of records delivered. -/
def report (reporter : Reporter) : Doing (Outcome Failure Nat) := do
  let batch ← ask .snapshot
  match batch, reporter.protocol with
  | [], _ => pure (.value 0)
  | batch, .plain => sendEach reporter.client.plainRequest batch
  | batch, .json => do
      let degraded ← ask .degraded
      if reporter.fallback = .sticky && degraded then
        sendEach reporter.client.singleRequest batch
      else sendBatch reporter batch

end Reporter
end Telemetry.Agent
