import Telemetry.Http
import Telemetry.Log
import Telemetry.Metric.Wire
import Telemetry.Outcome
import Telemetry.Failure
import Telemetry.Signature
import Telemetry.Url

/-!
# Requests to the collector

A client knows where the collector is and what key they share.  Records go out as one batch, one
by one, or in the plain form, where all is in the path and nothing is compressed or signed.
-/

namespace Telemetry.Agent

/-- Where the collector is, and what bodies are signed with. -/
structure Client where
  url : Url
  guard : Guard

namespace Client

def ofAddress (address : String) (key : Option String) : Except Url.Fault Client :=
  (Url.ofText address).map fun url => ⟨url, .ofKey key⟩

/-- A request to a path below the address of the collector. -/
def post (client : Client) (path : String) (headers : Http.Headers) (body : Bytes) :
    Http.Request :=
  let url := client.url.below path
  { method := "POST", path := String.ofList url.target, headers, body, host := url.server }

/-- A request with a JSON body, which is compressed and then signed. -/
def postJson (client : Client) (path : String) (payload : Bytes) : Http.Request :=
  let body := Gzip.compress payload
  let signature :=
    match client.guard.sign body with
    | none => []
    | some s => [("HashSHA256", s)]
  client.post path
    ([("Content-Type", "application/json"), ("Content-Encoding", "gzip"),
      ("Accept-Encoding", "gzip")] ++ signature)
    body

/-- The request that sends records as a batch. -/
def batchRequest (client : Client) (batch : List Metric) : Http.Request :=
  client.postJson "/updates" (Snapshot.toBytes none batch)

/-- The request that sends one record. -/
def singleRequest (client : Client) (m : Metric) : Http.Request :=
  client.postJson "/update" (Utf8.encode (m.toJson.toText .spaced))

/-- The amount of a record or else its value, in the text of a path. -/
def plainValue (m : Metric) : String :=
  match m.delta, m.value with
  | some n, _ => Text.ofInt n
  | none, some x => x.toText
  | none, none => "None"

/-- The path that says what a record says. -/
def plainPath (m : Metric) : String :=
  "/update/" ++ Percent.encode m.type ++ "/" ++ Percent.encode m.id ++ "/" ++ plainValue m

/-- The request that sends one record in the plain form. -/
def plainRequest (client : Client) (m : Metric) : Http.Request :=
  client.post (plainPath m) [("Content-Type", "text/plain")] []

end Client

/-! ### Sending -/

/-- What an agent asks of its surroundings. -/
inductive Call
  | send (request : Http.Request)
  /-- Wait for some seconds. -/
  | pause (seconds : Double)
  | note (entry : Log.Entry)
  | snapshot
  /-- Take a delivered record off what is there to report. -/
  | acknowledge (m : Metric)
  /-- Look whether batches have been given up. -/
  | degraded
  | degrade

/-- The answers to what an agent asks; a pause may be broken off. -/
def Call.Answer : Call → Type
  | send _ => Outcome Failure Http.Response
  | pause _ => Bool
  | note _ => Unit
  | snapshot => List Metric
  | acknowledge _ => Unit
  | degraded => Bool
  | degrade => Unit

/-- What an agent does, one question at a time. -/
abbrev Doing := Dialogue Call Call.Answer

def ask (call : Call) : Doing call.Answer := Dialogue.say call

/-- Send a request.  Every status but 200 is a failure. -/
def deliver (request : Http.Request) : Doing (Outcome Failure Unit) := do
  match ← ask (.send request) with
  | .value response =>
      if response.status = 200 then pure (.value ())
      else pure (.failure (.response response.status response.text))
  | .failure f => pure (.failure f)
  | .cancelled => pure .cancelled

end Telemetry.Agent
