import Telemetry.Collector.Page
import Telemetry.Collector.Route
import Telemetry.Ingest
import Telemetry.Metric.Wire
import Telemetry.Signature

/-!
# The collector

The collector answers requests from a store.  A body on one of the three JSON routes is
checked against its signature as it came, then decompressed, and only then read.  What a
store does not expect ends in the answer `internalError`, which nothing is added to.
-/

namespace Telemetry.Collector

open Http

/-- What a collector is configured with. -/
structure Server where
  guard : Guard
  policy : BatchPolicy

/-- What is done for a request; there is no response if something unexpected happens. -/
abbrev Handling := Ingest.Doing (Option Response)

/-! ### Bodies -/

def signatureHeader : String := "HashSHA256"

/-- The refusal of a body, if its signature is refused; none of either if the signature cannot
be compared. -/
def checkSignature (guard : Guard) (request : Request) : Except (Option Response) Unit :=
  if !guard.enabled then .ok ()
  else
    match request.headers.value? signatureHeader with
    | none | some "" => .error (some (.detail 400 ("Missing " ++ signatureHeader ++ " header")))
    | some signature =>
        match guard.verify request.body (some signature) with
        | .accepted => .ok ()
        | .refused => .error (some (.detail 400 ("Invalid " ++ signatureHeader ++ " signature")))
        | .incomparable => .error none

/-- The body of a request, checked and decompressed. -/
def payload (guard : Guard) (request : Request) : Except (Option Response) Bytes := do
  checkSignature guard request
  if holds "gzip" (Text.lower ((request.headers.value? "content-encoding").getD "")) then
    match Gzip.decompress? request.body with
    | some content => pure content
    | none => throw (some (.detail 400 "Invalid gzip body"))
  else pure request.body

/-- A response in JSON, signed if bodies are signed. -/
def signed (guard : Guard) (body : Json) : Response :=
  let r := Response.json 200 body
  match guard.sign r.body with
  | none => r
  | some signature => r.withHeader (Text.lower signatureHeader) signature

/-- The signed response for a reading; there is none for a value that is not finite. -/
def signedReading? (guard : Guard) (r : Reading) : Option Response :=
  match r with
  | .gauge _ value => if value.isFinite then some (signed guard r.toMetric.toJson) else none
  | .counter .. => some (signed guard r.toMetric.toJson)

/-! ### JSON routes -/

/-- Apply one update and answer with the state after it. -/
def update (server : Server) (body : Bytes) : Handling :=
  match Metric.ofBytes body with
  | .error _ => pure (some (.detail 400 "Invalid JSON"))
  | .ok m => do
      match ← Ingest.apply m with
      | .value r => pure (signedReading? server.guard r)
      | .failure (.invalid reason) => pure (some (.detail 400 reason.message))
      | .failure (.storage _) => pure (some (.detail 500 "Storage error"))
      | .failure _ => pure none
      | .cancelled => pure none

def updates (server : Server) (body : Bytes) : Handling :=
  match Snapshot.ofBytes body with
  | .error _ => pure (some (.detail 400 "Invalid JSON"))
  | .ok batch => do
      match ← Ingest.applyBatch server.policy batch with
      | .value batch => pure (some (signed server.guard (.array (batch.map Metric.toJson))))
      | .failure (.invalid reason) => pure (some (.detail 400 reason.message))
      | .failure (.batch failed applied _) =>
          pure (some (.detail 500 ("Storage error during batch update: " ++ toString failed
            ++ " failed, " ++ toString applied ++ " applied")))
      | .failure _ => pure none
      | .cancelled => pure none

/-- The name and the type that are asked for. -/
def query? (body : Bytes) : Option (String × String) :=
  match Json.ofBytes? body with
  | some (.object fields) =>
      match Json.omittable Raw.toText fields "id" "", Json.omittable Raw.toText fields "type" "" with
      | .ok id, .ok type => some (id, type)
      | _, _ => none
  | _ => none

def read (server : Server) (body : Bytes) : Handling :=
  match query? body with
  | none => pure (some (.detail 400 "Invalid JSON"))
  | some (id, type) =>
      if id = "" || type = "" then pure (some (.detail 400 "Missing ID or type"))
      else do
        match ← Ingest.read id (Kind.ofWord? type) with
        | .value (some r) => pure (signedReading? server.guard r)
        | .value none => pure (some (.detail 404 "Metric not found"))
        | .failure (.invalid _) => pure (some (.detail 400 "Unknown metric type"))
        | .failure _ => pure none
        | .cancelled => pure none

/-! ### Plain-text routes -/

/-- The reading that the parts of a path denote, or what is wrong with them. -/
def plainReading (kind name value : String) : Except String Metric :=
  match Kind.ofWord? (Text.lower kind) with
  | some .gauge =>
      match Numeral.anyDouble? value with
      | some x => .ok (Reading.gauge name x).toMetric
      | none => .error "Only Float type for Gauge allowed!"
  | some .counter =>
      match Numeral.anyInt? value with
      | some i => .ok (Reading.counter name i).toMetric
      | none => .error "Only Int type for Counter allowed!"
  | none => .error "Unknown metric type"

/-- Apply one update that is given in the path. -/
def plainUpdate (kind name value : String) : Handling :=
  match plainReading kind name value with
  | .error text => pure (some (.plain 400 text))
  | .ok m => do
      match ← Ingest.apply m with
      | .value _ => pure (some (.plain 200 "OK"))
      | .failure (.invalid reason) => pure (some (.plain 400 reason.message))
      | .failure (.storage _) => pure (some (.plain 500 "Failed to update metric"))
      | .failure _ => pure none
      | .cancelled => pure none

/-- Answer with the value of one metric that is given in the path. -/
def plainRead (kind name : String) : Handling :=
  match Kind.ofWord? (Text.lower kind) with
  | none => pure (some (.plain 404 "Unknown metric type"))
  | some kind => do
      match ← Ingest.read name (some kind) with
      | .value (some r) => pure (some (.plain 200 r.toPlain))
      | .value none => pure (some (.plain 404 "Unknown metric name"))
      | .failure _ => pure none
      | .cancelled => pure none

/-! ### The other routes -/

def overview : Handling := do
  match (← Ingest.ask .getAll : Outcome Ingest.Error (List Reading)) with
  | .value snapshot => pure (some (.html (Page.render snapshot)))
  | .failure _ => pure none
  | .cancelled => pure none

/-- Answer whether the database does. -/
def ping : Handling := do
  match (← Ingest.ask .ping : Outcome Ingest.Error Unit) with
  | .value () => pure (some (.plain 200 "OK"))
  | .failure (.storage _) => pure (some (.plain 500 "Database unavailable"))
  | .failure _ => pure none
  | .cancelled => pure none

/-! ### Requests -/

/-- Handle a body that has been checked. -/
def withPayload (server : Server) (request : Request) (handle : Bytes → Handling) : Handling :=
  match payload server.guard request with
  | .error refusal => pure refusal
  | .ok body => handle body

def onRoute (server : Server) (request : Request) : Route → Handling
  | .overview => overview
  | .ping => ping
  | .update => withPayload server request (update server)
  | .updates => withPayload server request (updates server)
  | .read => withPayload server request (read server)
  | .plainUpdate kind name value => plainUpdate kind name value
  | .plainRead kind name => plainRead kind name

def handle (server : Server) (request : Request) : Handling :=
  match Route.ofPath? request.path with
  | some route =>
      if request.method = route.method then onRoute server request route
      else pure (some ((Response.detail 405 "Method Not Allowed").withHeader "allow" route.method))
  | none =>
      match Route.redirect? request.path with
      | some path => pure (some ⟨307, [("location", Route.location request.host path)], []⟩)
      | none => pure (some (.detail 404 "Not Found"))

/-- The answer when something unexpected happens. -/
def internalError : Response := .detail 500 "Internal server error"

def respond (server : Server) (request : Request) : Ingest.Doing Response := do
  match ← handle server request with
  | some response => pure (response.encoded request)
  | none => pure internalError

end Telemetry.Collector
