import Telemetry.Proofs.Delivery.Request
import Telemetry.Proofs.Dialogue

/-!
# Responses of a collector

What a collector does for a request comes down to what it does for a record, for a batch or for
neither, and to the response that it makes of the outcome (`respond_updates`, `respond_update`,
`respond_plainUpdate`).  The response has the status 200 exactly where the outcome is a value
(`status_updates`, `status_update`).
-/

namespace Telemetry.Collector

open Http

/-! ### The response as it is sent -/

/-- The response that is sent, if there is one; otherwise something unexpected has happened. -/
def sent (request : Request) : Option Response → Response
  | some response => response.encoded request
  | none => internalError

theorem status_encoded (request : Request) (r : Response) :
    (r.encoded request).status = r.status := by
  unfold Response.encoded
  dsimp only
  split
  · rfl
  · rfl

theorem status_signed (guard : Guard) (body : Json) : (signed guard body).status = 200 := by
  unfold signed
  dsimp only
  split
  · rfl
  · rfl

theorem respond_eq (server : Server) (request : Request) :
    respond server request = handle server request >>= fun response =>
      pure (sent request response) := by
  refine congrArg (handle server request >>= ·) (funext fun response => ?_)
  cases response with
  | none => rfl
  | some response => rfl

/-- What comes of a request is sent. -/
theorem respond_of_handle {α : Type} {server : Server} {request : Request} {d : Ingest.Doing α}
    {after : α → Option Response}
    (handled : handle server request = d >>= fun outcome => pure (after outcome)) :
    respond server request = d >>= fun outcome => pure (sent request (after outcome)) := by
  rw [respond_eq, handled, Dialogue.bind_assoc]
  rfl

/-- What is done on a route, if the method is that of the route. -/
theorem handle_route {server : Server} {request : Request} {route : Route}
    (leads : Route.ofPath? request.path = some route) (method : request.method = route.method) :
    handle server request = onRoute server request route := by
  unfold handle
  rw [leads]
  exact if_pos method

/-! ### Batches -/

/-- The response to a batch, once it has been applied or not. -/
def afterBatch (guard : Guard) : Outcome Ingest.Error (List Metric) → Option Response
  | .value batch => some (signed guard (.array (batch.map Metric.toJson)))
  | .failure (.invalid reason) => some (.detail 400 reason.message)
  | .failure (.batch failed applied _) =>
      some (.detail 500 ("Storage error during batch update: " ++ toString failed
        ++ " failed, " ++ toString applied ++ " applied"))
  | .failure _ => none
  | .cancelled => none

theorem updates_of_read {server : Server} {body : Bytes} {batch : List Metric}
    (read : Snapshot.ofBytes body = .ok batch) :
    updates server body = Ingest.applyBatch server.policy batch >>= fun outcome =>
      pure (afterBatch server.guard outcome) := by
  rw [updates, read]
  refine congrArg (Ingest.applyBatch server.policy batch >>= ·) (funext fun outcome => ?_)
  cases outcome with
  | value => rfl
  | failure e => cases e <;> rfl
  | cancelled => rfl

/-- **A batch that is read is applied, and answered as that goes.** -/
theorem respond_updates {server : Server} {request : Request} {body : Bytes} {batch : List Metric}
    (leads : Route.ofPath? request.path = some .updates) (method : request.method = "POST")
    (accepted : payload server.guard request = .ok body)
    (read : Snapshot.ofBytes body = .ok batch) :
    respond server request = Ingest.applyBatch server.policy batch >>= fun outcome =>
      pure (sent request (afterBatch server.guard outcome)) := by
  apply respond_of_handle
  rw [handle_route leads method]
  show withPayload server request (updates server) = _
  rw [withPayload, accepted]
  exact updates_of_read read

/-- A batch is answered with the status 200 exactly where it has been applied. -/
theorem status_updates (guard : Guard) (request : Request)
    (outcome : Outcome Ingest.Error (List Metric)) :
    (sent request (afterBatch guard outcome)).status = 200 ↔ ∃ batch, outcome = .value batch := by
  constructor
  · intro h
    cases outcome with
    | value batch => exact ⟨batch, rfl⟩
    | failure e =>
      cases e with
      | invalid => rw [afterBatch, sent, status_encoded] at h; cases h
      | batch => rw [afterBatch, sent, status_encoded] at h; cases h
      | storage => cases h
      | unexpected => cases h
    | cancelled => cases h
  · rintro ⟨batch, rfl⟩
    rw [afterBatch, sent, status_encoded, status_signed]

/-! ### Single records -/

/-- The response to a single record, once it has been applied or not. -/
def afterSingle (guard : Guard) : Outcome Ingest.Error Reading → Option Response
  | .value r => signedReading? guard r
  | .failure (.invalid reason) => some (.detail 400 reason.message)
  | .failure (.storage _) => some (.detail 500 "Storage error")
  | .failure _ => none
  | .cancelled => none

theorem update_of_read {server : Server} {body : Bytes} {m : Metric}
    (read : Metric.ofBytes body = .ok m) :
    update server body = Ingest.apply m >>= fun outcome =>
      pure (afterSingle server.guard outcome) := by
  rw [update, read]
  refine congrArg (Ingest.apply m >>= ·) (funext fun outcome => ?_)
  cases outcome with
  | value => rfl
  | failure e => cases e <;> rfl
  | cancelled => rfl

/-- **A single record that is read is applied, and answered as that goes.** -/
theorem respond_update {server : Server} {request : Request} {body : Bytes} {m : Metric}
    (leads : Route.ofPath? request.path = some .update) (method : request.method = "POST")
    (accepted : payload server.guard request = .ok body) (read : Metric.ofBytes body = .ok m) :
    respond server request = Ingest.apply m >>= fun outcome =>
      pure (sent request (afterSingle server.guard outcome)) := by
  apply respond_of_handle
  rw [handle_route leads method]
  show withPayload server request (update server) = _
  rw [withPayload, accepted]
  exact update_of_read read

/-- A reading that is a counter or finite is answered with the status 200. -/
theorem status_update {guard : Guard} {request : Request} {r : Reading}
    (finite : ∀ name value, r = .gauge name value → value.isFinite = true) :
    (sent request (afterSingle guard (.value r))).status = 200 := by
  cases r with
  | gauge name value =>
    rw [afterSingle, signedReading?, if_pos (finite name value rfl), sent, status_encoded,
      status_signed]
  | counter name amount =>
    show ((signed guard _).encoded request).status = 200
    rw [status_encoded, status_signed]

/-- What has not been applied is not answered with the status 200. -/
theorem status_update_ne {guard : Guard} {request : Request} {outcome : Outcome Ingest.Error Reading}
    (h : ∀ r, outcome ≠ .value r) : (sent request (afterSingle guard outcome)).status ≠ 200 := by
  cases outcome with
  | value r => exact absurd rfl (h r)
  | failure e =>
    cases e with
    | invalid => rw [afterSingle, sent, status_encoded]; nofun
    | storage => rw [afterSingle, sent, status_encoded]; nofun
    | batch => nofun
    | unexpected => nofun
  | cancelled => nofun

/-! ### The plain form -/

/-- The response to a single record in the plain form. -/
def afterPlain : Outcome Ingest.Error Reading → Option Response
  | .value _ => some (.plain 200 "OK")
  | .failure (.invalid reason) => some (.plain 400 reason.message)
  | .failure (.storage _) => some (.plain 500 "Failed to update metric")
  | .failure _ => none
  | .cancelled => none

theorem plainUpdate_of_read {kind name value : String} {m : Metric}
    (read : plainReading kind name value = .ok m) :
    plainUpdate kind name value = Ingest.apply m >>= fun outcome => pure (afterPlain outcome) := by
  rw [plainUpdate, read]
  refine congrArg (Ingest.apply m >>= ·) (funext fun outcome => ?_)
  cases outcome with
  | value => rfl
  | failure e => cases e <;> rfl
  | cancelled => rfl

theorem respond_plainUpdate {server : Server} {request : Request} {kind name value : String}
    {m : Metric} (leads : Route.ofPath? request.path = some (.plainUpdate kind name value))
    (method : request.method = "POST") (read : plainReading kind name value = .ok m) :
    respond server request = Ingest.apply m >>= fun outcome =>
      pure (sent request (afterPlain outcome)) := by
  apply respond_of_handle
  rw [handle_route leads method]
  exact plainUpdate_of_read read

theorem status_plainUpdate (request : Request) (outcome : Outcome Ingest.Error Reading) :
    (sent request (afterPlain outcome)).status = 200 ↔ ∃ r, outcome = .value r := by
  constructor
  · intro h
    cases outcome with
    | value r => exact ⟨r, rfl⟩
    | failure e =>
      cases e with
      | invalid => rw [afterPlain, sent, status_encoded] at h; cases h
      | storage => rw [afterPlain, sent, status_encoded] at h; cases h
      | batch => cases h
      | unexpected => cases h
    | cancelled => cases h
  · rintro ⟨r, rfl⟩
    rw [afterPlain, sent, status_encoded]
    rfl

/-! ### Requests that are turned away -/

/-- The collector answers a request without asking its store, and not with the status 200. -/
def TurnsAway (server : Server) (request : Request) : Prop :=
  ∃ response, respond server request = .done response ∧ response.status ≠ 200

theorem turnsAway_of_handle {server : Server} {request : Request} {response : Option Response}
    (handled : handle server request = .done response)
    (status : ∀ r, response = some r → r.status ≠ 200) : TurnsAway server request := by
  refine ⟨sent request response, ?_, ?_⟩
  · rw [respond_eq, handled]
    rfl
  · cases response with
    | none => nofun
    | some r =>
      rw [sent, status_encoded]
      exact status r rfl

/-- A body whose signature is refused, or that is not read, is turned away. -/
theorem turnsAway_of_payload {server : Server} {request : Request} {route : Route}
    {reader : Bytes → Handling} (leads : Route.ofPath? request.path = some route)
    (method : request.method = route.method)
    (checked : onRoute server request route = withPayload server request reader)
    (unread : ∀ body, payload server.guard request = .ok body →
      reader body = .done (some (.detail 400 "Invalid JSON")))
    (refused : ∀ refusal, payload server.guard request = .error refusal →
      ∀ r, refusal = some r → r.status = 400) : TurnsAway server request := by
  cases accepted : payload server.guard request with
  | error refusal =>
    have handled : handle server request = .done refusal := by
      rw [handle_route leads method, checked, withPayload, accepted]
      rfl
    refine turnsAway_of_handle handled fun r hr => ?_
    rw [refused refusal accepted r hr]
    decide
  | ok body =>
    have handled : handle server request = .done (some (.detail 400 "Invalid JSON")) := by
      rw [handle_route leads method, checked, withPayload, accepted]
      exact unread body accepted
    refine turnsAway_of_handle handled fun r hr => ?_
    cases hr
    nofun

/-- What leads nowhere is not found, or sent elsewhere. -/
theorem respond_of_lost (server : Server) {request : Request}
    (lost : Route.ofPath? request.path = none) :
    ∃ response, respond server request = .done response ∧
      (response.status = 307 ∨ response.status = 404) := by
  have responds {response : Response} (handled : handle server request = .done (some response)) :
      respond server request = .done (response.encoded request) := by
    rw [respond_eq, handled]
    rfl
  cases redirect : Route.redirect? request.path with
  | some path =>
    have handled : handle server request
        = .done (some ⟨307, [("location", Route.location request.host path)], []⟩) := by
      unfold handle
      rw [lost, redirect]
      rfl
    exact ⟨_, responds handled, .inl (status_encoded request _)⟩
  | none =>
    have handled : handle server request = .done (some (.detail 404 "Not Found")) := by
      unfold handle
      rw [lost, redirect]
      rfl
    exact ⟨_, responds handled, .inr (status_encoded request _)⟩

/-- What leads nowhere is turned away. -/
theorem turnsAway_of_lost (server : Server) {request : Request}
    (lost : Route.ofPath? request.path = none) : TurnsAway server request := by
  obtain ⟨response, responds, status⟩ := respond_of_lost server lost
  refine ⟨response, responds, fun ok => ?_⟩
  rcases status with status | status
  · cases status.symm.trans ok
  · cases status.symm.trans ok

end Telemetry.Collector
