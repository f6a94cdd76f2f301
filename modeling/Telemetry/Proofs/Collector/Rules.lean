import Telemetry.Proofs.Collector.Signed
import Telemetry.Proofs.Ingest
import Telemetry.Proofs.Store.Ideal

/-!
# The rules by which a collector answers

`ruledStatus` gives the status of the answer to a request from the contents of the store alone:
updates are stored or are a bad request, a metric is found or not, and a body that is not signed,
not decompressed or not read is a bad request.  At a store that does not fail a collector keeps to
these rules on every route (`status_onRoute`), unless it is to compare a signature that holds a
character outside ASCII.
-/

namespace Telemetry

open Dialogue
open Store (AtWork Call ideal)

/-! ### Readings that are stored one after the other -/

/-- The value of a gauge is finite. -/
def Reading.Finite : Reading → Prop
  | gauge _ value => value.isFinite = true
  | counter .. => True

namespace Contents

/-- The contents after readings have been stored, if none takes a counter out of its range. -/
def storeAll (c : Contents) : List Reading → Except Store.Error Contents
  | [] => .ok c
  | r :: later =>
      match (Ingest.callOf r).effect c with
      | .ok after => after.storeAll later
      | .error e => .error e

theorem storeAll_of_ok {c after : Contents} {r : Reading}
    (h : (Ingest.callOf r).effect c = .ok after) (later : List Reading) :
    c.storeAll (r :: later) = after.storeAll later := by
  rw [storeAll, h]

theorem storeAll_of_error {c : Contents} {r : Reading} {e : Store.Error}
    (h : (Ingest.callOf r).effect c = .error e) (later : List Reading) :
    c.storeAll (r :: later) = .error e := by
  rw [storeAll, h]

/-- The state of a metric, if it has one. -/
def find? (c : Contents) (name : String) : Kind → Option Reading
  | .gauge => (c.gauges.get? name).map (.gauge name)
  | .counter => (c.counters.get? name).map (.counter name)

/-- All gauges have finite values. -/
def Finite (c : Contents) : Prop :=
  ∀ name value, c.gauges.get? name = some value → value.isFinite = true

end Contents

namespace Ingest

/-- The state of a metric after its reading has been stored. -/
def stateIn (c : Contents) : Reading → Reading
  | .gauge name value => .gauge name value
  | .counter name amount => .counter name ((c.counters.get? name).getD amount)

theorem ideal_update {α : Type} (r : Reading) (f : Outcome Error Unit → Doing α) (c : Contents) :
    run ideal (update r >>= f) c =
      match (callOf r).effect c with
      | .ok after => run ideal (f (.value ())) after
      | .error e => run ideal (f (.failure (Error.ofStore e))) c := by
  rw [update_bind, run, ideal]
  cases h : (callOf r).effect c with
  | ok after => rfl
  | error e => rfl

theorem ideal_stateAfter (r : Reading) (c : Contents) :
    (run ideal (stateAfter r) c).1 = .value (stateIn c r) := by
  cases r with
  | gauge => rfl
  | counter => rfl

/-- The only refusal of a store is that of a counter that would leave its range. -/
theorem ofStore_of_effect {call : Call} {c : Contents} {e : Store.Error}
    (h : call.effect c = .error e) : ∃ name, Error.ofStore e = .invalid (.overflow name) := by
  obtain ⟨name, rfl, -⟩ := Store.Call.effect_eq_error h
  exact ⟨name, rfl⟩

/-- What becomes of an update at a store that does not fail. -/
inductive Applied (c : Contents) (r : Reading) : Outcome Error Reading → Prop
  | stored {after : Contents} (h : c.storeAll [r] = .ok after) :
      Applied c r (.value (stateIn after r))
  | refused {e : Store.Error} (h : c.storeAll [r] = .error e) (reason : Invalid) :
      Applied c r (.failure (.invalid reason))

theorem applied_apply {m : Metric} {r : Reading} (h : m.reading = .ok r) (c : Contents) :
    Applied c r (run ideal (apply m) c).1 := by
  rw [apply, h]
  dsimp only
  rw [Dialogue.andThen, ideal_update]
  cases effect : (callOf r).effect c with
  | ok after =>
    dsimp only
    rw [ideal_stateAfter]
    exact .stored (Contents.storeAll_of_ok effect [])
  | error e =>
    obtain ⟨name, invalid⟩ := ofStore_of_effect effect
    dsimp only
    rw [invalid]
    exact .refused (Contents.storeAll_of_error effect []) _

/-- What becomes of readings at a store that does not fail. -/
inductive AppliedAll (c : Contents) (readings : List Reading) {α : Type} (value : α) :
    Outcome Error α → Prop
  | stored {after : Contents} (h : c.storeAll readings = .ok after) :
      AppliedAll c readings value (.value value)
  | refused {e : Store.Error} (h : c.storeAll readings = .error e) (reason : Invalid) :
      AppliedAll c readings value (.failure (.invalid reason))

theorem applied_updateAll (policy : BatchPolicy) (readings : List Reading) (c : Contents)
    (p : Progress) :
    AppliedAll c readings { p with applied := p.applied + readings.length }
      (run ideal (updateAll policy readings p) c).1 := by
  induction readings generalizing c p with
  | nil => exact .stored rfl
  | cons r later ih =>
    have counted : { p.success with applied := p.success.applied + later.length }
        = { p with applied := p.applied + (r :: later).length } := by
      simp [Progress.success, Nat.add_comm, Nat.add_left_comm]
    rw [updateAll_cons, ideal_update]
    cases effect : (callOf r).effect c with
    | ok after =>
      have rest := ih after p.success
      rw [counted] at rest
      dsimp only [goOn]
      have all := Contents.storeAll_of_ok effect later
      generalize (run ideal (updateAll policy later p.success) after).1 = outcome at rest
      cases rest with
      | stored h => exact .stored (all.trans h)
      | refused h reason => exact .refused (all.trans h) reason
    | error e =>
      obtain ⟨name, invalid⟩ := ofStore_of_effect effect
      dsimp only
      rw [invalid]
      exact .refused (Contents.storeAll_of_error effect later) _

theorem applied_applyBatch (policy : BatchPolicy) {batch : List Metric} {readings : List Reading}
    (h : Metric.readings batch = .ok readings) (c : Contents) :
    AppliedAll c readings batch (run ideal (applyBatch policy batch) c).1 := by
  have all := applied_updateAll policy readings c {}
  rw [applyBatch, h]
  dsimp only
  rw [Dialogue.andThen, run_bind]
  generalize run ideal (updateAll policy readings {}) c = result at all
  obtain ⟨outcome, after⟩ := result
  cases all with
  | stored h => exact .stored h
  | refused h reason => exact .refused h reason

end Ingest

namespace Collector

open Http

/-! ### The status of an answer -/

/-- The status of a response, if there is one. -/
def statusOf : Option Response → Nat
  | some response => response.status
  | none => 500

theorem status_sent (request : Request) (response : Option Response) :
    (sent request response).status = statusOf response := by
  cases response with
  | none => rfl
  | some response => exact status_encoded request response

/-- The rule for updates: they are stored, or they are a bad request. -/
def updateStatus (c : Contents) : Option (List Reading) → Nat
  | some readings => if (c.storeAll readings).isOk then 200 else 400
  | none => 400

/-- What a record in a body says. -/
def single? (body : Bytes) : Option (List Reading) :=
  (Metric.ofBytes body).toOption.bind fun m => m.reading.toOption.map ([·])

/-- What the records in a body say. -/
def batch? (body : Bytes) : Option (List Reading) :=
  (Snapshot.ofBytes body).toOption.bind fun batch => (Metric.readings batch).toOption

/-- What a path says. -/
def plain? (kind name value : String) : Option (List Reading) :=
  (plainReading kind name value).toOption.bind fun m => m.reading.toOption.map ([·])

/-- The rule for a metric that is asked for in a body. -/
def queryStatus (c : Contents) (body : Bytes) : Nat :=
  match query? body with
  | none => 400
  | some (id, type) =>
      if id = "" || type = "" then 400
      else
        match Kind.ofWord? type with
        | none => 400
        | some kind => if (c.find? id kind).isSome then 200 else 404

/-- The content of a body, which may be compressed. -/
def content? (request : Request) : Option Bytes :=
  if holds "gzip" (Text.lower ((request.headers.value? "content-encoding").getD "")) then
    Gzip.decompress? request.body
  else some request.body

/-- The rule for bodies: one that is not signed or not decompressed is a bad request. -/
def bodyStatus (guard : Guard) (request : Request) (status : Bytes → Nat) : Nat :=
  if guard.enabled = true ∧ ¬ Signed guard request then 400
  else
    match content? request with
    | none => 400
    | some body => status body

/-- **The rules by which a collector answers**, given the contents of its store. -/
def ruledStatus (guard : Guard) (c : Contents) (request : Request) : Route → Nat
  | .update => bodyStatus guard request fun body => updateStatus c (single? body)
  | .updates => bodyStatus guard request fun body => updateStatus c (batch? body)
  | .read => bodyStatus guard request (queryStatus c)
  | .plainUpdate kind name value => updateStatus c (plain? kind name value)
  | .plainRead kind name =>
      match Kind.ofWord? (Text.lower kind) with
      | none => 404
      | some kind => if (c.find? name kind).isSome then 200 else 404
  | .overview | .ping => 200

/-! ### The status on each route -/

variable {server : Server} {c : Contents}

theorem updateStatus_of_ok {readings : List Reading} {after : Contents}
    (h : c.storeAll readings = .ok after) : updateStatus c (some readings) = 200 := by
  rw [updateStatus, h]
  rfl

theorem updateStatus_of_error {readings : List Reading} {e : Store.Error}
    (h : c.storeAll readings = .error e) : updateStatus c (some readings) = 400 := by
  rw [updateStatus, h]
  rfl

theorem statusOf_signedReading? (guard : Guard) {r : Reading} (finite : r.Finite) :
    statusOf (signedReading? guard r) = 200 := by
  cases r with
  | gauge name value =>
    have finite : value.isFinite = true := finite
    rw [signedReading?, if_pos finite]
    exact status_signed guard _
  | counter name amount => exact status_signed guard _

/-- The state of a metric after an update that is well formed is finite. -/
theorem finite_stateIn {r : Reading} (sound : r.Sound) : (Ingest.stateIn c r).Finite := by
  cases r with
  | gauge => exact sound.2
  | counter => trivial

/-- A record that is applied, or is not, is answered by the rule for updates. -/
theorem status_apply {m : Metric} (after : Outcome Ingest.Error Reading → Option Response)
    (good : ∀ r : Reading, r.Finite → statusOf (after (.value r)) = 200)
    (bad : ∀ reason, statusOf (after (.failure (.invalid reason))) = 400) :
    statusOf (after (run ideal (Ingest.apply m) c).1)
      = updateStatus c (m.reading.toOption.map ([·])) := by
  cases h : m.reading with
  | error reason =>
    rw [Ingest.apply, h]
    exact bad reason
  | ok r =>
    have sound := (Metric.toMetric_of_reading h).2
    have applied := Ingest.applied_apply h c
    generalize (run ideal (Ingest.apply m) c).1 = outcome at applied
    cases applied with
    | stored h =>
      rw [good _ (finite_stateIn sound)]
      exact (updateStatus_of_ok h).symm
    | refused h reason =>
      rw [bad reason]
      exact (updateStatus_of_error h).symm

theorem status_update_ideal (body : Bytes) :
    statusOf (run ideal (update server body) c).1 = updateStatus c (single? body) := by
  cases read : Metric.ofBytes body with
  | error issues =>
    rw [update, single?, read]
    rfl
  | ok m =>
    rw [update_of_read read, single?, read, run_bind]
    exact status_apply (afterSingle server.guard)
      (fun _ finite => statusOf_signedReading? server.guard finite) fun _ => rfl

theorem status_updates_ideal (body : Bytes) :
    statusOf (run ideal (updates server body) c).1 = updateStatus c (batch? body) := by
  cases read : Snapshot.ofBytes body with
  | error issues =>
    rw [updates, batch?, read]
    rfl
  | ok batch =>
    rw [updates_of_read read, batch?, read, run_bind]
    show _ = updateStatus c (Metric.readings batch).toOption
    cases h : Metric.readings batch with
    | error reason =>
      have unread : Ingest.applyBatch server.policy batch = .done (.failure (.invalid reason)) := by
        rw [Ingest.applyBatch, h]
        rfl
      rw [unread]
      rfl
    | ok readings =>
      have applied := Ingest.applied_applyBatch server.policy h c
      generalize (run ideal (Ingest.applyBatch server.policy batch) c).1 = outcome at applied
      cases applied with
      | stored h =>
        refine Eq.trans ?_ (updateStatus_of_ok h).symm
        exact status_signed server.guard _
      | refused h reason => exact (updateStatus_of_error h).symm

/-- What is looked up is the state of the metric. -/
theorem ideal_read (name : String) (kind : Kind) (c : Contents) :
    (run ideal (Ingest.read name (some kind)) c).1 = .value (c.find? name kind) := by
  cases kind <;> rfl

theorem status_plainUpdate_ideal (kind name value : String) :
    statusOf (run ideal (plainUpdate kind name value) c).1
      = updateStatus c (plain? kind name value) := by
  cases read : plainReading kind name value with
  | error text =>
    rw [plainUpdate, plain?, read]
    rfl
  | ok m =>
    rw [plainUpdate_of_read read, plain?, read, run_bind]
    exact status_apply afterPlain (fun _ _ => rfl) fun _ => rfl

theorem status_plainRead_ideal (kind name : String) :
    statusOf (run ideal (plainRead kind name) c).1
      = match Kind.ofWord? (Text.lower kind) with
        | none => 404
        | some kind => if (c.find? name kind).isSome then 200 else 404 := by
  unfold plainRead
  cases Kind.ofWord? (Text.lower kind) with
  | none => rfl
  | some kind =>
    dsimp only
    rw [run_bind, ideal_read]
    cases c.find? name kind with
    | none => rfl
    | some r => rfl

/-- In contents with finite values only, what is found can be written. -/
theorem finite_of_find? (finite : c.Finite) {name : String} {kind : Kind} {r : Reading}
    (found : c.find? name kind = some r) : r.Finite := by
  cases kind with
  | gauge =>
    obtain ⟨value, stored, rfl⟩ := Option.map_eq_some_iff.1 found
    exact finite name value stored
  | counter =>
    obtain ⟨sum, -, rfl⟩ := Option.map_eq_some_iff.1 found
    trivial

theorem status_read_ideal (finite : c.Finite) (body : Bytes) :
    statusOf (run ideal (read server body) c).1 = queryStatus c body := by
  unfold read queryStatus
  cases query? body with
  | none => rfl
  | some query =>
    obtain ⟨id, type⟩ := query
    dsimp only
    split
    next => rfl
    next =>
      cases Kind.ofWord? type with
      | none => rfl
      | some kind =>
        dsimp only
        rw [run_bind, ideal_read]
        cases found : c.find? id kind with
        | none => rfl
        | some r => exact statusOf_signedReading? server.guard (finite_of_find? finite found)

/-! ### Signatures that cannot be compared -/

/-- Bodies are checked, and the signature of a request, in the form in which it would be compared,
holds a character that is not of ASCII. -/
def Incomparable (guard : Guard) (request : Request) : Prop :=
  guard.enabled = true ∧
    ∃ signature, request.headers.value? signatureHeader = some signature ∧
      (Guard.normal signature).toList.all Text.isAscii = false

variable {guard : Guard} {request : Request}

theorem Incomparable.not_signed (incomparable : Incomparable guard request) :
    ¬ Signed guard request := by
  obtain ⟨-, signature, given, foreign⟩ := incomparable
  rintro ⟨other, given', same⟩
  cases given.symm.trans given'
  rw [same, guard.isAscii_code request.body] at foreign
  cases foreign

theorem Incomparable.turnedDown (incomparable : Incomparable guard request) :
    turnedDown (request.headers.value? signatureHeader) = none := by
  obtain ⟨-, signature, given, foreign⟩ := incomparable
  have nonempty : signature ≠ "" := by
    rintro rfl
    exact absurd foreign (by decide)
  rw [given, Collector.turnedDown, if_neg nonempty, if_neg (by simp [foreign])]

/-- A request is turned down as a bad one, unless its signature cannot be compared. -/
theorem status_turnedDown (enabled : guard.enabled = true)
    (comparable : ¬ Incomparable guard request) :
    statusOf (turnedDown (request.headers.value? signatureHeader)) = 400 := by
  cases given : request.headers.value? signatureHeader with
  | none => rfl
  | some signature =>
    have ascii : (Guard.normal signature).toList.all Text.isAscii = true := by
      refine Bool.of_not_eq_false fun foreign => ?_
      exact comparable ⟨enabled, signature, given, foreign⟩
    rw [turnedDown, ascii]
    split <;> rfl

theorem payload_of_accepted (accepted : checkSignature guard request = .ok ()) :
    payload guard request =
      match content? request with
      | some body => .ok body
      | none => .error (some (.detail 400 "Invalid gzip body")) := by
  rw [payload, accepted, content?]
  dsimp only [bind, Except.bind]
  split
  next => cases Gzip.decompress? request.body <;> rfl
  next => rfl

/-- A request is answered by the rules unless it trips the collector: the rules then call it a bad
request, and it is answered as an internal error. -/
def AnsweredBy (trips : Prop) (ruled status : Nat) : Prop :=
  (¬ trips → status = ruled) ∧ (trips → status = 500 ∧ ruled = 400)

theorem status_withPayload (server : Server) (request : Request) {reader : Bytes → Handling}
    {status : Bytes → Nat}
    (ruled : ∀ body, statusOf (run ideal (reader body) c).1 = status body) :
    AnsweredBy (Incomparable server.guard request) (bodyStatus server.guard request status)
      (statusOf (run ideal (withPayload server request reader) c).1) := by
  by_cases unsigned : server.guard.enabled = true ∧ ¬ Signed server.guard request
  case pos =>
    rw [withPayload, payload_of_unsigned unsigned.1 unsigned.2, bodyStatus, if_pos unsigned]
    refine ⟨status_turnedDown unsigned.1, fun incomparable => ⟨?_, rfl⟩⟩
    rw [incomparable.turnedDown]
    rfl
  case neg =>
    have accepted : checkSignature server.guard request = .ok () := by
      cases enabled : server.guard.enabled with
      | false => exact checkSignature_of_disabled enabled
      | true =>
        refine checkSignature_of_signed (Decidable.of_not_not fun h => unsigned ⟨enabled, h⟩)
    have comparable (incomparable : Incomparable server.guard request) : False :=
      unsigned ⟨incomparable.1, incomparable.not_signed⟩
    refine ⟨fun _ => ?_, fun incomparable => (comparable incomparable).elim⟩
    rw [withPayload, payload_of_accepted accepted, bodyStatus, if_neg unsigned]
    cases content? request with
    | none => rfl
    | some body => exact ruled body

/-! ### The status on any route -/

/-- Bodies are looked at on the route of a request, and its signature cannot be compared. -/
def Trips (guard : Guard) (request : Request) (route : Route) : Prop :=
  route.IsJson ∧ Incomparable guard request

theorem trips_iff {route : Route} (json : route.IsJson) :
    Trips guard request route ↔ Incomparable guard request :=
  and_iff_right json

theorem answeredBy_of_eq {route : Route} (other : ¬ route.IsJson) {ruled status : Nat}
    (same : status = ruled) : AnsweredBy (Trips guard request route) ruled status :=
  ⟨fun _ => same, fun trips => absurd trips.1 other⟩

theorem status_onRoute (finite : c.Finite) (server : Server) (request : Request) (route : Route) :
    AnsweredBy (Trips server.guard request route) (ruledStatus server.guard c request route)
      (statusOf (run ideal (onRoute server request route) c).1) := by
  cases route with
  | update =>
    rw [trips_iff (.inl rfl), ruledStatus, onRoute]
    exact status_withPayload server request status_update_ideal
  | updates =>
    rw [trips_iff (.inr (.inl rfl)), ruledStatus, onRoute]
    exact status_withPayload server request status_updates_ideal
  | read =>
    rw [trips_iff (.inr (.inr rfl)), ruledStatus, onRoute]
    exact status_withPayload server request (status_read_ideal finite)
  | plainUpdate kind name value =>
    exact answeredBy_of_eq (by simp [Route.IsJson]) (status_plainUpdate_ideal kind name value)
  | plainRead kind name =>
    exact answeredBy_of_eq (by simp [Route.IsJson]) (status_plainRead_ideal kind name)
  | overview | ping => exact answeredBy_of_eq (by simp [Route.IsJson]) rfl

theorem updateStatus_mem (c : Contents) (readings : Option (List Reading)) :
    updateStatus c readings ∈ [200, 400, 404] := by
  unfold updateStatus
  split
  next => split <;> decide
  next => decide

theorem queryStatus_mem (c : Contents) (body : Bytes) :
    queryStatus c body ∈ [200, 400, 404] := by
  unfold queryStatus
  split
  next => decide
  next =>
    split
    next => decide
    next =>
      split
      next => decide
      next => split <;> decide

theorem bodyStatus_mem {status : Bytes → Nat} (ruled : ∀ body, status body ∈ [200, 400, 404]) :
    bodyStatus guard request status ∈ [200, 400, 404] := by
  unfold bodyStatus
  split
  next => decide
  next =>
    split
    next => decide
    next body _ => exact ruled body

/-- The rules know three answers only. -/
theorem ruledStatus_mem (guard : Guard) (c : Contents) (request : Request) (route : Route) :
    ruledStatus guard c request route ∈ [200, 400, 404] := by
  unfold ruledStatus
  cases route with
  | update | updates => exact bodyStatus_mem fun _ => updateStatus_mem c _
  | read => exact bodyStatus_mem (queryStatus_mem c)
  | plainUpdate => exact updateStatus_mem c _
  | plainRead =>
    dsimp only
    split
    next => decide
    next => split <;> decide
  | overview | ping => exact List.mem_cons_self

end Collector
end Telemetry
