import Telemetry.Proofs.Delivery.Agreement
import Telemetry.Proofs.Ingest.Singly

/-!
# Updates are read back

The answer to an update and the answer to a query are made in different places, the one from the
reading that was stored and the other from what the store has of the metric.  They are the same
text, with the same signature, and the text is read as the record of the update with its change
added to the sum before (`update_readBack`).  Every other metric is as it was, one of the other kind
with the same name included.
-/

namespace Telemetry

open Dialogue Http
open Store (AtWork)

/-! ### Records -/

/-- A field that is there is read in one way whether or not it may be left out. -/
theorem Json.omittable_of_required {α : Type} {read : Raw → Except Fault α}
    {fields : List (String × Json)} {name : String} {a default : α}
    (h : required read fields name = .ok a) : omittable read fields name default = .ok a := by
  unfold required at h
  unfold omittable
  split at h
  next => cases h
  next => exact h

/-- A record with its change added to the sum of its counter. -/
def Metric.onto (m : Metric) (c : Contents) : Metric :=
  { m with delta := m.delta.map (c.total m.id + ·) }

/-! ### States -/

namespace Ingest

variable {c after : Contents} {r : Reading}

/-- Looking a metric up leaves a store as it is. -/
theorem run_read (store : AtWork) (name : String) (kind : Kind) :
    run AtWork.answer (read name (some kind)) store
      = (.value (store.contents.find? name kind), store) := by
  cases kind with
  | gauge =>
    show run AtWork.answer (.ask (.getGauge name) _) store = _
    rw [run_ask, store.answer_getGauge name]
    rfl
  | counter =>
    show run AtWork.answer (.ask (.getCounter name) _) store = _
    rw [run_ask, store.answer_getCounter name]
    rfl

/-- What has been stored is found. -/
theorem find?_of_effect (effect : (callOf r).effect c = .ok after) :
    after.find? r.name r.kind = some (stateIn after r) := by
  cases r with
  | gauge name value =>
    cases effect
    simp [Contents.find?, Contents.setGauge, Reading.name, Reading.kind, stateIn]
  | counter name amount =>
    obtain ⟨-, rfl⟩ := Store.setCounter_checked effect
    simp [Contents.find?, Contents.setCounter, Reading.name, Reading.kind, stateIn]

/-- Storing a reading changes nothing else. -/
theorem find?_of_effect_ne (effect : (callOf r).effect c = .ok after) {name : String} {kind : Kind}
    (other : (name, kind) ≠ (r.name, r.kind)) : after.find? name kind = c.find? name kind := by
  cases r with
  | gauge stored value =>
    cases effect
    cases kind with
    | counter => rfl
    | gauge =>
      have ne : stored ≠ name := fun same => other (by rw [← same]; rfl)
      simp [Contents.find?, Contents.setGauge, Table.get?_put, ne]
  | counter stored amount =>
    obtain ⟨-, rfl⟩ := Store.setCounter_checked effect
    cases kind with
    | gauge => rfl
    | counter =>
      have ne : stored ≠ name := fun same => other (by rw [← same]; rfl)
      simp [Contents.find?, Contents.setCounter, Table.get?_put, ne]

/-- The state of a metric after an update is its record with the change added. -/
theorem toMetric_stateIn (effect : (callOf r).effect c = .ok after) :
    (stateIn after r).toMetric = r.toMetric.onto c := by
  cases r with
  | gauge => rfl
  | counter name amount =>
    obtain ⟨-, rfl⟩ := Store.setCounter_checked effect
    simp [stateIn, Reading.toMetric, Metric.onto, Contents.setCounter]

theorem sound_stateIn (sound : r.Sound) (effect : (callOf r).effect c = .ok after) :
    (stateIn after r).Sound := by
  cases r with
  | gauge => exact sound
  | counter name amount =>
    obtain ⟨range, rfl⟩ := Store.setCounter_checked effect
    refine ⟨sound.1, ?_⟩
    simpa [Contents.setCounter] using range

end Ingest

/-! ### Responses -/

namespace Http.Response

theorem value?_withHeader (r : Response) (name value asked : String) :
    (r.withHeader name value).headers.value? asked
      = (r.headers.value? asked).or
        (if Text.lower name = Text.lower asked then some value else none) := by
  have single : Headers.value? [(name, value)] asked
      = if Text.lower name = Text.lower asked then some value else none :=
    Headers.value?_cons name value [] asked
  rw [← single]
  unfold Headers.value? withHeader
  rw [List.find?_append]
  cases r.headers.find? fun h => Text.lower h.1 = Text.lower asked <;> rfl

/-- The headers of a response are kept as it is sent. -/
theorem value?_encoded (r : Response) (request : Request) {asked : String}
    (vary : Text.lower "vary" ≠ Text.lower asked)
    (encoding : Text.lower "content-encoding" ≠ Text.lower asked) :
    (r.encoded request).headers.value? asked = r.headers.value? asked := by
  unfold encoded
  dsimp only
  split
  · rw [value?_withHeader, value?_withHeader, if_neg vary, if_neg encoding, Option.or_none,
      Option.or_none]
  · rw [value?_withHeader, if_neg vary, Option.or_none]

/-- **The content of a response is kept as it is sent**, compressed or not. -/
theorem content?_encoded {r : Response} (plain : r.headers.value? "content-encoding" = none)
    (request : Request) :
    Http.content? (r.encoded request).headers (r.encoded request).body = some r.body := by
  have vary : Text.lower "vary" ≠ Text.lower "content-encoding" := by decide
  unfold encoded
  dsimp only
  split
  · rw [Http.content?, value?_withHeader, value?_withHeader, plain, if_neg vary, if_pos rfl,
      Option.or_none, Option.none_or, if_pos rfl]
    exact Gzip.decompress?_compress r.body
  · rw [Http.content?, value?_withHeader, plain, if_neg vary, if_neg nofun]
    rfl

end Http.Response

namespace Collector

variable {server : Server} {request query : Request} {id type : String} {m : Metric}

/-- A response holds a text, compressed or not, with its signature where bodies are signed. -/
structure Says (guard : Guard) (response : Response) (text : Bytes) : Prop where
  status : response.status = 200
  content : Http.content? response.headers response.body = some text
  signature : response.headers.value? signatureHeader = guard.sign text

/-- **A signed response says its text**, however it is sent. -/
theorem says_signed (guard : Guard) (request : Request) (body : Json) :
    Says guard ((signed guard body).encoded request) (Utf8.encode (body.toText .compact)) := by
  have type (asked : String) (other : Text.lower "content-type" ≠ Text.lower asked) :
      (Response.json 200 body).headers.value? asked = none := by
    show Headers.value? [("content-type", "application/json")] asked = none
    rw [Headers.value?_cons, if_neg other]
    rfl
  have unsigned := type signatureHeader (by decide)
  have plain := type "content-encoding" (by decide)
  refine ⟨by rw [status_encoded, status_signed], ?_, ?_⟩
  · unfold signed
    dsimp only
    split
    next => exact Response.content?_encoded plain request
    next signature _ =>
      refine Response.content?_encoded ?_ request
      rw [Response.value?_withHeader, plain, if_neg (by decide)]
      rfl
  · rw [Response.value?_encoded _ _ (by decide) (by decide)]
    unfold signed
    dsimp only
    split
    next none => rw [unsigned]; exact none.symm
    next signature some =>
      rw [Response.value?_withHeader, unsigned, if_pos (by decide)]
      exact some.symm

/-- A reading that is sound is said by its record. -/
theorem says_of_sound {r : Reading} (sound : r.Sound) (guard : Guard) (request : Request) :
    Says guard (sent request (signedReading? guard r))
      (Utf8.encode (r.toMetric.toJson.toText .compact)) := by
  cases r with
  | gauge name value =>
    rw [signedReading?, if_pos sound.2]
    exact says_signed guard request _
  | counter => exact says_signed guard request _

/-! ### Queries -/

/-- A request asks for a metric. -/
structure Asks (server : Server) (query : Request) (id type : String) : Prop where
  leads : Route.ofPath? query.path = some .read
  method : query.method = "POST"
  asked : ∃ body, payload server.guard query = .ok body ∧ query? body = some (id, type)

/-- The response to a query, given the contents of the store. -/
def found (guard : Guard) (c : Contents) (id type : String) : Option Response :=
  if id = "" || type = "" then some (.detail 400 "Missing ID or type")
  else
    match Kind.ofWord? type with
    | none => some (.detail 400 "Unknown metric type")
    | some kind =>
        match c.find? id kind with
        | some r => signedReading? guard r
        | none => some (.detail 404 "Metric not found")

/-- **A query is answered from the contents**, and leaves the store as it is. -/
theorem run_query (asks : Asks server query id type) (store : AtWork) :
    run AtWork.answer (respond server query) store
      = (sent query (found server.guard store.contents id type), store) := by
  obtain ⟨leads, method, body, accepted, asked⟩ := asks
  have handled : run AtWork.answer (handle server query) store
      = (found server.guard store.contents id type, store) := by
    rw [handle_route leads method]
    show run AtWork.answer (withPayload server query (read server)) store = _
    rw [withPayload, accepted]
    dsimp only
    rw [read, asked, found]
    dsimp only
    split
    next => rfl
    next =>
      cases Kind.ofWord? type with
      | none => rfl
      | some kind =>
        dsimp only
        rw [run_bind, Ingest.run_read]
        cases store.contents.find? id kind <;> rfl
  rw [respond_eq, run_bind, handled]
  rfl

/-- A query for one metric does not see what becomes of another. -/
theorem found_congr {guard : Guard} {c after : Contents}
    (same : ∀ kind : Kind, kind.word = type → after.find? id kind = c.find? id kind) :
    found guard after id type = found guard c id type := by
  unfold found
  split
  next => rfl
  next =>
    cases known : Kind.ofWord? type with
    | none => rfl
    | some kind => dsimp only; rw [same kind (Kind.ofWord?_eq_some_iff.1 known).symm]

/-- The body of an update asks for its metric. -/
theorem query?_of_ofBytes {body : Bytes} (read : Metric.ofBytes body = .ok m) :
    query? body = some (m.id, m.type) := by
  unfold Metric.ofBytes at read
  split at read
  next => cases read
  next json parsed =>
    unfold Metric.ofJson at read
    split at read
    next fields =>
      dsimp only at read
      split at read
      next id type delta value hid htype hdelta hvalue =>
        cases read
        rw [query?, parsed]
        dsimp only
        rw [Json.omittable_of_required hid, Json.omittable_of_required htype]
      next => cases read
    next => cases read

/-! ### Updates -/

/-- A body that is refused is a bad request, or an internal error. -/
theorem status_of_payload {guard : Guard} {refusal : Option Response}
    (refused : payload guard request = .error refusal) :
    ∀ r, refusal = some r → r.status = 400 := by
  cases checked : checkSignature guard request with
  | error reason =>
    rw [payload, checked] at refused
    cases refused
    exact status_of_checkSignature checked
  | ok =>
    rw [payload_of_accepted checked] at refused
    split at refused
    · cases refused
    · cases refused
      rintro r ⟨⟩
      rfl

/-- An update that is answered with the status 200 has been read. -/
theorem exists_of_status (leads : Route.ofPath? request.path = some .update)
    (method : request.method = "POST") {store : AtWork}
    (accepted : (run AtWork.answer (respond server request) store).1.status = 200) :
    ∃ body m, payload server.guard request = .ok body ∧ Metric.ofBytes body = .ok m := by
  have turnedAway (unread : ∀ body, payload server.guard request = .ok body →
      update server body = .done (some (.detail 400 "Invalid JSON"))) : False := by
    obtain ⟨response, responds, bad⟩ := turnsAway_of_payload leads method rfl unread
      fun _ => status_of_payload
    rw [responds] at accepted
    exact bad accepted
  cases received : payload server.guard request with
  | error refusal => exact (turnedAway fun body h => by rw [received] at h; cases h).elim
  | ok body =>
    cases read : Metric.ofBytes body with
    | ok m => exact ⟨body, m, rfl, read⟩
    | error issues =>
      refine (turnedAway fun body' h => ?_).elim
      cases received.symm.trans h
      rw [update, read]
      rfl

/-- An update that is answered with the status 200 has been taken by the store, and the answer is the
state of its metric. -/
theorem taken_of_status {body : Bytes} (leads : Route.ofPath? request.path = some .update)
    (method : request.method = "POST") (received : payload server.guard request = .ok body)
    (read : Metric.ofBytes body = .ok m) {store : AtWork}
    (accepted : (run AtWork.answer (respond server request) store).1.status = 200) :
    ∃ r, m.reading = .ok r ∧ (Ingest.offer store r).1 = .value () ∧
      run AtWork.answer (respond server request) store
        = (sent request (signedReading? server.guard
            (Ingest.stateIn (Ingest.offer store r).2.contents r)), (Ingest.offer store r).2) := by
  have responds := respond_update leads method received read
  have applied : ∃ state, (run AtWork.answer (Ingest.apply m) store).1 = .value state := by
    by_contra none
    rw [responds, run_bind] at accepted
    exact status_update_ne (fun r h => none ⟨r, h⟩) accepted
  obtain ⟨r, valid, taken⟩ := Ingest.apply_returns_iff.1 applied
  refine ⟨r, valid, taken, ?_⟩
  rw [responds, run_bind, Ingest.run_apply valid, taken]
  rfl

/-- An update has been taken up, with a text for its answer, and can be read back. -/
structure TakenUp (server : Server) (m : Metric) (before : AtWork) (text : Bytes)
    (answered : Response × AtWork) : Prop where
  said : Says server.guard answered.1 text
  /-- The text is the record of the update with its change added to the sum before. -/
  record : Metric.ofBytes text = .ok (m.onto before.contents)
  /-- A query for the metric has the same text for its answer. -/
  again : ∀ query, Asks server query m.id m.type →
    Says server.guard (run AtWork.answer (respond server query) answered.2).1 text
  /-- A query for any other metric is answered as before. -/
  others : ∀ query id type, Asks server query id type → (id, type) ≠ (m.id, m.type) →
    (run AtWork.answer (respond server query) answered.2).1
      = (run AtWork.answer (respond server query) before).1
  /-- The state of every other metric is as before. -/
  untouched : ∀ (name : String) (kind : Kind), (name, kind.word) ≠ (m.id, m.type) →
    (run AtWork.answer (Ingest.read name (some kind)) answered.2).1
      = (run AtWork.answer (Ingest.read name (some kind)) before).1

/-- A reading that the store takes can be read back. -/
theorem takenUp_of_taken {r : Reading} (sound : r.Sound) {store : AtWork}
    (taken : (Ingest.offer store r).1 = .value ()) :
    TakenUp server r.toMetric store
      (Utf8.encode ((r.toMetric.onto store.contents).toJson.toText .compact))
      (sent request (signedReading? server.guard
        (Ingest.stateIn (Ingest.offer store r).2.contents r)), (Ingest.offer store r).2) := by
  have effect := Ingest.effect_of_taken sound taken
  have soundAfter := Ingest.sound_stateIn sound effect
  have state := Ingest.toMetric_stateIn effect
  have stored := Ingest.find?_of_effect effect
  have names : r.toMetric.id = r.name ∧ r.toMetric.type = r.kind.word := by
    cases r <;> exact ⟨rfl, rfl⟩
  have named : r.name ≠ "" := by
    cases r with
    | gauge => exact sound.1
    | counter => exact sound.1
  have unchanged {name : String} {kind : Kind}
      (other : (name, kind.word) ≠ (r.toMetric.id, r.toMetric.type)) :
      (Ingest.offer store r).2.contents.find? name kind = store.contents.find? name kind := by
    refine Ingest.find?_of_effect_ne effect fun same => other ?_
    rw [names.1, names.2, (Prod.mk.inj same).1, (Prod.mk.inj same).2]
  constructor
  · rw [← state]
    exact says_of_sound soundAfter _ _
  · rw [← state]
    exact Metric.ofBytes_compact (Metric.sayable_of_reading (Metric.reading_toMetric soundAfter))
  · intro query asks
    rw [run_query asks, names.1, names.2, found, if_neg, Kind.ofWord?_word]
    · dsimp only
      rw [stored, ← state]
      exact says_of_sound soundAfter _ _
    · have word : r.kind.word ≠ "" := by cases r.kind <;> decide
      simp [named, word]
  · intro query id type asks other
    rw [run_query asks, run_query asks]
    dsimp only
    rw [found_congr]
    rintro kind rfl
    exact unchanged other
  · intro name kind other
    rw [Ingest.run_read, Ingest.run_read, unchanged other]

/-- **An update that is accepted can be read back**: its answer and that of a query are one text,
which is read as the record of the update with its change added to the sum before, and no other
metric has changed. -/
theorem update_readBack (server : Server) (leads : Route.ofPath? request.path = some .update)
    (method : request.method = "POST") (store : AtWork)
    (accepted : (run AtWork.answer (respond server request) store).1.status = 200) :
    ∃ body m text, payload server.guard request = .ok body ∧ Metric.ofBytes body = .ok m ∧
      (∃ r, m.reading = .ok r) ∧
      TakenUp server m store text (run AtWork.answer (respond server request) store) := by
  obtain ⟨body, m, received, read⟩ := exists_of_status leads method accepted
  obtain ⟨r, valid, taken, answered⟩ := taken_of_status leads method received read accepted
  obtain ⟨rfl, sound⟩ := Metric.toMetric_of_reading valid
  rw [answered]
  exact ⟨body, _, _, received, read, ⟨r, valid⟩, takenUp_of_taken sound taken⟩

/-- A counter is updated and asked for under a key. -/
theorem update_readBack_of_keyed_counter :
    let client : Agent.Client := ⟨⟨"http", true, "collector", some 8080, [], none⟩, ⟨[107]⟩⟩
    let server : Server := ⟨client.guard, .abort⟩
    let store : AtWork := .memory ⟨⟨.empty, ⟨[("hits", 2)], by decide⟩⟩, ()⟩
    let m := (Reading.counter "hits" 5).toMetric
    let request := (client.singleRequest m).arrived
    let query := (client.postJson "/value" (Utf8.encode (m.toJson.toText .spaced))).arrived
    Route.ofPath? request.path = some .update ∧ request.method = "POST" ∧
      (run AtWork.answer (respond server request) store).1.status = 200 ∧
      Asks server query "hits" "counter" ∧
      ∃ text, Metric.ofBytes text = .ok (Reading.counter "hits" 7).toMetric ∧
        TakenUp server m store text (run AtWork.answer (respond server request) store) := by
  intro client server store m request query
  have root : client.url.IsRoot := rfl
  have valid : m.reading = .ok (.counter "hits" 5) := rfl
  have leads : Route.ofPath? request.path = some .update :=
    Agent.Client.ofPath?_singleRequest root m
  have received : payload server.guard request = .ok (Utf8.encode (m.toJson.toText .spaced)) :=
    client.payload_postJson_own _ _
  have read := Metric.ofBytes_spaced (Metric.sayable_of_reading valid).delta
  have taken : (Ingest.offer store (.counter "hits" 5)).1 = .value () := rfl
  have accepted : (run AtWork.answer (respond server request) store).1.status = 200 := by
    rw [respond_update leads rfl received read, run_bind, Ingest.run_apply valid, taken]
    exact status_update nofun
  have asks : Asks server query "hits" "counter" := by
    have path : query.path = String.ofList ('/' :: "value".toList) :=
      Agent.Client.path_postJson root _ (by decide) (forall_mem_of_all (by decide)) (by decide)
    refine ⟨?_, rfl, _, client.payload_postJson_own _ _, query?_of_ofBytes read⟩
    rw [path]
    decide
  obtain ⟨body, m', text, received', read', -, takenUp⟩ :=
    update_readBack server leads rfl store accepted
  have sameBody := Except.ok.inj (received.symm.trans received')
  rw [← sameBody, read] at read'
  have same := Except.ok.inj read'
  rw [← same] at takenUp
  exact ⟨leads, rfl, accepted, asks, text, takenUp.record, takenUp⟩

end Collector
end Telemetry
