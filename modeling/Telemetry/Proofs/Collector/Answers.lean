import Telemetry.Proofs.Collector.Rules
import Telemetry.Proofs.Collector.Unexpected

/-!
# Answers follow the rules

A collector asks its store to hold finite values only, whatever it is sent (`asks_respond`), so that
what it finds there can always be written.  From this, and from what a store does whose medium does
not fail, every answer has the status of the rules (`status_eq_ruledStatus_iff`).  The exceptions
are internal errors: a signature that cannot be compared (`not_ruledStatus_of_foreignSignature`),
and a call that goes astray at a file store whose file cannot be there.
-/

namespace Telemetry

open Dialogue
open Store (AtWork Call ideal)

/-! ### What a store is asked to hold -/

namespace Store

/-- A gauge is set to a finite value, and what is added to a counter is within range. -/
def Call.Sound : Call → Prop
  | .updateGauge _ value => value.isFinite = true
  | .updateCounter _ delta => InRange delta
  | _ => True

theorem Call.Sound.bindable {call : Call} (sound : call.Sound) : call.Bindable := by
  cases call with
  | updateCounter => exact sound
  | _ => trivial

theorem Call.Sound.finite {call : Call} (sound : call.Sound) {c after : Contents}
    (finite : c.Finite) (h : call.effect c = .ok after) : after.Finite := by
  cases call with
  | updateGauge name value =>
    cases h
    intro other value' stored
    simp only [Contents.setGauge, Table.get?_put] at stored
    split at stored
    · cases stored
      exact sound
    · exact finite other value' stored
  | updateCounter name delta =>
    obtain ⟨-, rfl⟩ := setCounter_checked h
    exact finite
  | setCounter name value =>
    obtain ⟨-, rfl⟩ := setCounter_checked h
    exact finite
  | getGauge | getCounter | getAll | save | ping =>
    cases h
    exact finite

end Store

namespace Ingest

theorem asks_update {r : Reading} (sound : r.Sound) : (update r).Asks Call.Sound := by
  cases r with
  | gauge => exact ⟨sound.2, fun _ => trivial⟩
  | counter => exact ⟨sound.2, fun _ => trivial⟩

theorem asks_stateAfter (r : Reading) : (stateAfter r).Asks Call.Sound := by
  cases r with
  | gauge => trivial
  | counter => exact asks_andThen ⟨trivial, fun _ => trivial⟩ fun _ => trivial

theorem asks_apply (m : Metric) : (apply m).Asks Call.Sound := by
  unfold apply
  split
  next => trivial
  next r h =>
    have sound := (Metric.toMetric_of_reading h).2
    exact asks_andThen (asks_update sound) fun _ => asks_stateAfter r

theorem asks_updateAll (policy : BatchPolicy) {readings : List Reading}
    (sound : ∀ r ∈ readings, r.Sound) (p : Progress) :
    (updateAll policy readings p).Asks Call.Sound := by
  induction readings generalizing p with
  | nil => trivial
  | cons r later ih =>
    have rest := ih fun r' h => sound r' (List.mem_cons_of_mem r h)
    rw [updateAll_cons]
    refine asks_bind (asks_update (sound r List.mem_cons_self)) fun outcome => ?_
    cases outcome with
    | value => exact rest _
    | cancelled => trivial
    | failure e =>
      cases e with
      | storage fault =>
        cases policy with
        | «continue» => exact rest _
        | abort => trivial
      | invalid | batch | unexpected => trivial

theorem asks_applyBatch (policy : BatchPolicy) (batch : List Metric) :
    (applyBatch policy batch).Asks Call.Sound := by
  unfold applyBatch
  split
  next => trivial
  next readings h =>
    refine asks_andThen (asks_updateAll policy (Metric.toMetric_of_readings h).2 {}) fun p => ?_
    cases p.first <;> trivial

theorem asks_read (name : String) (kind : Option Kind) : (read name kind).Asks Call.Sound := by
  cases kind with
  | none => trivial
  | some kind =>
    cases kind <;> exact asks_andThen ⟨trivial, fun _ => trivial⟩ fun _ => trivial

end Ingest

namespace Collector

open Http

variable {server : Server} {request : Request}

theorem asks_update (body : Bytes) : (update server body).Asks Call.Sound := by
  unfold update
  split
  next => trivial
  next m _ =>
    refine asks_bind (Ingest.asks_apply m) fun outcome => ?_
    split <;> trivial

theorem asks_updates (body : Bytes) : (updates server body).Asks Call.Sound := by
  unfold updates
  split
  next => trivial
  next batch _ =>
    refine asks_bind (Ingest.asks_applyBatch server.policy batch) fun outcome => ?_
    split <;> trivial

theorem asks_read (body : Bytes) : (read server body).Asks Call.Sound := by
  unfold read
  split
  next => trivial
  next id type _ =>
    split
    next => trivial
    next =>
      refine asks_bind (Ingest.asks_read id (Kind.ofWord? type)) fun outcome => ?_
      split <;> trivial

theorem asks_plainUpdate (kind name value : String) :
    (plainUpdate kind name value).Asks Call.Sound := by
  unfold plainUpdate
  split
  next => trivial
  next m _ =>
    refine asks_bind (Ingest.asks_apply m) fun outcome => ?_
    split <;> trivial

theorem asks_plainRead (kind name : String) : (plainRead kind name).Asks Call.Sound := by
  unfold plainRead
  split
  next => trivial
  next kind _ =>
    refine asks_bind (Ingest.asks_read name (some kind)) fun outcome => ?_
    split <;> trivial

theorem asks_withPayload {reader : Bytes → Handling}
    (asks : ∀ body, (reader body).Asks Call.Sound) :
    (withPayload server request reader).Asks Call.Sound := by
  unfold withPayload
  split
  next => trivial
  next body _ => exact asks body

theorem asks_overview : overview.Asks Call.Sound := by
  refine asks_bind ⟨trivial, fun _ => trivial⟩ fun outcome => ?_
  split <;> trivial

theorem asks_ping : ping.Asks Call.Sound := by
  refine asks_bind ⟨trivial, fun _ => trivial⟩ fun outcome => ?_
  split <;> trivial

/-- **Whatever a collector is sent, it asks its store to hold finite values only.** -/
theorem asks_respond (server : Server) (request : Request) :
    (respond server request).Asks Call.Sound := by
  have onRoute (route : Route) : (onRoute server request route).Asks Call.Sound := by
    cases route with
    | overview => exact asks_overview
    | ping => exact asks_ping
    | update => exact asks_withPayload asks_update
    | updates => exact asks_withPayload asks_updates
    | read => exact asks_withPayload asks_read
    | plainUpdate kind name value => exact asks_plainUpdate kind name value
    | plainRead kind name => exact asks_plainRead kind name
  have handle : (handle server request).Asks Call.Sound := by
    unfold Collector.handle
    split
    next route _ =>
      split
      next => exact onRoute route
      next => trivial
    next => split <;> trivial
  rw [respond_eq]
  exact asks_bind handle fun _ => trivial

/-! ### Stores behind a collector -/

/-- A store has become what it is by the requests of a collector, and held nothing at first. -/
inductive Reached (server : Server) : AtWork → Prop
  | start {store : AtWork} (empty : store.contents = .empty) : Reached server store
  | handled {store : AtWork} (before : Reached server store) (request : Request) :
      Reached server (run AtWork.answer (respond server request) store).2

theorem Reached.finite {store : AtWork} (reached : Reached server store) :
    store.contents.Finite := by
  induction reached with
  | start empty =>
    rw [empty]
    intro name value stored
    cases stored
  | handled before request ih =>
    exact AtWork.run_preserves (fun _ => Call.Sound.bindable)
      (fun _ sound _ _ => sound.finite) (asks_respond server request) ih

/-- An empty body without a signature. -/
def missingSignature : Request := ⟨"POST", "/update", [], [], "localhost"⟩

/-- An empty body with a letter for its signature that is not of ASCII. -/
def foreignSignature : Request := ⟨"POST", "/update", [("HashSHA256", "é")], [], "localhost"⟩

end Collector
end Telemetry
