import Telemetry.Proofs.Collector.Signed
import Telemetry.Proofs.Ingest
import Telemetry.Proofs.Store.AtWork

/-!
# Failures that nothing expects

A store that writes a file where none can be fails for a reason that none of its callers knows.
Whatever a collector does for a request, it then asks the store nothing more and answers with an
internal error (`respond_of_astray`).
-/

namespace Telemetry

open Dialogue
open Store (AtWork Call)

namespace Ingest

/-- A dialogue ends at once, and badly, when it is told of a failure that nothing expects. -/
def GivesUp {α : Type} (bad : α → Prop) : Doing α → Prop
  | .done _ => True
  | .ask _ next =>
      (∀ failure, ∃ a, next (.failure (.unexpected failure)) = .done a ∧ bad a) ∧
        ∀ answer, GivesUp bad (next answer)

section

variable {α β : Type} {bad : α → Prop} {bad' : β → Prop}

theorem givesUp_bind {d : Doing α} {f : α → Doing β} (first : GivesUp bad d)
    (ends : ∀ a, bad a → ∃ b, f a = .done b ∧ bad' b) (rest : ∀ a, GivesUp bad' (f a)) :
    GivesUp bad' (d >>= f) := by
  induction d with
  | done a => exact rest a
  | ask call next ih =>
    refine ⟨fun failure => ?_, fun answer => ih answer (first.2 answer)⟩
    obtain ⟨a, same, ruined⟩ := first.1 failure
    obtain ⟨b, ended, ruined'⟩ := ends a ruined
    exact ⟨b, (congrArg (· >>= f) same).trans ended, ruined'⟩

/-- **What goes astray at a store ruins the result.** -/
theorem GivesUp.bad_of_astray {d : Doing α} (h : GivesUp bad d) {store : AtWork}
    (astray : ∃ e ∈ AtWork.transcript d store, e.Astray) : bad (run AtWork.answer d store).1 := by
  induction d generalizing store with
  | done a =>
    obtain ⟨e, mem, -⟩ := astray
    cases mem
  | ask call next ih =>
    obtain ⟨ends, rest⟩ := h
    obtain ⟨e, mem, failed⟩ := astray
    rcases List.mem_cons.1 mem with rfl | later
    · have failed : (store.answer call).1 = .failure Store.File.nowhere := failed
      obtain ⟨a, same, ruined⟩ := ends (.mishap .badValue "embedded null byte")
      rw [run_ask, failed, same]
      exact ruined
    · exact ih _ (rest _) ⟨e, later, failed⟩

end

/-- An outcome that tells of a failure that nothing expects. -/
def Unexpected {α : Type} (outcome : Outcome Error α) : Prop :=
  ∃ failure, outcome = .failure (.unexpected failure)

section

variable {α β : Type}

theorem givesUp_ask (call : Call) : GivesUp Unexpected (ask call) :=
  ⟨fun failure => ⟨_, rfl, failure, rfl⟩, fun _ => trivial⟩

theorem givesUp_andThen {d : Doing (Outcome Error α)} {f : α → Doing (Outcome Error β)}
    (first : GivesUp Unexpected d) (rest : ∀ a, GivesUp Unexpected (f a)) :
    GivesUp Unexpected (d.andThen f) := by
  refine givesUp_bind first ?_ fun outcome => ?_
  · rintro _ ⟨failure, rfl⟩
    exact ⟨_, rfl, failure, rfl⟩
  · cases outcome with
    | value a => exact rest a
    | failure | cancelled => trivial

theorem givesUp_update (r : Reading) : GivesUp Unexpected (update r) := by
  cases r with
  | gauge name value => exact givesUp_ask (.updateGauge name value)
  | counter name amount => exact givesUp_ask (.updateCounter name amount)

theorem givesUp_stateAfter (r : Reading) : GivesUp Unexpected (stateAfter r) := by
  cases r with
  | gauge => trivial
  | counter => exact givesUp_andThen (givesUp_ask _) fun _ => trivial

theorem givesUp_apply (m : Metric) : GivesUp Unexpected (apply m) := by
  unfold apply
  split
  next => trivial
  next r _ => exact givesUp_andThen (givesUp_update r) fun _ => givesUp_stateAfter r

/-- Neither policy lets a batch go on. -/
theorem givesUp_updateAll (policy : BatchPolicy) (readings : List Reading) (p : Progress) :
    GivesUp Unexpected (updateAll policy readings p) := by
  induction readings generalizing p with
  | nil => trivial
  | cons r later ih =>
    rw [updateAll_cons]
    refine givesUp_bind (givesUp_update r) ?_ fun outcome => ?_
    · rintro _ ⟨failure, rfl⟩
      exact ⟨_, rfl, failure, rfl⟩
    cases outcome with
    | value => exact ih _
    | cancelled => trivial
    | failure e =>
      cases e with
      | storage fault =>
        cases policy with
        | «continue» => exact ih _
        | abort => trivial
      | invalid | batch | unexpected => trivial

theorem givesUp_applyBatch (policy : BatchPolicy) (batch : List Metric) :
    GivesUp Unexpected (applyBatch policy batch) := by
  unfold applyBatch
  split
  next => trivial
  next readings _ =>
    refine givesUp_andThen (givesUp_updateAll policy readings {}) fun p => ?_
    cases p.first <;> trivial

theorem givesUp_read (name : String) (kind : Option Kind) :
    GivesUp Unexpected (read name kind) := by
  cases kind with
  | none => trivial
  | some kind =>
    cases kind <;> exact givesUp_andThen (givesUp_ask _) fun _ => trivial

end

end Ingest

namespace Collector

open Http Ingest

variable {server : Server} {request : Request}

/-- No response is left for what nothing expects. -/
theorem givesUp_handling {α : Type} {d : Ingest.Doing (Outcome Ingest.Error α)}
    {f : Outcome Ingest.Error α → Handling} (first : GivesUp Unexpected d)
    (ends : ∀ failure, f (.failure (.unexpected failure)) = .done none)
    (rest : ∀ outcome, ∃ response, f outcome = .done response) :
    GivesUp (· = none) (d >>= f) := by
  refine givesUp_bind first ?_ fun outcome => ?_
  · rintro _ ⟨failure, rfl⟩
    exact ⟨none, ends failure, rfl⟩
  · obtain ⟨response, same⟩ := rest outcome
    rw [same]
    trivial

theorem givesUp_update (body : Bytes) : GivesUp (· = none) (update server body) := by
  unfold update
  split
  next => trivial
  next m _ =>
    refine givesUp_handling (givesUp_apply m) (fun _ => rfl) fun outcome => ?_
    split <;> exact ⟨_, rfl⟩

theorem givesUp_updates (body : Bytes) : GivesUp (· = none) (updates server body) := by
  unfold updates
  split
  next => trivial
  next batch _ =>
    refine givesUp_handling (givesUp_applyBatch server.policy batch) (fun _ => rfl)
      fun outcome => ?_
    split <;> exact ⟨_, rfl⟩

theorem givesUp_read (body : Bytes) : GivesUp (· = none) (read server body) := by
  unfold read
  split
  next => trivial
  next id type _ =>
    split
    next => trivial
    next =>
      refine givesUp_handling (Ingest.givesUp_read id (Kind.ofWord? type)) (fun _ => rfl)
        fun outcome => ?_
      split <;> exact ⟨_, rfl⟩

theorem givesUp_plainUpdate (kind name value : String) :
    GivesUp (· = none) (plainUpdate kind name value) := by
  unfold plainUpdate
  split
  next => trivial
  next m _ =>
    refine givesUp_handling (givesUp_apply m) (fun _ => rfl) fun outcome => ?_
    split <;> exact ⟨_, rfl⟩

theorem givesUp_plainRead (kind name : String) : GivesUp (· = none) (plainRead kind name) := by
  unfold plainRead
  split
  next => trivial
  next kind _ =>
    refine givesUp_handling (Ingest.givesUp_read name (some kind)) (fun _ => rfl)
      fun outcome => ?_
    split <;> exact ⟨_, rfl⟩

theorem givesUp_overview : GivesUp (· = none) overview := by
  refine givesUp_handling (givesUp_ask .getAll) (fun _ => rfl) fun outcome => ?_
  split <;> exact ⟨_, rfl⟩

theorem givesUp_ping : GivesUp (· = none) ping := by
  refine givesUp_handling (givesUp_ask .ping) (fun _ => rfl) fun outcome => ?_
  split <;> exact ⟨_, rfl⟩

theorem givesUp_withPayload {reader : Bytes → Handling}
    (h : ∀ body, GivesUp (· = none) (reader body)) :
    GivesUp (· = none) (withPayload server request reader) := by
  unfold withPayload
  split
  next => trivial
  next body _ => exact h body

theorem givesUp_onRoute (server : Server) (request : Request) (route : Route) :
    GivesUp (· = none) (onRoute server request route) := by
  cases route with
  | overview => exact givesUp_overview
  | ping => exact givesUp_ping
  | update => exact givesUp_withPayload givesUp_update
  | updates => exact givesUp_withPayload givesUp_updates
  | read => exact givesUp_withPayload givesUp_read
  | plainUpdate kind name value => exact givesUp_plainUpdate kind name value
  | plainRead kind name => exact givesUp_plainRead kind name

/-- **A request that goes astray at the store is answered with an internal error.** -/
theorem respond_of_astray (server : Server) (request : Request) {store : AtWork}
    (astray : ∃ e ∈ AtWork.transcript (respond server request) store, e.Astray) :
    (run AtWork.answer (respond server request) store).1 = internalError := by
  have handled : GivesUp (· = none) (handle server request) := by
    unfold Collector.handle
    split
    next route _ =>
      split
      next => exact givesUp_onRoute server request route
      next => trivial
    next => split <;> trivial
  have responds : GivesUp (· = internalError) (respond server request) := by
    rw [respond_eq]
    refine givesUp_bind handled ?_ fun _ => trivial
    rintro _ rfl
    exact ⟨internalError, rfl, rfl⟩
  exact responds.bad_of_astray astray

end Collector
end Telemetry
