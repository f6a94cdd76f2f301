import Telemetry.Proofs.Delivery.Response
import Telemetry.Proofs.Delivery.Store

/-!
# Agent and collector agree

What a client sends is what a collector with the same key reads, whatever characters the names
hold: a batch of well-formed records, or one of them.  If the store takes them, the collector answers
that it has, and it has asked its store for exactly these updates, in order
(`agent_agrees_with_collector`).
-/

namespace Telemetry

open Dialogue Http
open Store (Call Lawful)

/-! ### Updates that are taken -/

/-- A call that changes something. -/
def Store.Call.isUpdate : Call → Bool
  | .updateGauge .. | .updateCounter .. | .setCounter .. => true
  | _ => false

namespace Ingest

@[simp] theorem isUpdate_callOf (r : Reading) : (callOf r).isUpdate = true := by
  cases r with
  | gauge => rfl
  | counter => rfl

/-- The contents after some readings in order, unless a counter would leave its range. -/
def effectOf (readings : List Reading) (c : Contents) : Except Store.Error Contents :=
  readings.foldlM (fun c r => (callOf r).effect c) c

variable {S : Lawful} {s : S.State} {after : Contents}

/-- **An update within range is taken** by a store that does not fail. -/
theorem run_update_taken (unfailing : S.Unfailing) {r : Reading} (sound : r.Sound)
    (effect : (callOf r).effect (S.contents s) = .ok after) {α : Type}
    (f : Outcome Error Unit → Doing α) :
    ∃ s', S.contents s' = after ∧
      run S.answer (update r >>= f) s = run S.answer (f (.value ())) s' ∧
      asked S.answer (update r >>= f) s = callOf r :: asked S.answer (f (.value ())) s' := by
  have taken := S.updated r s sound
  have fails := unfailing r s
  rw [update_bind, run_ask, asked]
  refine ⟨(S.answer (callOf r) s).2, ?_⟩
  generalize S.answer (callOf r) s = result at taken fails
  obtain ⟨outcome, s'⟩ := result
  dsimp only at taken fails ⊢
  generalize hafter : S.contents s' = after' at taken
  cases taken with
  | done h => exact ⟨Except.ok.inj (h.symm.trans effect), rfl, rfl⟩
  | failed e => cases effect.symm.trans (fails e sound rfl)
  | astray h => cases h.symm.trans (fails _ sound rfl)

/-- The value of a call is the value of asking it. -/
theorem run_ask_value {call : Call} {value : call.Result}
    (h : (S.answer call s).1 = .value value) :
    run S.answer (ask call) s = (.value value, (S.answer call s).2) := by
  refine Prod.ext ?_ rfl
  show (S.answer call s).1.mapFailure Error.ofStore = _
  rw [h]
  rfl

theorem run_update_andThen (unfailing : S.Unfailing) {r : Reading} (sound : r.Sound)
    (effect : (callOf r).effect (S.contents s) = .ok after) {α : Type}
    (f : Unit → Doing (Outcome Error α)) :
    ∃ s', S.contents s' = after ∧
      run S.answer ((update r).andThen f) s = run S.answer (f ()) s' ∧
      asked S.answer ((update r).andThen f) s = callOf r :: asked S.answer (f ()) s' :=
  run_update_taken unfailing sound effect _

/-- **Readings within range are all taken**, in order. -/
theorem run_updateAll_taken (unfailing : S.Unfailing) (policy : BatchPolicy)
    {readings : List Reading} (sound : ∀ r ∈ readings, r.Sound)
    (effect : effectOf readings (S.contents s) = .ok after) (p : Progress) :
    ∃ s', S.contents s' = after ∧
      run S.answer (updateAll policy readings p) s
        = (.value { p with applied := p.applied + readings.length }, s') ∧
      asked S.answer (updateAll policy readings p) s = readings.map callOf := by
  induction readings generalizing s p with
  | nil =>
    cases effect
    exact ⟨s, rfl, rfl, rfl⟩
  | cons r later ih =>
    rw [effectOf, List.foldlM_cons] at effect
    cases first : (callOf r).effect (S.contents s) with
    | error e => rw [first] at effect; cases effect
    | ok between =>
      rw [first] at effect
      obtain ⟨s₁, h₁, hrun, hasked⟩ := run_update_taken unfailing (sound r List.mem_cons_self)
        first (goOn policy later p)
      obtain ⟨s₂, h₂, hrun', hasked'⟩ := ih (s := s₁)
        (fun r' h => sound r' (List.mem_cons_of_mem r h)) (by rw [h₁]; exact effect) p.success
      refine ⟨s₂, h₂, ?_, ?_⟩
      · rw [updateAll_cons, hrun]
        show run S.answer (updateAll policy later p.success) s₁ = _
        rw [hrun', Progress.success]
        simp only [List.length_cons, Nat.add_assoc, Nat.add_comm 1]
      · rw [updateAll_cons, hasked]
        exact congrArg (callOf r :: ·) hasked'

/-- A batch within range is applied. -/
theorem run_applyBatch_taken (unfailing : S.Unfailing) (policy : BatchPolicy)
    {batch : List Metric} {readings : List Reading} (valid : Metric.readings batch = .ok readings)
    (effect : effectOf readings (S.contents s) = .ok after) :
    ∃ s', S.contents s' = after ∧
      run S.answer (applyBatch policy batch) s = (.value batch, s') ∧
      asked S.answer (applyBatch policy batch) s = readings.map callOf := by
  obtain ⟨s', hs', hrun, hasked⟩ := run_updateAll_taken unfailing policy
    (Metric.toMetric_of_readings valid).2 effect {}
  refine ⟨s', hs', ?_, ?_⟩
  · rw [applyBatch, valid]
    exact (run_andThen_value hrun).trans rfl
  · rw [applyBatch, valid]
    show asked S.answer (updateAll policy readings {} >>= _) s = _
    rw [asked_bind, hrun, hasked]
    exact List.append_nil _

/-- A single reading within range is applied, and read back if it is a counter. -/
theorem run_apply_taken (unfailing : S.Unfailing) {m : Metric} {r : Reading}
    (valid : m.reading = .ok r) (effect : (callOf r).effect (S.contents s) = .ok after) :
    ∃ s' r', S.contents s' = after ∧ (∀ name value, r' = .gauge name value → r' = r) ∧
      run S.answer (apply m) s = (.value r', s') ∧
      (asked S.answer (apply m) s).filter Call.isUpdate = [callOf r] := by
  have sound := (Metric.toMetric_of_reading valid).2
  obtain ⟨s', hs', hrun, hasked⟩ :=
    run_update_andThen unfailing sound effect fun _ => stateAfter r
  have text : apply m = (update r).andThen fun _ => stateAfter r := by
    rw [apply, valid]
  rw [text, hrun, hasked, List.filter_cons_of_pos (isUpdate_callOf r)]
  cases r with
  | gauge name value => exact ⟨s', _, hs', fun _ _ _ => rfl, rfl, rfl⟩
  | counter name amount =>
    obtain ⟨found, kept⟩ := S.counted name s'
    refine ⟨(S.answer (.getCounter name) s').2,
      .counter name (((S.contents s').counters.get? name).getD amount), kept.trans hs', ?_, ?_, ?_⟩
    · intro _ _ h
      cases h
    · exact run_andThen_value (run_ask_value found)
    · show callOf (.counter name amount)
        :: List.filter Call.isUpdate (asked S.answer (ask (.getCounter name) >>= _) s') = _
      rw [asked_bind, run_ask_value found]
      rfl

end Ingest

/-! ### Validated batches -/

namespace Metric

/-- Records that are each well formed are a batch that is. -/
theorem readings_of_valid {batch : List Metric} (nonempty : batch ≠ [])
    (valid : ∀ m ∈ batch, ∃ r, m.reading = .ok r) : ∃ rs, readings batch = .ok rs := by
  have each (l : List Metric) (valid : ∀ m ∈ l, ∃ r, m.reading = .ok r) :
      ∃ rs, l.mapM reading = .ok rs := by
    induction l with
    | nil => exact ⟨[], rfl⟩
    | cons m rest ih =>
      obtain ⟨r, hr⟩ := valid m List.mem_cons_self
      obtain ⟨rs, hrs⟩ := ih fun m' h => valid m' (List.mem_cons_of_mem m h)
      refine ⟨r :: rs, ?_⟩
      rw [List.mapM_cons, hr, hrs]
      rfl
  obtain ⟨rs, hrs⟩ := each batch valid
  refine ⟨rs, ?_⟩
  rw [readings, if_neg (by simp [nonempty]), hrs]

/-- A well-formed record can be said. -/
theorem sayable_of_reading {m : Metric} {r : Reading} (h : m.reading = .ok r) : m.Sayable := by
  obtain ⟨rfl, sound⟩ := toMetric_of_reading h
  cases r with
  | gauge name value =>
    constructor
    · intro n hn
      cases hn
    · intro x hx
      cases hx
      exact sound.2
  | counter name amount =>
    constructor
    · intro n hn
      cases hn
      exact isShort_of_inRange sound.2
    · intro x hx
      cases hx

end Metric

/-! ### Agreement -/

namespace Collector

/-- A collector answers a request with the status 200 and has asked its store for some updates, in
order and for no others. -/
structure Applies (S : Lawful) (server : Server) (request : Request) (s : S.State)
    (readings : List Reading) (after : Contents) : Prop where
  status : (run S.answer (respond server request) s).1.status = 200
  contents : S.contents (run S.answer (respond server request) s).2 = after
  updates : (asked S.answer (respond server request) s).filter Call.isUpdate
    = readings.map Ingest.callOf

end Collector

namespace Agent.Client

open Collector

variable {S : Lawful} {s : S.State} {after : Contents} (client : Client) (policy : BatchPolicy)

/-- The server that shares the key of a client. -/
def server : Server := ⟨client.guard, policy⟩

theorem payload_batchRequest (batch : List Metric) :
    payload client.guard (client.batchRequest batch).arrived = .ok (Snapshot.toBytes none batch) :=
  client.payload_postJson_own _ _

theorem payload_singleRequest (m : Metric) :
    payload client.guard (client.singleRequest m).arrived
      = .ok (Utf8.encode (m.toJson.toText .spaced)) :=
  client.payload_postJson_own _ _

/-- How a batch is answered with the same key. -/
theorem respond_batchRequest (root : client.url.IsRoot) {batch : List Metric}
    (read : Snapshot.ofBytes (Snapshot.toBytes none batch) = .ok batch) :
    respond (client.server policy) (client.batchRequest batch).arrived
      = Ingest.applyBatch policy batch >>= fun outcome =>
        pure (sent (client.batchRequest batch).arrived (afterBatch client.guard outcome)) :=
  respond_updates (ofPath?_batchRequest root batch) rfl (client.payload_batchRequest batch) read

/-- A batch is applied. -/
theorem applies_batchRequest (root : client.url.IsRoot) (unfailing : S.Unfailing)
    {batch : List Metric} {readings : List Reading} (valid : Metric.readings batch = .ok readings)
    (read : Snapshot.ofBytes (Snapshot.toBytes none batch) = .ok batch)
    (effect : Ingest.effectOf readings (S.contents s) = .ok after) :
    Applies S (client.server policy) (client.batchRequest batch).arrived s readings after := by
  have responds := client.respond_batchRequest policy root read
  obtain ⟨s', hs', hrun, hasked⟩ := Ingest.run_applyBatch_taken unfailing policy valid effect
  constructor
  · rw [responds, run_bind]
    show (sent _ (afterBatch client.guard (run S.answer (Ingest.applyBatch policy batch) s).1)).status
      = 200
    rw [hrun]
    exact (status_updates client.guard _ _).2 ⟨batch, rfl⟩
  · rw [responds, run_bind]
    show S.contents (run S.answer (Ingest.applyBatch policy batch) s).2 = after
    rw [hrun]
    exact hs'
  · rw [responds, asked_bind]
    show (asked S.answer (Ingest.applyBatch policy batch) s ++ []).filter Call.isUpdate = _
    rw [hasked, List.append_nil]
    refine List.filter_eq_self.2 fun call hcall => ?_
    obtain ⟨r, -, rfl⟩ := List.mem_map.1 hcall
    exact Ingest.isUpdate_callOf r

/-- A single record is applied. -/
theorem applies_singleRequest (root : client.url.IsRoot) (unfailing : S.Unfailing) {m : Metric}
    {r : Reading} (valid : m.reading = .ok r)
    (read : Metric.ofBytes (Utf8.encode (m.toJson.toText .spaced)) = .ok m)
    (effect : (Ingest.callOf r).effect (S.contents s) = .ok after) :
    Applies S (client.server policy) (client.singleRequest m).arrived s [r] after := by
  have responds : respond (client.server policy) (client.singleRequest m).arrived = _ :=
    respond_update (ofPath?_singleRequest root m) rfl (client.payload_singleRequest m) read
  obtain ⟨s', r', hs', same, hrun, hasked⟩ := Ingest.run_apply_taken unfailing valid effect
  have sound := (Metric.toMetric_of_reading valid).2
  constructor
  · rw [responds, run_bind]
    show (sent _ (afterSingle client.guard (run S.answer (Ingest.apply m) s).1)).status = 200
    rw [hrun]
    refine status_update fun name value h => ?_
    rw [← same name value h, h] at sound
    exact sound.2
  · rw [responds, run_bind]
    show S.contents (run S.answer (Ingest.apply m) s).2 = after
    rw [hrun]
    exact hs'
  · rw [responds, asked_bind]
    show (asked S.answer (Ingest.apply m) s ++ []).filter Call.isUpdate = _
    rw [List.append_nil, hasked]
    rfl

end Agent.Client

open Agent Collector in
/-- **Agent and collector agree on what is sent.**  For every shared key, a collector reads the
requests of a client as the well-formed records that they were made of.  At the root address, on a
store that does not fail and where no counter leaves its range, it answers that it has applied them,
and it has, in order. -/
theorem agent_agrees_with_collector (key : Option String) (url : Url) (policy : BatchPolicy)
    {batch : List Metric} (nonempty : batch ≠ [])
    (valid : ∀ m ∈ batch, ∃ r, m.reading = .ok r) :
    let client : Client := ⟨url, .ofKey key⟩
    let server : Server := ⟨.ofKey key, policy⟩
    (∃ body, payload server.guard (client.batchRequest batch).arrived = .ok body ∧
        Snapshot.ofBytes body = .ok batch) ∧
      (∀ m ∈ batch, ∃ body, payload server.guard (client.singleRequest m).arrived = .ok body ∧
        Metric.ofBytes body = .ok m) ∧
      (url.IsRoot → ∃ readings, Metric.readings batch = .ok readings ∧
        ∀ S : Lawful, S.Unfailing → ∀ s : S.State,
          (∀ after, Ingest.effectOf readings (S.contents s) = .ok after →
            Applies S server (client.batchRequest batch).arrived s readings after) ∧
          ∀ r ∈ readings, ∀ after, (Ingest.callOf r).effect (S.contents s) = .ok after →
            Applies S server (client.singleRequest r.toMetric).arrived s [r] after) := by
  intro client server
  have sayable : ∀ m ∈ batch, m.Sayable := by
    intro m hm
    obtain ⟨r, hr⟩ := valid m hm
    exact Metric.sayable_of_reading hr
  have batchRead := Snapshot.ofBytes_toBytes none sayable
  have singleRead {m : Metric} (hm : m ∈ batch) := Metric.ofBytes_spaced (sayable m hm).delta
  refine ⟨⟨_, client.payload_batchRequest batch, batchRead⟩, ?_, ?_⟩
  · intro m hm
    exact ⟨_, client.payload_singleRequest m, singleRead hm⟩
  · intro root
    obtain ⟨readings, hreadings⟩ := Metric.readings_of_valid nonempty valid
    refine ⟨readings, hreadings, ?_⟩
    intro S unfailing s
    refine ⟨?_, ?_⟩
    · intro after effect
      exact client.applies_batchRequest policy root unfailing hreadings batchRead effect
    · intro r hr after effect
      obtain ⟨records, sound⟩ := Metric.toMetric_of_readings hreadings
      have hm : r.toMetric ∈ batch := records ▸ List.mem_map_of_mem hr
      exact client.applies_singleRequest policy root unfailing (Metric.reading_toMetric (sound r hr))
        (singleRead hm) effect

open Agent Collector in
/-- The case of names with a quotation mark, a control character and a character beyond 16 bits, at
a collector on an empty memory store. -/
theorem agent_agrees_with_collector_on_odd_names :
    let batch := [(Reading.gauge "\x22\x01" .zero).toMetric, (Reading.counter "𝕏" 2).toMetric]
    let url : Url := ⟨"http", true, "collector", some 8080, [], none⟩
    let client : Client := ⟨url, .ofKey (some "secret")⟩
    let server : Server := ⟨.ofKey (some "secret"), .continue⟩
    batch ≠ [] ∧ (∀ m ∈ batch, ∃ r, m.reading = .ok r) ∧ url.IsRoot ∧
      Applies (Lawful.ofRefusing []) server (client.batchRequest batch).arrived ⟨.empty, ()⟩
        [.gauge "\x22\x01" .zero, .counter "𝕏" 2]
        ((Contents.empty.setGauge "\x22\x01" .zero).setCounter "𝕏" 2) := by
  intro batch url client server
  have nonempty : batch ≠ [] := List.cons_ne_nil _ _
  have valid : ∀ m ∈ batch, ∃ r, m.reading = .ok r := by
    intro m hm
    rcases List.mem_cons.1 hm with rfl | hm
    · exact ⟨_, rfl⟩
    · cases List.mem_singleton.1 hm
      exact ⟨_, rfl⟩
  obtain ⟨-, -, applied⟩ :=
    agent_agrees_with_collector (some "secret") url .continue nonempty valid
  obtain ⟨readings, hreadings, applied⟩ := applied rfl
  have same : Metric.readings batch = .ok [.gauge "\x22\x01" .zero, .counter "𝕏" 2] := rfl
  cases hreadings.symm.trans same
  refine ⟨nonempty, valid, rfl, ?_⟩
  exact (applied (Lawful.ofRefusing []) Lawful.unfailing_ofRefusing_nil ⟨.empty, ()⟩).1 _ rfl

end Telemetry
