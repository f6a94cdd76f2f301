import Telemetry.Proofs.Collector.Rules

/-!
# Batches and single updates

A batch is validated as a whole before any of it is applied, while updates that come one at a time
are each validated when their turn has come.  Both offer the same readings to the store in the same
order.  So a batch is applied exactly if every one of its records would be, and the two ways leave
the store in the same state (`applyBatch_agrees_singly`).  This holds whether or not the medium of
the store fails.
-/

namespace Telemetry

open Dialogue
open Store (AtWork Call)

namespace Ingest

variable {policy : BatchPolicy} {store : AtWork} {batch : List Metric} {readings : List Reading}
  {m : Metric} {r : Reading} {name : String}

/-! ### Readings that are all taken -/

/-- A store takes all of some readings that are offered to it in order. -/
def TakesAll (store : AtWork) (readings : List Reading) : Prop :=
  ∀ outcome ∈ (offerAll store readings).1, outcome = .value ()

theorem takesAll_nil : TakesAll store [] := nofun

theorem takesAll_cons {later : List Reading} :
    TakesAll store (r :: later)
      ↔ (offer store r).1 = .value () ∧ TakesAll (offer store r).2 later := by
  rw [TakesAll, offerAll_cons, List.forall_mem_cons]
  rfl

/-- The states of the metrics after each of some readings. -/
def statesAfter (store : AtWork) : List Reading → List Reading
  | [] => []
  | r :: later => stateIn (offer store r).2.contents r :: statesAfter (offer store r).2 later

/-! ### Batches -/

/-- A batch goes through to its end without a fault only if the store takes all of it. -/
theorem takesAll_of_updateAll {p p' : Progress}
    (ended : (run AtWork.answer (updateAll policy readings p) store).1 = .value p')
    (faultless : p'.first = none) : p.first = none ∧ TakesAll store readings := by
  induction readings generalizing store p with
  | nil =>
    cases ended
    exact ⟨faultless, takesAll_nil⟩
  | cons r later ih =>
    rw [updateAll_cons, run_update] at ended
    cases outcome : (offer store r).1 with
    | value =>
      rw [outcome] at ended
      obtain ⟨before, rest⟩ := ih ended
      exact ⟨before, takesAll_cons.2 ⟨outcome, rest⟩⟩
    | cancelled =>
      rw [outcome] at ended
      cases ended
    | failure e =>
      rw [outcome] at ended
      cases e with
      | overflow => cases ended
      | unexpected => cases ended
      | storage fault =>
        -- A fault that has been noted stays noted, so this batch does not end without one.
        cases policy with
        | «continue» =>
          obtain ⟨noted, -⟩ := ih ended
          cases noted
        | abort =>
          cases ended
          cases faultless

theorem run_updateAll_of_takesAll {p : Progress} (takes : TakesAll store readings) :
    run AtWork.answer (updateAll policy readings p) store
      = (.value { p with applied := p.applied + readings.length }, (offerAll store readings).2) := by
  induction readings generalizing store p with
  | nil => rfl
  | cons r later ih =>
    obtain ⟨taken, rest⟩ := takesAll_cons.1 takes
    rw [updateAll_cons, run_update, taken]
    change run AtWork.answer (updateAll policy later p.success) (offer store r).2 = _
    rw [ih rest, Progress.success]
    simp only [List.length_cons, Nat.add_assoc, Nat.add_comm 1, offerAll_cons]

/-- **A batch is applied exactly if its records are well formed and the store takes them all.** -/
theorem applyBatch_returns_iff :
    (∃ answer, (run AtWork.answer (applyBatch policy batch) store).1 = .value answer)
      ↔ ∃ readings, Metric.readings batch = .ok readings ∧ TakesAll store readings := by
  cases valid : Metric.readings batch with
  | error reason =>
    have refused : applyBatch policy batch = .done (.failure (.invalid reason)) := by
      rw [applyBatch, valid]
      rfl
    rw [refused]
    constructor
    · rintro ⟨answer, ended⟩
      cases ended
    · rintro ⟨readings, h, -⟩
      cases h
  | ok readings =>
    rw [applyBatch, valid]
    dsimp only
    constructor
    · rintro ⟨answer, ended⟩
      refine ⟨readings, rfl, ?_⟩
      rw [Dialogue.andThen, run_bind] at ended
      cases outcome : (run AtWork.answer (updateAll policy readings {}) store).1 with
      | failure => rw [outcome] at ended; cases ended
      | cancelled => rw [outcome] at ended; cases ended
      | value p =>
        rw [outcome] at ended
        cases faultless : p.first with
        | none => exact (takesAll_of_updateAll outcome faultless).2
        | some fault =>
          simp only [faultless] at ended
          cases ended
    · rintro ⟨readings', same, takes⟩
      cases same
      rw [run_andThen_value (run_updateAll_of_takesAll takes)]
      exact ⟨batch, rfl⟩

theorem run_applyBatch_of_takesAll (valid : Metric.readings batch = .ok readings)
    (takes : TakesAll store readings) :
    run AtWork.answer (applyBatch policy batch) store
      = (.value batch, (offerAll store readings).2) := by
  rw [applyBatch, valid]
  dsimp only
  rw [run_andThen_value (run_updateAll_of_takesAll takes)]
  rfl

/-! ### Single updates -/

theorem run_stateAfter (store : AtWork) (r : Reading) :
    run AtWork.answer (stateAfter r) store = (.value (stateIn store.contents r), store) := by
  cases r with
  | gauge => rfl
  | counter name amount =>
    show run AtWork.answer (.ask (.getCounter name) _) store = _
    rw [run_ask, store.answer_getCounter name]
    rfl

/-- A single update is one offer, and then the state of the metric is looked up. -/
theorem run_apply (valid : m.reading = .ok r) (store : AtWork) :
    run AtWork.answer (apply m) store =
      match (offer store r).1 with
      | .value () => (.value (stateIn (offer store r).2.contents r), (offer store r).2)
      | .failure e => (.failure (.ofStore e), (offer store r).2)
      | .cancelled => (.cancelled, (offer store r).2) := by
  rw [apply, valid]
  dsimp only
  rw [Dialogue.andThen, run_update]
  cases (offer store r).1 with
  | value => exact run_stateAfter _ r
  | failure => rfl
  | cancelled => rfl

/-- A single update is applied exactly if it is well formed and the store takes it. -/
theorem apply_returns_iff :
    (∃ state, (run AtWork.answer (apply m) store).1 = .value state)
      ↔ ∃ r, m.reading = .ok r ∧ (offer store r).1 = .value () := by
  cases valid : m.reading with
  | error reason =>
    have refused : apply m = .done (.failure (.invalid reason)) := by
      rw [apply, valid]
      rfl
    rw [refused]
    constructor
    · rintro ⟨state, ended⟩
      cases ended
    · rintro ⟨r, h, -⟩
      cases h
  | ok r =>
    rw [run_apply valid]
    constructor
    · rintro ⟨state, ended⟩
      refine ⟨r, rfl, ?_⟩
      cases outcome : (offer store r).1 with
      | value => rfl
      | failure e => rw [outcome] at ended; cases ended
      | cancelled => rw [outcome] at ended; cases ended
    · rintro ⟨r', same, taken⟩
      cases same
      rw [taken]
      exact ⟨_, rfl⟩

/-- The updates of a list are run one after the other, also after one that has failed. -/
theorem run_singly_cons (store : AtWork) (m : Metric) (later : List Metric) :
    run AtWork.answer ((m :: later).mapM apply) store
      = ((run AtWork.answer (apply m) store).1
          :: (run AtWork.answer (later.mapM apply) (run AtWork.answer (apply m) store).2).1,
        (run AtWork.answer (later.mapM apply) (run AtWork.answer (apply m) store).2).2) := by
  rw [List.mapM_cons, run_bind, run_bind]
  rfl

/-- The readings of some records, where all of them are well formed. -/
theorem mapM_reading_cons {later : List Metric} :
    (m :: later).mapM Metric.reading = .ok readings
      ↔ ∃ r rest, m.reading = .ok r ∧ later.mapM Metric.reading = .ok rest ∧
        readings = r :: rest := by
  rw [List.mapM_cons]
  constructor
  · intro h
    cases first : m.reading with
    | error e => rw [first] at h; cases h
    | ok r =>
      cases others : later.mapM Metric.reading with
      | error e => rw [first, others] at h; cases h
      | ok rest =>
        rw [first, others] at h
        cases h
        exact ⟨r, rest, rfl, rfl, rfl⟩
  · rintro ⟨r, rest, first, others, rfl⟩
    rw [first, others]
    rfl

theorem run_singly_of_takesAll (valid : batch.mapM Metric.reading = .ok readings)
    (takes : TakesAll store readings) :
    run AtWork.answer (batch.mapM apply) store
      = ((statesAfter store readings).map .value, (offerAll store readings).2) := by
  induction batch generalizing store readings with
  | nil =>
    cases valid
    rfl
  | cons m later ih =>
    obtain ⟨r, rest, first, others, rfl⟩ := mapM_reading_cons.1 valid
    obtain ⟨taken, takes⟩ := takesAll_cons.1 takes
    have applied : run AtWork.answer (apply m) store
        = (.value (stateIn (offer store r).2.contents r), (offer store r).2) := by
      rw [run_apply first, taken]
    rw [run_singly_cons, applied, ih others takes]
    rfl

/-- **Single updates all succeed exactly if the records are well formed and the store takes them
all.** -/
theorem singly_returns_iff :
    (∀ outcome ∈ (run AtWork.answer (batch.mapM apply) store).1, ∃ state, outcome = .value state)
      ↔ ∃ readings, batch.mapM Metric.reading = .ok readings ∧ TakesAll store readings := by
  constructor
  · intro succeed
    induction batch generalizing store with
    | nil => exact ⟨[], rfl, takesAll_nil⟩
    | cons m later ih =>
      rw [run_singly_cons, List.forall_mem_cons] at succeed
      obtain ⟨first, rest⟩ := succeed
      obtain ⟨r, valid, taken⟩ := apply_returns_iff.1 first
      have left : (run AtWork.answer (apply m) store).2 = (offer store r).2 := by
        rw [run_apply valid, taken]
      obtain ⟨readings, others, takes⟩ := ih rest
      rw [left] at takes
      exact ⟨r :: readings, mapM_reading_cons.2 ⟨r, readings, valid, others, rfl⟩,
        takesAll_cons.2 ⟨taken, takes⟩⟩
  · rintro ⟨readings, valid, takes⟩
    rw [run_singly_of_takesAll valid takes]
    intro outcome h
    obtain ⟨state, -, rfl⟩ := List.mem_map.1 h
    exact ⟨state, rfl⟩

/-! ### The sums that are answered -/

/-- The sum of a counter in the answer to an update. -/
def sumOf? (name : String) : Outcome Error Reading → Option Int
  | .value (.counter other sum) => if other = name then some sum else none
  | _ => none

/-- The sum in the last answer that gives one of a counter. -/
def lastSum? (name : String) (outcomes : List (Outcome Error Reading)) : Option Int :=
  (outcomes.filterMap (sumOf? name)).getLast?

theorem lastSum?_cons (name : String) (outcome : Outcome Error Reading)
    (later : List (Outcome Error Reading)) :
    lastSum? name (outcome :: later) = (lastSum? name later).or (sumOf? name outcome) := by
  unfold lastSum?
  cases h : sumOf? name outcome with
  | none => rw [List.filterMap_cons_none h, Option.or_none]
  | some sum =>
    rw [List.filterMap_cons_some h, List.getLast?_cons]
    cases (later.filterMap (sumOf? name)).getLast? <;> rfl

/-- What a reading that is taken makes of a counter is what is answered, or what was there. -/
theorem get?_of_taken (sound : r.Sound) (taken : (offer store r).1 = .value ()) (name : String) :
    (offer store r).2.contents.counters.get? name
      = (sumOf? name (.value (stateIn (offer store r).2.contents r))).or
        (store.contents.counters.get? name) := by
  have effect := effect_of_taken sound taken
  generalize (offer store r).2.contents = after at effect
  cases r with
  | gauge other value =>
    cases effect
    rfl
  | counter other amount =>
    obtain ⟨-, rfl⟩ := Store.setCounter_checked effect
    by_cases same : other = name
    · subst same
      simp [sumOf?, stateIn, Contents.setCounter]
    · simp [sumOf?, stateIn, Contents.setCounter, Table.get?_put, same]

/-- **The last sum that is answered is the one that is stored.** -/
theorem get?_of_takesAll (sound : ∀ r ∈ readings, r.Sound) (takes : TakesAll store readings)
    (name : String) :
    (offerAll store readings).2.contents.counters.get? name
      = (lastSum? name ((statesAfter store readings).map .value)).or
        (store.contents.counters.get? name) := by
  induction readings generalizing store with
  | nil => rfl
  | cons r later ih =>
    obtain ⟨first, others⟩ := List.forall_mem_cons.1 sound
    obtain ⟨taken, rest⟩ := takesAll_cons.1 takes
    have later := ih others rest
    rw [get?_of_taken first taken name] at later
    rw [offerAll_cons, later, statesAfter, List.map_cons, lastSum?_cons, Option.or_assoc]

/-- A counter that is updated has its sum answered. -/
theorem exists_lastSum {amount : Int} (updated : .counter name amount ∈ readings)
    (store : AtWork) :
    ∃ sum, lastSum? name ((statesAfter store readings).map .value) = some sum := by
  induction readings generalizing store with
  | nil => cases updated
  | cons r later ih =>
    rw [statesAfter, List.map_cons, lastSum?_cons]
    rcases List.mem_cons.1 updated with rfl | updated
    · cases lastSum? name ((statesAfter _ later).map .value) with
      | some sum => exact ⟨sum, rfl⟩
      | none => exact ⟨_, by rw [stateIn, sumOf?, if_pos rfl, Option.none_or]⟩
    · obtain ⟨sum, last⟩ := ih updated _
      exact ⟨sum, by rw [last, Option.some_or]⟩

/-! ### Agreement -/

/-- **A batch is applied exactly if all of its records would be, one at a time.**  The store is then
left in the same state, and the last sum that is answered for a counter is its total after the
batch. -/
theorem applyBatch_agrees_singly (policy : BatchPolicy) (store : AtWork) (nonempty : batch ≠ []) :
    let batched := run AtWork.answer (applyBatch policy batch) store
    let singly := run AtWork.answer (batch.mapM apply) store
    ((∃ answer, batched.1 = .value answer) ↔
      ∀ outcome ∈ singly.1, ∃ state, outcome = .value state) ∧
    ((∃ answer, batched.1 = .value answer) →
      batched.2 = singly.2 ∧
      ∀ m ∈ batch, m.kind? = some .counter → ∃ sum, lastSum? m.id singly.1 = some sum ∧
        (batched.2.answer (.getCounter m.id)).1 = .value (some sum)) := by
  intro batched singly
  have validated : Metric.readings batch = batch.mapM Metric.reading := by
    rw [Metric.readings, if_neg (by simp [nonempty])]
  refine ⟨?_, fun returns => ?_⟩
  · rw [applyBatch_returns_iff, singly_returns_iff, validated]
  · obtain ⟨readings, valid, takes⟩ := applyBatch_returns_iff.1 returns
    obtain ⟨records, sound⟩ := Metric.toMetric_of_readings valid
    have batched_eq : batched = (.value batch, (offerAll store readings).2) :=
      run_applyBatch_of_takesAll valid takes
    have singly_eq : singly
        = ((statesAfter store readings).map .value, (offerAll store readings).2) :=
      run_singly_of_takesAll (validated ▸ valid) takes
    rw [batched_eq, singly_eq]
    refine ⟨rfl, fun m hm kind => ?_⟩
    rw [records] at hm
    obtain ⟨r, hr, rfl⟩ := List.mem_map.1 hm
    cases r with
    | gauge => cases kind
    | counter name amount =>
      obtain ⟨sum, last⟩ := exists_lastSum hr store
      refine ⟨sum, last, ?_⟩
      have stored := get?_of_takesAll sound takes name
      rw [last, Option.some_or] at stored
      show ((offerAll store readings).2.answer (.getCounter name)).1 = _
      rw [Store.AtWork.answer_getCounter, stored]
      rfl

/-- A full counter goes down and up again, and a gauge of the same name is set in between. -/
theorem applyBatch_agrees_singly_of_full_counter :
    let batch := [(Reading.counter "hits" (-1)).toMetric, (Reading.gauge "hits" .zero).toMetric,
      (Reading.counter "hits" 1).toMetric]
    let store : AtWork := .memory ⟨⟨.empty, ⟨[("hits", 9223372036854775807)], by decide⟩⟩, ()⟩
    batch ≠ [] ∧ (∃ answer, (run AtWork.answer (applyBatch .abort batch) store).1 = .value answer) ∧
      (run AtWork.answer (applyBatch .abort batch) store).2
        = (run AtWork.answer (batch.mapM apply) store).2 := by
  intro batch store
  have nonempty : batch ≠ [] := List.cons_ne_nil _ _
  have returns : ∃ answer, (run AtWork.answer (applyBatch .abort batch) store).1 = .value answer :=
    ⟨batch, rfl⟩
  exact ⟨nonempty, returns, ((applyBatch_agrees_singly .abort store nonempty).2 returns).1⟩

end Ingest
end Telemetry
