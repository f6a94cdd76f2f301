import Telemetry.Ingest
import Telemetry.Proofs.Store.AtWork

/-!
# Batches that are answered as invalid

A batch is validated before anything of it is applied, so a record that is not well formed leaves
no trace.  A counter that leaves its range is noticed only where it is applied, and is answered as
invalid too (`updateAll_overflow`).  A batch that is answered as invalid therefore leaves no trace
except where an element before such a counter has been stored (`OverflowsLate`).
-/

namespace Telemetry

/-! ### Readings of a batch -/

/-- The records of a batch are those of its readings, which are sound. -/
theorem Metric.toMetric_of_readings {batch : List Metric} {readings : List Reading}
    (h : Metric.readings batch = .ok readings) :
    batch = readings.map Reading.toMetric ∧ ∀ r ∈ readings, r.Sound := by
  -- Each reading comes of one record, so the induction is on the records.
  have each (l : List Metric) (rs : List Reading) (h : l.mapM reading = .ok rs) :
      l = rs.map Reading.toMetric ∧ ∀ r ∈ rs, r.Sound := by
    induction l generalizing rs with
    | nil =>
      cases h
      exact ⟨rfl, nofun⟩
    | cons m rest ih =>
      rw [List.mapM_cons] at h
      cases hm : m.reading with
      | error e => rw [hm] at h; cases h
      | ok r =>
        cases hrest : rest.mapM reading with
        | error e => rw [hm, hrest] at h; cases h
        | ok rs' =>
          rw [hm, hrest] at h
          cases h
          obtain ⟨same, sound⟩ := ih rs' hrest
          obtain ⟨first, sound'⟩ := toMetric_of_reading hm
          refine ⟨?_, List.forall_mem_cons.2 ⟨sound', sound⟩⟩
          rw [List.map_cons, ← same, ← first]
  unfold Metric.readings at h
  split at h
  · cases h
  · exact each batch readings h

namespace Ingest

open Dialogue
open Store (AtWork Call Exchange askEach)

def callOf : Reading → Call
  | .gauge name value => .updateGauge name value
  | .counter name amount => .updateCounter name amount

theorem bindable_callOf {r : Reading} (sound : r.Sound) : (callOf r).Bindable := by
  cases r with
  | gauge => trivial
  | counter => exact sound.2

/-- An update is one call, and what its answer returns says nothing. -/
theorem update_bind {α : Type} (r : Reading) (f : Outcome Error Unit → Doing α) :
    (update r >>= f) = .ask (callOf r) fun answer =>
      f ((answer.map fun _ => ()).mapFailure Error.ofStore) := by
  cases r with
  | gauge name value =>
    refine congrArg (Dialogue.ask (Call.updateGauge name value)) (funext fun answer => ?_)
    cases answer <;> rfl
  | counter name amount =>
    refine congrArg (Dialogue.ask (Call.updateCounter name amount)) (funext fun answer => ?_)
    cases answer <;> rfl

/-- How a batch goes on after one of its elements. -/
def goOn (policy : BatchPolicy) (later : List Reading) (p : Progress) :
    Outcome Error Unit → Doing (Outcome Error Progress)
  | .value () => updateAll policy later p.success
  | .failure (.storage fault) =>
      match policy with
      | .continue => updateAll policy later (p.failure fault)
      | .abort => pure (.value (p.failure fault))
  | .failure e => pure (.failure e)
  | .cancelled => pure .cancelled

theorem updateAll_cons (policy : BatchPolicy) (r : Reading) (later : List Reading) (p : Progress) :
    updateAll policy (r :: later) p = update r >>= goOn policy later p := by
  rw [updateAll]
  refine congrArg (update r >>= ·) (funext fun outcome => ?_)
  cases outcome with
  | value => rfl
  | failure e => cases e <;> rfl
  | cancelled => rfl

/-! ### Offers -/

/-- Offer a reading to a store. -/
def offer (store : AtWork) : Reading → Outcome Store.Error Unit × AtWork
  | .gauge name value => store.answer (.updateGauge name value)
  | .counter name amount => store.answer (.updateCounter name amount)

/-- An update that has an effect keeps its counter within range. -/
theorem inRange_of_effect {r : Reading} {c after : Contents}
    (effect : (callOf r).effect c = .ok after) :
    ∀ name amount, r = .counter name amount → InRange (c.total name + amount) := by
  rintro name amount rfl
  exact (Store.setCounter_checked effect).1

/-- What becomes of a reading that is offered to a store. -/
inductive Offered (store : AtWork) (r : Reading) : Outcome Store.Error Unit → AtWork → Prop
  | stored {after : AtWork} (effect : (callOf r).effect store.contents = .ok after.contents) :
      Offered store r (.value ()) after
  | refused {name : String} {amount : Int} (counter : r = .counter name amount)
      (range : ¬ InRange (store.contents.total name + amount)) :
      Offered store r (.failure (.overflow name)) store
  | unsaved {after : AtWork} {missed : Contents} (fault : Store.Fault)
      (effect : (callOf r).effect store.contents = .ok missed)
      (same : after.contents = store.contents) :
      Offered store r (.failure (.storage fault)) after
  | astray {after : AtWork} (effect : (callOf r).effect store.contents = .ok after.contents) :
      Offered store r (.failure Store.File.nowhere) after

/-- **A reading is stored, refused, unsaved or led astray**, and only the first and the last change
the contents. -/
theorem offered (store : AtWork) {r : Reading} (sound : r.Sound) :
    Offered store r (offer store r).1 (offer store r).2 := by
  by_cases astray : store.LeadsAstray (callOf r)
  · obtain ⟨failed, effect⟩ := Store.AtWork.answer_of_astray astray
    have came {result : Outcome Store.Error Unit × AtWork}
        (failed : result.1 = .failure Store.File.nowhere)
        (effect : (callOf r).effect store.contents = .ok result.2.contents) :
        Offered store r result.1 result.2 := failed ▸ .astray effect
    cases r with
    | gauge => exact came failed effect
    | counter => exact came failed effect
  obtain ⟨served, untouched⟩ := store.answered (bindable_callOf sound) astray
  have served : Store.Served (callOf r).effect (fun _ => ()) store.contents (offer store r).1
      (offer store r).2.contents := by
    cases r with
    | gauge => exact served
    | counter => exact served
  have untouched :
      ∀ e, (callOf r).effect store.contents = .error e → (offer store r).2 = store := by
    cases r with
    | gauge => exact untouched
    | counter => exact untouched
  generalize offer store r = result at served untouched
  obtain ⟨outcome, after⟩ := result
  dsimp only at served untouched
  generalize hafter : after.contents = c at served
  cases served with
  | done effect => exact .stored (hafter ▸ effect)
  | failed effect fault => exact .unsaved fault effect hafter
  | refused h =>
    rw [untouched _ h]
    cases r with
    | gauge => cases h
    | counter name amount =>
      obtain ⟨range, rfl⟩ := Store.setCounter_checked_error h
      exact .refused rfl range

/-- What is taken has its effect. -/
theorem effect_of_taken {store : AtWork} {r : Reading} (sound : r.Sound)
    (taken : (offer store r).1 = .value ()) :
    (callOf r).effect store.contents = .ok (offer store r).2.contents := by
  have becomes := offered store sound
  rw [taken] at becomes
  cases becomes with
  | stored effect => exact effect

/-- Offer readings to a store one after the other. -/
def offerAll (store : AtWork) : List Reading → List (Outcome Store.Error Unit) × AtWork
  | [] => ([], store)
  | r :: later =>
      let first := offer store r
      let rest := offerAll first.2 later
      (first.1 :: rest.1, rest.2)

theorem offerAll_cons (store : AtWork) (r : Reading) (later : List Reading) :
    offerAll store (r :: later) = ((offer store r).1 :: (offerAll (offer store r).2 later).1,
      (offerAll (offer store r).2 later).2) := rfl

/-- A batch goes on after an element that was stored, and under one policy after an element that
could not be saved. -/
def GoesOn (policy : BatchPolicy) : Outcome Store.Error Unit → Prop
  | .value _ => True
  | .failure (.storage _) => policy = .continue
  | _ => False

variable {policy : BatchPolicy}

/-- Readings of which none is stored leave the contents as they were, where a batch goes on. -/
theorem contents_offerAll {readings : List Reading} (sound : ∀ r ∈ readings, r.Sound)
    (store : AtWork) (goesOn : ∀ outcome ∈ (offerAll store readings).1, GoesOn policy outcome)
    (none : .value () ∉ (offerAll store readings).1) :
    (offerAll store readings).2.contents = store.contents := by
  induction readings generalizing store with
  | nil => rfl
  | cons r later ih =>
    have hr := offered store (sound r List.mem_cons_self)
    rw [offerAll_cons, List.mem_cons, not_or] at none
    rw [offerAll_cons, List.forall_mem_cons] at goesOn
    have later' := ih (fun r' h => sound r' (List.mem_cons_of_mem _ h)) (offer store r).2
      goesOn.2 none.2
    refine later'.trans ?_
    have goesOn := goesOn.1
    have none := none.1
    generalize offer store r = result at hr goesOn none
    obtain ⟨outcome, after⟩ := result
    cases hr with
    | stored => exact (none rfl).elim
    | refused => rfl
    | unsaved fault effect same => exact same
    | astray => exact goesOn.elim

/-! ### The loop over a batch -/

/-- One update is one offer. -/
theorem run_update {α : Type} (store : AtWork) (r : Reading)
    (f : Outcome Error Unit → Doing α) :
    run AtWork.answer (update r >>= f) store
      = run AtWork.answer (f ((offer store r).1.mapFailure Error.ofStore)) (offer store r).2 := by
  cases r with
  | gauge => rfl
  | counter => rfl

def exchange (store : AtWork) (r : Reading) : Exchange :=
  let result := store.answer (callOf r)
  ⟨callOf r, result.1, result.2.tried - store.tried⟩

theorem succeeded_exchange {store : AtWork} {r : Reading} :
    (exchange store r).Succeeded ↔ (offer store r).1 = .value () := by
  cases r with
  | gauge => exact ⟨fun ⟨_, h⟩ => h, fun h => ⟨_, h⟩⟩
  | counter => exact ⟨fun ⟨_, h⟩ => h, fun h => ⟨_, h⟩⟩

theorem transcript_update {α : Type} (store : AtWork) (r : Reading)
    (f : Outcome Error Unit → Doing α) :
    AtWork.transcript (update r >>= f) store
      = exchange store r
        :: AtWork.transcript (f ((offer store r).1.mapFailure Error.ofStore))
          (offer store r).2 := by
  cases r with
  | gauge => rfl
  | counter => rfl

/-- **A batch passes over elements after which it goes on.** -/
theorem updateAll_append {before later : List Reading} (store : AtWork) (p : Progress)
    (goesOn : ∀ outcome ∈ (offerAll store before).1, GoesOn policy outcome) :
    ∃ (p' : Progress) (exchanges : List Exchange),
      run AtWork.answer (updateAll policy (before ++ later) p) store
          = run AtWork.answer (updateAll policy later p') (offerAll store before).2 ∧
        AtWork.transcript (updateAll policy (before ++ later) p) store
          = exchanges
            ++ AtWork.transcript (updateAll policy later p') (offerAll store before).2 ∧
          ((∃ e ∈ exchanges, e.Succeeded) ↔ .value () ∈ (offerAll store before).1) := by
  -- The induction is on the elements passed over; the store and the count go along with it.
  induction before generalizing store p with
  | nil => exact ⟨p, [], rfl, rfl, by simp [offerAll]⟩
  | cons r before ih =>
    rw [offerAll_cons] at goesOn ⊢
    have first := goesOn _ List.mem_cons_self
    have next := fun p => ih (offer store r).2 p fun outcome h =>
      goesOn outcome (List.mem_cons_of_mem _ h)
    -- Whichever way the batch goes on, the exchange with this element comes first.
    have exchanged {exchanges : List Exchange}
        (succeeded : (∃ e ∈ exchanges, e.Succeeded)
          ↔ .value () ∈ (offerAll (offer store r).2 before).1) :
        (∃ e ∈ exchange store r :: exchanges, e.Succeeded)
          ↔ .value () ∈ (offer store r).1 :: (offerAll (offer store r).2 before).1 := by
      rw [List.mem_cons, ← succeeded, eq_comm, ← succeeded_exchange]
      simp only [List.mem_cons, exists_eq_or_imp]
    rw [List.cons_append, updateAll, run_update, transcript_update]
    generalize (offer store r).1 = outcome at first exchanged
    cases outcome with
    | value =>
      obtain ⟨p', exchanges, hrun, htranscript, succeeded⟩ := next p.success
      refine ⟨p', exchange store r :: exchanges, hrun, ?_, exchanged succeeded⟩
      exact congrArg (List.cons _) htranscript
    | cancelled => exact first.elim
    | failure e =>
      cases e with
      | overflow => exact first.elim
      | unexpected => exact first.elim
      | storage fault =>
        have continues : policy = .continue := first
        subst continues
        obtain ⟨p', exchanges, hrun, htranscript, succeeded⟩ := next (p.failure fault)
        refine ⟨p', exchange store r :: exchanges, hrun, ?_, exchanged succeeded⟩
        exact congrArg (List.cons _) htranscript

/-- A counter that would leave its range ends the batch. -/
theorem updateAll_overflow {store : AtWork} {name : String} {amount : Int} {later : List Reading}
    (sound : (Reading.counter name amount).Sound)
    (range : ¬ InRange (store.contents.total name + amount)) (p : Progress) :
    run AtWork.answer (updateAll policy (.counter name amount :: later) p) store
        = (.failure (.invalid (.overflow name)), store) ∧
      ∃ e : Exchange, ¬ e.Succeeded ∧
        AtWork.transcript (updateAll policy (.counter name amount :: later) p) store = [e] := by
  have refused : offer store (.counter name amount) = (.failure (.overflow name), store) := by
    have h := offered store sound
    generalize offer store (.counter name amount) = result at h
    obtain ⟨outcome, after⟩ := result
    cases h with
    | stored effect | unsaved _ effect | astray effect =>
      exact (range (inRange_of_effect effect name amount rfl)).elim
    | refused counter => cases counter; rfl
  refine ⟨?_, exchange store (.counter name amount), ?_, ?_⟩
  · rw [updateAll, run_update, refused]
    rfl
  · rw [succeeded_exchange, refused]
    nofun
  · rw [updateAll, transcript_update, refused]
    rfl

/-- **A batch that ends as invalid has come to a counter that would leave its range.** -/
theorem exists_overflow {readings : List Reading} (sound : ∀ r ∈ readings, r.Sound)
    (store : AtWork) (p : Progress) {reason : Invalid}
    (h : (run AtWork.answer (updateAll policy readings p) store).1 = .failure (.invalid reason)) :
    ∃ before name amount later, readings = before ++ .counter name amount :: later ∧
      (∀ outcome ∈ (offerAll store before).1, GoesOn policy outcome) ∧
        ¬ InRange ((offerAll store before).2.contents.total name + amount) := by
  induction readings generalizing store p with
  | nil => cases h
  | cons r later ih =>
    have hr := offered store (sound r List.mem_cons_self)
    have ih := ih fun r' hr' => sound r' (List.mem_cons_of_mem _ hr')
    -- If the batch goes on after this element, the counter is among the later ones.
    have further {p' : Progress} (goesOn : GoesOn policy (offer store r).1)
        (h : (run AtWork.answer (updateAll policy later p') (offer store r).2).1
          = .failure (.invalid reason)) :
        ∃ before name amount later', r :: later = before ++ .counter name amount :: later' ∧
          (∀ outcome ∈ (offerAll store before).1, GoesOn policy outcome) ∧
            ¬ InRange ((offerAll store before).2.contents.total name + amount) := by
      obtain ⟨before, name, amount, later', rfl, goesOn', range⟩ := ih _ p' h
      refine ⟨r :: before, name, amount, later', rfl, ?_, range⟩
      exact List.forall_mem_cons.2 ⟨goesOn, goesOn'⟩
    rw [updateAll, run_update] at h
    generalize hresult : offer store r = result at hr h further
    obtain ⟨outcome, after⟩ := result
    cases hr with
    | stored => exact further trivial h
    | refused counter range => exact ⟨[], _, _, later, counter ▸ rfl, nofun, range⟩
    | unsaved fault =>
      cases policy
      · exact further rfl h
      · cases h
    | astray => cases h

/-! ### Whole batches -/

/-- What a batch comes to is what its readings come to. -/
theorem run_applyBatch {batch : List Metric} {readings : List Reading}
    (h : Metric.readings batch = .ok readings) (store : AtWork) :
    AtWork.transcript (applyBatch policy batch) store
        = AtWork.transcript (updateAll policy readings {}) store ∧
      (run AtWork.answer (applyBatch policy batch) store).2
          = (run AtWork.answer (updateAll policy readings {}) store).2 ∧
        ∀ reason, (run AtWork.answer (applyBatch policy batch) store).1 = .failure (.invalid reason)
          ↔ (run AtWork.answer (updateAll policy readings {}) store).1
            = .failure (.invalid reason) := by
  rw [applyBatch, h]
  dsimp only
  rw [Dialogue.andThen, run_bind, AtWork.transcript_bind]
  generalize run AtWork.answer (updateAll policy readings {}) store = result
  obtain ⟨outcome, after⟩ := result
  cases outcome with
  | failure e => exact ⟨List.append_nil _, rfl, fun _ => by simp [pure]⟩
  | cancelled => exact ⟨List.append_nil _, rfl, fun _ => by simp [pure]⟩
  | value p =>
    dsimp only
    cases p.first with
    | none => exact ⟨List.append_nil _, rfl, fun _ => by simp [pure]⟩
    | some first => exact ⟨List.append_nil _, rfl, fun _ => by simp [pure]⟩

/-- **Where a batch comes to a counter that would leave its range**, it ends as invalid, and only the
elements before that counter count. -/
theorem run_overflow {batch : List Metric} {before later : List Reading} {store : AtWork}
    {name : String} {amount : Int}
    (h : Metric.readings batch = .ok (before ++ .counter name amount :: later))
    (goesOn : ∀ outcome ∈ (offerAll store before).1, GoesOn policy outcome)
    (range : ¬ InRange ((offerAll store before).2.contents.total name + amount)) :
    run AtWork.answer (updateAll policy (before ++ .counter name amount :: later) {}) store
        = (.failure (.invalid (.overflow name)), (offerAll store before).2) ∧
      ((∃ e ∈ AtWork.transcript (applyBatch policy batch) store, e.Succeeded)
        ↔ .value () ∈ (offerAll store before).1) := by
  obtain ⟨p, exchanges, hrun, htranscript, succeeded⟩ := updateAll_append store {} goesOn
  have sound := (Metric.toMetric_of_readings h).2 (.counter name amount) (by simp)
  obtain ⟨hrun', e, failed, htranscript'⟩ := updateAll_overflow sound range p
  refine ⟨hrun.trans hrun', ?_⟩
  rw [(run_applyBatch h store).1, htranscript, htranscript', ← succeeded]
  simp [or_and_right, exists_or, failed]

/-- If a batch is answered as invalid, none of its elements has been applied, and the store lists
what it did before. -/
def LeavesNoTrace (policy : BatchPolicy) (batch : List Metric) (store : AtWork) : Prop :=
  (∃ reason, (run AtWork.answer (applyBatch policy batch) store).1
      = .failure (.invalid reason)) →
    (∀ e ∈ AtWork.transcript (applyBatch policy batch) store, ¬ e.Succeeded) ∧
      ((run AtWork.answer (applyBatch policy batch) store).2.answer .getAll).1
        = (store.answer .getAll).1

/-- Offered the elements of a batch in order, the store takes one of them, fails only where the
batch goes on, and then comes to a counter that would leave its range. -/
def OverflowsLate (policy : BatchPolicy) (batch : List Metric) (store : AtWork) : Prop :=
  ∃ before name amount later,
    Metric.readings batch = .ok (before ++ .counter name amount :: later) ∧
      .value () ∈ (offerAll store before).1 ∧
        (∀ outcome ∈ (offerAll store before).1, GoesOn policy outcome) ∧
          ¬ InRange ((offerAll store before).2.contents.total name + amount)

/-- **A batch that is answered as invalid leaves no trace, except where it overflows late.** -/
theorem leavesNoTrace_iff (policy : BatchPolicy) (batch : List Metric) (store : AtWork) :
    LeavesNoTrace policy batch store ↔ ¬ OverflowsLate policy batch store := by
  constructor
  · rintro leaves ⟨before, name, amount, later, h, stored, goesOn, range⟩
    obtain ⟨hrun, succeeded⟩ := run_overflow h goesOn range
    have invalid := ((run_applyBatch h store).2.2 (.overflow name)).2 (by rw [hrun])
    obtain ⟨e, he, hsucceeded⟩ := succeeded.2 stored
    exact (leaves ⟨_, invalid⟩).1 e he hsucceeded
  · rintro late ⟨reason, invalid⟩
    cases h : Metric.readings batch with
    -- A record that is not well formed ends the batch before the store is asked anything.
    | error reason' =>
      have asked : applyBatch policy batch = .done (.failure (.invalid reason')) := by
        rw [applyBatch, h]
        rfl
      rw [asked]
      exact ⟨(fun e he => nomatch he), rfl⟩
    | ok readings =>
      have sound := (Metric.toMetric_of_readings h).2
      obtain ⟨-, hafter, hinvalid⟩ := run_applyBatch h store
      obtain ⟨before, name, amount, later, rfl, goesOn, range⟩ :=
        exists_overflow sound store {} ((hinvalid reason).1 invalid)
      obtain ⟨hrun, succeeded⟩ := run_overflow h goesOn range
      -- If an element had been stored before the counter, the batch would have overflowed late.
      have none : .value () ∉ (offerAll store before).1 := fun stored =>
        late ⟨before, name, amount, later, h, stored, goesOn, range⟩
      refine ⟨fun e he hsucceeded => none (succeeded.1 ⟨e, he, hsucceeded⟩), ?_⟩
      rw [AtWork.answer_getAll, AtWork.answer_getAll, hafter, hrun]
      have same := contents_offerAll (fun r hr => sound r (List.mem_append_left _ hr)) store goesOn
        none
      exact congrArg (fun c => Outcome.value c.snapshot) same

/-- A gauge is set before a full counter is added to. -/
theorem not_leavesNoTrace_of_full_counter :
    ¬ LeavesNoTrace .continue
      [⟨"load", "gauge", none, some .zero⟩, ⟨"hits", "counter", some 1, none⟩]
      (.memory ⟨⟨.empty, ⟨[("hits", 9223372036854775807)], by decide⟩⟩, ()⟩) := by
  intro leaves
  have traced := (leaves ⟨.overflow "hits", by rfl⟩).1
  exact traced _ List.mem_cons_self ⟨(), rfl⟩

end Ingest
end Telemetry
