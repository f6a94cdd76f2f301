import Telemetry.Proofs.Delivery.Agreement

/-!
# What becomes of a batch

Elements of a batch may fail to be stored, whatever the store, its state and the pattern of its
faults.  The counts that a client sees, the first fault, the calls that the store has got and what
it holds then all tell the same story: `Passed` is that story of the loop over a batch, element by
element, and `Accounts` is what it comes to under each policy (`accounts_applyBatch`).
-/

namespace Telemetry.Ingest

open Dialogue
open Store (Call Lawful)

/-! ### Calls with their answers -/

/-- A call that a store has got, with its answer. -/
abbrev Heard : Type := (call : Call) × call.Answer

namespace Heard

/-- The call has returned. -/
def returned (e : Heard) : Bool :=
  match e.2 with
  | .value _ => true
  | _ => false

/-- The fault of the storage, if the call ended with one. -/
def fault? (e : Heard) : Option Store.Fault :=
  match e.2 with
  | .failure (.storage fault) => some fault
  | _ => none

end Heard

def faults (events : List Heard) : List Store.Fault := events.filterMap Heard.fault?

/-- The readings of which the calls have returned. -/
def stored (readings : List Reading) (events : List Heard) : List Reading :=
  ((readings.zip events).filter fun a => a.2.returned).map Prod.fst

section

variable {e : Heard} {events : List Heard} {fault : Store.Fault} {r : Reading}
  {later : List Reading}

theorem returned_eq_false_of_fault (h : e.fault? = some fault) : e.returned = false := by
  unfold Heard.fault? at h
  unfold Heard.returned
  split at h
  · next heq => rw [heq]
  · cases h

theorem fault?_eq_none_of_returned (h : e.returned = true) : e.fault? = none := by
  unfold Heard.returned at h
  unfold Heard.fault?
  split at h
  · next heq => rw [heq]
  · cases h

@[simp] theorem faults_nil : faults [] = [] := rfl

theorem faults_cons_returned (h : e.returned = true) : faults (e :: events) = faults events :=
  List.filterMap_cons_none (fault?_eq_none_of_returned h)

theorem faults_cons_fault (h : e.fault? = some fault) :
    faults (e :: events) = fault :: faults events :=
  List.filterMap_cons_some h

theorem stored_cons_returned (h : e.returned = true) :
    stored (r :: later) (e :: events) = r :: stored later events := by
  simp [stored, h]

theorem stored_cons_failed (h : e.returned = false) :
    stored (r :: later) (e :: events) = stored later events := by
  simp [stored, h]

@[simp] theorem stored_nil (readings : List Reading) : stored readings [] = [] := by
  simp [stored]

/-- The readings of which the calls have returned one after the other are stored. -/
theorem stored_append {readings : List Reading} {before : List Heard}
    (h : ∀ e ∈ before, e.returned) :
    stored readings (before ++ events)
      = readings.take before.length ++ stored (readings.drop before.length) events := by
  induction before generalizing readings with
  | nil => simp
  | cons e before ih =>
    obtain ⟨first, rest⟩ := List.forall_mem_cons.1 h
    cases readings with
    | nil => simp [stored]
    | cons r later => rw [List.cons_append, stored_cons_returned first, ih rest]; rfl

theorem stored_singleton (h : e.returned = false) (readings : List Reading) :
    stored readings [e] = [] := by
  cases readings with
  | nil => rfl
  | cons r later => rw [stored_cons_failed h, stored_nil]

theorem faults_of_returned (h : ∀ e ∈ events, e.returned) : faults events = [] :=
  List.filterMap_eq_nil_iff.2 fun e he => fault?_eq_none_of_returned (h e he)

end

/-! ### The loop over a batch -/

/-- **The story of a batch**, from some progress and contents on: the calls with their answers, the
contents in the end, and how it ends. -/
inductive Passed (policy : BatchPolicy) : List Reading → Progress → Contents → List Heard →
    Contents → Outcome Error Progress → Prop
  | all {p : Progress} {c : Contents} : Passed policy [] p c [] c (.value p)
  /-- An element is stored. -/
  | stored {r : Reading} {later : List Reading} {p : Progress} {c between after : Contents}
      {e : Heard} {events : List Heard} {outcome : Outcome Error Progress}
      (asked : e.1 = callOf r) (returned : e.returned = true)
      (effect : (callOf r).effect c = .ok between)
      (rest : Passed policy later p.success between events after outcome) :
      Passed policy (r :: later) p c (e :: events) after outcome
  /-- An element cannot be stored, and the rest is applied. -/
  | passedOver {r : Reading} {later : List Reading} {p : Progress} {c after : Contents}
      {e : Heard} {events : List Heard} {outcome : Outcome Error Progress} {fault : Store.Fault}
      (goesOn : policy = .continue) (asked : e.1 = callOf r) (failed : e.fault? = some fault)
      (rest : Passed policy later (p.failure fault) c events after outcome) :
      Passed policy (r :: later) p c (e :: events) after outcome
  /-- An element cannot be stored, and the rest is left out. -/
  | leftOut {r : Reading} {later : List Reading} {p : Progress} {c : Contents} {e : Heard}
      {fault : Store.Fault} (aborts : policy = .abort) (asked : e.1 = callOf r)
      (failed : e.fault? = some fault) :
      Passed policy (r :: later) p c [e] c (.value (p.failure fault))
  /-- The store fails otherwise, whatever it holds then. -/
  | brokenOff {r : Reading} {later : List Reading} {p : Progress} {c after : Contents} {e : Heard}
      {error : Store.Error} (asked : e.1 = callOf r) (failed : e.returned = false)
      (otherwise : ∀ fault, error ≠ .storage fault) :
      Passed policy (r :: later) p c [e] after (.failure (.ofStore error))

variable {policy : BatchPolicy}

/-- **Every run of the loop has its story**, whatever the store does. -/
theorem passed_updateAll (policy : BatchPolicy) {S : Lawful} {readings : List Reading}
    (sound : ∀ r ∈ readings, r.Sound) (p : Progress) (s : S.State) :
    Passed policy readings p (S.contents s) (heard S.answer (updateAll policy readings p) s)
      (S.contents (run S.answer (updateAll policy readings p) s).2)
      (run S.answer (updateAll policy readings p) s).1 := by
  induction readings generalizing p s with
  | nil => exact .all
  | cons r later ih =>
    have taken := S.updated r s (sound r List.mem_cons_self)
    have ih := ih fun r' h => sound r' (List.mem_cons_of_mem r h)
    rw [updateAll_cons, update_bind, run_ask, heard]
    generalize S.answer (callOf r) s = result at taken
    obtain ⟨outcome, s'⟩ := result
    dsimp only at taken ⊢
    generalize hafter : S.contents s' = after at taken
    cases taken with
    | done effect =>
      subst hafter
      exact .stored rfl rfl effect (ih p.success s')
    | astray => exact .brokenOff rfl rfl nofun
    | failed error =>
      rw [← hafter]
      cases error with
      | storage fault =>
        cases policy with
        | «continue» => exact .passedOver rfl rfl rfl (ih (p.failure fault) s')
        | abort => exact .leftOut rfl rfl rfl
      | overflow name => exact .brokenOff rfl rfl nofun
      | unexpected failure => exact .brokenOff rfl rfl nofun

section

variable {readings : List Reading} {p p' : Progress} {c after : Contents} {events : List Heard}
  {outcome : Outcome Error Progress}

/-- The elements are attempted in order, each of them once. -/
theorem Passed.asked (h : Passed policy readings p c events after outcome) :
    events.map Sigma.fst = (readings.take events.length).map callOf := by
  induction h with
  | all => rfl
  | stored asked _ _ _ ih | passedOver _ asked _ _ ih => simp [asked, ih]
  | leftOut _ asked | brokenOff asked => simp [asked]

/-- The contents are those before with the elements that were stored. -/
theorem Passed.contents (h : Passed policy readings p c events after outcome)
    (ends : outcome = .value p') : effectOf (Ingest.stored readings events) c = .ok after := by
  induction h with
  | all => rfl
  | stored _ returned effect _ ih =>
    rw [stored_cons_returned returned, effectOf, List.foldlM_cons, effect]
    exact ih ends
  | passedOver _ _ failed _ ih =>
    rw [stored_cons_failed (returned_eq_false_of_fault failed)]
    exact ih ends
  | leftOut _ _ failed =>
    rw [stored_cons_failed (returned_eq_false_of_fault failed), stored_nil]
    rfl
  | brokenOff => cases ends

/-- The progress counts what has returned and what has failed, and holds the first fault. -/
theorem Passed.counted (h : Passed policy readings p c events after outcome)
    (ends : outcome = .value p') :
    p'.applied = p.applied + events.countP Heard.returned ∧
      p'.failed = p.failed + (faults events).length ∧
        p'.first = p.first.or (faults events).head? := by
  induction h with
  | all =>
    cases ends
    simp
  | stored _ returned _ _ ih =>
    obtain ⟨applied, failed, first⟩ := ih ends
    rw [applied, failed, first, faults_cons_returned returned, List.countP_cons_of_pos returned]
    simp [Progress.success, Nat.add_assoc, Nat.add_comm]
  | passedOver _ _ fault _ ih =>
    obtain ⟨applied, failed, first⟩ := ih ends
    have unreturned := returned_eq_false_of_fault fault
    rw [applied, failed, first, faults_cons_fault fault]
    simp [Progress.failure, unreturned, Nat.add_assoc, Nat.add_comm]
  | leftOut _ _ fault =>
    cases ends
    have unreturned := returned_eq_false_of_fault fault
    rw [faults_cons_fault fault]
    simp [Progress.failure, unreturned]
  | brokenOff => cases ends

/-- Under the policy that goes on, every element is attempted, and stored or not. -/
theorem Passed.whole (h : Passed .continue readings p c events after outcome)
    (ends : outcome = .value p') :
    events.length = readings.length ∧
      events.countP Heard.returned + (faults events).length = readings.length := by
  induction h with
  | all => simp
  | stored _ returned _ _ ih =>
    obtain ⟨length, sum⟩ := ih ends
    rw [faults_cons_returned returned, List.countP_cons_of_pos returned]
    simp only [List.length_cons]
    omega
  | passedOver _ _ fault _ ih =>
    obtain ⟨length, sum⟩ := ih ends
    have unreturned := returned_eq_false_of_fault fault
    rw [faults_cons_fault fault, List.countP_cons_of_neg (by simp [unreturned])]
    simp only [List.length_cons]
    omega
  | leftOut aborts => cases aborts
  | brokenOff => cases ends

/-- Under the policy that gives up, an element that fails is the last one that is attempted. -/
theorem Passed.cut (h : Passed .abort readings p c events after outcome)
    (ends : outcome = .value p') {fault : Store.Fault}
    (first : (faults events).head? = some fault) :
    ∃ before e, events = before ++ [e] ∧ (∀ e ∈ before, e.returned) ∧ e.fault? = some fault := by
  induction h with
  | all => cases first
  | @stored _ _ _ _ _ _ e _ _ _ returned _ _ ih =>
    rw [faults_cons_returned returned] at first
    obtain ⟨before, last, rfl, all, failed⟩ := ih ends first
    exact ⟨e :: before, last, rfl, List.forall_mem_cons.2 ⟨returned, all⟩, failed⟩
  | passedOver goesOn => cases goesOn
  | @leftOut _ _ _ _ e _ _ _ failed =>
    rw [faults_cons_fault failed] at first
    exact ⟨[], e, rfl, List.forall_mem_nil _, failed.trans first⟩
  | brokenOff => cases ends

/-- Without a fault, every element is stored. -/
theorem Passed.faultless (h : Passed policy readings p c events after outcome)
    (ends : outcome = .value p') (none : faults events = []) :
    (∀ e ∈ events, e.returned) ∧ events.length = readings.length := by
  induction h with
  | all => exact ⟨List.forall_mem_nil _, rfl⟩
  | stored _ returned _ _ ih =>
    rw [faults_cons_returned returned] at none
    obtain ⟨all, length⟩ := ih ends none
    refine ⟨List.forall_mem_cons.2 ⟨returned, all⟩, ?_⟩
    rw [List.length_cons, List.length_cons, length]
  | passedOver _ _ failed | leftOut _ _ failed =>
    rw [faults_cons_fault failed] at none
    cases none
  | brokenOff => cases ends

/-- A batch that comes to its end without a fault is stored. -/
theorem Passed.completed (h : Passed policy readings {} c events after (.value p))
    (none : p.first = none) :
    events.map Sigma.fst = readings.map callOf ∧ (∀ e ∈ events, e.returned) ∧
      effectOf readings c = .ok after := by
  have first := (h.counted rfl).2.2
  rw [none] at first
  obtain ⟨all, length⟩ := h.faultless rfl (by simpa using first.symm)
  have asked := h.asked
  have contents := h.contents rfl
  rw [← events.append_nil, stored_append all, stored_nil, length, List.take_length,
    List.append_nil] at contents
  rw [length, List.take_length] at asked
  exact ⟨asked, all, contents⟩

section

variable {applied failed : Nat} {first : Option Store.Fault}

/-- What a batch comes to under the policy that goes on. -/
theorem Passed.continued
    (h : Passed .continue readings {} c events after (.value ⟨applied, failed, first⟩)) :
    events.map Sigma.fst = readings.map callOf ∧ failed + applied = readings.length ∧
      failed = (faults events).length ∧ effectOf (Ingest.stored readings events) c = .ok after := by
  obtain ⟨length, sum⟩ := h.whole rfl
  obtain ⟨happlied, hfailed, -⟩ := h.counted rfl
  simp only [Nat.zero_add] at happlied hfailed
  have asked := h.asked
  rw [length, List.take_length] at asked
  exact ⟨asked, by omega, hfailed, h.contents rfl⟩

/-- What a batch comes to under the policy that gives up, if an element fails. -/
theorem Passed.abandoned {fault : Store.Fault}
    (h : Passed .abort readings {} c events after (.value ⟨applied, failed, some fault⟩)) :
    failed = 1 ∧ events.map Sigma.fst = (readings.take (applied + 1)).map callOf ∧
      (∃ before e, events = before ++ [e] ∧ before.length = applied ∧
        (∀ e ∈ before, e.returned) ∧ e.fault? = some fault) ∧
      effectOf (readings.take applied) c = .ok after := by
  obtain ⟨happlied, hfailed, hfirst⟩ := h.counted rfl
  simp only [Nat.zero_add] at happlied hfailed
  obtain ⟨before, e, rfl, all, last⟩ := h.cut rfl (by simpa using hfirst.symm)
  have unreturned := returned_eq_false_of_fault last
  have count : before.length = applied := by
    rw [happlied, List.countP_append, List.countP_eq_length.2 all]
    simp [unreturned]
  have one : failed = 1 := by
    rw [hfailed, faults, List.filterMap_append, ← faults, faults_of_returned all]
    simp [last]
  have asked := h.asked
  have contents := h.contents rfl
  rw [List.length_append, List.length_singleton, count] at asked
  rw [stored_append all, stored_singleton unreturned, List.append_nil, count] at contents
  exact ⟨one, asked, ⟨before, e, rfl, count, all, last⟩, contents⟩

end

/-- A store does not fail as a batch does. -/
theorem Passed.ne_batch (h : Passed policy readings p c events after outcome)
    (failed applied : Nat) (first : Store.Fault) :
    outcome ≠ .failure (.batch failed applied first) := by
  induction h with
  | all | leftOut => nofun
  | stored _ _ _ _ ih | passedOver _ _ _ _ ih => exact ih
  | @brokenOff _ _ _ _ _ _ error => cases error <;> nofun

end

/-! ### Accounts -/

/-- **What becomes of a batch** under a policy: the contents before, the calls with their answers,
the contents after, and the outcome. -/
structure Accounts (policy : BatchPolicy) (batch : List Metric) (c : Contents)
    (events : List Heard) (after : Contents) (outcome : Outcome Error (List Metric)) : Prop where
  /-- If the batch is returned, every element has been applied. -/
  returns : ∀ answer, outcome = .value answer →
    answer = batch ∧ ∃ readings, Metric.readings batch = .ok readings ∧
      events.map Sigma.fst = readings.map callOf ∧ (∀ e ∈ events, e.returned) ∧
        effectOf readings c = .ok after
  /-- If it fails in part, the first fault is the first one that the store has had. -/
  first : ∀ failed applied first, outcome = .failure (.batch failed applied first) →
    (faults events).head? = some first
  /-- Then every element was attempted, each was stored or counts as failed, and those that were
  stored have been applied, … -/
  continues : ∀ failed applied first, outcome = .failure (.batch failed applied first) →
    policy = .continue → ∃ readings, Metric.readings batch = .ok readings ∧
      events.map Sigma.fst = readings.map callOf ∧ failed + applied = batch.length ∧
        failed = (faults events).length ∧ effectOf (stored readings events) c = .ok after
  /-- … or the elements up to the one that failed were attempted, and those before it have been
  applied. -/
  aborts : ∀ failed applied first, outcome = .failure (.batch failed applied first) →
    policy = .abort → failed = 1 ∧ ∃ readings, Metric.readings batch = .ok readings ∧
      events.map Sigma.fst = (readings.take (applied + 1)).map callOf ∧
        (∃ before e, events = before ++ [e] ∧ before.length = applied ∧
          (∀ e ∈ before, e.returned) ∧ e.fault? = some first) ∧
        effectOf (readings.take applied) c = .ok after

/-- How a batch ends, given how far it has come. -/
def concluded (batch : List Metric) : Outcome Error Progress → Outcome Error (List Metric)
  | .value p =>
      match p.first with
      | none => .value batch
      | some first => .failure (.batch p.failed p.applied first)
  | .failure e => .failure e
  | .cancelled => .cancelled

/-- A valid batch asks what its readings ask. -/
theorem applyBatch_of_valid (policy : BatchPolicy) {S : Lawful} {batch : List Metric}
    {readings : List Reading} (valid : Metric.readings batch = .ok readings) (s : S.State) :
    let loop := updateAll policy readings {}
    run S.answer (applyBatch policy batch) s
        = (concluded batch (run S.answer loop s).1, (run S.answer loop s).2) ∧
      heard S.answer (applyBatch policy batch) s = heard S.answer loop s := by
  intro loop
  rw [applyBatch, valid]
  dsimp only
  rw [Dialogue.andThen, run_bind, heard_bind]
  generalize run S.answer (updateAll policy readings {}) s = result
  obtain ⟨outcome, after⟩ := result
  cases outcome with
  | failure e => exact ⟨rfl, List.append_nil _⟩
  | cancelled => exact ⟨rfl, List.append_nil _⟩
  | value p =>
    dsimp only [concluded]
    cases p.first with
    | none => exact ⟨rfl, List.append_nil _⟩
    | some first => exact ⟨rfl, List.append_nil _⟩

/-- A batch that is returned has come to its end without a fault. -/
theorem concluded_eq_value {batch answer : List Metric} {outcome : Outcome Error Progress}
    (h : concluded batch outcome = .value answer) :
    answer = batch ∧ ∃ p, outcome = .value p ∧ p.first = none := by
  cases outcome with
  | value p =>
    simp only [concluded] at h
    split at h
    · cases h
      exact ⟨rfl, p, rfl, ‹_›⟩
    · cases h
  | failure | cancelled => cases h

/-- A batch that fails in part has come to its end with a fault. -/
theorem concluded_eq_batch {batch : List Metric} {outcome : Outcome Error Progress}
    {failed applied : Nat} {first : Store.Fault}
    (h : concluded batch outcome = .failure (.batch failed applied first))
    (store : outcome ≠ .failure (.batch failed applied first)) :
    outcome = .value ⟨applied, failed, some first⟩ := by
  cases outcome with
  | value p =>
    obtain ⟨applied', failed', first'⟩ := p
    cases first' <;> cases h
    rfl
  | failure e =>
    cases h
    exact absurd rfl store
  | cancelled => cases h

/-- **Counts, faults, calls and contents tell one story**, whatever the batch, the policy, the store
and its faults. -/
theorem accounts_applyBatch (S : Lawful) (policy : BatchPolicy) (batch : List Metric)
    (s : S.State) :
    Accounts policy batch (S.contents s) (heard S.answer (applyBatch policy batch) s)
      (S.contents (run S.answer (applyBatch policy batch) s).2)
      (run S.answer (applyBatch policy batch) s).1 := by
  cases valid : Metric.readings batch with
  | error reason =>
    have invalid : applyBatch policy batch = .done (.failure (.invalid reason)) := by
      rw [applyBatch, valid]
      rfl
    rw [invalid]
    refine ⟨fun _ h => ?_, fun _ _ _ h => ?_, fun _ _ _ h => ?_, fun _ _ _ h => ?_⟩ <;> cases h
  | ok readings =>
    obtain ⟨records, sound⟩ := Metric.toMetric_of_readings valid
    have passed := passed_updateAll policy sound {} s
    obtain ⟨ends, told⟩ := applyBatch_of_valid policy valid s
    rw [ends, told]
    generalize heard S.answer (updateAll policy readings {}) s = events at passed ⊢
    generalize run S.answer (updateAll policy readings {}) s = result at passed ⊢
    obtain ⟨outcome, after⟩ := result
    dsimp only at passed ⊢
    have length : batch.length = readings.length := by
      rw [records, List.length_map]
    have inPart {failed applied first}
        (h : concluded batch outcome = .failure (.batch failed applied first)) :
        outcome = .value ⟨applied, failed, some first⟩ :=
      concluded_eq_batch h (passed.ne_batch failed applied first)
    constructor
    · intro answer h
      obtain ⟨same, p, rfl, none⟩ := concluded_eq_value h
      exact ⟨same, readings, valid, passed.completed none⟩
    · intro failed applied first h
      have counted := (passed.counted (inPart h)).2.2
      simpa using counted.symm
    · rintro failed applied first h rfl
      cases inPart h
      rw [length]
      exact ⟨readings, valid, passed.continued⟩
    · rintro failed applied first h rfl
      cases inPart h
      obtain ⟨one, rest⟩ := passed.abandoned
      exact ⟨one, readings, valid, rest⟩

/-- A name that the store does not take is passed over twice. -/
example :
    (run (Lawful.ofRefusing ["load"]).answer
      (applyBatch .continue [⟨"load", "gauge", none, some .zero⟩, ⟨"hits", "counter", some 1, none⟩,
        ⟨"load", "counter", some 1, none⟩]) ⟨.empty, ()⟩).1
      = .failure (.batch 2 1 (.refused "load")) := by
  rfl

end Telemetry.Ingest
