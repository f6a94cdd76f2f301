import Mathlib.Data.List.Nodup
import Telemetry.Proofs.Agent.Fallback
import Telemetry.Proofs.Retry.Effort
import Telemetry.Proofs.Table

/-!
# What a report delivers and acknowledges

The deeds of a report are its pauses, its attempts at requests and its acknowledgements, in order.
A report makes at most one effort for the whole snapshot, and then one effort for each record, if
the snapshot was not delivered as a whole.  `Tally` says what these efforts are, what is acknowledged
for them and what is returned.  Every report has such a tally, whatever there is to report and
whatever comes of each attempt (`exists_tally`).
-/

namespace Telemetry

theorem Failure.isSendFailure_of_retriable {f : Failure} (h : f.sendProspect = .retriable) :
    f.isSendFailure = true := by
  cases f with
  | network | response => rfl
  | database | mishap => cases h

/-- A record says which reading it is of. -/
theorem Reading.toMetric_injective : Function.Injective toMetric := by
  intro r r' h
  cases r with
  | gauge name value =>
    cases r' with
    | gauge => cases h; rfl
    | counter => cases congrArg Metric.delta h
  | counter name amount =>
    cases r' with
    | gauge => cases congrArg Metric.delta h
    | counter => cases h; rfl

namespace Agent

open Dialogue Http
open Retry (Effort GivenUp Tried course)

variable {α β τ : Type}

/-! ### Deeds -/

/-- What an answer to a request counts for: only the status 200 is a success. -/
def receipt : Outcome Failure Response → Outcome Failure Unit
  | .value response =>
      if response.status = 200 then .value ()
      else .failure (.response response.status response.text)
  | .failure f => .failure f
  | .cancelled => .cancelled

theorem deliver_eq (request : Request) :
    deliver request = ask (.send request) >>= fun answer => pure (receipt answer) := by
  unfold deliver
  congr
  funext answer
  cases answer with
  | failure | cancelled => rfl
  | value response =>
    simp only [receipt]
    split <;> rfl

/-- What an agent does, apart from looking at what there is to do. -/
inductive Deed
  | pause (seconds : Double)
  | attempt (request : Request) (outcome : Outcome Failure Unit)
  | acknowledge (m : Metric)

namespace Deed

/-- The deed that a question of an agent is, if it is one. -/
def of? : (call : Call) × call.Answer → Option Deed
  | ⟨.send request, answer⟩ => some (attempt request (receipt answer))
  | ⟨.pause seconds, _⟩ => some (pause seconds)
  | ⟨.acknowledge m, _⟩ => some (acknowledge m)
  | _ => none

def acknowledged? : Deed → Option Metric
  | acknowledge m => some m
  | _ => none

end Deed

/-- The deeds of an agent in a trial. -/
def deeds (d : Doing α) (t : Trial) : List Deed := told Trial.answer Deed.of? d t

theorem deeds_bind (d : Doing α) (f : α → Doing β) (t : Trial) :
    deeds (d >>= f) t = deeds d t ++ deeds (f (t.run d).1) (t.run d).2 :=
  told_bind Trial.answer Deed.of? d f t

/-! ### Efforts -/

/-- What is sent on a schedule. -/
abbrev Sending (τ : Type) : Type := Effort τ Failure Unit

/-- Whether an attempt with this outcome breaks a report off: only what is no failure of a send
does. -/
def breaksOff : Outcome Failure Unit → Bool
  | .value _ => false
  | .failure f => !f.isSendFailure
  | .cancelled => true

namespace Sending

variable (e : Sending τ)

/-- Attempts are made on the standard schedule, as long as there is some prospect. -/
def Full : Prop := Effort.Full Failure.sendProspect .standard e

def delivered : Bool :=
  match e.result with
  | .value _ => true
  | _ => false

/-- The outcome of the last attempt. -/
def last : Outcome Failure Unit := Retry.last e.result

def breaks : Bool := breaksOff e.last

/-- The deeds of the effort for a request. -/
def attempts (request : Request) : List Deed :=
  course Deed.pause (Deed.attempt request) Schedule.standard.delays e.outcomes

/-- The deeds for a snapshot that is sent as a whole. -/
def whole (client : Client) (e : Sending (List Metric)) : List Deed :=
  e.attempts (client.batchRequest e.subject)
    ++ if e.delivered then e.subject.map .acknowledge else []

/-- The deeds for a record that is sent alone. -/
def single (request : Metric → Request) (e : Sending Metric) : List Deed :=
  e.attempts (request e.subject) ++ if e.delivered then [.acknowledge e.subject] else []

end Sending

/-! ### One effort -/

section

variable {e : Sending τ} {request : Request}

/-- What gives an effort up breaks the report off unless it counts as a failed send. -/
theorem Sending.Full.breaksOff_last (full : e.Full) {reason : GivenUp Failure}
    (givenUp : e.result = .failure reason) :
    e.last = .failure (Reporter.cause reason) ∧
      e.breaks = !Reporter.isSendFailure reason := by
  rw [Sending.breaks, Sending.last, givenUp]
  cases reason with
  | fatal f => exact ⟨rfl, rfl⟩
  | exhausted n f =>
    have hopeful := (Tried.exhausted_inv full givenUp).2.2
    have send := Failure.isSendFailure_of_retriable hopeful
    exact ⟨rfl, congrArg (!·) send⟩

/-- An attempt that breaks a report off is the last one of its effort. -/
theorem Sending.Full.eq_last (full : e.Full) {o : Outcome Failure Unit} (mem : o ∈ e.outcomes)
    (breaks : breaksOff o = true) : o = e.last := by
  obtain ⟨before, outcomes, hopeful⟩ := Tried.outcomes_eq full
  rw [outcomes] at mem
  rcases List.mem_append.1 mem with mem | mem
  · obtain ⟨f, rfl, retriable⟩ := hopeful o mem
    have send := Failure.isSendFailure_of_retriable retriable
    rw [breaksOff, send] at breaks
    cases breaks
  · exact List.mem_singleton.1 mem

theorem Sending.of_mem_attempts {r : Request} {o : Outcome Failure Unit}
    (h : Deed.attempt r o ∈ e.attempts request) : r = request ∧ o ∈ e.outcomes := by
  rcases Retry.of_mem_course h with ⟨seconds, h⟩ | ⟨o', mem, h⟩
  · cases h
  · cases h
    exact ⟨rfl, mem⟩

/-- Nothing is acknowledged during an effort. -/
@[simp] theorem Sending.acknowledged_attempts :
    (e.attempts request).filterMap Deed.acknowledged? = [] := by
  rw [List.filterMap_eq_nil_iff]
  intro d hd
  rcases Retry.of_mem_course hd with ⟨seconds, rfl⟩ | ⟨o, -, rfl⟩
  · rfl
  · rfl

@[simp] theorem Sending.acknowledged_single (request : Metric → Request) (e : Sending Metric) :
    (e.single request).filterMap Deed.acknowledged? = if e.delivered then [e.subject] else [] := by
  rw [Sending.single, List.filterMap_append, acknowledged_attempts]
  split <;> rfl

@[simp] theorem Sending.acknowledged_whole (client : Client) (e : Sending (List Metric)) :
    (e.whole client).filterMap Deed.acknowledged? = if e.delivered then e.subject else [] := by
  rw [Sending.whole, List.filterMap_append, acknowledged_attempts]
  split
  · rw [List.filterMap_map]
    exact List.filterMap_some
  · rfl

theorem Sending.of_mem_single {request : Metric → Request} {e : Sending Metric} {r : Request}
    {o : Outcome Failure Unit} (h : Deed.attempt r o ∈ e.single request) :
    r = request e.subject ∧ o ∈ e.outcomes := by
  rcases List.mem_append.1 h with h | h
  · exact of_mem_attempts h
  · split at h
    · cases List.mem_singleton.1 h
    · cases h

theorem Sending.of_mem_whole {client : Client} {e : Sending (List Metric)} {r : Request}
    {o : Outcome Failure Unit} (h : Deed.attempt r o ∈ e.whole client) :
    r = client.batchRequest e.subject ∧ o ∈ e.outcomes := by
  rcases List.mem_append.1 h with h | h
  · exact of_mem_attempts h
  · split at h
    · obtain ⟨m, -, h⟩ := List.mem_map.1 h
      cases h
    · cases h

theorem Sending.Full.getLast?_attempts (full : e.Full) (request : Request) :
    (e.attempts request).getLast? = some (.attempt request e.last) :=
  Tried.getLast?_course full _ _

/-- What was delivered does not break a report off. -/
theorem Sending.delivered_of_breaksOff (breaks : e.breaks = true) :
    e.delivered = false := by
  rw [Sending.breaks, Sending.last] at breaks
  unfold Sending.delivered
  cases result : e.result with
  | value => rw [result] at breaks; cases breaks
  | failure | cancelled => rfl

end

/-- **A request on a schedule is one full effort.** -/
theorem exists_sending (subject : τ) (request : Request) (t : Trial) :
    ∃ e : Sending τ, e.subject = subject ∧ e.Full ∧
      (t.run (Reporter.tried request)).1 = e.result ∧
      deeds (Reporter.tried request) t = e.attempts request := by
  have plain : Reporter.surroundings.Plain Trial.answer Deed.of? (deliver request) Deed.pause
      (Deed.attempt request) := by
    constructor
    · exact fun d s => rfl
    · exact fun d s => rfl
    · intro n s
      dsimp only [Reporter.surroundings]
      split <;> rfl
    · intro s
      rw [deliver_eq]
      rfl
  obtain ⟨outcomes, tried, hdeeds⟩ :=
    Retry.exists_tried plain Failure.sendProspect .standard t
  exact ⟨⟨subject, outcomes, _⟩, rfl, tried, rfl, hdeeds⟩

/-! ### Records one by one -/

/-- A record that is sent alone is acknowledged if it was delivered. -/
theorem exists_sendOne (request : Metric → Request) (m : Metric) (t : Trial) :
    ∃ e : Sending Metric, e.subject = m ∧ e.Full ∧
      deeds (Reporter.sendOne request m) t = e.single request ∧
      (t.run (Reporter.sendOne request m)).1
        = if e.breaks then e.last.map fun _ => false else .value e.delivered := by
  obtain ⟨e, rfl, full, hrun, hdeeds⟩ := exists_sending m (request m) t
  refine ⟨e, rfl, full, ?_⟩
  rw [Reporter.sendOne, deeds_bind, run_bind, hdeeds, hrun, Sending.single, Sending.delivered]
  cases result : e.result with
  | value =>
    rw [Sending.breaks, Sending.last, result]
    exact ⟨rfl, rfl⟩
  | cancelled =>
    rw [Sending.breaks, Sending.last, result]
    exact ⟨rfl, rfl⟩
  | failure reason =>
    obtain ⟨last, breaks⟩ := full.breaksOff_last result
    rw [breaks, last]
    dsimp only
    cases Reporter.isSendFailure reason <;> exact ⟨rfl, rfl⟩

/-- How a report ends that sends records one by one: like an attempt that breaks it off, or with the
number of the records that were delivered. -/
def ending (singles : List (Sending Metric)) : Outcome Failure Nat :=
  match singles.find? Sending.breaks with
  | some e => e.last.map fun _ => 0
  | none => .value (singles.countP (·.delivered))

/-- What breaks off does so whatever is counted. -/
theorem map_last {e : Sending τ} (breaks : e.breaks = true) (f : Nat → Nat) :
    (e.last.map fun _ => 0).map f = e.last.map fun _ => 0 := by
  cases hlast : e.last with
  | value => rw [Sending.breaks, hlast] at breaks; cases breaks
  | failure | cancelled => rfl

theorem ending_cons {e : Sending Metric} (calm : e.breaks = false)
    (singles : List (Sending Metric)) :
    ending (e :: singles)
      = (ending singles).map fun n => if e.delivered then n + 1 else n := by
  rw [ending, ending, List.find?_cons_of_neg (by simp [calm])]
  cases found : singles.find? Sending.breaks with
  | some e' => exact (map_last (List.find?_some found) _).symm
  | none =>
    dsimp only
    rw [Outcome.map, List.countP_cons]
    cases e.delivered <;> rfl

/-- **How records that are sent one by one come to an end.** -/
structure Ended (ms : List Metric) (singles : List (Sending Metric))
    (result : Outcome Failure Nat) : Prop where
  turns : Retry.InTurn Sending.breaks ms singles
  result_eq : result = ending singles

namespace Ended

variable {ms : List Metric} {singles : List (Sending Metric)} {result : Outcome Failure Nat}

/-- Where nothing breaks off, each record has its turn, and the delivered ones are counted. -/
theorem counted (h : Ended ms singles result) (calm : ∀ e ∈ singles, e.breaks = false) :
    singles.map (·.subject) = ms ∧ result = .value (singles.countP (·.delivered)) := by
  have none : singles.find? Sending.breaks = none :=
    List.find?_eq_none.2 fun e mem => by simp [calm e mem]
  exact ⟨h.turns.all calm, by rw [h.result_eq, ending, none]⟩

/-- An effort that breaks off is the last one, and its last attempt is the result. -/
theorem of_breaksOff (h : Ended ms singles result) {e : Sending Metric} (mem : e ∈ singles)
    (breaks : e.breaks = true) :
    singles.getLast? = some e ∧ result = e.last.map fun _ => 0 := by
  obtain ⟨before, rfl, calm⟩ := h.turns.exists_before mem breaks
  have none : before.find? Sending.breaks = none :=
    List.find?_eq_none.2 fun e mem => by simp [calm e mem]
  refine ⟨List.getLast?_concat, ?_⟩
  rw [h.result_eq, ending, List.find?_append, none]
  simp [breaks]

end Ended

section

variable {d : Doing (Outcome Failure α)} {f : α → Doing (Outcome Failure β)} {t : Trial}

/-- A step with a value is followed by the next one. -/
theorem andThen_of_value {a : α} (h : (t.run d).1 = .value a) :
    deeds (d.andThen f) t = deeds d t ++ deeds (f a) (t.run d).2 ∧
      t.run (d.andThen f) = (t.run d).2.run (f a) := by
  rw [andThen, deeds_bind, run_bind, h]
  exact ⟨rfl, rfl⟩

/-- A value may be changed at the end. -/
theorem andThen_map (g : α → β) (d : Doing (Outcome Failure α)) (t : Trial) :
    deeds (d.andThen fun a => pure (.value (g a))) t = deeds d t ∧
      (t.run (d.andThen fun a => pure (.value (g a)))).1 = (t.run d).1.map g :=
  ⟨told_andThen_map Trial.answer Deed.of? d g t,
    congrArg Prod.fst (run_andThen_map Trial.answer d g t)⟩

/-- A step that breaks off is the last one. -/
theorem andThen_of_breaksOff {o : Outcome Failure Unit} {g : Unit → α}
    (h : (t.run d).1 = o.map g) (breaks : breaksOff o = true) (g' : Unit → β) :
    deeds (d.andThen f) t = deeds d t ∧ (t.run (d.andThen f)).1 = o.map g' := by
  rw [andThen, deeds_bind, run_bind, h]
  cases o with
  | value => cases breaks
  | failure | cancelled => exact ⟨List.append_nil _, rfl⟩

end

/-- **Records that are sent one by one each get one full effort**, up to one that breaks off. -/
theorem exists_sendEach (request : Metric → Request) (ms : List Metric) (t : Trial) :
    ∃ singles : List (Sending Metric), (∀ e ∈ singles, e.Full) ∧
      deeds (Reporter.sendEach request ms) t = singles.flatMap (·.single request) ∧
      Ended ms singles (t.run (Reporter.sendEach request ms)).1 := by
  induction ms generalizing t with
  | nil => exact ⟨[], List.forall_mem_nil _, rfl, .done, rfl⟩
  | cons m rest ih =>
    obtain ⟨e, rfl, full, hdeeds, hrun⟩ := exists_sendOne request m t
    rw [Reporter.sendEach]
    cases breaks : e.breaks with
    | true =>
      rw [breaks, if_pos rfl] at hrun
      obtain ⟨hall, hresult⟩ := andThen_of_breaksOff hrun breaks fun _ => 0
      refine ⟨[e], List.forall_mem_singleton.2 full, ?_, ?_⟩
      · rw [hall, hdeeds, List.flatMap_singleton]
      · exact ⟨.broken rest breaks, by rw [hresult, ending]; simp [breaks]⟩
    | false =>
      rw [breaks, if_neg Bool.false_ne_true] at hrun
      obtain ⟨hall, hresult⟩ := andThen_of_value hrun
      rw [hall, hresult, hdeeds]
      obtain ⟨singles, fulls, hrest, ended⟩ := ih (t.run (Reporter.sendOne request e.subject)).2
      obtain ⟨hlater, hcount⟩ := andThen_map (fun n => if e.delivered then n + 1 else n)
        (Reporter.sendEach request rest) (t.run (Reporter.sendOne request e.subject)).2
      refine ⟨e :: singles, List.forall_mem_cons.2 ⟨full, fulls⟩, ?_, ?_⟩
      · rw [hlater, hrest, List.flatMap_cons]
      · exact ⟨.next breaks ended.turns, by rw [hcount, ending_cons breaks, ended.result_eq]⟩

/-! ### Reports -/

/-- A snapshot lists nothing twice. -/
theorem Registry.nodup_snapshot (r : Registry) : r.snapshot.Nodup := by
  have once {γ : Type} (entries : Table String γ) (f : String × γ → Reading)
      (name : ∀ e, (f e).name = e.1) : (entries.sorted.map f).Nodup := by
    refine List.Nodup.of_map Reading.name ?_
    have names : Reading.name ∘ f = Prod.fst := funext name
    rw [List.map_map, names]
    exact entries.nodup_sorted
  have gauges := once r.gauges (fun g => .gauge g.1 g.2) fun _ => rfl
  have counters := once r.pending (fun c => .counter c.1 c.2) fun _ => rfl
  refine List.Nodup.map Reading.toMetric_injective (List.nodup_append.2 ⟨gauges, ?_, ?_⟩)
  · exact counters.sublist (List.filter_sublist.map _)
  · intro a ha b hb
    obtain ⟨g, -, rfl⟩ := List.mem_map.1 ha
    obtain ⟨c, -, rfl⟩ := List.mem_map.1 hb
    nofun

namespace Reporter

/-- The request for a record that is sent alone. -/
def singly (reporter : Reporter) : Metric → Request :=
  match reporter.protocol with
  | .plain => reporter.client.plainRequest
  | .json => reporter.client.singleRequest

/-- Whether a report starts with a batch. -/
def Batches (reporter : Reporter) (degraded : Bool) : Prop :=
  reporter.protocol = .json ∧ ¬ (reporter.fallback = .sticky ∧ degraded = true)

/-- How a report comes to an end, given the efforts for the snapshot and for its records. -/
inductive Sent (batch : List Metric) :
    Option (Sending (List Metric)) → List (Sending Metric) → Outcome Failure Nat → Prop
  /-- There was no batch. -/
  | singly {singles : List (Sending Metric)} {result : Outcome Failure Nat}
      (ended : Ended batch singles result) : Sent batch none singles result
  | delivered {e : Sending (List Metric)} (delivered : e.delivered = true) :
      Sent batch (some e) [] (.value batch.length)
  | broken {e : Sending (List Metric)} (breaks : e.breaks = true) :
      Sent batch (some e) [] (e.last.map fun _ => 0)
  /-- The batch failed. -/
  | failed {e : Sending (List Metric)} {singles : List (Sending Metric)}
      {result : Outcome Failure Nat} (failed : e.delivered = false)
      (calm : e.breaks = false) (ended : Ended batch singles result) :
      Sent batch (some e) singles result

/-- A batch is acknowledged record by record. -/
theorem deeds_acknowledgeAll (ms : List Metric) (t : Trial) :
    deeds (acknowledgeAll ms) t = ms.map .acknowledge := by
  induction ms generalizing t with
  | nil => rfl
  | cons m rest ih => exact congrArg (_ :: ·) (ih _)

/-- After a failed batch, its records are sent one by one. -/
theorem exists_deeds_fallBack (reporter : Reporter) (batch : List Metric)
    (reason : GivenUp Failure) (t : Trial) :
    ∃ t' : Trial,
      deeds (reporter.fallBack batch reason) t
        = deeds (sendEach reporter.client.singleRequest batch) t' ∧
      t.run (reporter.fallBack batch reason)
        = t'.run (sendEach reporter.client.singleRequest batch) := by
  let noted := t.log (batchFailed batch.length reason)
  unfold fallBack
  split
  · exact ⟨{ noted with degraded := true }, rfl, rfl⟩
  · exact ⟨noted, rfl, rfl⟩

/-- What a report does once a batch has been tried. -/
def conclude (reporter : Reporter) (batch : List Metric) :
    Outcome (GivenUp Failure) Unit → Doing (Outcome Failure Nat)
  | .value () => do
      acknowledgeAll batch
      pure (.value batch.length)
  | .failure reason =>
      if isSendFailure reason then reporter.fallBack batch reason
      else pure (.failure (cause reason))
  | .cancelled => pure .cancelled

theorem sendBatch_eq (reporter : Reporter) (batch : List Metric) :
    reporter.sendBatch batch
      = tried (reporter.client.batchRequest batch) >>= reporter.conclude batch :=
  rfl

/-- What comes after the effort for a batch: acknowledgements, an end, or efforts for its records. -/
theorem exists_conclude (reporter : Reporter) {e : Sending (List Metric)} (full : e.Full)
    (t : Trial) :
    ∃ singles : List (Sending Metric), (∀ e ∈ singles, e.Full) ∧
      deeds (reporter.conclude e.subject e.result) t
        = (if e.delivered then e.subject.map .acknowledge else [])
          ++ singles.flatMap (·.single reporter.client.singleRequest) ∧
      Sent e.subject (some e) singles (t.run (reporter.conclude e.subject e.result)).1 := by
  -- Where an effort breaks off, nothing comes after it.
  have broken (breaks : e.breaks = true)
      (ends : reporter.conclude e.subject e.result = pure (e.last.map fun _ => 0)) :
      deeds (reporter.conclude e.subject e.result) t
          = (if e.delivered then e.subject.map .acknowledge else []) ++ [] ∧
        Sent e.subject (some e) [] (t.run (reporter.conclude e.subject e.result)).1 := by
    rw [ends, Sending.delivered_of_breaksOff breaks]
    exact ⟨rfl, .broken breaks⟩
  cases result : e.result with
  | value =>
    have delivered : e.delivered = true := by rw [Sending.delivered, result]
    have acknowledged : reporter.conclude e.subject (.value ())
        = acknowledgeAll e.subject >>= fun _ => pure (.value e.subject.length) := rfl
    refine ⟨[], List.forall_mem_nil _, ?_⟩
    rw [acknowledged, deeds_bind, run_bind, deeds_acknowledgeAll, delivered]
    exact ⟨rfl, .delivered delivered⟩
  | cancelled =>
    have last : e.last = .cancelled := by rw [Sending.last, result]; rfl
    refine ⟨[], List.forall_mem_nil _, ?_⟩
    rw [result] at broken
    exact broken (by rw [Sending.breaks, last]; rfl) (by rw [last]; rfl)
  | failure reason =>
    obtain ⟨last, breaks⟩ := full.breaksOff_last result
    by_cases send : Reporter.isSendFailure reason = true
    · have failed : e.delivered = false := by rw [Sending.delivered, result]
      have calm : e.breaks = false := by rw [breaks, send]; rfl
      rw [conclude, if_pos send, failed]
      obtain ⟨t', hdeeds, hrun⟩ := exists_deeds_fallBack reporter e.subject reason t
      obtain ⟨singles, fulls, hsingles, ended⟩ :=
        exists_sendEach reporter.client.singleRequest e.subject t'
      rw [hdeeds, hrun]
      exact ⟨singles, fulls, hsingles, .failed failed calm ended⟩
    · refine ⟨[], List.forall_mem_nil _, ?_⟩
      rw [result] at broken
      refine broken (by simp [breaks, send]) ?_
      rw [conclude, if_neg send, last]
      rfl

/-- **A batch gets one full effort**, and its records get theirs if it fails. -/
theorem exists_sendBatch (reporter : Reporter) (batch : List Metric) (t : Trial) :
    ∃ (e : Sending (List Metric)) (singles : List (Sending Metric)), e.subject = batch ∧ e.Full ∧
      (∀ e ∈ singles, e.Full) ∧
      deeds (reporter.sendBatch batch) t = e.whole reporter.client
        ++ singles.flatMap (·.single reporter.client.singleRequest) ∧
      Sent batch (some e) singles (t.run (reporter.sendBatch batch)).1 := by
  obtain ⟨e, rfl, full, hrun, hdeeds⟩ :=
    exists_sending batch (reporter.client.batchRequest batch) t
  rw [sendBatch_eq, deeds_bind, run_bind, hdeeds, hrun]
  obtain ⟨singles, fulls, hrest, sent⟩ := exists_conclude reporter full
    (t.run (tried (reporter.client.batchRequest e.subject))).2
  refine ⟨e, singles, rfl, full, fulls, ?_, sent⟩
  rw [hrest, Sending.whole, List.append_assoc]

/-- **The tally of a report** on a snapshot: the efforts it makes, what it acknowledges for them and
what it returns. -/
structure Tally (reporter : Reporter) (batch : List Metric) (degraded : Bool)
    (whole : Option (Sending (List Metric))) (singles : List (Sending Metric)) (done : List Deed)
    (result : Outcome Failure Nat) : Prop where
  /-- There is an effort for the snapshot as a whole unless there is nothing to report, … -/
  starts : whole.isSome = true ↔ batch ≠ [] ∧ reporter.Batches degraded
  /-- … and each of its attempts sends the whole snapshot. -/
  same : ∀ e ∈ whole, e.subject = batch
  /-- Every effort goes through the schedule. -/
  full : (∀ e ∈ whole, e.Full) ∧ ∀ e ∈ singles, e.Full
  /-- This is all that is done: attempts for the snapshot, and attempts for one record after the
  other, each followed by what is acknowledged for it. -/
  deeds : done = whole.toList.flatMap (·.whole reporter.client)
    ++ singles.flatMap (·.single reporter.singly)
  order : singles.map (·.subject) <+: batch
  /-- What was delivered as a whole is not sent again. -/
  spared : ∀ e ∈ whole, e.delivered = true → singles = []
  /-- No failed send keeps a later record from its turn. -/
  all : (∀ request o, .attempt request o ∈ done → breaksOff o = false) →
    (∃ n, result = .value n) ∧
      ((∀ e ∈ whole, e.delivered = false) → singles.map (·.subject) = batch)
  /-- What was delivered in the end is acknowledged, and nothing else, … -/
  acknowledged : done.filterMap Deed.acknowledged?
    = (whole.toList.filter (·.delivered)).flatMap (·.subject)
      ++ (singles.filter (·.delivered)).map (·.subject)
  /-- … and no record twice. -/
  once : (done.filterMap Deed.acknowledged?).Nodup
  counted : ∀ n, result = .value n → n = (done.filterMap Deed.acknowledged?).length
  /-- What is no failure of a send propagates, and nothing is done after it. -/
  propagates : ∀ request o, .attempt request o ∈ done → breaksOff o = true →
    result = o.map (fun _ => 0) ∧ done.getLast? = some (.attempt request o)

section

variable {batch : List Metric} {whole : Option (Sending (List Metric))}
  {singles : List (Sending Metric)} {result : Outcome Failure Nat}

theorem Sent.order (h : Sent batch whole singles result) : singles.map (·.subject) <+: batch := by
  cases h with
  | singly ended | failed _ _ ended => exact ended.turns.order
  | delivered | broken => exact List.nil_prefix

theorem Sent.spared (h : Sent batch whole singles result) :
    ∀ e ∈ whole, e.delivered = true → singles = [] := by
  intro e mem delivered
  cases h with
  | singly => cases mem
  | delivered | broken => rfl
  | failed failed =>
    cases Option.some.inj mem
    cases failed.symm.trans delivered

/-- Where nothing breaks off, what is delivered is counted, and each record has its turn or was
delivered with the whole. -/
theorem Sent.counted (h : Sent batch whole singles result)
    (same : ∀ e ∈ whole, e.subject = batch)
    (calm : (∀ e ∈ whole, e.breaks = false) ∧ ∀ e ∈ singles, e.breaks = false) :
    result = .value ((whole.toList.filter (·.delivered)).flatMap (·.subject)
        ++ (singles.filter (·.delivered)).map (·.subject)).length ∧
      ((∀ e ∈ whole, e.delivered = false) → singles.map (·.subject) = batch) := by
  cases h with
  | singly ended =>
    obtain ⟨all, rfl⟩ := ended.counted calm.2
    refine ⟨?_, fun _ => all⟩
    simp [List.countP_eq_length_filter]
  | @delivered e delivered =>
    refine ⟨?_, fun failed => ?_⟩
    · simp [delivered, same e rfl]
    · cases delivered.symm.trans (failed e rfl)
  | @broken e breaks => cases breaks.symm.trans (calm.1 e rfl)
  | failed failed _ ended =>
    obtain ⟨all, rfl⟩ := ended.counted calm.2
    refine ⟨?_, fun _ => all⟩
    simp [failed, List.countP_eq_length_filter]

/-- An effort for the whole that breaks off is all there is. -/
theorem Sent.whole_breaksOff (h : Sent batch whole singles result) :
    ∀ e ∈ whole, e.breaks = true →
      singles = [] ∧ result = e.last.map fun _ => 0 := by
  intro e mem breaks
  cases h with
  | singly => cases mem
  | @delivered e' delivered =>
    cases Option.some.inj mem
    cases delivered.symm.trans (Sending.delivered_of_breaksOff breaks)
  | broken =>
    cases Option.some.inj mem
    exact ⟨rfl, rfl⟩
  | failed _ calm =>
    cases Option.some.inj mem
    cases breaks.symm.trans calm

/-- An effort for a record that breaks off is the last one. -/
theorem Sent.single_breaksOff (h : Sent batch whole singles result) :
    ∀ e ∈ singles, e.breaks = true →
      singles.getLast? = some e ∧ result = e.last.map fun _ => 0 := by
  intro e mem breaks
  cases h with
  | singly ended | failed _ _ ended => exact ended.of_breaksOff mem breaks
  | delivered | broken => cases mem

/-- No record is delivered twice. -/
theorem Sent.nodup (h : Sent batch whole singles result) (same : ∀ e ∈ whole, e.subject = batch)
    (nodup : batch.Nodup) :
    ((whole.toList.filter (·.delivered)).flatMap (·.subject)
      ++ (singles.filter (·.delivered)).map (·.subject)).Nodup := by
  have alone : ((singles.filter (·.delivered)).map (·.subject)).Nodup :=
    nodup.sublist ((List.filter_sublist.map _).trans h.order.sublist)
  cases whole with
  | none => exact alone
  | some e =>
    cases delivered : e.delivered with
    | true => simpa [delivered, h.spared e rfl delivered, same e rfl] using nodup
    | false => simpa [delivered] using alone

/-- What the efforts of a report acknowledge is what they deliver. -/
theorem acknowledged_efforts (reporter : Reporter) (whole : Option (Sending (List Metric)))
    (singles : List (Sending Metric)) :
    (whole.toList.flatMap (·.whole reporter.client)
        ++ singles.flatMap (·.single reporter.singly)).filterMap Deed.acknowledged?
      = (whole.toList.filter (·.delivered)).flatMap (·.subject)
        ++ (singles.filter (·.delivered)).map (·.subject) := by
  have wholes : whole.toList.flatMap (fun e => if e.delivered then e.subject else [])
      = (whole.toList.filter (·.delivered)).flatMap (·.subject) := by
    cases whole with
    | none => rfl
    | some e => cases delivered : e.delivered <;> simp [delivered]
  have alone : singles.flatMap (fun e => if e.delivered then [e.subject] else [])
      = (singles.filter (·.delivered)).map (·.subject) := by
    induction singles with
    | nil => rfl
    | cons e rest ih => cases delivered : e.delivered <;> simp [delivered, ih]
  rw [List.filterMap_append, List.filterMap_flatMap, List.filterMap_flatMap, ← wholes, ← alone]
  simp only [Sending.acknowledged_whole, Sending.acknowledged_single]

/-- Where no attempt breaks a report off, none of its efforts does. -/
theorem calm_efforts {reporter : Reporter} {done : List Deed}
    (full : (∀ e ∈ whole, e.Full) ∧ ∀ e ∈ singles, e.Full)
    (deeds : done = whole.toList.flatMap (·.whole reporter.client)
      ++ singles.flatMap (·.single reporter.singly))
    (calm : ∀ request o, .attempt request o ∈ done → breaksOff o = false) :
    (∀ e ∈ whole, e.breaks = false) ∧ ∀ e ∈ singles, e.breaks = false := by
  -- The last attempt of an effort is among what is done.
  constructor
  · intro e mem
    have last := (full.1 e mem).getLast?_attempts (reporter.client.batchRequest e.subject)
    refine calm (reporter.client.batchRequest e.subject) e.last ?_
    rw [deeds]
    refine List.mem_append_left _ (List.mem_flatMap.2 ⟨e, Option.mem_toList.2 mem, ?_⟩)
    exact List.mem_append_left _ (List.mem_of_getLast? last)
  · intro e mem
    have last := (full.2 e mem).getLast?_attempts (reporter.singly e.subject)
    refine calm (reporter.singly e.subject) e.last ?_
    rw [deeds]
    refine List.mem_append_right _ (List.mem_flatMap.2 ⟨e, mem, ?_⟩)
    exact List.mem_append_left _ (List.mem_of_getLast? last)

/-- What breaks a report off is the last thing that is done. -/
theorem Sent.propagates {reporter : Reporter} {done : List Deed}
    (h : Sent batch whole singles result)
    (full : (∀ e ∈ whole, e.Full) ∧ ∀ e ∈ singles, e.Full)
    (deeds : done = whole.toList.flatMap (·.whole reporter.client)
      ++ singles.flatMap (·.single reporter.singly))
    {request : Request} {o : Outcome Failure Unit} (mem : .attempt request o ∈ done)
    (breaks : breaksOff o = true) :
    result = o.map (fun _ => 0) ∧ done.getLast? = some (.attempt request o) := by
  rw [deeds] at mem
  rcases List.mem_append.1 mem with mem | mem
  · obtain ⟨e, he, tried⟩ := List.mem_flatMap.1 mem
    obtain rfl : whole = some e := Option.mem_toList.1 he
    obtain ⟨rfl, outcome⟩ := Sending.of_mem_whole tried
    obtain rfl := (full.1 e rfl).eq_last outcome breaks
    obtain ⟨none, hresult⟩ := h.whole_breaksOff e rfl breaks
    have attempts : done = e.attempts (reporter.client.batchRequest e.subject) := by
      simp [deeds, none, Sending.whole, Sending.delivered_of_breaksOff breaks]
    rw [attempts]
    exact ⟨hresult, (full.1 e rfl).getLast?_attempts _⟩
  · obtain ⟨e, he, tried⟩ := List.mem_flatMap.1 mem
    obtain ⟨rfl, outcome⟩ := Sending.of_mem_single tried
    obtain rfl := (full.2 e he).eq_last outcome breaks
    obtain ⟨last, hresult⟩ := h.single_breaksOff e he breaks
    obtain ⟨before, rfl⟩ := List.getLast?_eq_some_iff.1 last
    have attempts : done = (whole.toList.flatMap (·.whole reporter.client)
        ++ before.flatMap (·.single reporter.singly))
          ++ e.attempts (reporter.singly e.subject) := by
      simp [deeds, Sending.single, Sending.delivered_of_breaksOff breaks]
    rw [attempts, List.getLast?_append, (full.2 e he).getLast?_attempts]
    exact ⟨hresult, rfl⟩

/-- **The efforts of a report make its tally.** -/
theorem Sent.tally {reporter : Reporter} {degraded : Bool} {done : List Deed}
    (starts : whole.isSome = true ↔ batch ≠ [] ∧ reporter.Batches degraded)
    (same : ∀ e ∈ whole, e.subject = batch)
    (full : (∀ e ∈ whole, e.Full) ∧ ∀ e ∈ singles, e.Full)
    (deeds : done = whole.toList.flatMap (·.whole reporter.client)
      ++ singles.flatMap (·.single reporter.singly))
    (nodup : batch.Nodup) (h : Sent batch whole singles result) :
    reporter.Tally batch degraded whole singles done result := by
  have acknowledged := (congrArg _ deeds).trans (acknowledged_efforts reporter whole singles)
  constructor
  · exact starts
  · exact same
  · exact full
  · exact deeds
  · exact h.order
  · exact h.spared
  · intro calm
    obtain ⟨rfl, all⟩ := h.counted same (calm_efforts full deeds calm)
    exact ⟨⟨_, rfl⟩, all⟩
  · exact acknowledged
  · rw [acknowledged]
    exact h.nodup same nodup
  · intro n value
    have calm (request : Request) (o : Outcome Failure Unit) (mem : .attempt request o ∈ done) :
        breaksOff o = false := by
      by_contra breaks
      have broken := (h.propagates full deeds mem (by simpa using breaks)).1
      rw [value] at broken
      cases o with
      | value => exact breaks rfl
      | failure | cancelled => cases broken
    have count := (h.counted same (calm_efforts full deeds calm)).1
    rw [acknowledged]
    exact Outcome.value.inj (value.symm.trans count)
  · exact fun request o mem breaks => h.propagates full deeds mem breaks

end

/-- Looking at what there is to do is no deed. -/
theorem deeds_report (reporter : Reporter) (t : Trial) :
    deeds reporter.report t
      = deeds (reporter.proceed t.registry.snapshot t.degraded) t := by
  have snapshot : Trial.answer .snapshot t = (t.registry.snapshot, t) := rfl
  unfold report ask deeds told
  rw [say_bind, heard, snapshot]
  generalize t.registry.snapshot = batch
  obtain ⟨client, protocol, fallback⟩ := reporter
  cases batch with
  | nil => rfl
  | cons m rest => cases protocol <;> rfl

/-- **A report acknowledges exactly what it delivers**, whatever there is to report, under every
protocol and policy, and whatever comes of each attempt. -/
theorem exists_tally (reporter : Reporter) (t : Trial) :
    ∃ whole singles, reporter.Tally t.registry.snapshot t.degraded whole singles
      (deeds reporter.report t) (t.run reporter.report).1 := by
  rw [deeds_report, (report_eq reporter t).1]
  have nodup := t.registry.nodup_snapshot
  generalize t.registry.snapshot = batch at nodup ⊢
  -- Without a batch, the records are all there is to send.
  have alone (request : Metric → Request) (same : reporter.singly = request)
      (none : ¬ (batch ≠ [] ∧ reporter.Batches t.degraded))
      (proceed : reporter.proceed batch t.degraded = sendEach request batch) :
      ∃ whole singles, reporter.Tally batch t.degraded whole singles
        (deeds (reporter.proceed batch t.degraded) t)
        (t.run (reporter.proceed batch t.degraded)).1 := by
    obtain ⟨singles, full, hdeeds, ended⟩ := exists_sendEach request batch t
    rw [proceed]
    refine ⟨.none, singles, Sent.tally ⟨nofun, fun h => absurd h none⟩ nofun ⟨nofun, full⟩ ?_ nodup
      (.singly ended)⟩
    rw [hdeeds, same]
    rfl
  by_cases nothing : batch = []
  · refine alone reporter.singly rfl (fun h => h.1 nothing) ?_
    rw [nothing]
    rfl
  cases protocol : reporter.protocol with
  | plain =>
    refine alone reporter.client.plainRequest ?_ ?_ (proceed_plain protocol nothing)
    · rw [singly, protocol]
    · rintro ⟨-, json, -⟩
      cases protocol.symm.trans json
  | json =>
    have same : reporter.singly = reporter.client.singleRequest := by rw [singly, protocol]
    by_cases single : reporter.fallback = .sticky ∧ t.degraded = true
    · refine alone reporter.client.singleRequest same (fun h => h.2.2 single) ?_
      rw [single.2]
      exact proceed_single protocol single.1 nothing
    · obtain ⟨e, singles, rfl, full, fulls, hdeeds, sent⟩ := exists_sendBatch reporter batch t
      rw [proceed_batch protocol single nothing]
      refine ⟨some e, singles, sent.tally ⟨fun _ => ⟨nothing, protocol, single⟩, fun _ => rfl⟩ ?_ ?_
        ?_ nodup⟩
      · rintro _ ⟨⟩
        rfl
      · refine ⟨?_, fulls⟩
        rintro _ ⟨⟩
        exact full
      · rw [hdeeds, same]
        simp

end Reporter

end Agent
end Telemetry
