import Mathlib.Algebra.Order.BigOperators.Group.List
import Telemetry.Proofs.Agent.Exchange
import Telemetry.Proofs.Delivery.Carried

/-!
# Reports acknowledge what was delivered

The account of a report is what its snapshot said is due, less what has been acknowledged since,
and what has been delivered and not acknowledged yet.  Whatever becomes of its requests, a report
acknowledges no more polls than it has delivered, and no more than its snapshot said; when it ends,
all that it has delivered is acknowledged (`always_report`).
-/

namespace Telemetry

/-- The polls that an acknowledged record takes off. -/
def Metric.polls (m : Metric) : Int :=
  match m.delta with
  | none => 0
  | some amount => if m.id = Agent.pollCount then amount else 0

/-- A record of no counter, or of the polls. -/
def Metric.Ours (m : Metric) : Prop := m.delta = none ∨ m.id = Agent.pollCount

@[simp] theorem Reading.polls_toMetric (r : Reading) : r.toMetric.polls = r.polls := by
  cases r <;> rfl

namespace Agent

open Dialogue Http
open Collector (Server)

/-! ### The registry -/

namespace Registry

/-- Nothing but polls is to be delivered. -/
def OnlyPolls (r : Registry) : Prop :=
  r.pending.entries = [] ∨ ∃ n, r.pending.entries = [(pollCount, n)]

theorem onlyPolls_add {r : Registry} (h : r.OnlyPolls) (amount : Int) :
    (r.add pollCount amount).OnlyPolls := by
  right
  rcases h with h | ⟨n, h⟩
  · refine ⟨r.due pollCount + amount, ?_⟩
    show Table.putIn pollCount _ r.pending.entries = _
    rw [h]
    rfl
  · refine ⟨r.due pollCount + amount, ?_⟩
    show Table.putIn pollCount _ r.pending.entries = _
    rw [h]
    rfl

/-- **What there is to report is a bill** of the polls that are due. -/
theorem readings_eq_bill {r : Registry} (h : r.OnlyPolls) :
    r.readings = Client.bill r.gauges.sorted (r.due pollCount) := by
  have found : r.due pollCount = (Table.valueIn pollCount r.pending.entries).getD 0 := rfl
  refine congrArg (_ ++ ·) ?_
  rw [Table.sorted, found]
  rcases h with h | ⟨n, h⟩
  · rw [h, List.mergeSort_nil]
    rfl
  · have due : (Table.valueIn pollCount [(pollCount, n)]).getD 0 = n := rfl
    rw [h, due, List.mergeSort_singleton]
    by_cases none : n = 0
    · rw [if_pos none, none]
      rfl
    · rw [if_neg none]
      simp [none]

/-- What is acknowledged is due no more. -/
theorem due_acknowledge (r : Registry) (m : Metric) :
    (r.acknowledge m).due pollCount = r.due pollCount - m.polls := by
  obtain ⟨id, type, delta, value⟩ := m
  cases delta with
  | none => exact (Int.sub_zero _).symm
  | some amount =>
    show (r.add id (-amount)).due pollCount = r.due pollCount - if id = pollCount then amount else 0
    rw [due_add]
    split
    · exact Int.add_neg_eq_sub
    · exact (Int.sub_zero _).symm

theorem onlyPolls_acknowledge {r : Registry} (h : r.OnlyPolls) {m : Metric} (ours : m.Ours) :
    (r.acknowledge m).OnlyPolls := by
  obtain ⟨id, type, delta, value⟩ := m
  cases delta with
  | none => exact h
  | some amount =>
    rcases ours with none | rfl
    · cases none
    · exact onlyPolls_add h (-amount)

end Registry

/-! ### Accounts -/

/-- The account of a report, in polls. -/
structure Account where
  /-- What the snapshot said is due and has not been acknowledged. -/
  owed : Int
  /-- What has been delivered and has not been acknowledged. -/
  balance : Int

namespace Account

/-- Everything that has been delivered is still due. -/
structure Sound (a : Account) : Prop where
  nonneg : 0 ≤ a.balance
  covered : a.balance ≤ a.owed

/-- The account after a request that carries some polls. -/
def paid (a : Account) (amount : Int) : Outcome Failure Response → Account
  | .value response => if response.status = 200 then { a with balance := a.balance + amount } else a
  | .failure _ => a
  | .cancelled => a

def acknowledged (a : Account) (m : Metric) : Account := ⟨a.owed - m.polls, a.balance - m.polls⟩

/-- What may come of a question of an agent.  A response is that of the collector to the request,
as far as the polls go that the request carries; of a request that carries no such amount, and of
records of other counters, nothing is known.  A snapshot is a bill. -/
def billing (server : Server) : Manner Call.Answer Account
  | .send request, a, answer, b =>
      ∀ amount, Collector.Carries server request.arrived amount → b = a.paid amount answer
  | .snapshot, a, batch, b => ∃ gauges due, 0 ≤ due ∧
      batch = (Client.bill gauges due).map Reading.toMetric ∧ b = { a with owed := due }
  | .acknowledge m, a, _, b => m.Ours → b = a.acknowledged m
  | .pause _, a, through, b => (through : Bool) = true ∧ b = a
  | .note _, a, _, b => b = a
  | .degraded, a, _, b => b = a
  | .degrade, a, _, b => b = a

end Account

/-! ### Requests -/

open Account

variable {server : Server} {a : Account} {request : Request} {amount : Int}

/-- The account after some polls have been delivered or not. -/
def Delivered {ε : Type} (a : Account) (amount : Int) : Outcome ε Unit → Account → Prop
  | .value _, b => b = { a with balance := a.balance + amount }
  | .failure _, b => b = a
  | .cancelled, b => b = a

/-- A request delivers what it carries, or nothing. -/
theorem always_deliver (carries : Collector.Carries server request.arrived amount)
    (nonneg : 0 ≤ amount) (sound : a.Sound) (covered : a.balance + amount ≤ a.owed) :
    Always (billing server) Sound (Delivered a amount) (deliver request) a := by
  refine ⟨sound, fun answer b h => ?_⟩
  have paid := h amount carries
  subst paid
  cases answer with
  | failure f => exact ⟨sound, rfl⟩
  | cancelled => exact ⟨sound, rfl⟩
  | value response =>
    rw [Account.paid]
    by_cases status : response.status = 200
    · have credited : Sound { a with balance := a.balance + amount } :=
        ⟨Int.add_nonneg sound.nonneg nonneg, covered⟩
      rw [if_pos status]
      show Always _ _ _ (if response.status = 200 then _ else _) _
      rw [if_pos status]
      exact ⟨credited, rfl⟩
    · rw [if_neg status]
      show Always _ _ _ (if response.status = 200 then _ else _) _
      rw [if_neg status]
      exact ⟨sound, rfl⟩

theorem calm_surroundings : Reporter.surroundings.Calm (billing server) Sound :=
  Reporter.calm_surroundings (fun _ _ _ _ h => h) fun _ _ _ _ h => h

/-- **A request that is tried again delivers what it carries once**, or nothing. -/
theorem always_tried (carries : Collector.Carries server request.arrived amount)
    (nonneg : 0 ≤ amount) (sound : a.Sound) (covered : a.balance + amount ≤ a.owed) :
    Always (billing server) Sound (Delivered a amount) (Reporter.tried request) a := by
  have once : ∀ b, b = a →
      Always (billing server) Sound (Delivered a amount) (deliver request) b := by
    rintro _ rfl
    exact always_deliver carries nonneg sound covered
  refine Retry.always_run calm_surroundings once ?_ ?_ ?_ ?_ ?_ rfl
  · exact fun _ _ h => h
  · exact fun _ _ h => h
  · exact fun _ h => h
  · exact fun _ _ _ h => h
  · exact fun _ _ _ _ h => h

/-! ### Records one by one -/

/-- A record whose request carries its polls. -/
structure Deliverable (server : Server) (send : Metric → Request) (m : Metric) : Prop where
  ours : m.Ours
  nonneg : 0 ≤ m.polls
  carries : Collector.Carries server (send m).arrived m.polls

/-- The polls of records together. -/
def totalPolls (ms : List Metric) : Int := (ms.map Metric.polls).sum

theorem totalPolls_cons (m : Metric) (ms : List Metric) :
    totalPolls (m :: ms) = m.polls + totalPolls ms := by
  rw [totalPolls, List.map_cons, List.sum_cons, totalPolls]

theorem totalPolls_nonneg {ms : List Metric} (h : ∀ m ∈ ms, 0 ≤ m.polls) : 0 ≤ totalPolls ms := by
  refine List.sum_nonneg fun n hn => ?_
  obtain ⟨m, hm, rfl⟩ := List.mem_map.1 hn
  exact h m hm

/-- A single record is acknowledged where it has been delivered. -/
theorem always_sendOne {send : Metric → Request} {m : Metric} (fit : Deliverable server send m)
    (settled : a.balance = 0) (covered : m.polls ≤ a.owed) :
    Always (billing server) Sound (fun _ b => b.balance = 0 ∧ a.owed - m.polls ≤ b.owed)
      (Reporter.sendOne send m) a := by
  obtain ⟨ours, nonneg, carries⟩ := fit
  have sound : a.Sound := ⟨by omega, by omega⟩
  have kept : a.balance = 0 ∧ a.owed - m.polls ≤ a.owed := ⟨settled, by omega⟩
  refine always_bind.2 ((always_tried carries nonneg sound (by omega)).mono ?_)
  intro outcome b now h
  cases outcome with
  | value =>
    have credited : b = { a with balance := a.balance + m.polls } := h
    subst credited
    refine ⟨now, fun _ c taken => ?_⟩
    have none : a.balance + m.polls - m.polls = 0 := by omega
    rw [taken ours, acknowledged, none]
    have left : 0 ≤ a.owed - m.polls := by omega
    exact ⟨⟨Int.le_refl 0, left⟩, rfl, Int.le_refl _⟩
  | cancelled =>
    have same : b = a := h
    subst same
    exact ⟨now, kept⟩
  | failure reason =>
    have same : b = a := h
    subst same
    dsimp only
    split
    · refine ⟨now, ?_⟩
      rintro _ _ rfl
      exact ⟨now, kept⟩
    · exact ⟨now, kept⟩

/-- **Records that are sent one by one leave nothing delivered and not acknowledged.** -/
theorem always_sendEach {send : Metric → Request} {ms : List Metric}
    (fit : ∀ m ∈ ms, Deliverable server send m) (settled : a.balance = 0)
    (covered : totalPolls ms ≤ a.owed) :
    Always (billing server) Sound (fun _ b => b.balance = 0) (Reporter.sendEach send ms) a := by
  -- The induction is on the records; what is owed covers the polls of those to come.
  induction ms generalizing a with
  | nil =>
    have owed : 0 ≤ a.owed := covered
    exact ⟨⟨by omega, by omega⟩, settled⟩
  | cons m rest ih =>
    have fit' : ∀ m' ∈ rest, Deliverable server send m' := fun m' h => fit m' (List.mem_cons_of_mem m h)
    have later := totalPolls_nonneg fun m' h => (fit' m' h).nonneg
    rw [totalPolls_cons] at covered
    refine (always_sendOne (fit m List.mem_cons_self) settled (by omega)).andThen ?_ ?_ ?_
    · intro delivered b _ h
      refine (ih fit' h.1 (by omega)).andThen ?_ ?_ ?_
      · exact fun n c now h => ⟨now, h⟩
      · exact fun _ _ _ h => h
      · exact fun _ _ h => h
    · exact fun _ _ _ h => h.1
    · exact fun _ _ h => h.1

/-! ### Batches -/

/-- A batch that has been delivered is acknowledged record by record. -/
theorem always_acknowledgeAll {ms : List Metric} (ours : ∀ m ∈ ms, m.Ours)
    (nonneg : ∀ m ∈ ms, 0 ≤ m.polls) (delivered : a.balance = totalPolls ms)
    (covered : a.balance ≤ a.owed) :
    Always (billing server) Sound (fun _ b => b.balance = 0) (Reporter.acknowledgeAll ms) a := by
  induction ms generalizing a with
  | nil =>
    have settled : a.balance = 0 := delivered
    exact ⟨⟨by omega, covered⟩, settled⟩
  | cons m rest ih =>
    have nonneg' : ∀ m' ∈ rest, 0 ≤ m'.polls := fun m' h => nonneg m' (List.mem_cons_of_mem m h)
    have first := nonneg m List.mem_cons_self
    have later := totalPolls_nonneg nonneg'
    rw [totalPolls_cons] at delivered
    refine ⟨⟨by omega, covered⟩, fun _ b taken => ?_⟩
    rw [taken (ours m List.mem_cons_self)]
    refine ih (fun m' h => ours m' (List.mem_cons_of_mem m h)) nonneg' ?_ ?_
    · show a.balance - m.polls = totalPolls rest
      omega
    · show a.balance - m.polls ≤ a.owed - m.polls
      omega

/-- A batch that fails is sent record by record, and leaves nothing unacknowledged either. -/
theorem always_sendBatch {reporter : Reporter} {batch : List Metric}
    (carries : Collector.Carries server (reporter.client.batchRequest batch).arrived
      (totalPolls batch))
    (fit : ∀ m ∈ batch, Deliverable server reporter.client.singleRequest m)
    (settled : a.balance = 0) (covered : totalPolls batch ≤ a.owed) :
    Always (billing server) Sound (fun _ b => b.balance = 0) (Reporter.sendBatch reporter batch)
      a := by
  have nonneg := totalPolls_nonneg fun m h => (fit m h).nonneg
  have sound : a.Sound := ⟨by omega, by omega⟩
  refine always_bind.2 ((always_tried carries nonneg sound (by omega)).mono ?_)
  intro outcome b now h
  cases outcome with
  | value =>
    have credited : b = { a with balance := a.balance + totalPolls batch } := h
    subst credited
    refine always_bind.2 ((always_acknowledgeAll (fun m h => (fit m h).ours)
      (fun m h => (fit m h).nonneg) ?_ ?_).mono ?_)
    · show a.balance + totalPolls batch = totalPolls batch
      omega
    · exact now.covered
    · exact fun _ c now h => ⟨now, h⟩
  | cancelled =>
    have same : b = a := h
    subst same
    exact ⟨now, settled⟩
  | failure reason =>
    have same : b = a := h
    subst same
    have singly := always_sendEach fit settled covered
    dsimp only
    split
    · refine ⟨now, ?_⟩
      rintro _ _ rfl
      split
      · refine ⟨now, ?_⟩
        rintro _ _ rfl
        exact singly
      · exact singly
    · exact ⟨now, settled⟩

/-! ### Reports -/

/-- The records of a bill are of gauges and of polls. -/
theorem ours_bill {gauges : List (String × Double)} {due : Int} (nonneg : 0 ≤ due) :
    ∀ m ∈ (Client.bill gauges due).map Reading.toMetric, m.Ours ∧ 0 ≤ m.polls := by
  intro m hm
  obtain ⟨r, hr, rfl⟩ := List.mem_map.1 hm
  constructor
  · rcases List.mem_append.1 hr with hr | hr
    · obtain ⟨g, -, rfl⟩ := List.mem_map.1 hr
      exact .inl rfl
    · split at hr
      · cases hr
      · cases List.mem_singleton.1 hr
        exact .inr rfl
  · rw [Reading.polls_toMetric]
    exact Client.bill_nonneg nonneg r hr

/-- The records of a bill can be delivered, one by one or as a batch. -/
theorem deliverable_bill {gauges : List (String × Double)} {due : Int} (nonneg : 0 ≤ due)
    {send : Metric → Request}
    (carries : ∀ r : Reading, 0 ≤ r.polls →
      Collector.Carries server (send r.toMetric).arrived r.polls) :
    ∀ m ∈ (Client.bill gauges due).map Reading.toMetric, Deliverable server send m := by
  intro m hm
  obtain ⟨ours, polls⟩ := ours_bill nonneg m hm
  obtain ⟨r, -, rfl⟩ := List.mem_map.1 hm
  refine ⟨ours, polls, ?_⟩
  rw [Reading.polls_toMetric] at polls ⊢
  exact carries r polls

theorem totalPolls_bill (gauges : List (String × Double)) (due : Int) :
    totalPolls ((Client.bill gauges due).map Reading.toMetric) = due := by
  have same : Metric.polls ∘ Reading.toMetric = Reading.polls := funext Reading.polls_toMetric
  rw [totalPolls, List.map_map, same]
  exact Client.bill_polls.2

/-- **A report acknowledges exactly what it has delivered**, under every protocol and policy. -/
theorem always_report {reporter : Reporter} (root : reporter.client.url.IsRoot) (sound : a.Sound)
    (settled : a.balance = 0) :
    Always (billing server) Sound (fun _ b => b.balance = 0) (Reporter.report reporter) a := by
  refine ⟨sound, ?_⟩
  rintro _ _ ⟨gauges, due, nonneg, rfl, rfl⟩
  have opened : Sound { a with owed := due } := ⟨sound.nonneg, settled ▸ nonneg⟩
  have sum := totalPolls_bill gauges due
  have singly : ∀ m ∈ (Client.bill gauges due).map Reading.toMetric,
      Deliverable server reporter.client.singleRequest m :=
    deliverable_bill nonneg fun r h => Client.carries_singleRequest root h
  have plainly : ∀ m ∈ (Client.bill gauges due).map Reading.toMetric,
      Deliverable server reporter.client.plainRequest m :=
    deliverable_bill nonneg fun r h => Client.carries_plainRequest root h
  have wholly : Collector.Carries server
      (reporter.client.batchRequest ((Client.bill gauges due).map Reading.toMetric)).arrived
      (totalPolls ((Client.bill gauges due).map Reading.toMetric)) := by
    rw [sum]
    exact Client.carries_batchRequest root nonneg
  generalize (Client.bill gauges due).map Reading.toMetric = batch at sum singly plainly wholly
  have covered : totalPolls batch ≤ due := Int.le_of_eq sum
  cases batch with
  | nil => exact ⟨opened, settled⟩
  | cons m rest =>
    cases hprotocol : reporter.protocol with
    | plain =>
      dsimp only
      exact always_sendEach plainly settled covered
    | json =>
      refine ⟨opened, ?_⟩
      rintro degraded _ rfl
      show Always _ _ _ (if _ then _ else _) _
      split
      · exact always_sendEach singly settled covered
      · exact always_sendBatch wholly singly settled covered

end Agent
end Telemetry
