import Mathlib.Logic.Relation
import Telemetry.Proofs.Delivery.Report
import Telemetry.Proofs.Table

/-!
# What is pending between polls and reports

A registry is polled while a reporter makes its reports.  Polls come between any two questions of a
report, requests are answered in any way, and a report may be stopped at any question.  In every
state that is reached, the polls that are pending are those that were made less those that were
acknowledged, and a snapshot lists exactly the latest samples and what is pending
(`conserved_of_reaches`).

What carries this is the part of the pending polls that a report may still acknowledge: a snapshot
sets it to what is due, and the report takes off no more than that (`always_report`).
-/

namespace Telemetry.Delivery.Polled

open Dialogue
open Agent (Call Doing Registry Reporter ours_bill pollCount totalPolls totalPolls_bill
  totalPolls_cons totalPolls_nonneg)
open Relation (ReflTransGen)

/-! ### Scenes -/

/-- A registry, its reporter's report if one is under way, and what has happened so far. -/
structure Scene where
  registry : Registry
  degraded : Bool
  /-- The samples of the polls so far. -/
  samples : List (List (String × Double))
  /-- The records acknowledged so far. -/
  acknowledged : List Metric
  report : Option (Doing (Outcome Failure Nat))

namespace Scene

def start : Scene := ⟨.empty, false, [], [], none⟩

def poll (s : Scene) (sample : List (String × Double)) : Scene :=
  { s with registry := s.registry.poll sample, samples := s.samples ++ [sample] }

def acknowledge (s : Scene) (m : Metric) : Scene :=
  { s with registry := s.registry.acknowledge m, acknowledged := s.acknowledged ++ [m] }

/-- The polls that are pending. -/
def due (s : Scene) : Int := s.registry.due pollCount

/-- The latest sample of a gauge. -/
def latest? (s : Scene) (name : String) : Option Double := s.samples.flatten.reverse.lookup name

end Scene

/-- What may come of a question of a report.  Requests and pauses may be answered in any way. -/
def answers : Manner Call.Answer Scene
  | .send _, s, _, t => t = s
  | .pause _, s, _, t => t = s
  | .note _, s, _, t => t = s
  | .snapshot, s, batch, t => batch = s.registry.snapshot ∧ t = s
  | .acknowledge m, s, _, t => t = s.acknowledge m
  | .degraded, s, degraded, t => degraded = s.degraded ∧ t = s
  | .degrade, s, _, t => t = { s with degraded := true }

/-- One step of the polls or of the reporter. -/
inductive Step (reporter : Reporter) : Scene → Scene → Prop
  | poll (s : Scene) (sample : List (String × Double)) : Step reporter s (s.poll sample)
  | start {s : Scene} (idle : s.report = none) :
      Step reporter s { s with report := some reporter.report }
  | ask {s t : Scene} {call : Call} {next : call.Answer → Doing (Outcome Failure Nat)}
      {answer : call.Answer} (asking : s.report = some (.ask call next))
      (answered : answers call s answer t) :
      Step reporter s { t with report := some (next answer) }
  | finish {s : Scene} {result : Outcome Failure Nat} (ended : s.report = some (.done result)) :
      Step reporter s { s with report := none }
  /-- A report is stopped. -/
  | stop (s : Scene) : Step reporter s { s with report := none }

/-! ### What a report may acknowledge -/

/-- What may come of a question to what a report may still acknowledge.  A snapshot is a bill.  Of
records of other counters nothing is known. -/
def owing : Manner Call.Answer Int
  | .snapshot, _, batch, owed => ∃ gauges due, 0 ≤ due ∧
      batch = (Agent.Client.bill gauges due).map Reading.toMetric ∧ owed = due
  | .acknowledge m, a, _, owed => m.Ours → owed = a - m.polls
  | .send _, a, _, owed => owed = a
  | .pause _, a, _, owed => owed = a
  | .note _, a, _, owed => owed = a
  | .degraded, a, _, owed => owed = a
  | .degrade, a, _, owed => owed = a

section

variable {a : Int} {α : Type}

theorem steady_surroundings :
    Reporter.surroundings.Steady owing (0 ≤ ·) fun s _ t => t = s where
  pause d s after now h := by
    refine ⟨now, ?_⟩
    rintro through _ rfl
    exact h through _ rfl
  note n s after now h := by
    dsimp only [Reporter.surroundings]
    split
    · refine ⟨now, ?_⟩
      rintro _ _ rfl
      exact ⟨now, h⟩
    · exact ⟨now, h⟩

/-- Requests acknowledge nothing. -/
theorem always_tried (request : Http.Request) (nonneg : 0 ≤ a) :
    Always owing (0 ≤ ·) (fun _ b => b = a) (Reporter.tried request) a := by
  have once : ∀ b, b = a →
      Always owing (0 ≤ ·) (fun _ b => b = a) (Agent.deliver request) b := by
    rintro _ rfl
    refine ⟨nonneg, ?_⟩
    rintro outcome _ rfl
    cases outcome with
    | failure | cancelled => exact ⟨nonneg, rfl⟩
    | value response =>
      show Always _ _ _ (if response.status = 200 then _ else _) _
      split <;> exact ⟨nonneg, rfl⟩
  refine Retry.always_run_steady steady_surroundings once ?_ ?_ ?_ ?_ ?_ ?_ ?_ rfl
  · exact fun _ _ h => h
  · exact fun _ _ _ h rested => rested.trans h
  · exact fun _ _ h _ => h
  · exact fun _ _ h => h
  · exact fun _ h => h
  · exact fun _ _ _ h => h
  · exact fun _ _ _ _ h => h

/-- A single record takes off its own polls at most. -/
theorem always_sendOne (request : Metric → Http.Request) {m : Metric} (fit : m.Ours ∧ 0 ≤ m.polls)
    (covered : m.polls ≤ a) :
    Always owing (0 ≤ ·) (fun _ b => a - m.polls ≤ b) (Reporter.sendOne request m) a := by
  obtain ⟨ours, nonneg⟩ := fit
  refine always_bind.2 ((always_tried (request m) (by omega)).mono ?_)
  rintro outcome _ now rfl
  cases outcome with
  | value =>
    refine ⟨now, fun _ b taken => ?_⟩
    have left := taken ours
    exact ⟨by omega, by omega⟩
  | cancelled => exact ⟨now, by omega⟩
  | failure reason =>
    dsimp only
    split
    · refine ⟨now, ?_⟩
      rintro _ _ rfl
      exact ⟨now, by omega⟩
    · exact ⟨now, by omega⟩

/-- **Records that are sent one by one take off their polls at most.** -/
theorem always_sendEach (request : Metric → Http.Request) {ms : List Metric}
    (fit : ∀ m ∈ ms, m.Ours ∧ 0 ≤ m.polls) (covered : totalPolls ms ≤ a) :
    Always owing (0 ≤ ·) (fun _ _ => True) (Reporter.sendEach request ms) a := by
  -- The induction is on the records; what is owed covers the polls of those to come.
  induction ms generalizing a with
  | nil => exact ⟨covered, trivial⟩
  | cons m rest ih =>
    have fit' := fun m' h => fit m' (List.mem_cons_of_mem m h)
    have later := totalPolls_nonneg fun m' h => (fit' m' h).2
    rw [totalPolls_cons] at covered
    refine (always_sendOne request (fit m List.mem_cons_self) (by omega)).andThen ?_ ?_ ?_
    · intro delivered b _ h
      refine (ih fit' (by omega)).andThen ?_ ?_ ?_
      · exact fun _ _ now _ => ⟨now, trivial⟩
      · exact fun _ _ _ h => h
      · exact fun _ _ h => h
    · exact fun _ _ _ _ => trivial
    · exact fun _ _ _ => trivial

theorem always_acknowledgeAll {ms : List Metric} (fit : ∀ m ∈ ms, m.Ours ∧ 0 ≤ m.polls)
    (covered : totalPolls ms ≤ a) :
    Always owing (0 ≤ ·) (fun _ _ => True) (Reporter.acknowledgeAll ms) a := by
  induction ms generalizing a with
  | nil => exact ⟨covered, trivial⟩
  | cons m rest ih =>
    have fit' := fun m' h => fit m' (List.mem_cons_of_mem m h)
    have later := totalPolls_nonneg fun m' h => (fit' m' h).2
    have first := fit m List.mem_cons_self
    have nonneg := first.2
    rw [totalPolls_cons] at covered
    refine ⟨by omega, fun _ b taken => ih fit' ?_⟩
    have left := taken first.1
    omega

theorem always_sendBatch (reporter : Reporter) {batch : List Metric}
    (fit : ∀ m ∈ batch, m.Ours ∧ 0 ≤ m.polls) (covered : totalPolls batch ≤ a) :
    Always owing (0 ≤ ·) (fun _ _ => True) (reporter.sendBatch batch) a := by
  have nonneg := totalPolls_nonneg fun m h => (fit m h).2
  refine always_bind.2 ((always_tried _ (by omega)).mono ?_)
  rintro outcome _ now rfl
  cases outcome with
  | value =>
    refine always_bind.2 ((always_acknowledgeAll fit covered).mono ?_)
    exact fun _ _ now _ => ⟨now, trivial⟩
  | cancelled => exact ⟨now, trivial⟩
  | failure reason =>
    have singly := always_sendEach reporter.client.singleRequest fit covered
    dsimp only
    split
    · refine ⟨now, ?_⟩
      rintro _ _ rfl
      split
      · refine ⟨now, ?_⟩
        rintro _ _ rfl
        exact singly
      · exact singly
    · exact ⟨now, trivial⟩

/-- **A report acknowledges no more than its snapshot said is due**, whatever comes of its
requests. -/
theorem always_report (reporter : Reporter) (nonneg : 0 ≤ a) :
    Always owing (0 ≤ ·) (fun _ _ => True) reporter.report a := by
  refine ⟨nonneg, ?_⟩
  rintro _ owed ⟨gauges, due, nonneg, rfl, rfl⟩
  have fit : ∀ m ∈ (Agent.Client.bill gauges owed).map Reading.toMetric, m.Ours ∧ 0 ≤ m.polls :=
    ours_bill nonneg
  have covered := (totalPolls_bill gauges owed).le
  generalize (Agent.Client.bill gauges owed).map Reading.toMetric = batch at fit covered
  cases batch with
  | nil => exact ⟨nonneg, trivial⟩
  | cons m rest =>
    cases hprotocol : reporter.protocol with
    | plain =>
      dsimp only
      exact always_sendEach _ fit covered
    | json =>
      refine ⟨nonneg, ?_⟩
      rintro degraded _ rfl
      show Always _ _ _ (if _ then _ else _) _
      split
      · exact always_sendEach _ fit covered
      · exact always_sendBatch reporter fit covered

end

/-! ### Samples -/

/-- A gauge has the last value that a sample has for it, and otherwise its old one. -/
theorem get?_overlay (gauges : Table String Double) (sample : List (String × Double))
    (name : String) :
    (Registry.overlay gauges sample).get? name
      = (sample.reverse.lookup name).or (gauges.get? name) := by
  induction sample generalizing gauges with
  | nil => rfl
  | cons e rest ih =>
    obtain ⟨key, value⟩ := e
    rw [Registry.overlay, ih, List.reverse_cons, List.lookup_append, Option.or_assoc,
      Table.get?_put]
    congr 1
    by_cases same : key = name
    · simp [same]
    · have other : (name == key) = false := beq_eq_false_iff_ne.2 (Ne.symm same)
      simp [same, List.lookup_cons, other]

theorem Scene.latest?_poll (s : Scene) (sample : List (String × Double)) (name : String) :
    (s.poll sample).latest? name = (sample.reverse.lookup name).or (s.latest? name) := by
  unfold Scene.latest? Scene.poll
  simp [List.lookup_append]

/-- Acknowledgements leave the gauges alone. -/
theorem gauges_acknowledge (r : Registry) (m : Metric) : (r.acknowledge m).gauges = r.gauges := by
  unfold Registry.acknowledge
  split <;> rfl

/-! ### The invariant -/

namespace Scene

/-- What every step keeps. -/
structure Kept (s : Scene) : Prop where
  gauges : ∀ name, s.registry.gauges.get? name = s.latest? name
  onlyPolls : s.registry.OnlyPolls
  balanced : s.due = s.samples.length - totalPolls s.acknowledged
  nonneg : 0 ≤ s.due
  /-- The report under way acknowledges no more than is due. -/
  report : ∀ rest, s.report = some rest →
    ∃ owed, owed ≤ s.due ∧ Always owing (0 ≤ ·) (fun _ _ => True) rest owed

variable {s t : Scene}

theorem kept_start : start.Kept where
  gauges _ := rfl
  onlyPolls := .inl rfl
  balanced := rfl
  nonneg := Int.le_refl 0
  report := nofun

/-- What a snapshot lists is a bill. -/
theorem Kept.snapshot_eq (h : s.Kept) :
    s.registry.snapshot
      = (Agent.Client.bill s.registry.gauges.sorted s.due).map Reading.toMetric :=
  congrArg _ (Registry.readings_eq_bill h.onlyPolls)

theorem Kept.poll (h : s.Kept) (sample : List (String × Double)) : (s.poll sample).Kept := by
  have due : (s.poll sample).due = s.due + 1 := s.registry.due_poll sample pollCount
  constructor
  · intro name
    rw [latest?_poll, ← h.gauges]
    exact get?_overlay s.registry.gauges sample name
  · exact Registry.onlyPolls_add
      (r := { s.registry with gauges := Registry.overlay s.registry.gauges sample }) h.onlyPolls 1
  · have balanced := h.balanced
    rw [due, balanced]
    simp [Scene.poll]
    omega
  · have nonneg := h.nonneg
    omega
  · intro rest hrest
    obtain ⟨owed, le, always⟩ := h.report rest hrest
    exact ⟨owed, by omega, always⟩

/-- Another report may take the place of the one under way. -/
theorem Kept.reporting (h : s.Kept) {report : Option (Doing (Outcome Failure Nat))}
    (fits : ∀ rest, report = some rest →
      ∃ owed, owed ≤ s.due ∧ Always owing (0 ≤ ·) (fun _ _ => True) rest owed) :
    { s with report }.Kept :=
  ⟨h.gauges, h.onlyPolls, h.balanced, h.nonneg, fits⟩

theorem Kept.idle (h : s.Kept) : { s with report := none }.Kept := h.reporting nofun

/-- What a report acknowledges is taken off what is due. -/
theorem Kept.acknowledge (h : s.Kept) {m : Metric} {owed : Int} (ours : m.Ours)
    (le : owed ≤ s.due) (covered : 0 ≤ owed - m.polls)
    {rest : Doing (Outcome Failure Nat)}
    (always : Always owing (0 ≤ ·) (fun _ _ => True) rest (owed - m.polls)) :
    { s.acknowledge m with report := some rest }.Kept := by
  have due : (s.acknowledge m).due = s.due - m.polls := s.registry.due_acknowledge m
  have balanced := h.balanced
  constructor
  · intro name
    show (s.registry.acknowledge m).gauges.get? name = _
    rw [gauges_acknowledge]
    exact h.gauges name
  · exact Registry.onlyPolls_acknowledge h.onlyPolls ours
  · have total : totalPolls (s.acknowledged ++ [m]) = totalPolls s.acknowledged + m.polls := by
      simp [totalPolls]
    show (s.acknowledge m).due = s.samples.length - totalPolls (s.acknowledged ++ [m])
    omega
  · show 0 ≤ (s.acknowledge m).due
    omega
  · rintro _ ⟨⟩
    refine ⟨owed - m.polls, ?_, always⟩
    show _ ≤ (s.acknowledge m).due
    omega

/-- **Every answer to a report keeps what is pending.** -/
theorem Kept.answered (h : s.Kept) {call : Call}
    {next : call.Answer → Doing (Outcome Failure Nat)} {answer : call.Answer}
    (asking : s.report = some (.ask call next)) (answered : answers call s answer t) :
    { t with report := some (next answer) }.Kept := by
  obtain ⟨owed, le, -, always⟩ := h.report _ asking
  have goesOn (possible : owing call owed answer owed) :
      { s with report := some (next answer) }.Kept := by
    refine h.reporting ?_
    rintro _ ⟨⟩
    exact ⟨owed, le, always answer owed possible⟩
  cases call with
  | send | pause | note =>
    obtain rfl := answered
    exact goesOn rfl
  | degraded =>
    obtain ⟨rfl, rfl⟩ := answered
    exact goesOn rfl
  | degrade =>
    obtain rfl := answered
    exact ⟨(goesOn rfl).gauges, h.onlyPolls, h.balanced, h.nonneg, (goesOn rfl).report⟩
  | snapshot =>
    obtain ⟨rfl, rfl⟩ := answered
    refine h.reporting ?_
    rintro _ ⟨⟩
    exact ⟨t.due, le_rfl, always _ t.due ⟨_, t.due, h.nonneg, h.snapshot_eq, rfl⟩⟩
  | acknowledge m =>
    obtain rfl := answered
    -- Of other records nothing would be known, not even that something is left.
    have ours : m.Ours := by
      by_contra other
      have negative := (always () (-1) fun ours => absurd ours other).now
      omega
    have rest := always () (owed - m.polls) fun _ => rfl
    exact h.acknowledge ours le rest.now rest

end Scene

/-- **Every step keeps what is pending.** -/
theorem kept_step {reporter : Reporter} {s t : Scene} (h : s.Kept) (step : Step reporter s t) :
    t.Kept := by
  cases step with
  | poll sample => exact h.poll sample
  | start idle =>
    refine h.reporting ?_
    rintro _ ⟨⟩
    exact ⟨0, h.nonneg, always_report reporter le_rfl⟩
  | ask asking answered => exact h.answered asking answered
  | finish => exact h.idle
  | stop => exact h.idle

theorem kept_of_reaches {reporter : Reporter} {s : Scene}
    (reached : ReflTransGen (Step reporter) .start s) : s.Kept := by
  induction reached with
  | refl => exact Scene.kept_start
  | tail _ step ih => exact kept_step ih step

/-! ### What is conserved -/

namespace Scene

/-- The two parts of a snapshot: gauges with their latest samples, and counters with what is pending
of them. -/
structure Lists (s : Scene) (gauges : List (String × Double)) (counters : List (String × Int)) :
    Prop where
  snapshot : s.registry.snapshot
    = (gauges.map fun g => (Reading.gauge g.1 g.2).toMetric)
      ++ counters.map fun c => (Reading.counter c.1 c.2).toMetric
  /-- Gauges are listed by name, and so each of them once. -/
  gaugesSorted : gauges.Pairwise fun a b => a.1 < b.1
  gauges : ∀ name value, (name, value) ∈ gauges ↔ s.latest? name = some value
  countersSorted : counters.Pairwise fun a b => a.1 < b.1
  counters : ∀ name amount, (name, amount) ∈ counters ↔ amount ≠ 0 ∧ s.registry.due name = amount

/-- **What is conserved in a scene.** -/
structure Conserved (s : Scene) : Prop where
  /-- What is pending are the polls that were made, less those that were acknowledged. -/
  due : s.due = s.samples.length - totalPolls s.acknowledged
  nonneg : 0 ≤ s.due
  acknowledged : totalPolls s.acknowledged ≤ s.samples.length
  lists : ∃ gauges counters, s.Lists gauges counters

theorem Kept.lists {s : Scene} (h : s.Kept) :
    s.Lists s.registry.gauges.sorted (s.registry.pending.sorted.filter fun c => c.2 ≠ 0) where
  snapshot := by
    unfold Registry.snapshot Registry.readings
    rw [List.map_append, List.map_map, List.map_map]
    rfl
  gaugesSorted := s.registry.gauges.pairwise_sorted
  gauges name value := by
    rw [← h.gauges]
    exact Table.mem_sorted_iff
  countersSorted := s.registry.pending.pairwise_sorted.filter _
  counters name amount := by
    rw [List.mem_filter, Table.mem_sorted_iff, decide_eq_true_eq, Registry.due, and_comm]
    refine and_congr_right fun some => ?_
    cases s.registry.pending.get? name with
    | none =>
      have none : (0 : Int) ≠ amount := some.symm
      simp [none]
    | some pending => simp

end Scene

/-- **Pending polls are conserved**, in every state that polls and reports reach. -/
theorem conserved_of_reaches {reporter : Reporter} {s : Scene}
    (reached : ReflTransGen (Step reporter) .start s) : s.Conserved := by
  have kept := kept_of_reaches reached
  have balanced := kept.balanced
  have nonneg := kept.nonneg
  exact ⟨balanced, nonneg, by omega, _, _, kept.lists⟩

/-- The case of a poll that comes while the one before it is on its way. -/
theorem conserved_of_late_poll :
    let reporter : Reporter :=
      ⟨⟨⟨"http", true, "localhost", some 8080, [], none⟩, .ofKey none⟩, .plain, .retry⟩
    ∃ s, ReflTransGen (Step reporter) .start s ∧ s.Conserved ∧ s.samples.length = 2 ∧
      totalPolls s.acknowledged = 1 ∧ s.due = 1 := by
  intro reporter
  let m := (Reading.counter pollCount 1).toMetric
  let polled := Scene.start.poll []
  have snapshot : polled.registry.snapshot = [m] := by
    have gauges : polled.registry.gauges.sorted = [] := List.mergeSort_nil
    rw [(Scene.kept_start.poll []).snapshot_eq, gauges]
    rfl
  -- The report looks what there is, sends it, and is answered after another poll.
  have looked : answers .snapshot { polled with report := some reporter.report } [m]
      { polled with report := some reporter.report } := ⟨snapshot.symm, rfl⟩
  have look : some reporter.report = some (.ask .snapshot _) := rfl
  have looks : Step reporter { polled with report := some reporter.report } _ := .ask look looked
  let waiting : Scene :=
    { polled with report := some (Reporter.sendEach reporter.client.plainRequest [m]) }
  have sent : ReflTransGen (Step reporter) .start (waiting.poll []) :=
    .head (.poll _ []) (.head (.start rfl) (.head looks (.single (.poll waiting []))))
  have accepted : answers (.send (reporter.client.plainRequest m)) (waiting.poll [])
      (.value ⟨200, [], []⟩) (waiting.poll []) := rfl
  have send : (waiting.poll []).report = some (.ask (.send _) _) := rfl
  have delivered : Step reporter (waiting.poll []) _ := .ask send accepted
  let told : Scene := { waiting.poll [] with report := some (.ask (.acknowledge m) fun _ =>
    .done (.value 1)) }
  have taken : answers (.acknowledge m) told () (told.acknowledge m) := rfl
  have acknowledged : Step reporter told _ := .ask rfl taken
  have reached := (sent.tail delivered).tail acknowledged
  exact ⟨_, reached, conserved_of_reaches reached, rfl, rfl, rfl⟩

end Telemetry.Delivery.Polled
