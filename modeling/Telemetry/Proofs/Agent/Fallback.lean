import Mathlib.Data.List.Induction
import Telemetry.Proofs.Agent.Exchange
import Telemetry.Proofs.Url

/-!
# When batches are given up

Under the JSON protocol a report starts with a batch, and what a failed batch means for the later
reports is up to the policy.  `Obeys` says what the requests of a report may be after any reports
before it, and when batches have been given up.  Every report obeys, whatever there is to report and
whatever comes of each request (`reports_obey`).
-/

namespace Telemetry.Agent

open Dialogue Http

/-! ### Requests for batches -/

/-- A request that goes where batches go. -/
def Client.ForBatch (client : Client) (r : Request) : Prop :=
  r.path = String.ofList (client.url.below "/updates").target

theorem Client.forBatch_batchRequest (client : Client) (batch : List Metric) :
    client.ForBatch (client.batchRequest batch) := rfl

/-- Records do not go where batches go, whatever the address of the collector is. -/
theorem Client.not_forBatch_singleRequest (client : Client) (m : Metric) :
    ¬ client.ForBatch (client.singleRequest m) := by
  intro h
  have same : (client.url.below "/update").target = (client.url.below "/updates").target :=
    String.ofList_injective h
  -- The one ends with `e`, and the other with `s`.
  have single := client.url.getLast?_target_below "/update" (c := 'e') (by decide)
    (by decide) (by decide) (by decide)
  have batch := client.url.getLast?_target_below "/updates" (c := 's') (by decide)
    (by decide) (by decide) (by decide)
  rw [same, batch] at single
  exact absurd single (by decide)

/-- There has been a batch, and none was accepted. -/
structure BatchFailed (client : Client) (es : List Exchange) : Prop where
  made : ∃ e ∈ es, client.ForBatch e.request
  unaccepted : ∀ e ∈ es, client.ForBatch e.request → ¬ e.Accepted

/-- A batch that is not accepted has failed, whatever records are sent one by one after it. -/
theorem batchFailed_append {client : Client} {batch : List Metric} {es later : List Exchange}
    (made : es ≠ []) (unaccepted : Unaccepted (client.batchRequest batch) es)
    (singles : ∀ e ∈ later, ∃ m ∈ batch, e.request = client.singleRequest m) :
    BatchFailed client (es ++ later) := by
  constructor
  · obtain ⟨e, mem⟩ := List.exists_mem_of_ne_nil es made
    refine ⟨e, List.mem_append_left later mem, ?_⟩
    rw [(unaccepted e mem).1]
    exact client.forBatch_batchRequest batch
  · intro e mem forBatch
    rcases List.mem_append.1 mem with mem | mem
    · exact (unaccepted e mem).2
    · obtain ⟨m, -, request⟩ := singles e mem
      rw [request] at forBatch
      exact absurd forBatch (client.not_forBatch_singleRequest m)

/-! ### One report -/

variable {reporter : Reporter} {t : Trial}

/-- What a report does about a batch. -/
def Reporter.proceed (reporter : Reporter) (batch : List Metric) (degraded : Bool) :
    Doing (Outcome Failure Nat) :=
  match batch, reporter.protocol with
  | [], _ => pure (.value 0)
  | batch, .plain => sendEach reporter.client.plainRequest batch
  | batch, .json =>
      if reporter.fallback = .sticky && degraded then
        sendEach reporter.client.singleRequest batch
      else sendBatch reporter batch

theorem report_eq (reporter : Reporter) (t : Trial) :
    t.run reporter.report = t.run (reporter.proceed t.registry.snapshot t.degraded) ∧
      exchanged reporter.report t
        = exchanged (reporter.proceed t.registry.snapshot t.degraded) t := by
  have snapshot : Trial.answer .snapshot t = (t.registry.snapshot, t) := rfl
  unfold Reporter.report ask exchanged Trial.run
  rw [say_bind, Dialogue.run_ask, heard, snapshot]
  generalize t.registry.snapshot = batch
  obtain ⟨client, protocol, fallback⟩ := reporter
  cases batch with
  | nil => exact ⟨rfl, rfl⟩
  | cons m rest => cases protocol <;> exact ⟨rfl, rfl⟩

section

variable {batch : List Metric} {degraded : Bool}

theorem proceed_plain (plain : reporter.protocol = .plain) (nonempty : batch ≠ []) :
    reporter.proceed batch degraded
      = Reporter.sendEach reporter.client.plainRequest batch := by
  obtain ⟨m, rest, rfl⟩ := List.exists_cons_of_ne_nil nonempty
  simp [Reporter.proceed, plain]

theorem proceed_single (json : reporter.protocol = .json) (sticky : reporter.fallback = .sticky)
    (nonempty : batch ≠ []) :
    reporter.proceed batch true = Reporter.sendEach reporter.client.singleRequest batch := by
  obtain ⟨m, rest, rfl⟩ := List.exists_cons_of_ne_nil nonempty
  simp [Reporter.proceed, json, sticky]

theorem proceed_batch (json : reporter.protocol = .json)
    (again : ¬ (reporter.fallback = .sticky ∧ degraded = true)) (nonempty : batch ≠ []) :
    reporter.proceed batch degraded = reporter.sendBatch batch := by
  obtain ⟨m, rest, rfl⟩ := List.exists_cons_of_ne_nil nonempty
  simp [Reporter.proceed, json, again]

end

/-- A report of nothing makes no request and changes nothing. -/
theorem report_of_nothing (reporter : Reporter) (nothing : t.registry.snapshot = []) :
    exchanged reporter.report t = [] ∧ t.run reporter.report = (.value 0, t) := by
  rw [(report_eq reporter t).1, (report_eq reporter t).2, nothing]
  exact ⟨rfl, rfl⟩

/-- What a report does after a failed batch. -/
def Reporter.fallBack (reporter : Reporter) (batch : List Metric)
    (reason : Retry.GivenUp Failure) : Doing (Outcome Failure Nat) := do
  ask (.note (batchFailed batch.length reason))
  if reporter.fallback = .sticky then ask .degrade
  sendEach reporter.client.singleRequest batch

/-- Records are sent one by one then, after batches are given up under the sticky policy. -/
theorem exists_fallBack (reporter : Reporter) (batch : List Metric)
    (reason : Retry.GivenUp Failure) (t : Trial) :
    ∃ t' : Trial, t'.degraded = (t.degraded || decide (reporter.fallback = .sticky)) ∧
      t.run (reporter.fallBack batch reason)
          = t'.run (Reporter.sendEach reporter.client.singleRequest batch) ∧
        exchanged (reporter.fallBack batch reason) t
          = exchanged (Reporter.sendEach reporter.client.singleRequest batch) t' := by
  unfold Reporter.fallBack
  split
  next sticky =>
    let noted := t.log (Reporter.batchFailed batch.length reason)
    refine ⟨{ noted with degraded := true }, ?_, rfl, rfl⟩
    simp [sticky]
  next retry =>
    refine ⟨t.log (Reporter.batchFailed batch.length reason), ?_, rfl, rfl⟩
    simp [retry, Trial.log]

/-- **A batch is tried at once**, and if it fails it was the last one under the sticky policy. -/
theorem sendBatch_exchanged (reporter : Reporter) (batch : List Metric) (reaches : t.Reaches) :
    (∃ outcome later, exchanged (reporter.sendBatch batch) t
        = ⟨reporter.client.batchRequest batch, outcome⟩ :: later) ∧
      ((t.run (reporter.sendBatch batch)).2.degraded = true ↔
        t.degraded = true ∨ reporter.fallback = .sticky ∧
          BatchFailed reporter.client (exchanged (reporter.sendBatch batch) t)) := by
  obtain ⟨outcome, later, first⟩ :=
    exists_exchanged_tried (reporter.client.batchRequest batch) t
  have concluded := (tried_exchanged (reporter.client.batchRequest batch) reaches).1
  have kept := (modest_tried (reporter.client.batchRequest batch)).degraded t
  unfold Reporter.sendBatch
  rw [run_bind, exchanged_bind]
  generalize exchanged (Reporter.tried (reporter.client.batchRequest batch)) t = es
    at first concluded ⊢
  refine ⟨⟨outcome, _, by rw [first, List.cons_append]⟩, ?_⟩
  generalize t.run (Reporter.tried (reporter.client.batchRequest batch)) = result
    at concluded kept ⊢
  obtain ⟨result, t'⟩ := result
  dsimp only at concluded kept ⊢
  rw [← kept]
  cases result with
  | cancelled => exact concluded.elim
  | value =>
    obtain ⟨requests, e, mem, accepted⟩ := concluded
    have modest : Modest (fun _ => False) (do
        Reporter.acknowledgeAll batch
        pure (.value batch.length) : Doing (Outcome Failure Nat)) :=
      asks_bind (modest_acknowledgeAll batch) fun _ => trivial
    dsimp only
    rw [modest.degraded t']
    refine ⟨.inl, ?_⟩
    rintro (degraded | ⟨-, failed⟩)
    · exact degraded
    · have refused := failed.unaccepted e (List.mem_append_left _ mem)
      rw [requests e mem] at refused
      exact absurd accepted (refused (reporter.client.forBatch_batchRequest batch))
  | failure reason =>
    obtain ⟨fails, unaccepted⟩ := concluded
    dsimp only
    rw [if_pos fails]
    change (t'.run (reporter.fallBack batch reason)).2.degraded = true ↔ _ ∨ _ ∧
      BatchFailed _ (es ++ exchanged (reporter.fallBack batch reason) t')
    obtain ⟨t'', degraded, hrun, hexchanged⟩ := exists_fallBack reporter batch reason t'
    have modest := modest_sendEach reporter.client.singleRequest batch
    have failed : BatchFailed reporter.client
        (es ++ exchanged (reporter.fallBack batch reason) t') :=
      batchFailed_append (first ▸ List.cons_ne_nil _ _) unaccepted
        (hexchanged ▸ modest.exchanged t'')
    rw [hrun, modest.degraded t'', degraded, Bool.or_eq_true, decide_eq_true_iff]
    simp [failed]

/-- **A report gives up batches only where one has failed**, under the sticky policy. -/
theorem degraded_report (reporter : Reporter) (reaches : t.Reaches) :
    (t.run reporter.report).2.degraded = true ↔
      t.degraded = true ∨ reporter.protocol = .json ∧ reporter.fallback = .sticky ∧
        BatchFailed reporter.client (exchanged reporter.report t) := by
  by_cases nothing : t.registry.snapshot = []
  · obtain ⟨none, same⟩ := report_of_nothing reporter nothing
    rw [none, same]
    simp only [iff_self_or]
    rintro ⟨-, -, ⟨e, mem, -⟩, -⟩
    cases mem
  · rw [(report_eq reporter t).1, (report_eq reporter t).2]
    cases protocol : reporter.protocol with
    | plain =>
      rw [proceed_plain protocol nothing,
        (modest_sendEach reporter.client.plainRequest _).degraded t]
      simp
    | json =>
      by_cases single : reporter.fallback = .sticky ∧ t.degraded = true
      · rw [single.2, proceed_single protocol single.1 nothing,
          (modest_sendEach reporter.client.singleRequest _).degraded t]
        simp [single.2]
      · rw [proceed_batch protocol single nothing]
        simpa using (sendBatch_exchanged reporter t.registry.snapshot reaches).2

/-! ### Reports one after the other -/

/-- What a report finds: what there is to report, and what comes of the requests. -/
structure Tick where
  registry : Registry
  script : List Reply

/-- Requests fail as sends do, if they fail. -/
def Tick.Reaches (tick : Tick) : Prop := ∀ reply ∈ tick.script, FailsAsSend reply.outcome

def Trial.facing (t : Trial) (tick : Tick) : Trial :=
  { t with registry := tick.registry, script := tick.script }

namespace Reporter

/-- The trial after some reports. -/
def after (reporter : Reporter) (start : Trial) (ticks : List Tick) : Trial :=
  ticks.foldl (fun t tick => ((t.facing tick).run reporter.report).2) start

/-- A report has been made of which the batch failed. -/
def HasFailed (reporter : Reporter) (start : Trial) (ticks : List Tick) : Prop :=
  ∃ before tick later, ticks = before ++ tick :: later ∧
    BatchFailed reporter.client
      (exchanged reporter.report ((reporter.after start before).facing tick))

/-- **What a report may do** after some others, and when batches have been given up. -/
structure Obeys (reporter : Reporter) (start : Trial) (before : List Tick) (tick : Tick) :
    Prop where
  /-- Batches have been given up exactly if one failed under the sticky policy. -/
  degraded : (reporter.after start before).degraded = true ↔
    reporter.protocol = .json ∧ reporter.fallback = .sticky ∧ reporter.HasFailed start before
  /-- A report of nothing makes no request and changes nothing. -/
  idle : tick.registry.snapshot = [] →
    let now := (reporter.after start before).facing tick
    exchanged reporter.report now = [] ∧ now.run reporter.report = (.value 0, now)
  /-- Under the plain protocol only records are sent, in the plain form. -/
  plain : reporter.protocol = .plain →
    ∀ e ∈ exchanged reporter.report ((reporter.after start before).facing tick),
      ∃ m ∈ tick.registry.snapshot, e.request = reporter.client.plainRequest m
  /-- Under the JSON protocol a report starts with a batch, … -/
  batch : reporter.protocol = .json → tick.registry.snapshot ≠ [] →
    ¬ (reporter.fallback = .sticky ∧ reporter.HasFailed start before) →
      ∃ outcome later, exchanged reporter.report ((reporter.after start before).facing tick)
        = ⟨reporter.client.batchRequest tick.registry.snapshot, outcome⟩ :: later
  /-- … unless a batch has failed under the sticky policy; then no request is for a batch. -/
  single : reporter.protocol = .json → reporter.fallback = .sticky →
    reporter.HasFailed start before →
      ∀ e ∈ exchanged reporter.report ((reporter.after start before).facing tick),
        ¬ reporter.client.ForBatch e.request ∧
          ∃ m ∈ tick.registry.snapshot, e.request = reporter.client.singleRequest m

end Reporter

theorem exchanged_facing (reporter : Reporter) (t : Trial) (tick : Tick) :
    exchanged reporter.report (t.facing tick)
      = exchanged (reporter.proceed tick.registry.snapshot t.degraded) (t.facing tick) :=
  (report_eq reporter (t.facing tick)).2

theorem hasFailed_append (reporter : Reporter) (start : Trial) (ticks : List Tick) (tick : Tick) :
    reporter.HasFailed start (ticks ++ [tick]) ↔ reporter.HasFailed start ticks ∨
      BatchFailed reporter.client
        (exchanged reporter.report ((reporter.after start ticks).facing tick)) := by
  constructor
  · rintro ⟨before, tick', later, h, failed⟩
    rcases List.eq_nil_or_concat later with rfl | ⟨later, last, rfl⟩
    · obtain ⟨rfl, same⟩ := List.append_inj' h rfl
      cases same
      exact .inr failed
    · refine .inl ⟨before, tick', later, ?_, failed⟩
      have h' : ticks ++ [tick] = (before ++ tick' :: later) ++ [last] := by simpa using h
      exact (List.append_inj' h' rfl).1
  · rintro (⟨before, tick', later, rfl, failed⟩ | failed)
    · exact ⟨before, tick', later ++ [tick], by simp, failed⟩
    · exact ⟨ticks, tick, [], rfl, failed⟩

/-- **Batches have been given up exactly if one failed under the sticky policy**, after any
reports. -/
theorem degraded_after (reporter : Reporter) {start : Trial} (fresh : start.degraded = false)
    {ticks : List Tick} (reaches : ∀ tick ∈ ticks, tick.Reaches) :
    (reporter.after start ticks).degraded = true ↔
      reporter.protocol = .json ∧ reporter.fallback = .sticky ∧
        reporter.HasFailed start ticks := by
  -- The induction goes from the end, where the last report is.
  induction ticks using List.reverseRecOn with
  | nil => simp [Reporter.after, Reporter.HasFailed, fresh]
  | append_singleton ticks tick ih =>
    have step : reporter.after start (ticks ++ [tick])
        = (((reporter.after start ticks).facing tick).run reporter.report).2 := by
      simp [Reporter.after]
    have reaches' : ((reporter.after start ticks).facing tick).Reaches := reaches tick (by simp)
    rw [step, degraded_report reporter reaches', hasFailed_append]
    have ih := ih fun tick h => reaches tick (List.mem_append_left _ h)
    show (reporter.after start ticks).degraded = true ∨ _ ↔ _
    rw [ih]
    tauto

/-- **Every report obeys**, whatever there is to report and whatever comes of the requests. -/
theorem reports_obey (reporter : Reporter) {start : Trial} (fresh : start.degraded = false)
    {before : List Tick} {tick : Tick} (reaches : ∀ tick' ∈ before ++ [tick], tick'.Reaches) :
    reporter.Obeys start before tick := by
  have degraded := degraded_after reporter fresh fun tick' h =>
    reaches tick' (List.mem_append_left _ h)
  have reaches' : ((reporter.after start before).facing tick).Reaches := reaches tick (by simp)
  -- A report of nothing makes no request, so nothing is to be said of one.
  have none {P : Exchange → Prop} (nothing : tick.registry.snapshot = []) :
      ∀ e ∈ exchanged reporter.report ((reporter.after start before).facing tick), P e := by
    rw [(report_of_nothing reporter nothing).1]
    exact List.forall_mem_nil P
  constructor
  · exact degraded
  · exact fun nothing => report_of_nothing reporter nothing
  · intro plain
    by_cases nothing : tick.registry.snapshot = []
    · exact none nothing
    · rw [exchanged_facing, proceed_plain plain nothing]
      exact (modest_sendEach reporter.client.plainRequest _).exchanged _
  · intro json nonempty again
    have again' : ¬ (reporter.fallback = .sticky ∧ (reporter.after start before).degraded = true) :=
      fun h => again ⟨h.1, (degraded.1 h.2).2.2⟩
    rw [exchanged_facing, proceed_batch json again' nonempty]
    exact (sendBatch_exchanged reporter _ reaches').1
  · intro json sticky failed
    have given : (reporter.after start before).degraded = true :=
      degraded.2 ⟨json, sticky, failed⟩
    by_cases nothing : tick.registry.snapshot = []
    · exact none nothing
    · rw [exchanged_facing, given, proceed_single json sticky nothing]
      intro e mem
      obtain ⟨m, hm, request⟩ :=
        (modest_sendEach reporter.client.singleRequest _).exchanged _ e mem
      refine ⟨?_, m, hm, request⟩
      rw [request]
      exact reporter.client.not_forBatch_singleRequest m

/-- The case of a batch that is refused under the sticky policy: the next report sends the record
alone. -/
theorem reports_obey_of_refused_batch :
    let url : Url := ⟨"http", true, "collector", some 8080, [], none⟩
    let reporter : Reporter := ⟨⟨url, .ofKey none⟩, .json, .sticky⟩
    let polled := Registry.empty.poll []
    let refused : Tick := ⟨polled, [{ outcome := .value ⟨400, [], []⟩ }]⟩
    let next : Tick := ⟨polled, [{ outcome := .failure (.network .timeout "") }]⟩
    (∀ tick ∈ [refused] ++ [next], tick.Reaches) ∧ reporter.HasFailed {} [refused] ∧
      ∀ e ∈ exchanged reporter.report ((reporter.after {} [refused]).facing next),
        ∃ m ∈ polled.snapshot, e.request = reporter.client.singleRequest m := by
  intro url reporter polled refused next
  have reaches : ∀ tick ∈ [refused] ++ [next], tick.Reaches := by
    simp [Tick.Reaches, FailsAsSend, refused, next, Failure.isSendFailure]
  have obeys : reporter.Obeys {} [refused] next := reports_obey reporter rfl reaches
  have degraded : (reporter.after {} [refused]).degraded = true := by
    decide +kernel
  have failed := (obeys.degraded.1 degraded).2.2
  exact ⟨reaches, failed, fun e mem => (obeys.single rfl rfl failed e mem).2⟩

end Telemetry.Agent
