import Mathlib.Algebra.Order.Group.Int
import Telemetry.Proofs.Delivery.Agreement
import Telemetry.Proofs.Delivery.System

/-!
# No poll is lost

Whatever the network and the store do, every poll has been counted by the collector or is still to
be delivered by the agent (`no_poll_is_lost`).

Where the network answers every request, a collector that leaves out the rest of a batch after a
failure counts every poll once.  One that goes on may count the polls of a batch that it answers
with an error, and that is sent again (`not_countsOnce_of_refused_gauge`); beyond these it counts
nothing twice (`polls_counted_exactly`).

That the states of these statements are there to be reached is part of the theory: a report that is
not disturbed comes to its end, whatever the collector answers (`reaches_end`).
-/

namespace Telemetry.Delivery

open Dialogue Http
open Agent (Account Call Client Reporter pollCount)
open Collector (Route Server respond)
open Relation (ReflTransGen)
open Store (Lawful)

variable {S : Lawful}

-- A request is known by what it counts, and is not to be evaluated.
attribute [local irreducible] Collector.respond

namespace System

variable {reporter : Reporter} {server : Server} {w w' : System S} {a : Account}

/-! ### What the books say -/

theorem Books.unanswered_nonneg (books : w.Books server a) : 0 ≤ w.unanswered := by
  refine Int.add_nonneg ?_ (List.sum_nonneg fun n hn => ?_)
  · cases fits : w.phase with
    | idle | reporting => exact Int.le_refl 0
    | waiting request next job =>
      cases books.fits_of_phase fits with
      | waiting report fit =>
        obtain ⟨amount, carries⟩ := report.carries
        exact (fit.counts amount carries).now
  · obtain ⟨job, hjob, rfl⟩ := List.mem_map.1 hn
    obtain ⟨after, counts⟩ := books.orphans job hjob
    exact counts.now

/-- What holds of the amounts that failed requests may have counted holds of all those that are
recounted. -/
theorem Books.forall_recounted (books : w.Books server a) {p : Int → Prop}
    (h : ∀ n, 0 ≤ n → (S.Undoes → server.policy = .abort → n = 0) → p n) :
    ∀ n ∈ (w.answers.filter fun a => a.status ≠ 200).map Answered.counted, p n := by
  intro n hn
  obtain ⟨answer, hanswer, rfl⟩ := List.mem_map.1 hn
  obtain ⟨answered, failed⟩ := List.mem_filter.1 hanswer
  obtain ⟨nonneg, strict⟩ := books.answers answer answered
  exact h _ nonneg fun undoes abort => strict (of_decide_eq_true failed) ⟨undoes, .inl abort⟩

theorem Books.recounted_nonneg (books : w.Books server a) : 0 ≤ w.recounted :=
  List.sum_nonneg (books.forall_recounted fun _ nonneg _ => nonneg)

theorem Books.recounted_of_abort (books : w.Books server a) (undoes : S.Undoes)
    (policy : server.policy = .abort) : w.recounted = 0 :=
  List.sum_eq_zero (books.forall_recounted fun _ _ abort => abort undoes policy)

theorem Books.counted_le_recounted (books : w.Books server a) {answer : Answered}
    (answered : answer ∈ w.answers) (failed : answer.status ≠ 200) :
    answer.counted ≤ w.recounted := by
  refine List.single_le_sum (books.forall_recounted fun _ nonneg _ => nonneg) _ ?_
  exact List.mem_map_of_mem (List.mem_filter.2 ⟨answered, decide_eq_true failed⟩)

/-- At rest, and with every request answered, only the polls that are counted again are counted
too often. -/
theorem Books.at_rest (books : w.Books server a) (idle : w.phase = .idle)
    (answered : w.orphans = []) : w.total + w.due = w.polls + w.recounted := by
  have balanced := books.balanced
  rw [unanswered_eq (n := 0) (by rw [idle]; rfl), answered] at balanced
  cases books.fits_of_phase idle with
  | idle sound settled =>
    rw [balanced, settled]
    exact (Int.add_zero _).trans (Int.add_zero _)

/-! ### Runs -/

/-- **The books are kept in every run** from a collector that has counted no polls. -/
theorem books_of_reaches (root : reporter.client.url.IsRoot) {store : S.State}
    (fresh : (S.contents store).total pollCount = 0)
    (reached : ReflTransGen (LossyStep reporter server) (start store) w) :
    ∃ a, w.Books server a := by
  induction reached with
  | refl => exact ⟨_, books_start fresh⟩
  | tail _ step ih =>
    obtain ⟨a, books⟩ := ih
    exact books_lossyStep root step books

/-- What happens on a network that answers every request may happen on one that may fail. -/
theorem lossy_of_reaches (reached : ReflTransGen (Step reporter server) w w') :
    ReflTransGen (LossyStep reporter server) w w' :=
  reached.lift id fun _ _ => .regular

/-- Where the network answers every request, no request is given up. -/
theorem orphans_of_reaches (reached : ReflTransGen (Step reporter server) w w') :
    w'.orphans = w.orphans := by
  induction reached with
  | refl => rfl
  | tail _ step ih =>
    rw [← ih]
    cases step with
    | poll | report | ask | send | handle | receive | finish => rfl

theorem settled_of_reaches (root : reporter.client.url.IsRoot) {store : S.State}
    (fresh : (S.contents store).total pollCount = 0)
    (reached : ReflTransGen (Step reporter server) (start store) w) (idle : w.phase = .idle) :
    ∃ a, w.Books server a ∧ w.total + w.due = w.polls + w.recounted := by
  obtain ⟨a, books⟩ := books_of_reaches root fresh (lossy_of_reaches reached)
  exact ⟨a, books, books.at_rest idle (orphans_of_reaches reached)⟩

/-! ### Runs that go on -/

section

variable (reporter server)

/-- A request is handled to its end. -/
theorem reaches_handled {request : Request}
    {next : Outcome Failure Response → Agent.Doing (Outcome Failure Nat)}
    {d : Ingest.Doing Response} {before after : Int}
    (phase : w.phase = .waiting request next ⟨d, before⟩)
    (counted : after = before
      + ((S.contents (run S.answer d w.store).2).total pollCount - w.total)) :
    ReflTransGen (Step reporter server) w { w with
      phase := .waiting request next ⟨.done (run S.answer d w.store).1, after⟩
      store := (run S.answer d w.store).2 } := by
  induction d generalizing w before with
  | done response =>
    have same : after = before := by
      rw [counted, run_done, total, Int.sub_self, Int.add_zero]
    obtain ⟨registry, degraded, polls, p, orphans, answers, store⟩ := w
    cases phase
    rw [same]
    exact .refl
  | ask call rest ih =>
    refine .head (.handle phase) (ih (S.answer call w.store).1
      (w := { w with phase := _, store := (S.answer call w.store).2 }) rfl ?_)
    rw [counted, run_ask]
    dsimp only [gain, total]
    omega

/-- A request is answered, and it is known what has been counted for it. -/
theorem reaches_answered {request : Request}
    {next : Outcome Failure Response → Agent.Doing (Outcome Failure Nat)}
    {response : Response} {store : S.State}
    (phase : w.phase = .waiting request next ⟨respond server request.arrived, 0⟩)
    (ran : run S.answer (respond server request.arrived) w.store = (response, store)) :
    ReflTransGen (Step reporter server) w { w with
      phase := .reporting (next (.value response))
      answers := ⟨request, response.status, (S.contents store).total pollCount - w.total⟩
        :: w.answers
      store := store } := by
  have handled := reaches_handled reporter server phase rfl
  rw [ran, Int.zero_add] at handled
  exact handled.tail (.receive rfl)

/-- A report that is not disturbed comes to its end. -/
theorem reaches_end {rest : Agent.Doing (Outcome Failure Nat)} (phase : w.phase = .reporting rest) :
    ∃ w', ReflTransGen (Step reporter server) w w' ∧ w'.phase = .idle ∧ w'.polls = w.polls ∧
      w.answers ⊆ w'.answers := by
  induction rest generalizing w with
  | done result => exact ⟨_, .single (.finish phase), rfl, rfl, fun _ h => h⟩
  | ask call next ih =>
    by_cases own : ∀ request, call ≠ .send request
    · obtain ⟨w', reached, idle, polls, kept⟩ := ih _ (w := { w with
        phase := _
        registry := (w.own call).2.registry
        degraded := (w.own call).2.degraded }) rfl
      exact ⟨w', .head (.ask phase own) reached, idle, polls, kept⟩
    · obtain ⟨request, sent⟩ := not_forall.1 own
      cases not_not.1 sent
      have answered := reaches_answered reporter server
        (w := { w with phase := .waiting request next ⟨respond server request.arrived, 0⟩ }) rfl rfl
      obtain ⟨w', reached, idle, polls, kept⟩ := ih _ (w := { w with
        phase := _
        answers := _ :: w.answers
        store := (run S.answer (respond server request.arrived) w.store).2 }) rfl
      refine ⟨w', .head (.send phase) (answered.trans reached), idle, polls, ?_⟩
      exact fun answer h => kept (List.mem_cons_of_mem _ h)

/-- A report sends what there is to report as a batch, unless batches have been given up. -/
theorem reaches_sent (idle : w.phase = .idle) (json : reporter.protocol = .json)
    (whole : w.degraded = false) {m : Metric} {ms : List Metric}
    (batch : w.registry.snapshot = m :: ms) :
    ∃ next, ReflTransGen (Step reporter server) w { w with
      phase := .waiting (reporter.client.batchRequest (m :: ms)) next
        ⟨respond server (reporter.client.batchRequest (m :: ms)).arrived, 0⟩ } := by
  obtain ⟨client, protocol, fallback⟩ := reporter
  cases json
  obtain ⟨registry, degraded, polls, phase, orphans, answers, store⟩ := w
  cases idle
  cases whole
  -- This is how a report goes on where batches have not been given up.
  obtain ⟨next, sends⟩ : ∃ next,
      (if (decide (fallback = .sticky) && false) = true then
          Reporter.sendEach client.singleRequest (m :: ms)
        else Reporter.sendBatch ⟨client, .json, fallback⟩ (m :: ms))
      = .ask (.send (client.batchRequest (m :: ms))) next := by
    rw [Bool.and_false]
    exact ⟨_, rfl⟩
  refine ⟨next, .head (.report rfl) (.head (.ask rfl nofun) ?_)⟩
  dsimp only [own, Agent.Trial.answer]
  rw [batch]
  exact .head (.ask rfl nofun) (.single (.send (congrArg Phase.reporting sends)))

/-- **A report can come to its end**, and then what was counted for its batch is on record. -/
theorem exists_reported (idle : w.phase = .idle) (json : reporter.protocol = .json)
    (whole : w.degraded = false) {m : Metric} {ms : List Metric}
    (batch : w.registry.snapshot = m :: ms) {response : Response} {store : S.State}
    (ran : run S.answer (respond server (reporter.client.batchRequest (m :: ms)).arrived) w.store
      = (response, store)) :
    ∃ w', ReflTransGen (Step reporter server) w w' ∧ w'.phase = .idle ∧ w'.polls = w.polls ∧
      ⟨reporter.client.batchRequest (m :: ms), response.status,
        (S.contents store).total pollCount - w.total⟩ ∈ w'.answers := by
  obtain ⟨next, sent⟩ := reaches_sent reporter server idle json whole batch
  have answered := reaches_answered reporter server
    (w := { w with phase := .waiting _ next ⟨respond server _, 0⟩ }) rfl ran
  obtain ⟨w', reached, idle, polls, kept⟩ := reaches_end reporter server
    (w := { w with
      phase := _
      answers := ⟨_, response.status, (S.contents store).total pollCount - w.total⟩ :: w.answers
      store := store }) rfl
  exact ⟨w', sent.trans (answered.trans reached), idle, polls, kept List.mem_cons_self⟩

end

/-! ### A small system -/

/-- A reporter on the machine of its collector. -/
def localReporter : Reporter :=
  ⟨⟨⟨"http", true, "localhost", some 8080, [], none⟩, .ofKey none⟩, .json, .retry⟩

/-- An empty store that does not take some names. -/
def emptyStore (names : List String) : (Lawful.ofRefusing names).State :=
  (⟨.empty, ()⟩ : Store.World Unit)

theorem isRoot_local : localReporter.client.url.IsRoot := rfl

theorem fresh_emptyStore (names : List String) :
    ((Lawful.ofRefusing names).contents (emptyStore names)).total pollCount = 0 := rfl

/-- A gauge, and the first poll. -/
def firstBatch : List Metric :=
  [(Reading.gauge "load" .zero).toMetric, (Reading.counter pollCount 1).toMetric]

/-- The system after a poll of one gauge. -/
def polled (names : List String) : System (Lawful.ofRefusing names) :=
  { start (emptyStore names) with registry := .poll .empty [("load", .zero)], polls := 1 }

theorem step_polled (names : List String) :
    Step localReporter (localReporter.client.server .continue) (start (emptyStore names))
      (polled names) :=
  .poll _ [("load", .zero)]

theorem snapshot_polled (names : List String) : (polled names).registry.snapshot = firstBatch := by
  have only : (polled names).registry.OnlyPolls :=
    Agent.Registry.onlyPolls_add (r := .empty) (.inl rfl) 1
  have gauges : (polled names).registry.gauges.sorted = [("load", .zero)] :=
    List.mergeSort_singleton _
  rw [Agent.Registry.snapshot, Agent.Registry.readings_eq_bill only, gauges]
  rfl

/-! ### No poll is lost -/

/-- **No poll is lost** by an agent that knows the root address of its collector.  Whatever the
network and the store do, every poll that has been made has been counted or is still to be
delivered. -/
theorem no_poll_is_lost (root : reporter.client.url.IsRoot) {store : S.State}
    (fresh : (S.contents store).total pollCount = 0)
    (reached : ReflTransGen (LossyStep reporter server) (start store) w) :
    (w.polls : Int) ≤ w.total + w.due := by
  obtain ⟨a, books⟩ := books_of_reaches root fresh reached
  have balanced := books.balanced
  have recounted := books.recounted_nonneg
  have unanswered := books.unanswered_nonneg
  have balance := books.sound.nonneg
  omega

/-- The case of a poll that falls while the first report waits for a response, which does not
come. -/
theorem no_poll_is_lost_of_timeout : ∃ w : System (Lawful.ofRefusing []),
    ReflTransGen (LossyStep localReporter (localReporter.client.server .continue))
      (start (emptyStore [])) w ∧ w.polls = 2 ∧ w.orphans.length = 1 ∧ 2 ≤ w.total + w.due := by
  obtain ⟨next, sent⟩ := reaches_sent localReporter _ rfl rfl rfl (snapshot_polled [])
  have again := (sent.head (step_polled [])).tail (.poll _ [])
  have lost : ∀ response : Response,
      (Outcome.failure (Failure.network .timeout "")) = .value response → response.status ≠ 200 :=
    nofun
  have reached := (lossy_of_reaches again).tail (.lose rfl lost)
  exact ⟨_, reached, rfl, rfl, no_poll_is_lost isRoot_local (fresh_emptyStore []) reached⟩

/-! ### Polls that are counted once -/

/-- At the end of every report, every poll has been counted once or is still to be delivered. -/
def CountsOnce (S : Lawful) (reporter : Reporter) (server : Server) : Prop :=
  ∀ (store : S.State) (w : System S), (S.contents store).total pollCount = 0 →
    ReflTransGen (Step reporter server) (start store) w → w.phase = .idle →
    w.total + w.due = w.polls

/-- **What is counted too often** where the network answers every request: exactly the polls that
are counted for requests that fail.  If the store undoes what fails, such a request is a batch, and
the collector one that goes on after a failure; a collector that leaves out the rest counts every
poll once. -/
theorem polls_counted_exactly (root : reporter.client.url.IsRoot) {store : S.State}
    (fresh : (S.contents store).total pollCount = 0)
    (reached : ReflTransGen (Step reporter server) (start store) w) (idle : w.phase = .idle) :
    w.total + w.due = w.polls + w.recounted ∧ 0 ≤ w.recounted ∧
      (S.Undoes →
        (∀ answer ∈ w.answers, answer.status ≠ 200 → answer.counted ≠ 0 →
          server.policy = .continue ∧ Route.ofPath? answer.request.arrived.path = some .updates) ∧
        (server.policy = .abort → w.total + w.due = w.polls)) := by
  obtain ⟨a, books, settled⟩ := settled_of_reaches root fresh reached idle
  refine ⟨settled, books.recounted_nonneg, fun undoes => ⟨?_, ?_⟩⟩
  · intro answer answered failed counted
    have loose : ¬ Collector.Strict server answer.request.arrived := fun strict =>
      counted ((books.answers answer answered).2 failed ⟨undoes, strict⟩)
    obtain ⟨policy, path⟩ := not_or.1 loose
    refine ⟨?_, not_not.1 path⟩
    cases going : server.policy with
    | «continue» => rfl
    | abort => exact absurd going policy
  · intro abort
    rw [settled, books.recounted_of_abort undoes abort, Int.add_zero]

/-- A collector that goes on where the gauge is refused counts the poll, and answers with an
error. -/
theorem run_respond_refused : ∃ (response : Response) (store : (Lawful.ofRefusing ["load"]).State),
    run (Lawful.ofRefusing ["load"]).answer
      (respond (localReporter.client.server .continue)
        (localReporter.client.batchRequest firstBatch).arrived) (emptyStore ["load"])
      = (response, store) ∧
    response.status ≠ 200 ∧ ((Lawful.ofRefusing ["load"]).contents store).total pollCount = 1 := by
  have sayable : ∀ m ∈ firstBatch, m.Sayable := by
    intro m hm
    rcases List.mem_cons.1 hm with rfl | hm
    · exact Metric.sayable_of_reading rfl
    · cases List.mem_singleton.1 hm
      exact Metric.sayable_of_reading rfl
  rw [localReporter.client.respond_batchRequest .continue rfl (Snapshot.ofBytes_toBytes none sayable),
    run_bind]
  refine ⟨_, _, rfl, fun status => ?_, rfl⟩
  obtain ⟨batch, whole⟩ := (Collector.status_updates _ _ _).1 status
  cases whole

/-- A poll that has been counted for a failed request, at the end of a report. -/
theorem exists_recounted : ∃ w : System (Lawful.ofRefusing ["load"]),
    ReflTransGen (Step localReporter (localReporter.client.server .continue))
      (start (emptyStore ["load"])) w ∧ w.phase = .idle ∧ w.polls = 1 ∧
      ∃ answer ∈ w.answers, answer.status ≠ 200 ∧ answer.counted = 1 := by
  obtain ⟨response, store, ran, failed, counted⟩ := run_respond_refused
  obtain ⟨w, reached, idle, polls, answered⟩ :=
    exists_reported localReporter _ rfl rfl rfl (snapshot_polled ["load"]) ran
  refine ⟨w, .head (step_polled ["load"]) reached, idle, polls, _, answered, failed, ?_⟩
  show _ - 0 = (1 : Int)
  rw [counted]
  rfl

/-- The case of a gauge that is refused by a collector that goes on. -/
theorem polls_counted_exactly_of_refused_gauge : ∃ w : System (Lawful.ofRefusing ["load"]),
    ReflTransGen (Step localReporter (localReporter.client.server .continue))
      (start (emptyStore ["load"])) w ∧ w.phase = .idle ∧ w.polls = 1 ∧
      w.total + w.due = 1 + w.recounted ∧
      ∀ answer ∈ w.answers, answer.status ≠ 200 → answer.counted ≠ 0 →
        Route.ofPath? answer.request.arrived.path = some .updates := by
  obtain ⟨w, reached, idle, polls, -⟩ := exists_recounted
  obtain ⟨exact, -, undone⟩ :=
    polls_counted_exactly isRoot_local (fresh_emptyStore _) reached idle
  obtain ⟨batches, -⟩ := undone (Lawful.undoes_ofRefusing ["load"])
  rw [polls] at exact
  exact ⟨w, reached, idle, polls, exact, fun answer mem failed counted =>
    (batches answer mem failed counted).2⟩

/-- **A collector that goes on where an element fails may count a poll twice.** -/
theorem not_countsOnce_of_refused_gauge :
    ¬ CountsOnce (Lawful.ofRefusing ["load"]) localReporter
      (localReporter.client.server .continue) := by
  intro once
  obtain ⟨w, reached, idle, polls, answer, answered, failed, counted⟩ := exists_recounted
  obtain ⟨a, books, settled⟩ := settled_of_reaches isRoot_local (fresh_emptyStore _) reached idle
  have again := books.counted_le_recounted answered failed
  have same := once _ w (fresh_emptyStore _) reached idle
  omega

end System
end Telemetry.Delivery
