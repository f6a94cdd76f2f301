import Mathlib.Logic.Relation
import Telemetry.Agent.Trial
import Telemetry.Proofs.Delivery.Report

/-!
# One agent and one collector

The agent polls, and reports to the collector; the collector handles each request by calls of its
store.  Polls, questions of a report and calls of the store come one at a time, in any order that
the two programs allow.  `Step` is what happens where the network answers every request;
`LossyStep` adds requests and responses that are lost, requests that go on being handled after the
agent has given them up, and other clients.

Every state that is reached keeps the books (`Books`): what the collector has counted and what the
agent still has to deliver are the polls that were made, and what requests have counted without
being acknowledged for it.
-/

namespace Telemetry.Delivery

open Dialogue Http
open Agent (Account Call Registry Reporter pollCount)
open Collector (Carries Server counting respond)
open Store (Lawful)

/-! ### States -/

/-- A request that is being handled: what is left to do for it, and the polls that the calls for it
have counted. -/
structure Job where
  rest : Ingest.Doing Response
  counted : Int

/-- What the agent is about. -/
inductive Phase
  | idle
  /-- A report is under way. -/
  | reporting (rest : Agent.Doing (Outcome Failure Nat))
  /-- A report waits for the response to a request. -/
  | waiting (request : Request)
      (next : Outcome Failure Response → Agent.Doing (Outcome Failure Nat)) (job : Job)

/-- A request whose response has reached the agent, and the polls that had been counted for it. -/
structure Answered where
  request : Request
  status : Nat
  counted : Int

structure System (S : Lawful) where
  registry : Registry
  degraded : Bool
  /-- The polls that have been made. -/
  polls : Nat
  phase : Phase
  /-- Requests that the agent has given up. -/
  orphans : List Job
  answers : List Answered
  store : S.State

variable {S : Lawful}

namespace System

/-- Nothing has been polled or sent. -/
def start (store : S.State) : System S := ⟨.empty, false, 0, .idle, [], [], store⟩

/-- The polls that the collector has counted. -/
def total (w : System S) : Int := (S.contents w.store).total pollCount

/-- The polls that the agent still has to deliver. -/
def due (w : System S) : Int := w.registry.due pollCount

/-- The polls that were counted for requests whose response was not that all went well. -/
def recounted (w : System S) : Int :=
  ((w.answers.filter fun a => a.status ≠ 200).map Answered.counted).sum

/-- An agent answers what it asks itself as in a trial. -/
def own (w : System S) (call : Call) : call.Answer × Agent.Trial :=
  Agent.Trial.answer call { registry := w.registry, degraded := w.degraded }

end System

/-- The polls that one call adds to those counted. -/
def gain (S : Lawful) (call : Store.Call) (s : S.State) : Int :=
  (S.contents (S.answer call s).2).total pollCount - (S.contents s).total pollCount

/-- A job after one call. -/
def Job.after (S : Lawful) (call : Store.Call) (next : call.Answer → Ingest.Doing Response)
    (counted : Int) (s : S.State) : Job :=
  ⟨next (S.answer call s).1, counted + gain S call s⟩

/-! ### Steps -/

section

variable (reporter : Reporter) (server : Server)

/-- One step where every request is answered by the collector. -/
inductive Step : System S → System S → Prop
  | poll (w : System S) (sample : List (String × Double)) :
      Step w { w with registry := w.registry.poll sample, polls := w.polls + 1 }
  | report {w : System S} (phase : w.phase = .idle) :
      Step w { w with phase := .reporting reporter.report }
  | ask {w : System S} {call : Call} {next : call.Answer → Agent.Doing (Outcome Failure Nat)}
      (phase : w.phase = .reporting (.ask call next)) (own : ∀ request, call ≠ .send request) :
      Step w { w with
        phase := .reporting (next (w.own call).1)
        registry := (w.own call).2.registry
        degraded := (w.own call).2.degraded }
  | send {w : System S} {request : Request}
      {next : Outcome Failure Response → Agent.Doing (Outcome Failure Nat)}
      (phase : w.phase = .reporting (.ask (.send request) next)) :
      Step w { w with phase := .waiting request next ⟨respond server request.arrived, 0⟩ }
  | handle {w : System S} {request : Request}
      {next : Outcome Failure Response → Agent.Doing (Outcome Failure Nat)}
      {call : Store.Call} {rest : call.Answer → Ingest.Doing Response} {counted : Int}
      (phase : w.phase = .waiting request next ⟨.ask call rest, counted⟩) :
      Step w { w with
        phase := .waiting request next (.after S call rest counted w.store)
        store := (S.answer call w.store).2 }
  | receive {w : System S} {request : Request}
      {next : Outcome Failure Response → Agent.Doing (Outcome Failure Nat)}
      {response : Response} {counted : Int}
      (phase : w.phase = .waiting request next ⟨.done response, counted⟩) :
      Step w { w with
        phase := .reporting (next (.value response))
        answers := ⟨request, response.status, counted⟩ :: w.answers }
  | finish {w : System S} {result : Outcome Failure Nat}
      (phase : w.phase = .reporting (.done result)) : Step w { w with phase := .idle }

/-- One step where the network may fail and other clients may be about.  What reaches the agent in
place of a response does not say that all went well, and no other client adds polls. -/
inductive LossyStep : System S → System S → Prop
  | regular {w w' : System S} (step : Step reporter server w w') : LossyStep w w'
  | lose {w : System S} {request : Request}
      {next : Outcome Failure Response → Agent.Doing (Outcome Failure Nat)} {job : Job}
      (phase : w.phase = .waiting request next job) {outcome : Outcome Failure Response}
      (lost : ∀ response, outcome = .value response → response.status ≠ 200) :
      LossyStep w { w with phase := .reporting (next outcome), orphans := job :: w.orphans }
  | late {w : System S} {before behind : List Job} {call : Store.Call}
      {rest : call.Answer → Ingest.Doing Response} {counted : Int}
      (orphan : w.orphans = before ++ ⟨.ask call rest, counted⟩ :: behind) :
      LossyStep w { w with
        orphans := before ++ .after S call rest counted w.store :: behind
        store := (S.answer call w.store).2 }
  | other {w : System S} {r : Reading} (sound : r.Sound) (none : r.polls = 0) :
      LossyStep w { w with store := (S.answer (Ingest.callOf r) w.store).2 }

end

/-! ### Books -/

/-- A job counts no polls off. -/
def Job.Counts (undone : Prop) (job : Job) : Prop :=
  ∃ after, Always (counting undone) (0 ≤ ·) after job.rest job.counted

/-- A job will have counted what its request carries. -/
structure Job.For (undone : Prop) (server : Server) (request : Request) (job : Job) : Prop where
  counts : ∀ amount, Carries server request.arrived amount → Always (counting undone) (0 ≤ ·)
    (fun response n => Collector.Grown (undone ∧ Collector.Strict server request.arrived) amount
      (response.status = 200) n)
    job.rest job.counted

/-- What is left of a report acknowledges what it delivers. -/
structure Settles (server : Server) (rest : Agent.Doing (Outcome Failure Nat)) (a : Account) :
    Prop where
  always : Always (Account.billing server) Account.Sound (fun _ b => b.balance = 0) rest a

/-- A phase fits an account.  Where there is no report, all is acknowledged. -/
inductive Phase.Fits (undone : Prop) (server : Server) (a : Account) : Phase → Prop
  | idle (sound : a.Sound) (settled : a.balance = 0) : Fits undone server a .idle
  | reporting {rest : Agent.Doing (Outcome Failure Nat)} (report : Settles server rest a) :
      Fits undone server a (.reporting rest)
  | waiting {request : Request} {next : Outcome Failure Response → Agent.Doing (Outcome Failure Nat)}
      {job : Job} (report : Settles server (.ask (.send request) next) a)
      (fit : job.For undone server request) : Fits undone server a (.waiting request next job)

/-- The polls counted so far for the request that is waited for. -/
def Phase.counted : Phase → Int
  | .waiting _ _ job => job.counted
  | _ => 0

/-! ### Reports and jobs on their way -/

-- What a collector does is known here by what it counts, so nothing of it is to be evaluated.
attribute [local irreducible] Collector.respond

section

variable {server : Server} {a : Account}

/-- An account that could not be. -/
theorem not_sound : ¬ Account.Sound ⟨-1, -1⟩ := fun h => absurd h.nonneg (by decide)

/-- A report acknowledges nothing but polls and gauges. -/
theorem Settles.ours {m : Metric} {next : Unit → Agent.Doing (Outcome Failure Nat)}
    (h : Settles server (.ask (.acknowledge m) next) a) : m.Ours := by
  by_contra other
  exact not_sound (h.always.2 () ⟨-1, -1⟩ fun ours => (other ours).elim).now

/-- A report sends nothing but requests that carry some amount. -/
theorem Settles.carries {request : Request}
    {next : Outcome Failure Response → Agent.Doing (Outcome Failure Nat)}
    (h : Settles server (.ask (.send request) next) a) :
    ∃ amount, Carries server request.arrived amount := by
  by_contra none
  refine not_sound (h.always.2 .cancelled ⟨-1, -1⟩ fun amount carries => ?_).now
  exact (none ⟨amount, carries⟩).elim

/-- A report goes on with what may come of its question. -/
theorem Settles.next {call : Call} {next : call.Answer → Agent.Doing (Outcome Failure Nat)}
    (h : Settles server (.ask call next) a) {answer : call.Answer} {b : Account}
    (possible : Account.billing server call a answer b) : Settles server (next answer) b :=
  ⟨h.always.2 answer b possible⟩

/-- What a response is worth to an account. -/
theorem balance_paid (a : Account) (amount : Int) (response : Response) :
    (a.paid amount (.value response)).owed = a.owed ∧
      (a.paid amount (.value response)).balance
        = a.balance + if response.status = 200 then amount else 0 := by
  rw [Account.paid]
  split
  · exact ⟨rfl, rfl⟩
  · exact ⟨rfl, (Int.add_zero _).symm⟩

/-- A job that begins. -/
theorem Job.For.start (undone : Prop) (server : Server) (request : Request) :
    Job.For undone server request ⟨respond server request.arrived, 0⟩ where
  counts _ carries := carries.counted undone

/-- A job that is done has counted what its request carries, if its response says that all went
well. -/
theorem Job.For.billing {undone : Prop} {request : Request} {response : Response} {counted : Int}
    (job : Job.For undone server request ⟨.done response, counted⟩) :
    Account.billing server (.send request) a (.value response)
      (a.paid counted (.value response)) := by
  intro amount carries
  have grown := (job.counts amount carries).2
  dsimp only [Account.paid]
  by_cases status : response.status = 200
  · rw [if_pos status, if_pos status]
    rw [show counted = amount from grown.whole status]
  · rw [if_neg status, if_neg status]

theorem Job.For.after {request : Request} {call : Store.Call}
    {rest : call.Answer → Ingest.Doing Response} {counted : Int}
    (job : Job.For S.Undoes server request ⟨.ask call rest, counted⟩) (s : S.State) :
    Job.For S.Undoes server request (.after S call rest counted s) where
  counts amount carries :=
    (job.counts amount carries).2 _ _ (Collector.counting_answer S call s counted)

/-- Another client adds no polls. -/
theorem gain_other {r : Reading} (sound : r.Sound) (none : r.polls = 0) (s : S.State) :
    gain S (Ingest.callOf r) s = 0 := by
  have adds := Collector.adds_of_counting
    (Collector.counting_answer S (Ingest.callOf r) s 0) sound
  rw [none] at adds
  unfold gain
  generalize (S.answer (Ingest.callOf r) s).1.map (fun _ => ()) = outcome at adds
  cases outcome with
  | value =>
    have same : 0 + _ = (0 : Int) + 0 := adds
    omega
  | failure e =>
    have same : 0 + _ = (0 : Int) ∨ ¬ S.Undoes ∧ 0 + _ = (0 : Int) + 0 := adds
    omega
  | cancelled => exact adds.elim

end

namespace System

/-- The polls counted so far for requests that have not been answered. -/
def unanswered (w : System S) : Int := w.phase.counted + (w.orphans.map Job.counted).sum

/-- **The books of a system.** -/
structure Books (server : Server) (w : System S) (a : Account) : Prop where
  onlyPolls : w.registry.OnlyPolls
  owed : a.owed ≤ w.due
  fits : w.phase.Fits S.Undoes server a
  orphans : ∀ job ∈ w.orphans, job.Counts S.Undoes
  answers : ∀ answer ∈ w.answers, 0 ≤ answer.counted ∧
    (answer.status ≠ 200 → S.Undoes ∧ Collector.Strict server answer.request.arrived →
      answer.counted = 0)
  balanced : w.total + w.due = w.polls + w.recounted + w.unanswered + a.balance

variable {reporter : Reporter} {server : Server} {w w' : System S} {a : Account}

theorem Books.sound (books : w.Books server a) : a.Sound := by
  have fits := books.fits
  generalize w.phase = phase at fits
  cases fits with
  | idle sound => exact sound
  | reporting report => exact report.always.now
  | waiting report => exact report.always.now

theorem books_start {store : S.State} (fresh : (S.contents store).total pollCount = 0) :
    (start store).Books server ⟨0, 0⟩ where
  onlyPolls := .inl rfl
  owed := Int.le_refl 0
  fits := .idle ⟨Int.le_refl 0, Int.le_refl 0⟩ rfl
  orphans := nofun
  answers := nofun
  balanced := by
    show (S.contents store).total pollCount + 0 = _
    rw [fresh]
    rfl

/-- The phase of a system fits its account. -/
theorem Books.fits_of_phase (books : w.Books server a) {phase : Phase} (h : w.phase = phase) :
    phase.Fits S.Undoes server a := h ▸ books.fits

/-- What an agent answers itself may come of its questions, and changes what is due as it changes
the balance. -/
theorem billing_own (books : w.Books server a) {call : Call}
    {next : call.Answer → Agent.Doing (Outcome Failure Nat)}
    (phase : w.phase = .reporting (.ask call next)) (own : ∀ request, call ≠ .send request) :
    ∃ b, Account.billing server call a (w.own call).1 b ∧ (w.own call).2.registry.OnlyPolls ∧
      b.owed ≤ (w.own call).2.registry.due pollCount ∧
        (w.own call).2.registry.due pollCount - w.due = b.balance - a.balance := by
  have sound := books.sound
  have kept : w.registry.due pollCount - w.due = a.balance - a.balance := by
    rw [Int.sub_self]
    exact Int.sub_self _
  cases call with
  | send request => exact absurd rfl (own request)
  | pause seconds => exact ⟨a, ⟨rfl, rfl⟩, books.onlyPolls, books.owed, kept⟩
  | note entry => exact ⟨a, rfl, books.onlyPolls, books.owed, kept⟩
  | degraded => exact ⟨a, rfl, books.onlyPolls, books.owed, kept⟩
  | degrade => exact ⟨a, rfl, books.onlyPolls, books.owed, kept⟩
  | snapshot =>
    have nonneg : 0 ≤ w.due := by
      have := sound.nonneg
      have := sound.covered
      have := books.owed
      omega
    refine ⟨{ a with owed := w.due }, ⟨w.registry.gauges.sorted, w.due, nonneg, ?_, rfl⟩,
      books.onlyPolls, Int.le_refl _, kept⟩
    exact congrArg (List.map Reading.toMetric) (Registry.readings_eq_bill books.onlyPolls)
  | acknowledge m =>
    have due : (w.registry.acknowledge m).due pollCount = w.due - m.polls :=
      w.registry.due_acknowledge m
    have owed := books.owed
    have ours : m.Ours := by
      cases books.fits_of_phase phase with
      | reporting report => exact report.ours
    refine ⟨a.acknowledged m, fun _ => rfl, Registry.onlyPolls_acknowledge books.onlyPolls ours,
      ?_, ?_⟩
    · show a.owed - m.polls ≤ (w.registry.acknowledge m).due pollCount
      omega
    · show (w.registry.acknowledge m).due pollCount - w.due = a.balance - m.polls - a.balance
      omega

/-! ### Every step keeps the books -/

theorem unanswered_eq {n : Int} (h : w.phase.counted = n) :
    w.unanswered = n + (w.orphans.map Job.counted).sum := by
  rw [unanswered, h]

theorem recounted_cons (w : System S) (phase : Phase) (answer : Answered) :
    { w with phase := phase, answers := answer :: w.answers }.recounted
      = (if answer.status = 200 then 0 else answer.counted) + w.recounted := by
  unfold recounted
  by_cases status : answer.status = 200
  · rw [List.filter_cons_of_neg (by simp [status]), if_pos status, Int.zero_add]
  · rw [List.filter_cons_of_pos (by simp [status]), if_neg status, List.map_cons, List.sum_cons]

/-- **Every step keeps the books.** -/
theorem books_step (root : reporter.client.url.IsRoot) (step : Step reporter server w w')
    (books : w.Books server a) : ∃ b, w'.Books server b := by
  have owed := books.owed
  have balanced := books.balanced
  cases step with
  | poll sample =>
    have due : (w.registry.poll sample).due pollCount = w.due + 1 := by
      rw [Registry.due_poll, if_pos rfl]
      rfl
    refine ⟨a, ?_, ?_, books.fits, books.orphans, books.answers, ?_⟩
    · exact Registry.onlyPolls_add (r := { w.registry with gauges := _ }) books.onlyPolls 1
    · show a.owed ≤ (w.registry.poll sample).due pollCount
      omega
    · show w.total + (w.registry.poll sample).due pollCount
        = ((w.polls + 1 : Nat) : Int) + w.recounted + w.unanswered + a.balance
      omega
  | report phase =>
    rw [unanswered_eq (n := 0) (by rw [phase]; rfl)] at balanced
    cases books.fits_of_phase phase with
    | idle sound settled =>
      exact ⟨a, books.onlyPolls, owed, .reporting ⟨Agent.always_report root sound settled⟩,
        books.orphans, books.answers, balanced⟩
  | @ask call next phase own =>
    rw [unanswered_eq (n := 0) (by rw [phase]; rfl)] at balanced
    obtain ⟨b, possible, onlyPolls, owed, same⟩ := billing_own books phase own
    cases books.fits_of_phase phase with
    | reporting report =>
      refine ⟨b, onlyPolls, owed, .reporting (report.next possible), books.orphans, books.answers, ?_⟩
      show w.total + (w.own call).2.registry.due pollCount
        = w.polls + w.recounted + (0 + (w.orphans.map Job.counted).sum) + b.balance
      omega
  | send phase =>
    rw [unanswered_eq (n := 0) (by rw [phase]; rfl)] at balanced
    cases books.fits_of_phase phase with
    | reporting report =>
      exact ⟨a, books.onlyPolls, owed, .waiting report (.start S.Undoes server _), books.orphans,
        books.answers, balanced⟩
  | @handle request next call rest counted phase =>
    rw [unanswered_eq (n := counted) (by rw [phase]; rfl)] at balanced
    cases books.fits_of_phase phase with
    | waiting report fit =>
      refine ⟨a, books.onlyPolls, owed, .waiting report (fit.after w.store), books.orphans,
        books.answers, ?_⟩
      show (S.contents (S.answer call w.store).2).total pollCount + w.due = w.polls + w.recounted
        + (counted + gain S call w.store + (w.orphans.map Job.counted).sum) + a.balance
      unfold gain
      unfold total at balanced
      omega
  | @receive request next response counted phase =>
    rw [unanswered_eq (n := counted) (by rw [phase]; rfl)] at balanced
    cases books.fits_of_phase phase with
    | waiting report fit =>
      obtain ⟨amount, carries⟩ := report.carries
      obtain ⟨nonneg, grown⟩ := fit.counts amount carries
      obtain ⟨owed', balance⟩ := balance_paid a counted response
      have recounted := recounted_cons w (.reporting (next (.value response)))
        ⟨request, response.status, counted⟩
      refine ⟨a.paid counted (.value response), books.onlyPolls, owed' ▸ owed,
        .reporting (report.next fit.billing), books.orphans,
        List.forall_mem_cons.2 ⟨⟨nonneg, grown.part⟩, books.answers⟩, ?_⟩
      show w.total + w.due = w.polls + _ + (0 + (w.orphans.map Job.counted).sum) + _
      rw [recounted, balance]
      dsimp only
      split
      · omega
      · omega
  | finish phase =>
    rw [unanswered_eq (n := 0) (by rw [phase]; rfl)] at balanced
    cases books.fits_of_phase phase with
    | reporting report =>
      exact ⟨a, books.onlyPolls, owed, .idle report.always.1 report.always.2, books.orphans,
        books.answers, balanced⟩

/-- **So does every step where the network may fail.** -/
theorem books_lossyStep (root : reporter.client.url.IsRoot)
    (step : LossyStep reporter server w w') (books : w.Books server a) :
    ∃ b, w'.Books server b := by
  have balanced := books.balanced
  cases step with
  | regular step => exact books_step root step books
  | @lose request next job phase outcome lost =>
    rw [unanswered_eq (n := job.counted) (by rw [phase]; rfl)] at balanced
    cases books.fits_of_phase phase with
    | waiting report fit =>
      obtain ⟨amount, carries⟩ := report.carries
      have unpaid (n : Int) : a = a.paid n outcome := by
        cases outcome with
        | value response => exact (if_neg (lost response rfl)).symm
        | failure f => rfl
        | cancelled => rfl
      refine ⟨a, books.onlyPolls, books.owed, .reporting (report.next fun n _ => unpaid n),
        List.forall_mem_cons.2 ⟨⟨_, fit.counts amount carries⟩, books.orphans⟩, books.answers, ?_⟩
      show w.total + w.due
        = w.polls + w.recounted + (0 + ((job :: w.orphans).map Job.counted).sum) + a.balance
      rw [List.map_cons, List.sum_cons]
      omega
  | @late before behind call rest counted orphan =>
    have members := books.orphans
    rw [orphan] at members
    obtain ⟨after, counts⟩ := members ⟨.ask call rest, counted⟩ (by simp)
    have more := Collector.counting_answer S call w.store counted
    refine ⟨a, books.onlyPolls, books.owed, books.fits, ?_, books.answers, ?_⟩
    · intro job hjob
      rcases List.mem_append.1 hjob with hjob | hjob
      · exact members job (by simp [hjob])
      · rcases List.mem_cons.1 hjob with rfl | hjob
        · exact ⟨after, counts.2 _ _ more⟩
        · exact members job (by simp [hjob])
    · show (S.contents (S.answer call w.store).2).total pollCount + w.due = w.polls + w.recounted
        + (w.phase.counted + ((before ++ .after S call rest counted w.store :: behind).map
          Job.counted).sum) + a.balance
      have sum (job : Job) : ((before ++ job :: behind).map Job.counted).sum
          = (before.map Job.counted).sum + (job.counted + (behind.map Job.counted).sum) := by
        rw [List.map_append, List.sum_append, List.map_cons, List.sum_cons]
      unfold unanswered total at balanced
      rw [orphan, sum] at balanced
      rw [sum, Job.after, gain]
      dsimp only at balanced ⊢
      omega
  | @other r sound none =>
    have same := gain_other sound none w.store
    refine ⟨a, books.onlyPolls, books.owed, books.fits, books.orphans, books.answers, ?_⟩
    show (S.contents (S.answer (Ingest.callOf r) w.store).2).total pollCount + w.due
      = w.polls + w.recounted + w.unanswered + a.balance
    unfold gain at same
    unfold total at balanced
    omega

end System
end Telemetry.Delivery
