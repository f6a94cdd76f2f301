import Telemetry.Agent.Trial
import Telemetry.Proofs.Retry

/-!
# What an agent exchanges

The exchanges of a trial are the requests that an agent makes, each with what came of it.  A request
on a schedule is made at once and then again, until it is accepted or given up as a failed send, if
requests fail as sends do (`tried_exchanged`).
-/

namespace Telemetry.Agent

open Dialogue Http

variable {α β : Type}

/-! ### Exchanges -/

/-- A request and what came of it. -/
structure Exchange where
  request : Request
  outcome : Outcome Failure Response

namespace Exchange

/-- A request is accepted with status 200. -/
def Accepted (e : Exchange) : Prop :=
  ∃ response, e.outcome = .value response ∧ response.status = 200

/-- The exchange that a question of an agent makes, if it does. -/
def of? : (call : Call) × call.Answer → Option Exchange
  | ⟨.send request, outcome⟩ => some ⟨request, outcome⟩
  | _ => none

end Exchange

/-- The requests of an agent in a trial, with what comes of them. -/
def exchanged (d : Doing α) (t : Trial) : List Exchange :=
  (heard Trial.answer d t).filterMap Exchange.of?

theorem exchanged_bind (d : Doing α) (f : α → Doing β) (t : Trial) :
    exchanged (d >>= f) t = exchanged d t ++ exchanged (f (t.run d).1) (t.run d).2 := by
  rw [exchanged, heard_bind, List.filterMap_append]
  rfl

theorem run_bind (d : Doing α) (f : α → Doing β) (t : Trial) :
    t.run (d >>= f) = (t.run d).2.run (f (t.run d).1) :=
  Dialogue.run_bind Trial.answer d f t

/-- A question that makes no request but of some sort, and does not give up batches. -/
def Call.Modest (p : Request → Prop) : Call → Prop
  | .send request => p request
  | .degrade => False
  | _ => True

/-- All requests are of some sort, and batches are not given up. -/
abbrev Modest (p : Request → Prop) (d : Doing α) : Prop := d.Asks (Call.Modest p)

variable {p : Request → Prop}

theorem Modest.mono {d : Doing α} {p' : Request → Prop} (h : Modest p d)
    (weaken : ∀ r, p r → p' r) : Modest p' d := by
  refine Asks.mono h fun q hq => ?_
  cases q with
  | send request => exact weaken request hq
  | pause | note | snapshot | acknowledge | degraded => trivial
  | degrade => exact hq

theorem Modest.exchanged {d : Doing α} (h : Modest p d) (t : Trial) :
    ∀ e ∈ exchanged d t, p e.request := by
  induction d generalizing t with
  | done a => nofun
  | ask q next ih =>
    have rest := ih _ (h.2 (Trial.answer q t).1) (Trial.answer q t).2
    cases q with
    | send request => exact List.forall_mem_cons.2 ⟨h.1, rest⟩
    | pause | note | snapshot | acknowledge | degraded => exact rest
    | degrade => exact h.1.elim

theorem Modest.degraded {d : Doing α} (h : Modest p d) (t : Trial) :
    (t.run d).2.degraded = t.degraded := by
  induction d generalizing t with
  | done a => rfl
  | ask q next ih =>
    refine (ih _ (h.2 (Trial.answer q t).1) (Trial.answer q t).2).trans ?_
    cases q with
    | send | pause | note | snapshot | acknowledge | degraded => rfl
    | degrade => exact h.1.elim

theorem modest_deliver (request : Request) : Modest (· = request) (deliver request) := by
  refine asks_bind ⟨rfl, fun _ => trivial⟩ fun outcome => ?_
  cases outcome with
  | failure | cancelled => trivial
  | value response =>
    dsimp only
    split <;> trivial

theorem modest_tried (request : Request) : Modest (· = request) (Reporter.tried request) := by
  have pause (d : Double) : Modest (· = request) (Reporter.surroundings.pause d) :=
    ⟨trivial, fun _ => trivial⟩
  refine Retry.asks_run pause (fun n => ?_) (modest_deliver request) _
  dsimp only [Reporter.surroundings]
  split
  · exact ⟨trivial, fun _ => trivial⟩
  · trivial

theorem modest_acknowledgeAll (ms : List Metric) : Modest p (Reporter.acknowledgeAll ms) := by
  induction ms with
  | nil => trivial
  | cons m rest ih => exact ⟨trivial, fun _ => ih⟩

theorem modest_sendOne (request : Metric → Request) (m : Metric) :
    Modest (· = request m) (Reporter.sendOne request m) := by
  refine asks_bind (modest_tried (request m)) fun outcome => ?_
  cases outcome with
  | value => exact ⟨trivial, fun _ => trivial⟩
  | cancelled => trivial
  | failure reason =>
    dsimp only
    split
    · exact ⟨trivial, fun _ => trivial⟩
    · trivial

/-- Records that are sent one by one make requests for records. -/
theorem modest_sendEach (request : Metric → Request) (ms : List Metric) :
    Modest (fun r => ∃ m ∈ ms, r = request m) (Reporter.sendEach request ms) := by
  induction ms with
  | nil => trivial
  | cons m rest ih =>
    refine asks_andThen ((modest_sendOne request m).mono fun r hr => ?_) fun delivered =>
      asks_andThen (Modest.mono ih fun r hr => ?_) fun n => trivial
    · exact ⟨m, List.mem_cons_self, hr⟩
    · obtain ⟨m', mem, hr⟩ := hr
      exact ⟨m', List.mem_cons_of_mem m mem, hr⟩

/-! ### Requests on a schedule -/

/-- A request fails as a send does, if it fails. -/
def FailsAsSend : Outcome Failure Response → Prop
  | .value _ => True
  | .failure f => f.isSendFailure = true
  | .cancelled => False

/-- Requests fail as sends do in a trial, if they fail. -/
def Trial.Reaches (t : Trial) : Prop := ∀ reply ∈ t.script, FailsAsSend reply.outcome

/-- What may come of a question where requests fail as sends do; the exchanges are noted. -/
def exchanging : Manner Call.Answer (List Exchange)
  | .send request, es, outcome, es' => FailsAsSend outcome ∧ es' = es ++ [⟨request, outcome⟩]
  | .pause _, es, through, es' => (through : Bool) = true ∧ es' = es
  | .note _, es, _, es' => es' = es
  | .snapshot, es, _, es' => es' = es
  | .acknowledge _, es, _, es' => es' = es
  | .degraded, es, _, es' => es' = es
  | .degrade, es, _, es' => es' = es

/-- What is known of the exchanges that may come holds of those of a trial. -/
theorem exchanged_of_always {d : Doing α} {es : List Exchange} {during : List Exchange → Prop}
    {after : α → List Exchange → Prop} (h : Always exchanging during after d es) {t : Trial}
    (reaches : t.Reaches) :
    after (t.run d).1 (es ++ exchanged d t) ∧ (t.run d).2.Reaches := by
  induction d generalizing es t with
  | done a =>
    refine ⟨?_, reaches⟩
    show after a (es ++ [])
    rw [List.append_nil]
    exact h.2
  | ask q next ih =>
    cases q with
    | send request =>
      have fails : FailsAsSend (t.receive request).1.outcome := by
        show FailsAsSend (t.script.headD .accepted).outcome
        cases hscript : t.script with
        | nil => trivial
        | cons reply later => exact reaches reply (by simp [hscript])
      have rest := ih _ (h.2 _ _ ⟨fails, rfl⟩) (t := (t.receive request).2) ?_
      · rw [List.append_assoc] at rest
        exact rest
      · exact fun reply mem => reaches reply (List.mem_of_mem_drop mem)
    | pause d => exact ih _ (h.2 _ _ ⟨rfl, rfl⟩) reaches
    | note | snapshot | acknowledge | degraded | degrade => exact ih _ (h.2 _ _ rfl) reaches

/-- Notes and pauses change nothing, where pauses go through. -/
theorem Reporter.calm_surroundings {σ : Type} {may : Manner Call.Answer σ} {during : σ → Prop}
    (pause : ∀ d s through t, may (.pause d) s through t → (through : Bool) = true ∧ t = s)
    (note : ∀ entry s a t, may (.note entry) s a t → t = s) :
    Reporter.surroundings.Calm may during where
  pause d s after now h := by
    refine ⟨now, fun through t possible => ?_⟩
    obtain ⟨rfl, rfl⟩ := pause d s through t possible
    exact ⟨now, h⟩
  note n s after now h := by
    dsimp only [Reporter.surroundings]
    split
    · refine ⟨now, fun a t possible => ?_⟩
      rw [note _ s a t possible]
      exact ⟨now, h⟩
    · exact ⟨now, h⟩

/-- The exchanges of a request that has not been accepted yet. -/
def Unaccepted (request : Request) (es : List Exchange) : Prop :=
  ∀ e ∈ es, e.request = request ∧ ¬ e.Accepted

/-- How a request comes to an end: it is accepted, or it fails as a send. -/
def Concluded {ε : Type} (fails : ε → Bool) (request : Request) :
    Outcome ε Unit → List Exchange → Prop :=
  Concludes (fun _ es => (∀ e ∈ es, e.request = request) ∧ ∃ e ∈ es, e.Accepted)
    (fun reason es => fails reason = true ∧ Unaccepted request es) fun _ => False

theorem Exchange.always_deliver {request : Request} {es : List Exchange}
    (h : Unaccepted request es) :
    Always exchanging (fun _ => True) (Concluded Failure.isSendFailure request) (deliver request)
      es := by
  refine ⟨trivial, ?_⟩
  rintro outcome _ ⟨fails, rfl⟩
  have requests (e : Exchange) (he : e ∈ es ++ [⟨request, outcome⟩]) : e.request = request := by
    rcases List.mem_append.1 he with he | he
    · exact (h e he).1
    · rw [List.mem_singleton.1 he]
  have unaccepted (no : ¬ Exchange.Accepted ⟨request, outcome⟩) :
      Unaccepted request (es ++ [⟨request, outcome⟩]) := by
    intro e he
    refine ⟨requests e he, ?_⟩
    rcases List.mem_append.1 he with he | he
    · exact (h e he).2
    · rwa [List.mem_singleton.1 he]
  cases outcome with
  | cancelled => exact fails.elim
  | failure f => exact ⟨trivial, fails, unaccepted nofun⟩
  | value response =>
    show Always _ _ _ (if response.status = 200 then _ else _) _
    split
    next accepted =>
      exact ⟨trivial, requests, _, List.mem_append_right _ List.mem_cons_self, _, rfl, accepted⟩
    next refused =>
      refine ⟨trivial, rfl, unaccepted ?_⟩
      rintro ⟨_, ⟨⟩, accepted⟩
      exact refused accepted

/-- **A request on a schedule is accepted in the end, or fails as a send.** -/
theorem Exchange.always_tried (request : Request) :
    Always exchanging (fun _ => True) (Concluded Reporter.isSendFailure request)
      (Reporter.tried request) [] := by
  have calm : Reporter.surroundings.Calm exchanging fun _ => True :=
    Reporter.calm_surroundings (fun _ _ _ _ h => h) fun _ _ _ _ h => h
  have once (es : List Exchange) (h : Unaccepted request es) := Exchange.always_deliver h
  refine Retry.always_run calm once ?_ ?_ ?_ ?_ ?_ nofun
  · exact fun _ _ h => h.2
  · exact fun _ _ h => h
  · exact fun _ h => h
  · exact fun _ _ _ h => h
  · exact fun _ _ _ _ h => ⟨rfl, h.2⟩

/-- What comes of a request on a schedule in a trial. -/
theorem tried_exchanged (request : Request) {t : Trial} (reaches : t.Reaches) :
    Concluded Reporter.isSendFailure request (t.run (Reporter.tried request)).1
        (exchanged (Reporter.tried request) t) ∧
      (t.run (Reporter.tried request)).2.Reaches :=
  exchanged_of_always (Exchange.always_tried request) reaches

/-- The first attempt is made at once. -/
theorem exists_exchanged_tried (request : Request) (t : Trial) :
    ∃ outcome later, exchanged (Reporter.tried request) t = ⟨request, outcome⟩ :: later :=
  ⟨_, _, rfl⟩

end Telemetry.Agent
