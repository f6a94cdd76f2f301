import Mathlib.Algebra.BigOperators.Group.List.Basic
import Mathlib.Algebra.Ring.Int.Defs
import Telemetry.Agent.Registry
import Telemetry.Proofs.Delivery.Plain
import Telemetry.Proofs.Delivery.Store
import Telemetry.Proofs.Text.Numeral

/-!
# Polls that a request carries

An agent reports how often it has polled as amounts of one counter.  A request carries such an
amount: whatever the store answers and when it fails, the counter grows by exactly that amount if
the request is answered with the status 200.  Otherwise it stays as it was at a store that undoes
what fails, unless the request is a batch and the collector goes on after a failure; then it may
have grown (`Carries`).

All the requests of an agent carry what their records say (`carries_batchRequest`,
`carries_singleRequest`, `carries_plainRequest`): amounts that cannot be read or leave the range
are turned away as a whole.
-/

namespace Telemetry

open Dialogue Http
open Agent (Client pollCount)
open Store (Call Lawful)

/-! ### Amounts -/

/-- The polls that a reading adds. -/
def Reading.polls : Reading → Int
  | .gauge .. => 0
  | .counter name amount => if name = pollCount then amount else 0

/-- The polls that readings add together. -/
def Reading.totalPolls (rs : List Reading) : Int := (rs.map polls).sum

theorem Reading.totalPolls_cons (r : Reading) (rs : List Reading) :
    totalPolls (r :: rs) = r.polls + totalPolls rs := by
  rw [totalPolls, List.map_cons, List.sum_cons, totalPolls]

/-- An update adds the polls of its reading. -/
theorem Ingest.total_effect {r : Reading} {c after : Contents}
    (h : (callOf r).effect c = .ok after) :
    after.total pollCount = c.total pollCount + r.polls := by
  cases r with
  | gauge name value =>
    cases h
    exact (Int.add_zero _).symm
  | counter name amount =>
    obtain ⟨-, rfl⟩ := Store.setCounter_checked h
    show ((c.counters.put name (c.total name + amount)).get? pollCount).getD 0 = _
    rw [Table.get?_put, Reading.polls]
    split
    next same => rw [same]; rfl
    next => exact (Int.add_zero _).symm

/-! ### Counting polls -/

namespace Collector

/-- An update adds so much if it is taken.  If it fails it adds nothing where what fails is undone,
and otherwise perhaps as much. -/
def Adds (undone : Prop) (amount n : Int) : Outcome Store.Error Unit → Int → Prop
  | .value _, n' => n' = n + amount
  | .failure _, n' => n' = n ∨ ¬ undone ∧ n' = n + amount
  | .cancelled, _ => False

/-- What may come of a call of a lawful store, where the state is the polls counted so far, and it
is said whether what fails is undone.  Of calls other than sound updates and looking up counters
nothing is known. -/
def counting (undone : Prop) : Manner Call.Answer Int
  | .updateGauge name value, n, answer, n' =>
      (Reading.gauge name value).Sound → Adds undone (Reading.gauge name value).polls n answer n'
  | .updateCounter name amount, n, answer, n' =>
      (Reading.counter name amount).Sound →
        Adds undone (Reading.counter name amount).polls n answer n'
  | .getCounter _, n, answer, n' => (∃ sum, answer = .value sum) ∧ n' = n
  | _, _, _, _ => True

theorem adds_of_counting {undone : Prop} {r : Reading} {n n' : Int}
    {answer : (Ingest.callOf r).Answer} (h : counting undone (Ingest.callOf r) n answer n')
    (sound : r.Sound) : Adds undone r.polls n (answer.map fun _ => ()) n' := by
  cases r with
  | gauge name value => cases answer <;> exact h sound
  | counter name amount => cases answer <;> exact h sound

/-- **A lawful store answers so**, and its counter of polls is what has been counted. -/
theorem counting_answer (S : Lawful) (call : Call) (s : S.State) (n : Int) :
    counting S.Undoes call n (S.answer call s).1
      (n + ((S.contents (S.answer call s).2).total pollCount - (S.contents s).total pollCount)) := by
  have adds {r : Reading} {outcome : Outcome Store.Error Unit} {after : Contents}
      (taken : Store.Taken (Ingest.callOf r).effect (fun _ => ()) (S.contents s) outcome after)
      (undoes : S.Undoes → ∀ e, outcome = .failure e → after = S.contents s) :
      Adds S.Undoes r.polls n outcome
        (n + (after.total pollCount - (S.contents s).total pollCount)) := by
    have none : n + ((S.contents s).total pollCount - (S.contents s).total pollCount) = n := by
      rw [Int.sub_self, Int.add_zero]
    have sum (h : (Ingest.callOf r).effect (S.contents s) = .ok after) :
        n + (after.total pollCount - (S.contents s).total pollCount) = n + r.polls := by
      have total := Ingest.total_effect h
      omega
    cases taken with
    | done h => exact sum h
    | failed e => exact .inl none
    | astray h failure =>
      by_cases undone : S.Undoes
      · rw [undoes undone _ rfl]
        exact .inl none
      · exact .inr ⟨undone, sum h⟩
  cases call with
  | updateGauge name value =>
    exact fun sound => adds (S.updated (.gauge name value) s sound)
      fun undoes e => undoes (.gauge name value) s e sound
  | updateCounter name amount =>
    exact fun sound => adds (S.updated (.counter name amount) s sound)
      fun undoes e => undoes (.counter name amount) s e sound
  | getCounter name =>
    obtain ⟨found, kept⟩ := S.counted name s
    refine ⟨⟨_, found⟩, ?_⟩
    rw [kept, Int.sub_self, Int.add_zero]
  | setCounter | getGauge | getAll | save | ping => trivial

/-- How far the count of polls has grown where something has been done as a whole or not.  What is
strict is done as a whole or not at all. -/
structure Grown (strict : Prop) (amount : Int) (done : Prop) (n : Int) : Prop where
  whole : done → n = amount
  part : ¬ done → strict → n = 0

theorem Grown.wholly {strict done : Prop} {amount n : Int} (h : done) (grown : n = amount) :
    Grown strict amount done n :=
  ⟨fun _ => grown, fun h' => absurd h h'⟩

theorem Grown.partly {strict done : Prop} {amount n : Int} (h : ¬ done) (same : strict → n = 0) :
    Grown strict amount done n :=
  ⟨fun h' => absurd h' h, fun _ => same⟩

end Collector

/-! ### Updates -/

namespace Ingest

open Collector (Adds counting adds_of_counting)

variable {undone : Prop}

theorem always_update {r : Reading} (sound : r.Sound) (nonneg : 0 ≤ r.polls) {n : Int}
    (hn : 0 ≤ n) :
    Always (counting undone) (0 ≤ ·)
      (Ends (fun _ n' => n' = n + r.polls) fun _ n' => undone → n' = n) (update r) n := by
  have asks := update_bind r Dialogue.done
  rw [bind_done] at asks
  rw [asks]
  refine ⟨hn, fun answer n' h => ?_⟩
  have adds := adds_of_counting h sound
  cases answer with
  | value a =>
    have sum : n' = n + r.polls := adds
    exact ⟨sum ▸ Int.add_nonneg hn nonneg, sum⟩
  | failure e =>
    rcases adds with same | ⟨left, sum⟩
    · exact ⟨same ▸ hn, fun _ => same⟩
    · exact ⟨sum ▸ Int.add_nonneg hn nonneg, fun undone => absurd undone left⟩
  | cancelled => exact adds.elim

/-- A reading that can be answered. -/
def Tells (r : Reading) : Prop := ∀ name value, r = .gauge name value → value.isFinite = true

theorem always_stateAfter {r : Reading} (sound : r.Sound) {n : Int} (hn : 0 ≤ n) :
    Always (counting undone) (0 ≤ ·) (Ends (fun r' n' => Tells r' ∧ n' = n) fun _ _ => False)
      (stateAfter r) n := by
  cases r with
  | gauge name value =>
    refine ⟨hn, ?_, rfl⟩
    rintro _ _ ⟨⟩
    exact sound.2
  | counter name amount =>
    refine ⟨hn, ?_⟩
    rintro answer n' ⟨⟨sum, rfl⟩, rfl⟩
    exact ⟨hn, nofun, rfl⟩

/-- **A single record adds its polls if it is applied**, and nothing otherwise where what fails is
undone. -/
theorem always_apply {m : Metric} {amount : Int} (nonneg : 0 ≤ amount)
    (reads : ∀ r, m.reading = .ok r → r.polls = amount) :
    Always (counting undone) (0 ≤ ·)
      (Ends (fun r n => Tells r ∧ n = amount) fun _ n => undone → n = 0) (apply m) 0 := by
  rw [apply]
  cases valid : m.reading with
  | error reason => exact ⟨Int.le_refl 0, fun _ => rfl⟩
  | ok r =>
    have sound := (Metric.toMetric_of_reading valid).2
    have polls := reads r valid
    refine (always_update sound (polls ▸ nonneg) (Int.le_refl 0)).andThen_ends ?_ fun _ _ h => h
    intro _ n hn added
    refine (always_stateAfter sound hn).mono fun outcome n' _ h => ?_
    cases outcome with
    | value r' =>
      obtain ⟨tells, rfl⟩ := h
      exact ⟨tells, by rw [added, Int.zero_add, polls]⟩
    | failure e => exact h.elim
    | cancelled => exact h

/-! ### Batches -/

/-- Every element of a batch has been stored. -/
def Complete : Outcome Error Progress → Prop
  | .value p => p.first = none
  | _ => False

/-- What the elements of a batch have added, from some progress and some count on: all that they
carry if every element has been stored, and otherwise nothing, if what fails is undone and the rest
was left out. -/
structure Added (undone : Prop) (policy : BatchPolicy) (readings : List Reading) (p : Progress)
    (n : Int) (outcome : Outcome Error Progress) (n' : Int) : Prop where
  whole : Complete outcome → p.first = none ∧ n' = n + Reading.totalPolls readings
  part : ¬ Complete outcome → undone ∧ policy = .abort → p.first = none → readings ≠ [] ∧ n' = n

/-- Where a batch breaks off at its first element, nothing has been added. -/
theorem Added.broken {policy : BatchPolicy} {r : Reading} {later : List Reading} {p : Progress}
    {n n' : Int} {outcome : Outcome Error Progress} (incomplete : ¬ Complete outcome)
    (same : undone → n' = n) : Added undone policy (r :: later) p n outcome n' :=
  ⟨fun complete => absurd complete incomplete,
    fun _ strict _ => ⟨List.cons_ne_nil r later, same strict.1⟩⟩

/-- **A batch adds its polls if it is stored as a whole.**  If it is not and breaks off at an
element that cannot be stored, it has added nothing, where only its last element has polls. -/
theorem always_updateAll (policy : BatchPolicy) {readings : List Reading}
    (sound : ∀ r ∈ readings, r.Sound) (nonneg : ∀ r ∈ readings, 0 ≤ r.polls)
    (last : ∀ r ∈ readings.dropLast, r.polls = 0) (p : Progress) {n : Int} (hn : 0 ≤ n) :
    Always (counting undone) (0 ≤ ·) (Added undone policy readings p n)
      (updateAll policy readings p) n := by
  -- The induction is on the elements; how far the batch has come and what it has added go along.
  induction readings generalizing p n with
  | nil =>
    refine ⟨hn, fun complete => ⟨complete, (Int.add_zero n).symm⟩, fun incomplete _ first => ?_⟩
    exact absurd first incomplete
  | cons r later ih =>
    have sound' : ∀ r' ∈ later, r'.Sound := fun r' h => sound r' (List.mem_cons_of_mem r h)
    have nonneg' : ∀ r' ∈ later, 0 ≤ r'.polls := fun r' h => nonneg r' (List.mem_cons_of_mem r h)
    have last' : ∀ r' ∈ later.dropLast, r'.polls = 0 := by
      intro r' h
      refine last r' ?_
      rw [List.dropLast_cons_of_ne_nil (fun nil => by simp [nil] at h)]
      exact List.mem_cons_of_mem r h
    rw [updateAll_cons, always_bind]
    refine (always_update (sound r List.mem_cons_self) (nonneg r List.mem_cons_self) hn).mono ?_
    intro outcome n' hn' h
    cases outcome with
    | cancelled => exact h.elim
    | value =>
      have added : n' = n + r.polls := h
      refine (ih sound' nonneg' last' p.success hn').mono fun outcome' n'' _ h' => ⟨?_, ?_⟩
      · intro complete
        obtain ⟨first, sum⟩ := h'.whole complete
        refine ⟨first, ?_⟩
        rw [sum, added, Reading.totalPolls_cons, Int.add_assoc]
      · intro incomplete strict first
        obtain ⟨more, same⟩ := h'.part incomplete strict first
        have none : r.polls = 0 :=
          last r (List.dropLast_cons_of_ne_nil more ▸ List.mem_cons_self)
        exact ⟨List.cons_ne_nil r later, by rw [same, added, none, Int.add_zero]⟩
    | failure e =>
      have same : undone → n' = n := h
      cases e with
      | invalid => exact ⟨hn', .broken id same⟩
      | batch => exact ⟨hn', .broken id same⟩
      | unexpected => exact ⟨hn', .broken id same⟩
      | storage fault =>
        cases policy with
        | abort => exact ⟨hn', .broken (Option.some_ne_none _) same⟩
        | «continue» =>
          refine (ih sound' nonneg' last' (p.failure fault) hn').mono fun outcome' n'' _ h' => ?_
          refine ⟨fun complete => ?_, fun _ strict => nomatch strict.2⟩
          cases (h'.whole complete).1

/-- The same of a whole batch. -/
theorem always_applyBatch (policy : BatchPolicy) {batch : List Metric} {amount : Int}
    (reads : ∀ rs, Metric.readings batch = .ok rs → (∀ r ∈ rs, 0 ≤ r.polls) ∧
      (∀ r ∈ rs.dropLast, r.polls = 0) ∧ Reading.totalPolls rs = amount) :
    Always (counting undone) (0 ≤ ·)
      (fun outcome n => Collector.Grown (undone ∧ policy = .abort) amount
        (∃ batch, outcome = .value batch) n)
      (applyBatch policy batch) 0 := by
  rw [applyBatch]
  cases valid : Metric.readings batch with
  | error reason => exact ⟨Int.le_refl 0, .partly (by rintro ⟨_, ⟨⟩⟩) fun _ => rfl⟩
  | ok rs =>
    obtain ⟨nonneg, last, sum⟩ := reads rs valid
    have sound := (Metric.toMetric_of_readings valid).2
    show Always _ _ _ (updateAll policy rs {} >>= _) 0
    rw [always_bind]
    refine (always_updateAll policy sound nonneg last {} (Int.le_refl 0)).mono ?_
    intro outcome n hn h
    cases outcome with
    | failure e => exact ⟨hn, .partly (by rintro ⟨_, ⟨⟩⟩) fun strict => (h.part id strict rfl).2⟩
    | cancelled => exact ⟨hn, .partly (by rintro ⟨_, ⟨⟩⟩) fun strict => (h.part id strict rfl).2⟩
    | value p =>
      dsimp only
      cases first : p.first with
      | none =>
        have added := (h.whole first).2
        rw [Int.zero_add, sum] at added
        exact ⟨hn, .wholly ⟨batch, rfl⟩ added⟩
      | some fault =>
        have incomplete : ¬ Complete (.value p) := fun complete => by
          cases first.symm.trans complete
        exact ⟨hn, .partly (by rintro ⟨_, ⟨⟩⟩) fun strict => (h.part incomplete strict rfl).2⟩

end Ingest

/-! ### Requests -/

namespace Collector

/-- What is all or nothing, as far as polls go: every request but batches under the policy that goes
on after a failure. -/
def Strict (server : Server) (request : Request) : Prop :=
  server.policy = .abort ∨ Route.ofPath? request.path ≠ some .updates

/-- **A request carries so many polls**, whatever the store answers, and whether or not it undoes
what fails. -/
structure Carries (server : Server) (request : Request) (amount : Int) : Prop where
  counted : ∀ undone : Prop, Always (counting undone) (0 ≤ ·)
    (fun response n => Grown (undone ∧ Strict server request) amount (response.status = 200) n)
    (respond server request) 0

variable {server : Server} {request : Request} {amount : Int}

/-- A request that is turned away carries any amount, since it is not answered with 200. -/
theorem carries_of_turnsAway (h : TurnsAway server request) : Carries server request amount := by
  obtain ⟨response, responds, status⟩ := h
  constructor
  intro undone
  rw [responds]
  exact ⟨Int.le_refl 0, .partly status fun _ => rfl⟩

/-- What a single record adds, its request carries. -/
theorem carries_of_apply {m : Metric} {after : Outcome Ingest.Error Reading → Option Response}
    (nonneg : 0 ≤ amount) (reads : ∀ r, m.reading = .ok r → r.polls = amount)
    (responds : respond server request = Ingest.apply m >>= fun outcome =>
      pure (sent request (after outcome)))
    (tells : ∀ r, Ingest.Tells r → (sent request (after (.value r))).status = 200)
    (fails : ∀ e, (sent request (after (.failure e))).status ≠ 200) :
    Carries server request amount := by
  constructor
  intro undone
  rw [responds, always_bind]
  refine (Ingest.always_apply nonneg reads).mono fun outcome n hn h => ?_
  cases outcome with
  | value r => exact ⟨hn, .wholly (tells r h.1) h.2⟩
  | failure e => exact ⟨hn, .partly (fails e) fun strict => h strict.1⟩
  | cancelled => exact h.elim

/-- A request whose body is refused with its signature, or read, carries what it carries where it
is read. -/
theorem carries_of_checked {body : Bytes} {route : Route} {reader : Bytes → Handling}
    (leads : Route.ofPath? request.path = some route) (method : request.method = route.method)
    (checked : onRoute server request route = withPayload server request reader)
    (content : payload server.guard request
      = (checkSignature server.guard request).map fun _ => body)
    (accepted : payload server.guard request = .ok body → Carries server request amount) :
    Carries server request amount := by
  cases check : checkSignature server.guard request with
  | ok =>
    rw [check] at content
    exact accepted content
  | error refusal =>
    have refused : payload server.guard request = .error refusal := by
      rw [content, check]
      rfl
    refine carries_of_turnsAway (turnsAway_of_payload leads method checked ?_ ?_)
    · intro _ h
      cases refused.symm.trans h
    · intro refusal' h
      cases refused.symm.trans h
      exact status_of_checkSignature check

/-- A body that is accepted and cannot be read carries any amount. -/
theorem carries_of_unread {body : Bytes} {route : Route} {reader : Bytes → Handling}
    (leads : Route.ofPath? request.path = some route) (method : request.method = route.method)
    (checked : onRoute server request route = withPayload server request reader)
    (accepted : payload server.guard request = .ok body)
    (unread : reader body = .done (some (.detail 400 "Invalid JSON"))) :
    Carries server request amount := by
  refine carries_of_turnsAway (turnsAway_of_payload leads method checked ?_ ?_)
  · intro body' h
    cases accepted.symm.trans h
    exact unread
  · intro _ h
    cases accepted.symm.trans h

end Collector

namespace Agent.Client

open Collector

variable {client : Client} {server : Server}

/-- What the record of a reading says is that reading. -/
theorem polls_of_reading {r r' : Reading} (h : r.toMetric.reading = .ok r') :
    r'.polls = r.polls := by
  have same := (Metric.toMetric_of_reading h).1
  cases r with
  | gauge => cases r' with
    | gauge => cases same; rfl
    | counter => cases congrArg Metric.delta same
  | counter => cases r' with
    | gauge => cases congrArg Metric.delta same
    | counter => cases same; rfl

/-- **A single record carries its polls.** -/
theorem carries_singleRequest (root : client.url.IsRoot) {r : Reading} (nonneg : 0 ≤ r.polls) :
    Carries server (client.singleRequest r.toMetric).arrived r.polls := by
  have leads := ofPath?_singleRequest root r.toMetric
  have content := client.payload_postJson "/update" (Utf8.encode (r.toMetric.toJson.toText .spaced))
    server.guard
  refine carries_of_checked leads rfl rfl content fun accepted => ?_
  by_cases short : r.toMetric.Short
  · have read := Metric.ofBytes_spaced short
    refine carries_of_apply nonneg (fun r' h => polls_of_reading h)
      (respond_update leads rfl accepted read) ?_ ?_
    · exact fun r tells => status_update tells
    · exact fun e => status_update_ne nofun
  · refine carries_of_unread leads rfl rfl accepted ?_
    cases r with
    | gauge name value => exact absurd nofun short
    | counter name n =>
      rw [update, Metric.ofBytes_spaced_long short]
      rfl

/-- What the parts of a path denote is the reading that they were made of, as far as polls go. -/
theorem plainReading_plainValue (r : Reading) :
    (∃ text, plainReading r.kind.word r.name (plainValue r.toMetric) = .error text) ∨
      ∃ r' : Reading, plainReading r.kind.word r.name (plainValue r.toMetric) = .ok r'.toMetric ∧
        r'.polls = r.polls := by
  rw [plainReading, Kind.ofWord?_lower_word]
  cases r with
  | gauge name value =>
    dsimp only [Reading.kind, Reading.name]
    cases Numeral.anyDouble? (plainValue (Reading.gauge name value).toMetric) with
    | some x => exact .inr ⟨.gauge name x, rfl, rfl⟩
    | none => exact .inl ⟨_, rfl⟩
  | counter name n =>
    have text : plainValue (Reading.counter name n).toMetric = Text.ofInt n := rfl
    dsimp only [Reading.kind, Reading.name]
    rw [text, Numeral.anyInt?_ofInt]
    by_cases long : Numeral.maxDigits < (Nat.toDigits 10 n.natAbs).length
    · rw [if_pos long]
      exact .inl ⟨_, rfl⟩
    · rw [if_neg long]
      exact .inr ⟨.counter name n, rfl, rfl⟩

/-- **A record in the plain form carries its polls**, whatever its name is. -/
theorem carries_plainRequest (root : client.url.IsRoot) {r : Reading} (nonneg : 0 ≤ r.polls) :
    Carries server (client.plainRequest r.toMetric).arrived r.polls := by
  have type : r.toMetric.type = r.kind.word := by cases r <;> rfl
  have name : r.toMetric.id = r.name := by cases r <;> rfl
  have said : r.toMetric.delta ≠ none ∨ r.toMetric.value ≠ none := by
    cases r with
    | gauge => exact .inr nofun
    | counter => exact .inl nofun
  have arrives := ofPath?_plainRequest root type said
  by_cases segment : Client.Routable client.url r.toMetric.id
  · rw [if_pos segment, name] at arrives
    rcases plainReading_plainValue r with ⟨text, refused⟩ | ⟨r', read, polls⟩
    · have handled : handle server (client.plainRequest r.toMetric).arrived
          = .done (some (.plain 400 text)) := by
        rw [handle_route arrives rfl, onRoute, plainUpdate, refused]
        rfl
      refine carries_of_turnsAway (turnsAway_of_handle handled ?_)
      rintro _ ⟨⟩
      exact (by decide : 400 ≠ 200)
    · refine carries_of_apply nonneg ?_ (respond_plainUpdate arrives rfl read) ?_ ?_
      · intro r'' h
        rw [polls_of_reading h, polls]
      · exact fun r _ => (status_plainUpdate _ _).2 ⟨r, rfl⟩
      · intro e status
        obtain ⟨_, ⟨⟩⟩ := (status_plainUpdate _ _).1 status
  · rw [if_neg segment] at arrives
    exact carries_of_turnsAway (turnsAway_of_lost server arrives)

/-! ### Batches -/

/-- The readings of an agent: some gauges, and the polls that are due if there are any. -/
def bill (gauges : List (String × Double)) (due : Int) : List Reading :=
  (gauges.map fun g => .gauge g.1 g.2) ++ if due = 0 then [] else [.counter pollCount due]

variable {gauges : List (String × Double)} {due : Int}

theorem polls_eq_zero_of_mem_map {r : Reading}
    (h : r ∈ gauges.map fun g => Reading.gauge g.1 g.2) : r.polls = 0 := by
  obtain ⟨g, -, rfl⟩ := List.mem_map.1 h
  rfl

theorem bill_polls : (∀ r ∈ (bill gauges due).dropLast, r.polls = 0) ∧
    Reading.totalPolls (bill gauges due) = due := by
  have none : Reading.totalPolls (gauges.map fun g => Reading.gauge g.1 g.2) = 0 := by
    refine List.sum_eq_zero fun n hn => ?_
    obtain ⟨r, hr, rfl⟩ := List.mem_map.1 hn
    exact polls_eq_zero_of_mem_map hr
  unfold bill
  split
  next h =>
    rw [List.append_nil, none, h]
    exact ⟨fun r hr => polls_eq_zero_of_mem_map (List.dropLast_subset _ hr), rfl⟩
  next =>
    rw [List.dropLast_concat]
    refine ⟨fun r hr => polls_eq_zero_of_mem_map hr, ?_⟩
    rw [Reading.totalPolls, List.map_append, List.sum_append, ← Reading.totalPolls, none, Int.zero_add]
    exact Int.add_zero due

theorem bill_nonneg (nonneg : 0 ≤ due) : ∀ r ∈ bill gauges due, 0 ≤ r.polls := by
  intro r hr
  rcases List.mem_append.1 hr with hr | hr
  · exact (polls_eq_zero_of_mem_map hr).symm ▸ Int.le_refl 0
  · split at hr
    · cases hr
    · cases List.mem_singleton.1 hr
      exact nonneg

/-- If a batch is valid as it is read, its readings are those that it was made of. -/
theorem eq_of_readings_said {rs rs' : List Reading}
    (h : Metric.readings ((rs.map Reading.toMetric).map Metric.said) = .ok rs') : rs' = rs := by
  have single {r r' : Reading} (h : r.toMetric.said = r'.toMetric) : r' = r := by
    cases r with
    | gauge name value => cases r' with
      | gauge name' value' =>
        have kept : (some value).filter Double.isFinite = some value' := congrArg Metric.value h
        cases Option.some.inj (Option.eq_some_of_filter_eq_some kept)
        cases congrArg Metric.id h
        rfl
      | counter => cases congrArg Metric.delta h
    | counter name n => cases r' with
      | gauge => cases congrArg Metric.delta h
      | counter => cases h; rfl
  have records := (Metric.toMetric_of_readings h).1
  clear h
  induction rs generalizing rs' with
  | nil => exact List.map_eq_nil_iff.1 records.symm
  | cons r rs ih =>
    cases rs' with
    | nil => cases records
    | cons r' rs' =>
      obtain ⟨first, rest⟩ := List.cons.inj records
      rw [single first, ih rest]

/-- **A batch carries the polls that are due.** -/
theorem carries_batchRequest (root : client.url.IsRoot) (nonneg : 0 ≤ due) :
    Carries server (client.batchRequest ((bill gauges due).map Reading.toMetric)).arrived due := by
  have leads := ofPath?_batchRequest root ((bill gauges due).map Reading.toMetric)
  have content := client.payload_postJson "/updates"
    (Snapshot.toBytes none ((bill gauges due).map Reading.toMetric)) server.guard
  refine carries_of_checked leads rfl rfl content fun accepted => ?_
  by_cases short : ∀ m ∈ (bill gauges due).map Reading.toMetric, m.Short
  · have read := Snapshot.ofBytes_toBytes_said none short
    have reads : ∀ rs,
        Metric.readings (((bill gauges due).map Reading.toMetric).map Metric.said) = .ok rs →
        (∀ r ∈ rs, 0 ≤ r.polls) ∧ (∀ r ∈ rs.dropLast, r.polls = 0) ∧
          Reading.totalPolls rs = due := by
      intro rs valid
      rw [eq_of_readings_said valid]
      exact ⟨bill_nonneg nonneg, bill_polls⟩
    constructor
    intro undone
    rw [respond_updates leads rfl accepted read, always_bind]
    refine (Ingest.always_applyBatch server.policy reads).mono fun outcome n hn h => ⟨hn, ?_, ?_⟩
    · exact fun status => h.whole ((status_updates _ _ _).1 status)
    · exact fun status strict => h.part (mt (status_updates _ _ _).2 status)
        ⟨strict.1, strict.2.resolve_right (not_not.2 leads)⟩
  · obtain ⟨m, hm, long⟩ : ∃ m ∈ (bill gauges due).map Reading.toMetric, ¬ m.Short := by
      simpa only [not_forall, exists_prop] using short
    refine carries_of_unread leads rfl rfl accepted ?_
    rw [updates, Snapshot.ofBytes_long none hm long]
    rfl

end Agent.Client
end Telemetry
