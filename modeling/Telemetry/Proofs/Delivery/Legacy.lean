import Telemetry.Proofs.Collector.Signed
import Telemetry.Proofs.Delivery.Agreement
import Telemetry.Proofs.Delivery.Plain

/-!
# Records in either form

A record may be sent in the path of a request or in JSON.  Both requests are for the same update
(`respond_plainRequest`, `respond_singleRequest`), so they are answered alike and leave the store in
the same state, if the name arrives as one part of the path, and if the path can be asked for at all
(`formsAgree_iff`).  Names with a slash in them and names of dots do not arrive
(`not_formsAgree_of_slash`).
-/

namespace Telemetry

open Dialogue Http
open Store (Lawful)
open Ingest (callOf)

/-! ### Updates of a store that does not fail -/

namespace Ingest

variable {S : Lawful} {s : S.State}

/-- An update out of range is refused. -/
theorem run_apply_refused (unfailing : S.Unfailing) {m : Metric} {r : Reading} {e : Store.Error}
    (valid : m.reading = .ok r) (effect : (callOf r).effect (S.contents s) = .error e) :
    (run S.answer (apply m) s).1 = .failure (.invalid (.overflow m.id)) := by
  have text : apply m = (update r).andThen fun _ => stateAfter r := by
    rw [apply, valid]
  obtain ⟨rfl, sound⟩ := Metric.toMetric_of_reading valid
  have taken := S.updated r s sound
  have fails := unfailing r s
  rw [text, Dialogue.andThen, update_bind, run_ask]
  generalize S.answer (callOf r) s = result at taken fails
  obtain ⟨outcome, s'⟩ := result
  dsimp only at taken fails ⊢
  generalize S.contents s' = after at taken
  cases taken with
  | done h => cases h.symm.trans effect
  | astray h => cases h.symm.trans effect
  | failed e' =>
    cases r with
    | gauge name value => cases effect
    | counter name amount =>
      obtain ⟨-, rfl⟩ := Store.setCounter_checked_error (fails e' sound rfl)
      rfl

/-- A record is applied, or its counter would leave its range. -/
theorem run_apply_unfailing (unfailing : S.Unfailing) {m : Metric} {r : Reading}
    (valid : m.reading = .ok r) (s : S.State) :
    (∃ stored, (run S.answer (apply m) s).1 = .value stored ∧
        ∀ name value, stored = .gauge name value → value.isFinite = true) ∨
      (run S.answer (apply m) s).1 = .failure (.invalid (.overflow m.id)) := by
  cases effect : (callOf r).effect (S.contents s) with
  | error e => exact .inr (run_apply_refused unfailing valid effect)
  | ok after =>
    obtain ⟨s', stored, -, same, hrun, -⟩ := run_apply_taken unfailing valid effect
    refine .inl ⟨stored, by rw [hrun], fun name value h => ?_⟩
    have sound := (Metric.toMetric_of_reading valid).2
    rw [← same name value h, h] at sound
    exact sound.2

end Ingest

/-! ### What the parts of a path denote -/

namespace Agent.Client

open Collector

/-- **The parts of a path denote the record that they were made of.** -/
theorem plainReading_of_sound {r : Reading} (sound : r.Sound) :
    plainReading r.kind.word r.name (plainValue r.toMetric) = .ok r.toMetric := by
  rw [plainReading, Kind.ofWord?_lower_word]
  cases r with
  | gauge name value =>
    have text : plainValue (Reading.gauge name value).toMetric = value.toText := rfl
    dsimp only [Reading.kind, Reading.name]
    rw [text, Numeral.anyDouble?_toText sound.2]
  | counter name n =>
    have text : plainValue (Reading.counter name n).toMetric = Text.ofInt n := rfl
    have short : (Nat.toDigits 10 n.natAbs).length ≤ Numeral.maxDigits :=
      isShort_of_inRange sound.2
    dsimp only [Reading.kind, Reading.name]
    rw [text, Numeral.anyInt?_ofInt, if_neg (Nat.not_lt.2 short)]

variable {client : Client} {server : Server} {m : Metric} {r : Reading}

/-- The request of a well-formed record leads to its update, or nowhere. -/
theorem ofPath?_plainRequest_of_valid (root : client.url.IsRoot) (valid : m.reading = .ok r) :
    Route.ofPath? (client.plainRequest m).arrived.path
      = if Routable client.url m.id then some (.plainUpdate r.kind.word r.name (plainValue m))
        else none := by
  obtain ⟨rfl, -⟩ := Metric.toMetric_of_reading valid
  cases r with
  | gauge name value => exact ofPath?_plainRequest root rfl (.inr nofun)
  | counter name n => exact ofPath?_plainRequest root rfl (.inl nofun)

/-- A record in the plain form is applied, if it arrives. -/
theorem respond_plainRequest (server : Server) (root : client.url.IsRoot)
    (valid : m.reading = .ok r) (routable : Routable client.url m.id) :
    respond server (client.plainRequest m).arrived = Ingest.apply m >>= fun outcome =>
      pure (sent (client.plainRequest m).arrived (afterPlain outcome)) := by
  have leads := ofPath?_plainRequest_of_valid root valid
  obtain ⟨rfl, sound⟩ := Metric.toMetric_of_reading valid
  rw [if_pos routable] at leads
  exact respond_plainUpdate leads rfl (plainReading_of_sound sound)

/-- A record in JSON is applied by a collector without a key. -/
theorem respond_singleRequest (root : client.url.IsRoot) (keyless : server.guard.enabled = false)
    (valid : m.reading = .ok r) :
    respond server (client.singleRequest m).arrived = Ingest.apply m >>= fun outcome =>
      pure (sent (client.singleRequest m).arrived (afterSingle server.guard outcome)) := by
  have accepted : payload server.guard (client.singleRequest m).arrived
      = .ok (Utf8.encode (m.toJson.toText .spaced)) := by
    rw [singleRequest, payload_postJson, checkSignature_of_disabled keyless]
    rfl
  have read := Metric.ofBytes_spaced (Metric.sayable_of_reading valid).delta
  exact respond_update (ofPath?_singleRequest root m) rfl accepted read

end Agent.Client

/-! ### Both forms -/

/-- **Two answers that say the same** of a record in the plain form and in JSON: that it has been
applied, or that its counter would leave its range. -/
inductive Collector.SameAnswer (name : String) (plain single : Request) : Response → Response → Prop
  | applied (stored : Reading) :
      SameAnswer name plain single ((Response.plain 200 "OK").encoded plain)
        ((Response.json 200 stored.toMetric.toJson).encoded single)
  | refused :
      SameAnswer name plain single
        ((Response.plain 400 (Invalid.overflow name).message).encoded plain)
        ((Response.detail 400 (Invalid.overflow name).message).encoded single)

/-- What comes of a record is answered alike. -/
theorem Collector.sameAnswer {guard : Guard} (keyless : guard.enabled = false) {name : String}
    {outcome : Outcome Ingest.Error Reading}
    (h : (∃ stored, outcome = .value stored ∧
        ∀ name value, stored = .gauge name value → value.isFinite = true) ∨
      outcome = .failure (.invalid (.overflow name))) (plain single : Request) :
    SameAnswer name plain single (sent plain (afterPlain outcome))
      (sent single (afterSingle guard outcome)) := by
  have unsigned (body : Json) : signed guard body = .json 200 body := by
    rw [signed, Guard.sign, if_neg (by simp [keyless])]
  obtain ⟨stored, rfl, finite⟩ | rfl := h
  · have answered : signedReading? guard stored = some (.json 200 stored.toMetric.toJson) := by
      cases stored with
      | gauge name value => rw [signedReading?, if_pos (finite name value rfl), unsigned]
      | counter => rw [signedReading?, unsigned]
    rw [afterSingle, answered]
    exact .applied stored
  · exact .refused

/-- Such answers have one of two statuses. -/
theorem Collector.SameAnswer.status {name : String} {plain single : Request} {r r' : Response}
    (h : SameAnswer name plain single r r') : r.status = 200 ∨ r.status = 400 := by
  cases h with
  | applied => exact .inl (status_encoded plain _)
  | refused => exact .inr (status_encoded plain _)

namespace Agent.Client

open Collector

/-- **A record comes to the same in both forms**: in the plain form at a collector, and in JSON at
another one, where both have the same store. -/
structure FormsAgree (S : Lawful) (s : S.State) (client : Client) (server server' : Server)
    (m : Metric) : Prop where
  /-- The path is not too long to be asked for. -/
  sendable : (plainPath m).length ≤ Url.maxLength
  answers : SameAnswer m.id (client.plainRequest m).arrived (client.singleRequest m).arrived
    (run S.answer (respond server (client.plainRequest m).arrived) s).1
    (run S.answer (respond server' (client.singleRequest m).arrived) s).1
  state : (run S.answer (respond server (client.plainRequest m).arrived) s).2
    = (run S.answer (respond server' (client.singleRequest m).arrived) s).2

section

variable {S : Lawful} {client : Client} {server server' : Server} {m : Metric} {r : Reading}

/-- A name that arrives as one part of a path makes no difference. -/
theorem formsAgree_of_routable (root : client.url.IsRoot) (keyless : server'.guard.enabled = false)
    (unfailing : S.Unfailing) (valid : m.reading = .ok r) (routable : Routable client.url m.id)
    (sendable : (plainPath m).length ≤ Url.maxLength) (s : S.State) :
    FormsAgree S s client server server' m := by
  have plain := respond_plainRequest server root valid routable
  have single := respond_singleRequest root keyless valid
  constructor
  · exact sendable
  · rw [plain, single, run_bind_pure, run_bind_pure]
    exact sameAnswer keyless (Ingest.run_apply_unfailing unfailing valid s) _ _
  · rw [plain, single, run_bind_pure, run_bind_pure]

/-- A name that does not arrive as one part of a path leads nowhere. -/
theorem FormsAgree.routable (root : client.url.IsRoot) (valid : m.reading = .ok r) {s : S.State}
    (h : FormsAgree S s client server server' m) : Routable client.url m.id := by
  by_contra lost
  have leads := ofPath?_plainRequest_of_valid root valid
  rw [if_neg lost] at leads
  obtain ⟨response, responds, status⟩ := respond_of_lost server leads
  have answers := h.answers
  rw [responds] at answers
  rcases answers.status with ok | ok <;> rcases status with other | other <;>
    cases other.symm.trans ok

end

end Agent.Client

open Agent Collector in
/-- **A record comes to the same in both forms** where nothing fails and JSON needs no key, whatever
its name is, exactly if the name arrives as one part of a path and the path is not too long: if it has
no slash and is not taken for dots. -/
theorem formsAgree_iff {client : Client} (root : client.url.IsRoot) (server : Server)
    {server' : Server} (keyless : server'.guard.enabled = false) {S : Lawful}
    (unfailing : S.Unfailing) {m : Metric} {r : Reading} (valid : m.reading = .ok r) (s : S.State) :
    Client.FormsAgree S s client server server' m ↔
      Client.Routable client.url m.id ∧ (Client.plainPath m).length ≤ Url.maxLength := by
  constructor
  · exact fun h => ⟨h.routable root valid, h.sendable⟩
  · rintro ⟨routable, sendable⟩
    exact Client.formsAgree_of_routable root keyless unfailing valid routable sendable s

open Agent Collector in
/-- The case of a name with a space, a question mark, a percent sign and a letter beyond ASCII. -/
theorem formsAgree_of_odd_name :
    let client : Client := ⟨⟨"http", true, "collector", some 8080, [], none⟩, .ofKey none⟩
    let server : Server := ⟨.ofKey none, .continue⟩
    let m := (Reading.counter "π ?%2F" 3).toMetric
    client.url.IsRoot ∧ server.guard.enabled = false ∧ (Lawful.ofRefusing []).Unfailing ∧
      m.reading = .ok (.counter "π ?%2F" 3) ∧
      Client.FormsAgree (Lawful.ofRefusing []) ⟨.empty, ()⟩ client server server m := by
  intro client server m
  have root : client.url.IsRoot := rfl
  have keyless : server.guard.enabled = false := rfl
  have unfailing := Lawful.unfailing_ofRefusing_nil
  have valid : m.reading = .ok (.counter "π ?%2F" 3) := rfl
  have agree := formsAgree_iff root server keyless unfailing valid ⟨.empty, ()⟩
  exact ⟨root, keyless, unfailing, valid, agree.2 ⟨by decide, by decide +kernel⟩⟩

open Agent Collector in
/-- A name with a slash makes too many parts of a path, and in JSON it is a name like any other. -/
theorem not_formsAgree_of_slash :
    let client : Client := ⟨⟨"http", true, "collector", some 8080, [], none⟩, .ofKey none⟩
    let server : Server := ⟨.ofKey none, .continue⟩
    let m := (Reading.gauge "a/b" .zero).toMetric
    client.url.IsRoot ∧ (Lawful.ofRefusing []).Unfailing ∧ m.reading = .ok (.gauge "a/b" .zero) ∧
      ¬ Client.FormsAgree (Lawful.ofRefusing []) ⟨.empty, ()⟩ client server server m := by
  intro client server m
  have root : client.url.IsRoot := rfl
  have valid : m.reading = .ok (.gauge "a/b" .zero) := rfl
  refine ⟨root, Lawful.unfailing_ofRefusing_nil, valid, fun h => ?_⟩
  have noSlash : '/' ∉ "a/b".toList := (h.routable root valid).noSlash
  exact noSlash (by decide)

end Telemetry
