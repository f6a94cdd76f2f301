import Telemetry.Proofs.Collector.ReadBack
import Telemetry.Proofs.Delivery.Plain
import Telemetry.Proofs.Double.Number

/-!
# Plain texts written back

A plain text is a part of a path, whatever the value is, and the update that is read from the path
has the same number.  So what a query for a gauge is answered with can be posted as an update of the
same gauge, and then the gauge is the number that it was, whether or not the update is saved
(`plainText_lossless`).
-/

namespace Telemetry

open Dialogue Http
open Store (AtWork)

/-! ### Offers of gauges -/

namespace Ingest

variable {name : String} {y : Double}

/-- A gauge is taken unless it is not saved, or goes astray. -/
theorem taken_gauge_iff (sound : (Reading.gauge name y).Sound) (store : AtWork) :
    (offer store (.gauge name y)).1 = .value () ↔
      ¬ (exchange store (.gauge name y)).Unsaved ∧ ¬ (exchange store (.gauge name y)).Astray := by
  have unsaved : (exchange store (.gauge name y)).Unsaved
      ↔ ∃ fault, (offer store (.gauge name y)).1 = .failure (.storage fault) := Iff.rfl
  have astray : (exchange store (.gauge name y)).Astray
      ↔ (offer store (.gauge name y)).1 = .failure Store.File.nowhere := Iff.rfl
  rw [unsaved, astray]
  have becomes := offered store sound
  generalize offer store (.gauge name y) = result at becomes
  obtain ⟨outcome, after⟩ := result
  cases becomes with
  | stored | unsaved | astray => simp
  | refused counter => cases counter

/-- An update of a gauge asks its store once. -/
theorem transcript_apply_gauge {m : Metric} (valid : m.reading = .ok (.gauge name y))
    (store : AtWork) :
    AtWork.transcript (apply m) store = [exchange store (.gauge name y)] := by
  rw [apply, valid]
  dsimp only
  rw [Dialogue.andThen, transcript_update]
  cases (offer store (.gauge name y)).1 <;> rfl

end Ingest

namespace Collector

/-! ### Parts of a path -/

namespace Route

/-- A text that a parameter of a path may be. -/
structure IsParameter (s : String) : Prop where
  nonempty : s ≠ ""
  noSlash : '/' ∉ s.toList

/-- The parts between slashes have no slashes. -/
theorem noSlash_of_mem_splitOn {cs part : List Char} (h : part ∈ cs.splitOn '/') : '/' ∉ part := by
  induction cs generalizing part with
  | nil =>
    rw [List.splitOn_nil] at h
    rw [List.mem_singleton.1 h]
    exact List.not_mem_nil
  | cons c rest ih =>
    rw [List.splitOn_cons_eq_if_modifyHead] at h
    split at h
    next =>
      rcases List.mem_cons.1 h with rfl | h
      · exact List.not_mem_nil
      · exact ih h
    next other =>
      obtain ⟨first, more, split⟩ := List.exists_cons_of_ne_nil (List.splitOn_ne_nil '/' rest)
      rw [split] at h ih
      rw [List.modifyHead_cons] at h
      rcases List.mem_cons.1 h with rfl | h
      · have ne : '/' ≠ c := fun same => other (beq_iff_eq.2 same.symm)
        rw [List.mem_cons, not_or]
        exact ⟨ne, ih List.mem_cons_self⟩
      · exact ih (List.mem_cons_of_mem _ h)

theorem parts_of_plainRead {parts : List String} {word name : String}
    (leads : ofParts? parts = some (.plainRead word name)) :
    parts = ["", "value", word, name] ∧ word ≠ "" ∧ name ≠ "" := by
  unfold ofParts? at leads
  split at leads
  next => split_ifs at leads <;> cases leads
  next => split_ifs at leads; cases leads
  next kind id =>
    split_ifs at leads with named
    cases leads
    exact ⟨rfl, by simpa using named⟩
  next => cases leads

/-- **What a query in a path is for is a parameter.** -/
theorem isParameter_of_plainRead {path word name : String}
    (leads : ofPath? path = some (.plainRead word name)) :
    IsParameter word ∧ IsParameter name := by
  obtain ⟨parts, hword, hname⟩ := parts_of_plainRead leads
  have noSlash {s : String} (h : s ∈ ["", "value", word, name]) : '/' ∉ s.toList := by
    rw [← parts] at h
    obtain ⟨part, mem, rfl⟩ := List.mem_map.1 h
    rw [String.toList_ofList]
    exact noSlash_of_mem_splitOn mem
  exact ⟨⟨hword, noSlash (by simp)⟩, ⟨hname, noSlash (by simp)⟩⟩

/-- **Parameters make the path of an update.** -/
theorem ofPath?_plainUpdate {word name text : String} (hword : IsParameter word)
    (hname : IsParameter name) (htext : IsParameter text) :
    ofPath? ("/update/" ++ word ++ "/" ++ name ++ "/" ++ text)
      = some (.plainUpdate word name text) := by
  have path : ("/update/" ++ word ++ "/" ++ name ++ "/" ++ text).toList
      = ['/'].intercalate [[], "update".toList, word.toList, name.toList, text.toList] := by
    simp [List.intercalate]
  have noSlash : ∀ part ∈ [[], "update".toList, word.toList, name.toList, text.toList],
      '/' ∉ part := by
    simp [hword.noSlash, hname.noSlash, htext.noSlash]
  rw [ofPath?, path, List.splitOn_intercalate '/' noSlash (List.cons_ne_nil _ _)]
  have named : (word ≠ "" && name ≠ "" && text ≠ "") = true := by
    simp [hword.nonempty, hname.nonempty, htext.nonempty]
  simp only [List.map_cons, List.map_nil, String.ofList_toList]
  exact if_pos named

/-- **A plain text is a part of a path**, whatever the value is. -/
theorem isParameter_toPlain (x : Double) : IsParameter x.toPlain := by
  constructor
  · intro empty
    obtain ⟨y, read, -⟩ := x.exists_sameNumber_of_toPlain
    rw [empty] at read
    cases read
  · rw [Double.toPlain]
    split
    next i _ =>
      split
      next => exact (Url.isSegment_ofInt i).noSlash
      next => exact (Url.isSegment_toText x).noSlash
    next => exact (Url.isSegment_toText x).noSlash

end Route

/-! ### Readings in a path -/

variable {server : Server} {request query : Request} {word name : String} {x : Double}

/-- A gauge whose plain text stands in a path is the same number. -/
theorem plainReading_toPlain (gauge : Kind.ofWord? (Text.lower word) = some .gauge) (name : String)
    (x : Double) : ∃ y : Double, y.SameNumber x ∧
      plainReading word name x.toPlain = .ok (Reading.gauge name y).toMetric := by
  obtain ⟨y, read, same⟩ := x.exists_sameNumber_of_toPlain
  refine ⟨y, same, ?_⟩
  rw [plainReading, gauge]
  dsimp only
  rw [read]

/-- A counter whose amount stands in a path has that amount. -/
theorem plainReading_ofInt (counter : Kind.ofWord? (Text.lower word) = some .counter)
    (name : String) {amount : Int} (range : InRange amount) :
    plainReading word name (Text.ofInt amount) = .ok (Reading.counter name amount).toMetric := by
  have short := isShort_of_inRange range
  rw [plainReading, counter]
  dsimp only
  rw [Numeral.anyInt?_ofInt, if_neg (Nat.not_lt.2 short)]

/-! ### Queries -/

/-- **A query for what is stored is answered with its plain text**, and the store stays as it is. -/
theorem run_plainRead {kind : Kind} {r : Reading}
    (leads : Route.ofPath? query.path = some (.plainRead word name)) (method : query.method = "GET")
    (known : Kind.ofWord? (Text.lower word) = some kind) {store : AtWork}
    (stored : store.contents.find? name kind = some r) :
    run AtWork.answer (respond server query) store
      = ((Response.plain 200 r.toPlain).encoded query, store) := by
  have handled : run AtWork.answer (handle server query) store
      = (some (.plain 200 r.toPlain), store) := by
    rw [handle_route leads method]
    show run AtWork.answer (plainRead word name) store = _
    rw [plainRead, known]
    dsimp only
    rw [run_bind, Ingest.run_read, stored]
    rfl
  rw [respond_eq, run_bind, handled]
  rfl

/-! ### Updates -/

/-- A gauge is still the number that it was, and nothing else has changed. -/
structure SetBack (name : String) (x : Double) (before after : Contents) : Prop where
  gauge : ∃ y : Double, y.SameNumber x ∧ after.gauges.get? name = some y
  others : ∀ (other : String) (kind : Kind), (other, kind) ≠ (name, .gauge) →
    after.find? other kind = before.find? other kind

theorem SetBack.refl {c : Contents} (stored : c.gauges.get? name = some x) :
    SetBack name x c c where
  gauge := ⟨x, .inl rfl, stored⟩
  others _ _ _ := rfl

/-- A gauge is set to the number that it was. -/
theorem setBack_of_effect {y : Double} {c after : Contents} (same : y.SameNumber x)
    (effect : (Ingest.callOf (.gauge name y)).effect c = .ok after) :
    SetBack name x c after where
  gauge := by
    cases effect
    exact ⟨y, same, Table.get?_put_self _ _ _⟩
  others other kind ne := Ingest.find?_of_effect_ne effect ne

/-- Whatever becomes of a gauge that is offered as the number that it was, it still is. -/
theorem setBack_offer {y : Double} (same : y.SameNumber x) (sound : (Reading.gauge name y).Sound)
    {store : AtWork} (stored : store.contents.gauges.get? name = some x) :
    SetBack name x store.contents (Ingest.offer store (.gauge name y)).2.contents := by
  have becomes := Ingest.offered store sound
  generalize Ingest.offer store (.gauge name y) = result at becomes
  obtain ⟨outcome, after⟩ := result
  cases becomes with
  | stored effect | astray effect => exact setBack_of_effect same effect
  | refused => exact .refl stored
  | unsaved fault effect kept =>
    rw [kept]
    exact .refl stored

/-- **What is posted by its plain text is the number that it was.**  It is accepted if it is finite
and saved. -/
theorem setBack_of_plainUpdate
    (leads : Route.ofPath? request.path = some (.plainUpdate word name x.toPlain))
    (method : request.method = "POST") (gauge : Kind.ofWord? (Text.lower word) = some .gauge)
    (named : name ≠ "") {store : AtWork} (stored : store.contents.gauges.get? name = some x) :
    SetBack name x store.contents (run AtWork.answer (respond server request) store).2.contents ∧
      ((run AtWork.answer (respond server request) store).1.status = 200 ↔ x.isFinite = true ∧
        ∀ e ∈ AtWork.transcript (respond server request) store, ¬ e.Unsaved ∧ ¬ e.Astray) := by
  obtain ⟨y, same, read⟩ := plainReading_toPlain gauge name x
  rw [respond_plainUpdate leads method read, run_bind, AtWork.transcript_bind, ← same.isFinite]
  show SetBack name x store.contents (run AtWork.answer (Ingest.apply _) store).2.contents ∧
    ((sent request (afterPlain (run AtWork.answer (Ingest.apply _) store).1)).status = 200
      ↔ _ ∧ ∀ e ∈ _ ++ [], ¬ Store.Exchange.Unsaved e ∧ ¬ Store.Exchange.Astray e)
  rw [status_plainUpdate, List.append_nil]
  cases finite : y.isFinite with
  | false =>
    -- What is not finite is refused before the store is asked.
    have refused : Ingest.apply (Reading.gauge name y).toMetric
        = .done (.failure (.invalid (.nonFiniteValue name))) := by
      simp only [Ingest.apply, Metric.reading, Reading.toMetric, Metric.kind?, Kind.ofWord?_word,
        named, finite, if_false, Bool.false_eq_true]
      rfl
    rw [refused]
    exact ⟨.refl stored, by simp [run]⟩
  | true =>
    have sound : (Reading.gauge name y).Sound := ⟨named, finite⟩
    have valid := Metric.reading_toMetric sound
    have taken := Ingest.taken_gauge_iff sound store
    rw [Ingest.transcript_apply_gauge valid, Ingest.run_apply valid, List.forall_mem_singleton,
      ← taken]
    have setBack := setBack_offer same sound stored
    cases (Ingest.offer store (.gauge name y)).1 with
    | value | failure | cancelled => exact ⟨setBack, by simp⟩

/-! ### There and back -/

/-- A gauge is asked for in a path, and what is answered may be posted for it. -/
structure RoundTrip (server : Server) (query : Request) (word name : String) (x : Double)
    (store : AtWork) (text : String) : Prop where
  status : (run AtWork.answer (respond server query) store).1.status = 200
  content : let response := (run AtWork.answer (respond server query) store).1
    (Http.content? response.headers response.body).bind Utf8.decode? = some text
  /-- The query leaves the store as it is. -/
  kept : (run AtWork.answer (respond server query) store).2 = store
  /-- The text can be posted. -/
  path : Route.ofPath? ("/update/" ++ word ++ "/" ++ name ++ "/" ++ text)
    = some (.plainUpdate word name text)
  /-- Whoever posts the text for the gauge leaves it the number that it was. -/
  back : ∀ (request : Request) (spelling : String),
    Route.ofPath? request.path = some (.plainUpdate spelling name text) →
    request.method = "POST" → Kind.ofWord? (Text.lower spelling) = some .gauge →
    SetBack name x store.contents (run AtWork.answer (respond server request) store).2.contents ∧
      ((run AtWork.answer (respond server request) store).1.status = 200 ↔ x.isFinite = true ∧
        ∀ e ∈ AtWork.transcript (respond server request) store, ¬ e.Unsaved ∧ ¬ e.Astray)

/-- **Plain texts lose nothing.**  That of a gauge is read as the same number, and that of a counter
as its amount; two gauges have one plain text exactly if they are the same number.  So the answer to
a query for a gauge can be posted back, and the gauge stays the number that it was. -/
theorem plainText_lossless (server : Server)
    (leads : Route.ofPath? query.path = some (.plainRead word name)) (method : query.method = "GET")
    (gauge : Kind.ofWord? (Text.lower word) = some .gauge) (store : AtWork)
    (stored : store.contents.gauges.get? name = some x) :
    (∀ value : Double, ∃ y : Double, y.SameNumber value ∧
      plainReading word name value.toPlain = .ok (Reading.gauge name y).toMetric) ∧
    (∀ value other : Double, value.toPlain = other.toPlain ↔ value.SameNumber other) ∧
    (∀ (spelling id : String) (amount : Int),
      Kind.ofWord? (Text.lower spelling) = some .counter → InRange amount →
        plainReading spelling id (Reading.counter id amount).toPlain
          = .ok (Reading.counter id amount).toMetric) ∧
    RoundTrip server query word name x store x.toPlain := by
  obtain ⟨hword, hname⟩ := Route.isParameter_of_plainRead leads
  have found : store.contents.find? name .gauge = some (.gauge name x) := by
    rw [Contents.find?, stored]
    rfl
  have answered : run AtWork.answer (respond server query) store
      = ((Response.plain 200 (Reading.gauge name x).toPlain).encoded query, store) :=
    run_plainRead leads method gauge found
  refine ⟨plainReading_toPlain gauge name, fun value other => ?_, fun spelling id amount => ?_, ?_⟩
  · rw [Double.toPlain_eq_iff, Double.sameNumber_iff]
  · intro counter range
    exact plainReading_ofInt counter id range
  · constructor
    · rw [answered]
      exact status_encoded query _
    · rw [answered]
      dsimp only
      have plain : (Response.plain 200 (Reading.gauge name x).toPlain).headers.value?
          "content-encoding" = none := by
        show Headers.value? [("content-type", "text/plain; charset=utf-8")] _ = none
        decide
      rw [Response.content?_encoded plain]
      exact Utf8.decode?_encode _
    · rw [answered]
    · exact Route.ofPath?_plainUpdate hword hname (Route.isParameter_toPlain x)
    · intro request spelling posted post known
      exact setBack_of_plainUpdate posted post known hname.nonempty stored

/-- Negative zero is answered as zero, and it is zero without a sign that is posted back. -/
theorem plainText_lossless_of_negativeZero :
    let server : Server := ⟨.ofKey none, .continue⟩
    let query : Request := ⟨"GET", "/value/Gauge/a b", [], [], "localhost"⟩
    let x : Double := Double.zero.negate
    let store : AtWork := .memory ⟨Contents.empty.setGauge "a b" x, ()⟩
    Route.ofPath? query.path = some (.plainRead "Gauge" "a b") ∧ query.method = "GET" ∧
      Kind.ofWord? (Text.lower "Gauge") = some .gauge ∧
      store.contents.gauges.get? "a b" = some x ∧ x.toPlain = "0" ∧
      RoundTrip server query "Gauge" "a b" x store "0" := by
  intro server query x store
  have leads : Route.ofPath? query.path = some (.plainRead "Gauge" "a b") := by decide
  have gauge : Kind.ofWord? (Text.lower "Gauge") = some .gauge := by decide
  have text : x.toPlain = "0" := by decide +kernel
  have stored : store.contents.gauges.get? "a b" = some x := rfl
  obtain ⟨-, -, -, roundTrip⟩ := plainText_lossless server leads rfl gauge store stored
  rw [text] at roundTrip
  exact ⟨leads, rfl, gauge, stored, text, roundTrip⟩

end Collector
end Telemetry
