import Mathlib.Data.List.Induction
import Telemetry.Proofs.Store.File.Restore

/-!
# The records that a store is opened with

Updates are checked, but the records of the file are taken over as they are.  A record stands
unless a later one of the same metric is taken over (`mem_snapshot_restore`), and well-formed
updates put nothing but well-formed readings in its place (`Call.descends_effect`).  So whatever a
store lists after them is well formed or stands in the file, and it lists only what is well formed
exactly if all that stands in the file is (`listsSound_iff`).
-/

namespace Telemetry

/-! ### What is taken over -/

/-- What a record says to a store that takes it over. -/
def Metric.taken? (m : Metric) : Option Reading :=
  match m.kind?, m.value, m.delta with
  | some .gauge, some value, _ => some (.gauge m.id value)
  | some .counter, _, some amount => some (.counter m.id amount)
  | _, _, _ => none

/-- The metric that a reading is of. -/
def Reading.subject (r : Reading) : Kind × String := (r.kind, r.name)

/-- A reading that no later one of the same metric replaces. -/
def Stands (rs : List Reading) (r : Reading) : Prop :=
  ∃ before after, rs = before ++ r :: after ∧ ∀ s ∈ after, s.subject ≠ r.subject

theorem not_stands_nil (r : Reading) : ¬ Stands [] r := by
  rintro ⟨before, after, h, -⟩
  simp at h

theorem stands_append {rs : List Reading} {s r : Reading} :
    Stands (rs ++ [s]) r ↔ r = s ∨ Stands rs r ∧ r.subject ≠ s.subject := by
  constructor
  · rintro ⟨before, after, h, last⟩
    rcases List.eq_nil_or_concat after with rfl | ⟨after, s', rfl⟩
    · have same : [s] = [r] := List.append_inj_right' h rfl
      exact .inl (List.singleton_inj.1 same).symm
    · have h' : rs ++ [s] = (before ++ r :: after) ++ [s'] := by simpa using h
      obtain ⟨rfl, hs⟩ := List.append_inj' h' rfl
      cases hs
      refine .inr ⟨⟨before, after, rfl, fun t ht => last t (by simp [ht])⟩, ?_⟩
      exact (last s (by simp)).symm
  · rintro (rfl | ⟨⟨before, after, rfl, last⟩, ne⟩)
    · exact ⟨rs, [], rfl, nofun⟩
    · refine ⟨before, after ++ [s], by simp, fun t ht => ?_⟩
      rcases List.mem_append.1 ht with ht | ht
      · exact last t ht
      · rw [List.mem_singleton.1 ht]
        exact ne.symm

namespace Contents

/-- Put what a reading says. -/
def put (c : Contents) : Reading → Contents
  | .gauge name value => c.setGauge name value
  | .counter name amount => c.setCounter name amount

theorem accept_eq (c : Contents) (m : Metric) : c.accept m = m.taken?.elim c c.put := by
  obtain ⟨id, type, delta, value⟩ := m
  unfold accept Metric.taken?
  generalize Metric.kind? _ = kind
  cases value <;> cases delta <;> rcases kind with - | - | - <;> rfl

theorem restore_eq (c : Contents) (records : List Metric) :
    c.restore records = (records.filterMap Metric.taken?).foldl put c := by
  induction records generalizing c with
  | nil => rfl
  | cons m records ih =>
    have first : c.restore (m :: records) = (c.accept m).restore records := rfl
    rw [first, ih, accept_eq, List.filterMap_cons]
    cases m.taken? <;> rfl

/-- **A snapshot lists what was put last, and what it listed of other metrics.** -/
theorem mem_snapshot_put {c : Contents} {s r : Reading} :
    r ∈ (c.put s).snapshot ↔ r = s ∨ r ∈ c.snapshot ∧ r.subject ≠ s.subject := by
  cases s <;> cases r <;>
    simp only [put, setGauge, setCounter, mem_snapshot_gauge, mem_snapshot_counter,
      Table.get?_put, Reading.subject, Reading.kind, Reading.name]
  case gauge.gauge name value other value' =>
    by_cases h : name = other <;> simp [h, eq_comm]
  case counter.counter name amount other amount' =>
    by_cases h : name = other <;> simp [h, eq_comm]
  all_goals simp

theorem not_mem_snapshot_empty (r : Reading) : r ∉ empty.snapshot := by
  rw [snapshot_empty]
  exact List.not_mem_nil

/-- **Exactly the readings that stand are listed** of records that are taken over. -/
theorem mem_snapshot_restore {records : List Metric} {r : Reading} :
    r ∈ (empty.restore records).snapshot ↔ Stands (records.filterMap Metric.taken?) r := by
  rw [restore_eq]
  generalize records.filterMap Metric.taken? = taken
  -- The induction goes from the end, where the readings are that stand.
  induction taken using List.reverseRecOn generalizing r with
  | nil => exact iff_of_false (not_mem_snapshot_empty r) (not_stands_nil r)
  | append_singleton rs s ih =>
    rw [List.foldl_append, stands_append, List.foldl_cons, List.foldl_nil, mem_snapshot_put, ih]

end Contents

namespace Store

/-! ### Well-formed updates -/

/-- The reading that an update passes on. -/
def Call.reading? : Call → Option Reading
  | .updateGauge name value => some (.gauge name value)
  | .updateCounter name delta => some (.counter name delta)
  | .setCounter name value => some (.counter name value)
  | _ => none

/-- What an update passes on is what a well-formed record says. -/
def Call.Valid (call : Call) : Prop := ∀ r ∈ call.reading?, r.toMetric.reading = .ok r

/-- Whatever is listed of contents was listed of others before, or is well formed. -/
def Descends (c d : Contents) : Prop := ∀ r ∈ d.snapshot, r ∈ c.snapshot ∨ r.Sound

theorem Descends.refl (c : Contents) : Descends c c := fun _ h => .inl h

theorem Descends.trans {c d e : Contents} (h : Descends c d) (h' : Descends d e) :
    Descends c e := by
  intro r hr
  rcases h' r hr with hr | sound
  · exact h r hr
  · exact .inr sound

theorem descends_put {c : Contents} {s : Reading} (sound : s.Sound) : Descends c (c.put s) := by
  intro r hr
  rcases Contents.mem_snapshot_put.1 hr with rfl | ⟨hr, -⟩
  · exact .inr sound
  · exact .inl hr

/-- **A well-formed update puts a well-formed reading**: a new sum is checked as well. -/
theorem Call.descends_effect {call : Call} (valid : call.Valid) {c after : Contents}
    (h : call.effect c = .ok after) : Descends c after := by
  have sound {r : Reading} (hr : call.reading? = some r) : r.Sound :=
    (Metric.toMetric_of_reading (valid r hr)).2
  cases call with
  | updateGauge name value =>
    cases h
    exact descends_put (sound rfl)
  | updateCounter name delta =>
    obtain ⟨range, rfl⟩ := setCounter_checked h
    have named : name ≠ "" := (sound rfl).1
    exact descends_put (s := .counter name (c.total name + delta)) ⟨named, range⟩
  | setCounter name value =>
    obtain ⟨range, rfl⟩ := setCounter_checked h
    exact descends_put (sound rfl)
  | getGauge | getCounter | getAll | save | ping =>
    cases h
    exact .refl c

namespace File

open Dialogue

/-! ### On any medium -/

/-- Nothing is known of what may come of a step. -/
def anyhow (ω : Type) (s : Step) (_ : World ω) (_ : s.Answer) (_ : ω) : Prop := True

variable {ω : Type} {config : Config} {w : World ω}

theorem asks_inTurn {p : Question Step → Prop} {ε α : Type}
    {body : Doing Step.Answer (Outcome ε α)} (h : body.Asks p) (takes : p .takeTurn)
    (ends : p .endTurn) : (inTurn body).Asks p := by
  refine asks_bind ⟨takes, fun _ => trivial⟩ fun turn => ?_
  cases turn with
  | false => trivial
  | true => exact asks_bind h fun _ => asks_bind ⟨ends, fun _ => trivial⟩ fun _ => trivial

/-- A question that leaves the contents alone. -/
def Spares (q : Question Step) : Prop := ∀ c, q ≠ .setContents c

theorem spares_step {q : Question Step} (h : ∃ s, q = .step s) : Spares q := by
  obtain ⟨s, rfl⟩ := h
  nofun

theorem asks_write (path : Path) (c : Contents) : (write path c).Asks Spares := by
  refine asks_bind ((asks_take .token).mono fun _ => spares_step) fun token => ?_
  exact asks_inTurn ((asks_place _ _ _).mono fun _ => spares_step) nofun nofun

theorem asks_writeNowhere (path : Path) : (writeNowhere path).Asks Spares := by
  refine asks_inTurn ?_ nofun nofun
  refine asks_bind ((asks_take _).mono fun _ => spares_step) fun made => ?_
  cases made <;> trivial

/-- A write does not touch the contents. -/
theorem always_anyhow_of_asks {α : Type} {d : Doing Step.Answer α} (asks : d.Asks Spares) :
    Always (within (anyhow ω)) (fun w' => w'.contents = w.contents)
      (fun _ w' => w'.contents = w.contents) d w := by
  refine asks.always (fun q spares t kept answer t possible => ?_) rfl
  cases q with
  | setContents c => exact absurd rfl (spares c)
  | enter | takeTurn => exact possible.2 ▸ kept
  | leave | endTurn => exact (possible : t = _) ▸ kept
  | contents => exact possible.2 ▸ kept
  | step s => exact possible.1.trans kept

/-- A change leaves what comes of it or what was there, and has what comes of it meanwhile. -/
theorem always_change_anyhow {f : Contents → Except Error Contents}
    (descends : ∀ after, f w.contents = .ok after → Descends w.contents after) :
    Always (within (anyhow ω)) (fun w' => Descends w.contents w'.contents)
      (fun _ w' => Descends w.contents w'.contents) (change config f) w := by
  have now := Descends.refl w.contents
  refine always_locked (always_contents ?_)
  cases h : f w.contents with
  | error e => exact ⟨now, now⟩
  | ok after =>
    refine always_setContents now ?_
    have follows {w' : World ω} (same : w'.contents = after) : Descends w.contents w'.contents :=
      same ▸ descends after h
    cases config.immediate with
    | false => exact ⟨follows rfl, follows rfl⟩
    | true =>
      have written := (always_anyhow_of_asks (w := { w with contents := after })
        (asks_write config.path after)).weaken fun _ => follows
      refine always_bind.2 (written.mono fun outcome w' now' same => ?_)
      cases outcome with
      | value | cancelled => exact ⟨now', now'⟩
      | failure e => exact always_setContents now' ⟨now, now⟩

/-- One that leads nowhere leaves what comes of it. -/
theorem always_changeNowhere_anyhow {f : Contents → Except Error Contents}
    (descends : ∀ after, f w.contents = .ok after → Descends w.contents after) :
    Always (within (anyhow ω)) (fun w' => Descends w.contents w'.contents)
      (fun _ w' => Descends w.contents w'.contents) (changeNowhere config f) w := by
  have now := Descends.refl w.contents
  refine always_locked (always_contents ?_)
  cases h : f w.contents with
  | error e => exact ⟨now, now⟩
  | ok after =>
    refine always_setContents now ?_
    have follows {w' : World ω} (same : w'.contents = after) : Descends w.contents w'.contents :=
      same ▸ descends after h
    split
    · have written := always_anyhow_of_asks (w := { w with contents := after })
        (asks_writeNowhere config.path)
      exact (written.weaken fun _ => follows).mono fun _ _ now' _ => now'
    · exact ⟨follows rfl, follows rfl⟩

theorem always_serve_anyhow {call : Call} (valid : call.Valid) :
    Always (within (anyhow ω)) (fun w' => Descends w.contents w'.contents)
      (fun _ w' => Descends w.contents w'.contents) (serve config call) w := by
  have now := Descends.refl w.contents
  have descends {after : Contents} (h : call.effect w.contents = .ok after) :
      Descends w.contents after := call.descends_effect valid h
  cases call with
  | updateGauge | updateCounter | setCounter => exact always_change_anyhow fun _ => descends
  | getGauge | getCounter | getAll => exact always_lookUp now now
  | ping => exact ⟨now, now⟩
  | save =>
    refine always_locked (always_contents ?_)
    have kept {w' : World ω} (same : w'.contents = w.contents) :
        Descends w.contents w'.contents := same ▸ now
    have written := always_anyhow_of_asks (w := w) (asks_write config.path w.contents)
    exact (written.weaken fun _ => kept).mono fun _ _ now' _ => now'

theorem always_serveAt_anyhow {call : Call} (valid : call.Valid) :
    Always (within (anyhow ω)) (fun w' => Descends w.contents w'.contents)
      (fun _ w' => Descends w.contents w'.contents) (serveAt config call) w := by
  have served : Always (within (anyhow ω)) (fun w' => Descends w.contents w'.contents)
      (fun _ w' => Descends w.contents w'.contents) (serve config call) w :=
    always_serve_anyhow valid
  unfold serveAt
  split
  · exact served
  have descends {after : Contents} (h : call.effect w.contents = .ok after) :
      Descends w.contents after := call.descends_effect valid h
  cases call with
  | updateGauge | updateCounter | setCounter => exact always_changeNowhere_anyhow fun _ => descends
  | getGauge | getCounter | getAll | ping => exact served
  | save =>
    have kept {w' : World ω} (same : w'.contents = w.contents) :
        Descends w.contents w'.contents := same ▸ .refl w.contents
    have written := always_anyhow_of_asks (w := w) (asks_writeNowhere config.path)
    exact always_locked ((written.weaken fun _ => kept).mono fun _ _ now' _ => now')

/-- **Calls with well-formed updates add nothing but what is well formed**, whatever the medium
answers to their steps. -/
theorem always_serveEach_anyhow {calls : List Call} (valid : ∀ call ∈ calls, call.Valid) :
    Always (within (anyhow ω)) (fun w' => Descends w.contents w'.contents)
      (fun _ w' => Descends w.contents w'.contents) (serveEach (serveAt config) calls) w := by
  refine always_serveEach (fun _ h => h) (fun call hcall w₁ h => ?_) (Descends.refl w.contents)
  refine ((always_serveAt_anyhow (valid call hcall)).weaken fun _ => h.trans).mono ?_
  exact fun _ _ now _ => now

/-! ### After the opening -/

/-- What a store lists at last that has served calls one after the other. -/
def listed (config : Config) (perform : (s : Step) → ω → s.Answer × ω) (calls : List Call)
    (w : World ω) : Outcome Error (List Reading) :=
  (run (alone perform) (do serveEach (serveAt config) calls; serveAt config .getAll) w).1

/-- Whatever well-formed updates come, and whatever the medium answers, a store with these
contents lists only records that are well formed. -/
def ListsSound (config : Config) (c : Contents) : Prop :=
  ∀ (ω : Type) (perform : (s : Step) → ω → s.Answer × ω) (medium : ω) (calls : List Call),
    (∀ call ∈ calls, call.Valid) →
      ∃ rs, listed config perform calls ⟨c, medium⟩ = .value rs ∧
        ∀ r ∈ rs, r.toMetric.reading = .ok r

/-- What the records of a document say. -/
def told (content : Bytes) : List Reading :=
  if content.all Text.isBlankByte then []
  else
    match Snapshot.ofBytes content with
    | .ok records => records.filterMap Metric.taken?
    | .error _ => []

/-- **A store is opened with the readings that stand in its file.** -/
theorem mem_snapshot_ofDocument {path : Path} {content : Bytes} {c : Contents}
    (h : ofDocument path content = .ok c) {r : Reading} :
    r ∈ c.snapshot ↔ Stands (told content) r := by
  unfold ofDocument at h
  unfold told
  split at h
  next blank =>
    cases h
    rw [if_pos blank]
    exact iff_of_false (Contents.not_mem_snapshot_empty r) (not_stands_nil r)
  next blank =>
    rw [if_neg blank]
    cases read : Snapshot.ofBytes content with
    | error issues =>
      rw [read] at h
      cases h
    | ok records =>
      rw [read] at h
      cases h
      exact Contents.mem_snapshot_restore

theorem listed_eq (perform : (s : Step) → ω → s.Answer × ω) (calls : List Call) (w : World ω) :
    listed config perform calls w
      = .value (run (alone perform) (serveEach (serveAt config) calls) w).2.contents.snapshot := by
  rw [listed, run_bind]
  unfold serveAt
  split <;> rfl

/-- Whatever is listed at last is well formed or was listed at first. -/
theorem descends_listed (perform : (s : Step) → ω → s.Answer × ω) {calls : List Call}
    (valid : ∀ call ∈ calls, call.Valid) (w : World ω) :
    Descends w.contents (run (alone perform) (serveEach (serveAt config) calls) w).2.contents := by
  have always : Always (within (anyhow ω)) (fun w' => Descends w.contents w'.contents)
      (fun _ w' => Descends w.contents w'.contents) (serveEach (serveAt config) calls) w :=
    always_serveEach_anyhow valid
  exact always.run fun q w' => within_alone (fun _ => trivial) q

/-- **A store that is opened on a file lists only well-formed records, however it is used, exactly
if the readings that stand in the file are well formed**; and whatever else it lists stands in the
file. -/
theorem listsSound_iff {disk : Disk} {content : Bytes} {c : Contents}
    (file : disk.node? config.path = some (.file content))
    (opens : opened config.path disk = .value c) :
    (∀ (ω : Type) (perform : (s : Step) → ω → s.Answer × ω) (medium : ω) (calls : List Call),
      (∀ call ∈ calls, call.Valid) →
        ∃ rs, listed config perform calls ⟨c, medium⟩ = .value rs ∧
          ∀ r ∈ rs, r.toMetric.reading = .ok r ∨ Stands (told content) r) ∧
      (ListsSound config c ↔ ∀ r, Stands (told content) r → r.toMetric.reading = .ok r) := by
  have stands {r : Reading} : r ∈ c.snapshot ↔ Stands (told content) r := by
    rw [opened_file file] at opens
    cases read : ofDocument config.path content with
    | error e => rw [read] at opens; cases opens
    | ok c' =>
      rw [read] at opens
      cases opens
      exact mem_snapshot_ofDocument read
  refine ⟨fun ω perform medium calls valid => ⟨_, listed_eq perform calls _, fun r hr => ?_⟩, ?_⟩
  · rcases descends_listed perform valid _ r hr with first | sound
    · exact .inr (stands.1 first)
    · exact .inl (Metric.reading_toMetric sound)
  constructor
  · intro sound r hr
    -- A store that has served no call lists what it was opened with.
    obtain ⟨rs, hlisted, each⟩ := sound Disk (perform "") disk [] nofun
    rw [listed_eq] at hlisted
    cases hlisted
    exact each r (stands.2 hr)
  · intro sound ω perform medium calls valid
    refine ⟨_, listed_eq perform calls _, fun r hr => ?_⟩
    rcases descends_listed perform valid _ r hr with first | wellFormed
    · exact sound r (stands.1 first)
    · exact Metric.reading_toMetric wellFormed

/-! ### Two files -/

/-- A disk with a file of readings. -/
def withReadings (config : Config) (rs : List Reading) : Disk :=
  (Disk.withFolder config.path.parent).set config.path
    (.file (Snapshot.toBytes none (rs.map Reading.toMetric)))

section

variable {rs : List Reading}

theorem node?_withReadings (config : Config) (rs : List Reading) :
    (withReadings config rs).node? config.path
      = some (.file (Snapshot.toBytes none (rs.map Reading.toMetric))) := by
  rw [withReadings, Disk.node?_set, if_pos rfl]

theorem opened_withReadings (config : Config)
    (sayable : ∀ m ∈ rs.map Reading.toMetric, m.Sayable) :
    opened config.path (withReadings config rs)
      = .value (Contents.empty.restore (rs.map Reading.toMetric)) := by
  rw [opened_file (node?_withReadings config rs), ofDocument_toBytes _ _ sayable, Outcome.ofExcept]

theorem told_toBytes (sayable : ∀ m ∈ rs.map Reading.toMetric, m.Sayable) :
    told (Snapshot.toBytes none (rs.map Reading.toMetric)) = rs := by
  have taken : Metric.taken? ∘ Reading.toMetric = some := by
    funext r
    cases r <;> rfl
  rw [told, toBytes_not_blank, Snapshot.ofBytes_toBytes none sayable]
  show (rs.map Reading.toMetric).filterMap Metric.taken? = rs
  rw [List.filterMap_map, taken, List.filterMap_some]

end

theorem sayable_counter {name : String} {n : Int} (short : Json.IsShort n) :
    (Reading.counter name n).toMetric.Sayable :=
  ⟨fun _ h => Option.some.inj h ▸ short, nofun⟩

/-- The case of a counter out of range that a later record replaces. -/
theorem listsSound_of_replaced_counter :
    let config : Config := ⟨["data", "metrics.json"], true⟩
    let rs : List Reading := [.counter "hits" (maxAmount + 1), .counter "hits" 4]
    ∃ content c, (withReadings config rs).node? config.path = some (.file content) ∧
      opened config.path (withReadings config rs) = .value c ∧ ListsSound config c := by
  intro config rs
  have sayable : ∀ m ∈ rs.map Reading.toMetric, m.Sayable := by
    simp only [rs, List.map_cons, List.map_nil, List.forall_mem_cons]
    exact ⟨sayable_counter (by decide), sayable_counter (by decide), nofun⟩
  have file := node?_withReadings config rs
  have opens := opened_withReadings config sayable
  refine ⟨_, _, file, opens, (listsSound_iff file opens).2.2 fun r hr => ?_⟩
  rw [told_toBytes sayable] at hr
  change Stands ([] ++ [_] ++ [_]) r at hr
  rw [stands_append, stands_append] at hr
  rcases hr with rfl | ⟨rfl | ⟨none, -⟩, other⟩
  · decide
  · exact absurd rfl other
  · exact (not_stands_nil r none).elim

/-- **A counter out of range is taken over from the file** and listed. -/
theorem not_listsSound_of_full_counter :
    let config : Config := ⟨["data", "metrics.json"], true⟩
    ∃ c, opened config.path (withReadings config [.counter "hits" (maxAmount + 1)]) = .value c ∧
      ¬ ListsSound config c := by
  intro config
  have sayable : ∀ m ∈ [Reading.counter "hits" (maxAmount + 1)].map Reading.toMetric,
      m.Sayable := by
    simp only [List.map_cons, List.map_nil, List.forall_mem_cons]
    exact ⟨sayable_counter (by decide), nofun⟩
  refine ⟨_, opened_withReadings config sayable, fun sound => ?_⟩
  obtain ⟨rs, hlisted, each⟩ := sound Disk (perform "") (withReadings config []) [] nofun
  rw [listed_eq] at hlisted
  cases hlisted
  have listed : Reading.counter "hits" (maxAmount + 1) ∈ (Contents.empty.restore
      ([Reading.counter "hits" (maxAmount + 1)].map Reading.toMetric)).snapshot :=
    Contents.mem_snapshot_counter.2 rfl
  exact absurd (each _ listed) (by decide)

end File
end Store
end Telemetry
