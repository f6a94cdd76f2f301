import Telemetry.Proofs.Ingest
import Telemetry.Proofs.Store.File.Restore

/-!
# The order of updates

Updates of different metrics commute, and so do increments of one counter; only the updates of one
gauge have an order that matters.  So updates that are `Rearranged` leave contents that agree
(`Contents.agree_gained`), and a memory store or a file store cannot be told from one that has got
the same updates in another order: neither by its listing nor by its file
(`updates_rearranged`).
-/

namespace Telemetry

/-! ### Contents -/

/-- The value that an update sets a gauge to, if it does. -/
def Reading.gauge? (name : String) : Reading → Option Double
  | .gauge other value => if other = name then some value else none
  | .counter .. => none

/-- The amount that an update adds to a counter, if it does. -/
def Reading.amount? (name : String) : Reading → Option Int
  | .counter other amount => if other = name then some amount else none
  | .gauge .. => none

/-- The same updates, those of any gauge in the same order. -/
structure Rearranged (us vs : List Reading) : Prop where
  perm : us.Perm vs
  gauges : ∀ name, us.filterMap (Reading.gauge? name) = vs.filterMap (Reading.gauge? name)

namespace Contents

/-- The contents after an update, wherever that takes a counter. -/
def gain (c : Contents) : Reading → Contents
  | .gauge name value => c.setGauge name value
  | .counter name amount => c.setCounter name (c.total name + amount)

def gained (c : Contents) (rs : List Reading) : Contents := rs.foldl gain c

/-- A sum after an amount has been added to it; it starts from zero. -/
def added (sum : Option Int) (amount : Int) : Option Int := some (sum.getD 0 + amount)

theorem added_comm (sum : Option Int) (a b : Int) :
    added (added sum a) b = added (added sum b) a := by
  simp only [added, Option.getD_some, Option.some.injEq]
  omega

theorem get?_gauges_gain (c : Contents) (r : Reading) (name : String) :
    (c.gain r).gauges.get? name = (r.gauge? name).or (c.gauges.get? name) := by
  cases r with
  | gauge other value =>
    simp only [gain, setGauge, Reading.gauge?, Table.get?_put]
    split <;> rfl
  | counter => rfl

theorem get?_counters_gain (c : Contents) (r : Reading) (name : String) :
    (c.gain r).counters.get? name
      = (r.amount? name).elim (c.counters.get? name) (added (c.counters.get? name)) := by
  cases r with
  | gauge => rfl
  | counter other amount =>
    simp only [gain, setCounter, Reading.amount?, Table.get?_put]
    split
    next same => rw [same]; rfl
    next => rfl

/-- A gauge has the last value that it is set to. -/
theorem get?_gauges_gained (c : Contents) (rs : List Reading) (name : String) :
    (c.gained rs).gauges.get? name
      = (rs.filterMap (Reading.gauge? name)).foldl (fun _ value => some value)
        (c.gauges.get? name) := by
  induction rs generalizing c with
  | nil => rfl
  | cons r later ih =>
    rw [gained, List.foldl_cons, ← gained, ih, get?_gauges_gain]
    cases h : r.gauge? name with
    | none => rw [List.filterMap_cons_none h, Option.none_or]
    | some value => rw [List.filterMap_cons_some h, List.foldl_cons, Option.some_or]

/-- A counter has the sum of what is added to it. -/
theorem get?_counters_gained (c : Contents) (rs : List Reading) (name : String) :
    (c.gained rs).counters.get? name
      = (rs.filterMap (Reading.amount? name)).foldl added (c.counters.get? name) := by
  induction rs generalizing c with
  | nil => rfl
  | cons r later ih =>
    rw [gained, List.foldl_cons, ← gained, ih, get?_counters_gain]
    cases h : r.amount? name with
    | none => rw [List.filterMap_cons_none h, Option.elim_none]
    | some amount => rw [List.filterMap_cons_some h, List.foldl_cons, Option.elim_some]

/-- **Contents that agree go on to agree** when they gain updates that are rearranged. -/
theorem agree_gained {c d : Contents} (h : c.Agree d) {us vs : List Reading}
    (rearranged : Rearranged us vs) : (c.gained us).Agree (d.gained vs) := by
  constructor
  · intro name
    rw [get?_gauges_gained, get?_gauges_gained, rearranged.gauges name, h.gauges name]
  · intro name
    rw [get?_counters_gained, get?_counters_gained, h.counters name]
    exact (rearranged.perm.filterMap _).foldl_eq' (fun a _ b _ sum => added_comm sum a b) _

end Contents

namespace Store

open Dialogue
open Ingest (callOf)

theorem gain_of_effect {r : Reading} {c after : Contents} (h : (callOf r).effect c = .ok after) :
    after = c.gain r := by
  cases r with
  | gauge => exact (Except.ok.inj h).symm
  | counter => exact (setCounter_checked h).2

/-! ### The file of a store -/

namespace File

/-- A store writes its file after every change, if it can be there. -/
def Config.writes (config : Config) : Bool := config.immediate && config.path.all nameable

variable {config : Config} {effect : Contents → Except Error Contents} {w : World Rough}

/-- What is at the path of a store. -/
def node? (config : Config) (w : World Rough) : Option Node :=
  w.medium.disk.node? config.path

/-- What a change leaves of the contents and of the file. -/
inductive Changed {ρ : Type} (config : Config) (effect : Contents → Except Error Contents)
    (w : World Rough) : Outcome Error ρ → World Rough → Prop
  /-- The contents are changed, and so is the file if the store writes. -/
  | taken {outcome : Outcome Error ρ} {w' : World Rough}
      (spared : ∀ fault, outcome ≠ .failure (.storage fault))
      (contents : effect w.contents = .ok w'.contents)
      (node : node? config w'
        = if config.writes then some (.file (document w'.contents)) else node? config w) :
      Changed config effect w outcome w'
  | unsaved {w' : World Rough} (fault : Fault) (contents : w'.contents = w.contents)
      (node : node? config w' = node? config w) :
      Changed config effect w (.failure (.storage fault)) w'
  | refused {e : Error} (h : effect w.contents = .error e) : Changed config effect w (.failure e) w

theorem always_change_file (possible : config.path.all nameable = true) :
    Always (within (Rough.may config.path)) (fun _ => True) (Changed config effect w)
      (change config effect) w := by
  refine always_locked (always_contents ?_)
  cases h : effect w.contents with
  | error e => exact ⟨trivial, .refused h⟩
  | ok after =>
    refine always_setContents trivial ?_
    cases immediate : config.immediate with
    | false => exact ⟨trivial, .taken nofun h (by simp [Config.writes, immediate, node?])⟩
    | true =>
      have writes : config.writes = true := by simp [Config.writes, immediate, possible]
      have written := (always_write config.path { w with contents := after }).weaken
        fun _ _ => trivial
      refine always_bind.2 (written.mono fun outcome w' _ hw' => ?_)
      cases outcome with
      | value =>
        refine ⟨trivial, .taken nofun (by rw [hw'.contents, h]) ?_⟩
        rw [if_pos writes, hw'.contents]
        exact hw'.node
      | failure e =>
        obtain ⟨⟨fault, rfl⟩, quiet⟩ := hw'
        exact always_setContents trivial ⟨trivial, .unsaved fault rfl quiet.node⟩
      | cancelled => exact hw'.elim

/-- A change that may go astray leaves the file alone. -/
theorem changed_of_returned {ρ : Type} {astray : Prop} {found : Contents → ρ}
    {outcome : Outcome Error ρ} {w' : World Rough} (writes : config.writes = false)
    (unwritten : Unwritten config.path w w') (h : Returned astray effect found w outcome w') :
    Changed config effect w outcome w' := by
  have same : node? config w'
      = if config.writes then some (.file (document w'.contents)) else node? config w := by
    rw [writes]
    exact unwritten.node
  cases h with
  | astray _ changed => exact .taken nofun changed same
  | usual _ answered =>
    obtain ⟨served, untouched⟩ := answered
    generalize hc : w'.contents = c at served
    cases served with
    | done h => exact .taken nofun (hc ▸ h) same
    | failed _ fault => exact .unsaved fault hc unwritten.node
    | refused h =>
      rw [untouched _ h]
      exact .refused h

/-- **An update leaves its effect and its file, or nothing**, wherever the file is. -/
theorem always_update_file (config : Config) (w : World Rough) (r : Reading) :
    Always (within (Rough.may config.path)) (fun _ => True)
      (fun outcome w' => Changed config (callOf r).effect w outcome w')
      (serveAt config (callOf r)) w := by
  unfold serveAt
  split
  next possible => cases r <;> exact always_change_file possible
  next impossible =>
    have impossible := Bool.eq_false_iff.2 impossible
    have writes : config.writes = false := by simp [Config.writes, impossible]
    exact ((always_serveNowhere impossible (callOf r) w).mono fun _ _ unwritten h =>
      changed_of_returned writes unwritten h.1).weaken fun _ _ => trivial

/-- What is saved is the document of the contents. -/
theorem always_save_file (config : Config) (w : World Rough) :
    Always (within (Rough.may config.path)) (fun _ => True)
      (fun outcome w' => outcome = .value () → node? config w' = some (.file (document w.contents)))
      (serveAt config .save) w := by
  unfold serveAt
  split
  · refine always_locked (always_contents ?_)
    refine ((always_write config.path w).weaken fun _ _ => trivial).mono fun outcome w' _ hw' => ?_
    rintro rfl
    exact hw'.node
  · have written := (always_writeNowhere config.path w).weaken fun _ _ => trivial
    refine always_locked (written.mono ?_)
    rintro _ _ - ⟨rfl, -⟩
    nofun

end File

/-! ### Stores without a database -/

/-- A memory store, or a file store on a disk that may fail. -/
inductive Local
  | memory (world : World Unit)
  | file (config : File.Config) (world : World File.Rough)

namespace Local

def contents : Local → Contents
  | memory world => world.contents
  | file _ world => world.contents

def config? : Local → Option File.Config
  | memory _ => none
  | file config _ => some config

/-- What is at the path of a file store. -/
def file? : Local → Option Node
  | memory _ => none
  | file config world => File.node? config world

def writes (s : Local) : Bool := s.config?.any File.Config.writes

def answer (call : Call) : Local → call.Answer × Local
  | memory world =>
      let result := run (alone Memory.perform) (Memory.serve call) world
      (result.1, memory result.2)
  | file config world =>
      let result := run (File.onRough config.path) (File.serveAt config call) world
      (result.1, file config result.2)

def offer (s : Local) : Reading → Outcome Error Unit × Local
  | .gauge name value => s.answer (.updateGauge name value)
  | .counter name amount => s.answer (.updateCounter name amount)

def save (s : Local) : Outcome Error Unit × Local := s.answer .save

/-- Offer readings to a store one after the other. -/
def offerAll (s : Local) : List Reading → List (Outcome Error Unit) × Local
  | [] => ([], s)
  | r :: later =>
      let first := s.offer r
      let rest := first.2.offerAll later
      (first.1 :: rest.1, rest.2)

/-- What becomes of a reading that is offered to a store. -/
inductive Offered (s : Local) (r : Reading) : Outcome Error Unit → Local → Prop
  | taken {outcome : Outcome Error Unit} {s' : Local}
      (spared : ∀ fault, outcome ≠ .failure (.storage fault))
      (contents : s'.contents = s.contents.gain r) (config : s'.config? = s.config?)
      (file : s'.file? = if s.writes then some (.file (File.document s'.contents)) else s.file?) :
      Offered s r outcome s'
  | unsaved {s' : Local} (fault : Fault) (contents : s'.contents = s.contents)
      (config : s'.config? = s.config?) (file : s'.file? = s.file?) :
      Offered s r (.failure (.storage fault)) s'
  | refused (name : String) : Offered s r (.failure (.overflow name)) s

theorem refused_of_effect {s : Local} {r : Reading} {e : Error}
    (h : (callOf r).effect s.contents = .error e) : Offered s r (.failure e) s := by
  obtain ⟨name, rfl, -⟩ := Call.effect_eq_error h
  exact .refused name

theorem offered_memory {r : Reading} {world world' : World Unit} {outcome : Outcome Error Unit}
    (h : Answered (callOf r).effect (fun _ => ()) world outcome world') :
    Offered (.memory world) r outcome (.memory world') := by
  obtain ⟨served, untouched⟩ := h
  generalize hc : world'.contents = c at served
  cases served with
  | done effect => exact .taken nofun (hc.trans (gain_of_effect effect)) rfl rfl
  | failed effect fault => exact .unsaved fault hc rfl rfl
  | refused h =>
    rw [untouched _ h]
    exact refused_of_effect h

theorem offered_file {r : Reading} {config : File.Config} {w w' : World File.Rough}
    {outcome : Outcome Error Unit} (h : File.Changed config (callOf r).effect w outcome w') :
    Offered (.file config w) r outcome (.file config w') := by
  cases h with
  | taken spared effect node => exact .taken spared (gain_of_effect effect) rfl node
  | unsaved fault contents node => exact .unsaved fault contents rfl node
  | refused h => exact refused_of_effect h

/-- **A reading is taken, unsaved or refused.** -/
theorem offered (s : Local) (r : Reading) : Offered s r (s.offer r).1 (s.offer r).2 := by
  cases s with
  | memory world =>
    have answered : Answered (callOf r).effect (callOf r).found world
        (run (alone Memory.perform) (Memory.serve (callOf r)) world).1
        (run (alone Memory.perform) (Memory.serve (callOf r)) world).2 :=
      (Memory.always_serve (callOf r)).run fun q w => within_alone (fun s => nomatch s) q
    cases r <;> exact offered_memory answered
  | file config world =>
    have changed := (File.always_update_file config world r).run (File.within_onRough config.path)
    cases r <;> exact offered_file changed

theorem answer_getAll (s : Local) : (s.answer .getAll).1 = .value s.contents.snapshot := by
  cases s with
  | memory => rfl
  | file config world =>
    simp only [answer, File.serveAt]
    split <;> rfl

/-- A save that returns leaves the document of the contents. -/
theorem file?_save {s : Local} (h : s.save.1 = .value ()) :
    s.save.2.file? = s.config?.map fun _ => .file (File.document s.contents) := by
  cases s with
  | memory => rfl
  | file config world =>
    exact (File.always_save_file config world).run (File.within_onRough config.path) h

/-- The storage has failed. -/
def Unsaved (outcome : Outcome Error Unit) : Bool :=
  match outcome with
  | .failure (.storage _) => true
  | _ => false

/-- The readings that the storage has not failed to keep. -/
def kept (rs : List Reading) (outcomes : List (Outcome Error Unit)) : List Reading :=
  ((rs.zip outcomes).filter fun a => !Unsaved a.2).map Prod.fst

theorem kept_cons_taken {outcome : Outcome Error Unit} {outcomes : List (Outcome Error Unit)}
    (spared : ∀ fault, outcome ≠ .failure (.storage fault)) (r : Reading) (later : List Reading) :
    kept (r :: later) (outcome :: outcomes) = r :: kept later outcomes := by
  have saved : Unsaved outcome = false := by
    unfold Unsaved
    split
    next fault => exact absurd rfl (spared fault)
    next => rfl
  simp [kept, saved]

theorem kept_cons_unsaved (fault : Fault) (r : Reading) (later : List Reading)
    (outcomes : List (Outcome Error Unit)) :
    kept (r :: later) (.failure (.storage fault) :: outcomes) = kept later outcomes := by
  simp [kept, Unsaved]

/-- A storage that does not fail keeps all readings. -/
theorem kept_of_spared {s : Local} {rs : List Reading}
    (spared : ∀ fault, .failure (.storage fault) ∉ (s.offerAll rs).1) :
    kept rs (s.offerAll rs).1 = rs := by
  induction rs generalizing s with
  | nil => rfl
  | cons r later ih =>
    simp only [offerAll, List.mem_cons, not_or] at spared ⊢
    rw [kept_cons_taken fun fault h => (spared fault).1 h.symm, ih fun fault => (spared fault).2]

theorem writes_congr {s t : Local} (h : s.config? = t.config?) : s.writes = t.writes :=
  congrArg (Option.any File.Config.writes) h

/-- **The contents and the file after some readings** are told by those that are kept. -/
theorem offerAll_eq {s : Local} {rs : List Reading}
    (inRange : ∀ name, .failure (.overflow name) ∉ (s.offerAll rs).1) :
    let rest := kept rs (s.offerAll rs).1
    let s' := (s.offerAll rs).2
    s'.contents = s.contents.gained rest ∧ s'.config? = s.config? ∧
      s'.file? = bif s.writes && !rest.isEmpty then some (.file (File.document s'.contents))
        else s.file? := by
  induction rs generalizing s with
  | nil => simp [offerAll, kept, Contents.gained]
  | cons r later ih =>
    have first := s.offered r
    simp only [offerAll, List.mem_cons, not_or] at inRange ⊢
    obtain ⟨contents, config, file⟩ := ih (s := (s.offer r).2) fun name => (inRange name).2
    have inRange := fun name => (inRange name).1
    generalize (s.offer r).2 = s₁ at first contents config file ⊢
    generalize (s.offer r).1 = outcome at first inRange ⊢
    cases first with
    | taken spared contents₁ config₁ file₁ =>
      rw [kept_cons_taken spared]
      rw [contents₁] at contents
      refine ⟨contents, config.trans config₁, ?_⟩
      rw [file, file₁, writes_congr config₁]
      cases s.writes with
      | false => rfl
      | true =>
        -- If nothing is kept later, the file is that of the contents after this reading.
        cases none : kept later (s₁.offerAll later).1 with
        | nil => rw [contents, contents₁, none]; rfl
        | cons => rfl
    | unsaved fault contents₁ config₁ file₁ =>
      rw [kept_cons_unsaved]
      rw [contents₁] at contents
      rw [writes_congr config₁, file₁] at file
      exact ⟨contents, config.trans config₁, file⟩
    | refused name => exact absurd rfl (inRange name)

/-- Stores that work alike, with contents that agree and the same file. -/
structure Alike (s t : Local) : Prop where
  config : s.config? = t.config?
  contents : s.contents.Agree t.contents
  file : s.file? = t.file?

/-- The same store may get updates in one order or the other. -/
theorem Alike.refl (s : Local) : s.Alike s := ⟨rfl, .refl _, rfl⟩

/-- **Stores that are alike go on to be alike** when they get updates that are rearranged. -/
theorem Alike.offerAll {s t : Local} (alike : s.Alike t) {us vs : List Reading}
    (inRange : ∀ name, .failure (.overflow name) ∉ (s.offerAll us).1)
    (inRange' : ∀ name, .failure (.overflow name) ∉ (t.offerAll vs).1)
    (rearranged : Rearranged (kept us (s.offerAll us).1) (kept vs (t.offerAll vs).1)) :
    (s.offerAll us).2.Alike (t.offerAll vs).2 := by
  obtain ⟨contents, config, file⟩ := offerAll_eq inRange
  obtain ⟨contents', config', file'⟩ := offerAll_eq inRange'
  have agree := Contents.agree_gained alike.contents rearranged
  rw [← contents, ← contents'] at agree
  have empty : (kept us (s.offerAll us).1).isEmpty = (kept vs (t.offerAll vs).1).isEmpty := by
    rw [Bool.eq_iff_iff, List.isEmpty_iff, List.isEmpty_iff]
    exact ⟨fun h => (h ▸ rearranged.perm).nil_eq.symm, fun h => (h ▸ rearranged.perm).eq_nil⟩
  refine ⟨config.trans (alike.config.trans config'.symm), agree, ?_⟩
  rw [file, file', writes_congr alike.config, empty, File.document_congr agree, alike.file]

/-- **The order of updates does not matter**: stores that are alike list the same and have the same
file after updates that are rearranged.  What a storage fails to keep does not count; one that does
not fail keeps all (`kept_of_spared`). -/
theorem updates_rearranged {s t : Local} (alike : s.Alike t) {us vs : List Reading}
    (inRange : ∀ name, .failure (.overflow name) ∉ (s.offerAll us).1)
    (inRange' : ∀ name, .failure (.overflow name) ∉ (t.offerAll vs).1)
    (rearranged : Rearranged (kept us (s.offerAll us).1) (kept vs (t.offerAll vs).1)) :
    let s' := (s.offerAll us).2
    let t' := (t.offerAll vs).2
    (s'.answer .getAll).1 = (t'.answer .getAll).1 ∧ s'.file? = t'.file? ∧
      (s'.save.1 = .value () → t'.save.1 = .value () →
        s'.save.2.file? = t'.save.2.file?) := by
  intro s' t'
  have after : s'.Alike t' := alike.offerAll inRange inRange' rearranged
  refine ⟨?_, after.file, fun saved saved' => ?_⟩
  · rw [answer_getAll, answer_getAll, Contents.snapshot_congr after.contents]
  · rw [file?_save saved, file?_save saved', after.config, File.document_congr after.contents]

/-- The case of a file store on a disk that is full for a while: the second update is not kept. -/
theorem updates_rearranged_of_full_disk :
    let config : File.Config := ⟨["data", "metrics.json"], true⟩
    let disk := Disk.withFolder ["data"]
    let start (script : List (Option File.Blow)) : Local :=
      .file config ⟨.empty, { disk, script, words := fun _ => "k3", installed := .empty }⟩
    let s := start (List.replicate 9 none ++ [some ⟨.system "No space left on device", disk⟩])
    let t := start []
    let us : List Reading := [.gauge "load" .zero, .counter "hits" 5, .counter "load" 1,
      .counter "hits" 2, .gauge "load" (.finite false ⟨1, by decide⟩)]
    let vs : List Reading := [.counter "hits" 2, .gauge "load" .zero,
      .gauge "load" (.finite false ⟨1, by decide⟩), .counter "load" 1]
    (s.offerAll us).1 = [.value (), .failure (.storage (.unwritten config.path
        (.system "No space left on device"))), .value (), .value (), .value ()] ∧
      ((s.offerAll us).2.answer .getAll).1 = ((t.offerAll vs).2.answer .getAll).1 ∧
        (s.offerAll us).2.file? = (t.offerAll vs).2.file? ∧
          (s.offerAll us).2.save.2.file? = (t.offerAll vs).2.save.2.file? := by
  intro config disk start s t us vs
  have outcomes : (s.offerAll us).1 = [.value (), .failure (.storage (.unwritten config.path
      (.system "No space left on device"))), .value (), .value (), .value ()] := by
    decide +kernel
  have outcomes' : (t.offerAll vs).1 = [.value (), .value (), .value (), .value ()] := by
    decide +kernel
  have alike : s.Alike t := ⟨rfl, .refl _, rfl⟩
  have rearranged : Rearranged (kept us (s.offerAll us).1) (kept vs (t.offerAll vs).1) := by
    rw [kept_of_spared (s := t) (by simp [outcomes']), outcomes]
    refine ⟨by decide, fun name => ?_⟩
    by_cases h : "load" = name <;>
      simp [us, vs, kept, Unsaved, Reading.gauge?, List.filterMap_cons, h]
  have saved : (s.offerAll us).2.save.1 = .value () := by decide +kernel
  have saved' : (t.offerAll vs).2.save.1 = .value () := by decide +kernel
  obtain ⟨listed, file, last⟩ :=
    updates_rearranged alike (by simp [outcomes]) (by simp [outcomes']) rearranged
  exact ⟨outcomes, listed, file, last saved saved'⟩

end Local

end Store
end Telemetry
