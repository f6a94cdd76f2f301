import Telemetry.Proofs.Metric.Snapshot
import Telemetry.Proofs.Store.File.Calls

/-!
# What a crash leaves of a file store

A document is read as contents that agree with the ones it was written from (`ofDocument_document`),
if their gauges are finite.  The file of a store shows the contents at the last rename onto it at
every moment of every call, so whenever the store stops, those are restored; and a store that
writes at once has its own contents there between calls (`AtRest`).

Where no file can be, nothing is ever restored.  A store that writes at once is safe there exactly
as long as it has been given nothing to keep (`restored_after_crash_iff`).
-/

namespace Telemetry

/-- Contents that a document can say: finite gauges, and counters within range. -/
structure Contents.Sayable (c : Contents) : Prop where
  gauges : ∀ name value, c.gauges.get? name = some value → value.isFinite = true
  counters : c.Bounded

namespace Contents

theorem sayable_empty : Sayable empty where
  gauges := by
    intro name value h
    cases h
  counters := bounded_empty

theorem Sayable.congr {c d : Contents} (h : c.Sayable) (agree : d.Agree c) : d.Sayable := by
  constructor
  · intro name value hvalue
    exact h.gauges name value ((agree.gauges name).symm.trans hvalue)
  · intro name amount hamount
    exact h.counters name amount ((agree.counters name).symm.trans hamount)

theorem Sayable.records {c : Contents} (h : c.Sayable) : ∀ m ∈ c.records, m.Sayable := by
  intro m hm
  obtain ⟨reading, hreading, rfl⟩ := List.mem_map.1 hm
  cases reading with
  | gauge name value =>
    refine ⟨fun n hn => (by cases hn), fun x hx => ?_⟩
    cases hx
    exact h.gauges name value (mem_snapshot_gauge.1 hreading)
  | counter name amount =>
    refine ⟨fun n hn => ?_, fun x hx => (by cases hx)⟩
    cases hn
    exact isShort_of_inRange (h.counters name amount (mem_snapshot_counter.1 hreading))

end Contents

namespace Store

/-- What a call sets a gauge to is finite. -/
def Call.Finite : Call → Prop
  | .updateGauge _ value => value.isFinite = true
  | _ => True

/-- Calls that set gauges to finite values leave sayable contents. -/
theorem Call.sayable_effect (call : Call) (finite : call.Finite) {c after : Contents}
    (h : c.Sayable) (effect : call.effect c = .ok after) : after.Sayable := by
  refine ⟨?_, call.bounded_effect h.counters effect⟩
  cases call with
  | updateGauge name value =>
    cases effect
    intro other x hx
    simp only [Contents.setGauge, Table.get?_put] at hx
    split at hx
    · cases hx
      exact finite
    · exact h.gauges other x hx
  | updateCounter name delta =>
    rw [(setCounter_checked effect).2]
    exact h.gauges
  | setCounter name value =>
    rw [(setCounter_checked effect).2]
    exact h.gauges
  | getGauge | getCounter | getAll | save | ping =>
    cases effect
    exact h.gauges

theorem Served.sayable {ρ : Type} {call : Call} (finite : call.Finite) {found : Contents → ρ}
    {c c' : Contents} {outcome : Outcome Error ρ} (h : c.Sayable)
    (served : Served call.effect found c outcome c') : c'.Sayable := by
  cases served with
  | done effect => exact call.sayable_effect finite h effect
  | refused => exact h
  | failed => exact h

/-- A call leaves nothing in contents that hold nothing. -/
def Call.KeepsNothing (call : Call) : Prop :=
  ∀ after, call.effect .empty = .ok after → after = .empty

/-- Contents hold nothing after a call exactly if they held nothing before it, and it keeps
nothing. -/
theorem Call.effect_empty_iff (call : Call) {c after : Contents} (h : call.effect c = .ok after) :
    after = .empty ↔ c = .empty ∧ call.KeepsNothing := by
  refine ⟨?_, fun ⟨nothing, keeps⟩ => keeps after (nothing ▸ h)⟩
  rintro rfl
  cases call with
  | updateGauge name value =>
    have put := congrArg (fun c : Contents => c.gauges.get? name) (Except.ok.inj h)
    simp [Contents.setGauge, Contents.empty] at put
  | updateCounter name delta =>
    have put := congrArg (fun c : Contents => c.counters.get? name) (setCounter_checked h).2
    simp [Contents.setCounter, Contents.empty] at put
  | setCounter name value =>
    have put := congrArg (fun c : Contents => c.counters.get? name) (setCounter_checked h).2
    simp [Contents.setCounter, Contents.empty] at put
  | getGauge | getCounter | getAll | save | ping =>
    cases h
    exact ⟨rfl, fun after h => (Except.ok.inj h).symm⟩

namespace File

open Dialogue

/-! ### Documents -/

theorem toBytes_not_blank (indent : Option Nat) (ms : List Metric) :
    (Snapshot.toBytes indent ms).all Text.isBlankByte = false := by
  -- Every document starts with the bracket of its array, which is no blank.
  have opening : ∃ rest, Snapshot.toBytes indent ms = 91 :: rest := by
    unfold Snapshot.toBytes Snapshot.toText Json.toText Utf8.encode
    rw [String.toList_ofList]
    cases ms.map Metric.toSnapshotJson with
    | nil => exact ⟨_, rfl⟩
    | cons item items =>
      rw [Json.write]
      exact ⟨_, rfl⟩
  obtain ⟨rest, h⟩ := opening
  rw [h, List.all_cons]
  rfl

/-- The records that a document is made of are taken over. -/
theorem ofDocument_toBytes (path : Path) (indent : Option Nat) {ms : List Metric}
    (sayable : ∀ m ∈ ms, m.Sayable) :
    ofDocument path (Snapshot.toBytes indent ms) = .ok (Contents.empty.restore ms) := by
  rw [ofDocument, toBytes_not_blank, Snapshot.ofBytes_toBytes indent sayable]
  rfl

/-- **A document is read as contents that agree with those it was written from.** -/
theorem ofDocument_document (path : Path) {c : Contents} (h : c.Sayable) :
    ∃ c', ofDocument path (document c) = .ok c' ∧ c'.Agree c :=
  ⟨Contents.empty.restore c.records, ofDocument_toBytes path (some 2) h.records,
    Contents.restore_records c⟩

theorem document_congr {c d : Contents} (h : c.Agree d) : document c = document d := by
  unfold document Contents.records
  rw [Contents.snapshot_congr h]

/-! ### Opening -/

/-- What a store starts with that is opened on a disk and restores its file. -/
def opened (path : Path) (disk : Disk) : Outcome Error Contents :=
  (run (alone (perform "")) (load path true) ⟨.empty, disk⟩).1

theorem opened_eq (path : Path) (disk : Disk) :
    opened path disk = match disk.node? path with
      | none => .value .empty
      | some (.file content) => Outcome.ofExcept (ofDocument path content)
      | some (.database _) => Outcome.ofExcept (ofDocument path Disk.databaseHeader)
      | some .folder => .failure (.storage (.unreadable path (.isFolder path))) := by
  have first : run (alone (perform "")) (take (.occupied path)) ⟨.empty, disk⟩
      = (disk.occupied path, ⟨.empty, disk⟩) := rfl
  have second : run (alone (perform "")) (take (.read path)) ⟨.empty, disk⟩
      = (Outcome.ofExcept (disk.read path), ⟨.empty, disk⟩) := rfl
  rw [opened, load, if_pos rfl, run_bind, first, Disk.occupied]
  cases h : disk.node? path with
  | none => rfl
  | some node =>
    simp only [Option.isSome_some]
    rw [run_bind, second, Disk.read, h]
    cases node <;> rfl

/-- What is opened depends on the file at the path only. -/
theorem opened_congr {path : Path} {disk disk' : Disk} (h : disk'.node? path = disk.node? path) :
    opened path disk' = opened path disk := by
  rw [opened_eq, opened_eq, h]

theorem opened_absent {path : Path} {disk : Disk} (h : disk.node? path = none) :
    opened path disk = .value .empty := by
  rw [opened_eq, h]

theorem opened_file {path : Path} {disk : Disk} {content : Bytes}
    (h : disk.node? path = some (.file content)) :
    opened path disk = Outcome.ofExcept (ofDocument path content) := by
  rw [opened_eq, h]

theorem opened_document {path : Path} {disk : Disk} {c : Contents} (sayable : c.Sayable)
    (h : disk.node? path = some (.file (document c))) :
    ∃ c', opened path disk = .value c' ∧ c'.Agree c := by
  obtain ⟨c', read, agree⟩ := ofDocument_document path sayable
  refine ⟨c', ?_, agree⟩
  rw [opened_file h, read, Outcome.ofExcept]

/-- What is opened agrees with some contents. -/
def Restores (path : Path) (disk : Disk) (c : Contents) : Prop :=
  ∃ c', opened path disk = .value c' ∧ c'.Agree c

/-- A disk without the file, or with a document of sayable contents where a file can be. -/
def Kept (path : Path) (disk : Disk) : Prop :=
  disk.node? path = none ∨ path.all nameable = true ∧
    ∃ c, c.Sayable ∧ disk.node? path = some (.file (document c))

/-- The file shows what was installed, and that can be restored.  There is no file where none can
be. -/
structure Recoverable (path : Path) (m : Rough) : Prop where
  shows : Shows path m
  sayable : m.installed.Sayable
  absent : path.all nameable = false → m.disk.node? path = none

/-- **What is opened is what was installed last.** -/
theorem Recoverable.restores {path : Path} {m : Rough} (h : Recoverable path m) :
    Restores path m.disk m.installed := by
  rcases h.shows with ⟨absent, nothing⟩ | shown
  · rw [nothing]
    exact ⟨.empty, opened_absent absent, Contents.Agree.refl .empty⟩
  · exact opened_document h.sayable shown

/-- The disk is one that a store can be opened on again. -/
theorem Recoverable.kept {path : Path} {m : Rough} (h : Recoverable path m) :
    Kept path m.disk := by
  rcases h.shows with ⟨absent, -⟩ | shown
  · exact .inl absent
  · refine .inr ⟨Bool.of_not_eq_false fun impossible => ?_, m.installed, h.sayable, shown⟩
    cases shown.symm.trans (h.absent impossible)

/-- Where no file can be, nothing has been installed. -/
theorem Recoverable.installed_eq {path : Path} {m : Rough} (h : Recoverable path m)
    (impossible : path.all nameable = false) : m.installed = .empty := by
  rcases h.shows with ⟨-, nothing⟩ | shown
  · exact nothing
  · cases shown.symm.trans (h.absent impossible)

/-- What writes nothing leaves what can be restored. -/
theorem Recoverable.unwritten {path : Path} {w w' : World Rough} (h : Recoverable path w.medium)
    (unwritten : Unwritten path w w') : Recoverable path w'.medium := by
  obtain ⟨node, installed⟩ := unwritten
  refine ⟨?_, installed ▸ h.sayable, fun impossible => node.trans (h.absent impossible)⟩
  unfold Shows
  rw [node, installed]
  exact h.shows

/-! ### Calls -/

variable {config : Config} {w : World Rough}

/-- Between calls, a store that writes at once has installed its contents, if its file can be
there. -/
structure AtRest (config : Config) (w : World Rough) : Prop where
  recoverable : Recoverable config.path w.medium
  sayable : w.contents.Sayable
  synced : config.immediate = true → config.path.all nameable = true →
    w.medium.installed = w.contents

/-- **A store rests where it is opened.** -/
theorem atRest_of_kept (config : Config) {disk : Disk} (kept : Kept config.path disk) :
    ∃ c, opened config.path disk = .value c ∧
      (config.path.all nameable = false → c = .empty) ∧
      ∀ script words, AtRest config ⟨c, { disk, script, words, installed := c }⟩ := by
  rcases kept with absent | ⟨possible, c, sayable, shown⟩
  · refine ⟨.empty, opened_absent absent, fun _ => rfl, fun script words => ?_⟩
    exact ⟨⟨.inl ⟨absent, rfl⟩, Contents.sayable_empty, fun _ => absent⟩, Contents.sayable_empty,
      fun _ _ => rfl⟩
  · obtain ⟨c', hopened, agree⟩ := opened_document sayable shown
    have sayable' := sayable.congr agree
    have elsewhere {p : Prop} (impossible : config.path.all nameable = false) : p :=
      nomatch possible.symm.trans impossible
    -- Contents that agree have one document, so the file shows those that were opened.
    rw [← document_congr agree] at shown
    exact ⟨c', hopened, elsewhere, fun script words =>
      ⟨⟨.inr shown, sayable', elsewhere⟩, sayable', fun _ _ => rfl⟩⟩

theorem Returned.sayable {call : Call} (finite : call.Finite) {astray : Prop}
    {outcome : call.Answer} {w' : World Rough} (h : w.contents.Sayable)
    (returned : Returned astray call.effect call.found w outcome w') : w'.contents.Sayable := by
  cases returned with
  | usual _ answered => exact answered.served.sayable finite h
  | astray _ changed => exact call.sayable_effect finite h changed

/-- What follows a call from a store at rest can be restored. -/
theorem Follows.recoverable {call : Call} (finite : call.Finite)
    (possible : config.path.all nameable = true) (rest : AtRest config w) {w' : World Rough}
    (h : Follows config.path call.effect w w') : Recoverable config.path w'.medium := by
  refine ⟨h.shows rest.recoverable.shows, ?_,
    fun impossible => nomatch possible.symm.trans impossible⟩
  rcases h.installed with same | effect
  · rw [same]
    exact rest.recoverable.sayable
  · exact call.sayable_effect finite rest.sayable effect

/-- **Every call can be broken off at any moment**, and comes to rest if it is not. -/
theorem always_serveAt_atRest {call : Call} (finite : call.Finite) (rest : AtRest config w) :
    Always (within (Rough.may config.path)) (fun w' => Recoverable config.path w'.medium)
      (fun _ w' => AtRest config w') (serveAt config call) w := by
  unfold serveAt
  split
  next possible =>
    have served := (always_serve config call w).weaken fun _ follows =>
      follows.recoverable finite possible rest
    refine served.mono ?_
    rintro outcome w' recoverable ⟨answered, synced⟩
    exact ⟨recoverable, answered.served.sayable finite rest.sayable,
      fun immediate _ => synced immediate (rest.synced immediate possible)⟩
  next impossible =>
    have impossible := Bool.eq_false_iff.2 impossible
    have served := (always_serveNowhere impossible call w).weaken fun _ =>
      rest.recoverable.unwritten
    refine served.mono ?_
    rintro outcome w' recoverable ⟨returned, -⟩
    exact ⟨recoverable, returned.sayable finite rest.sayable,
      fun _ possible => nomatch possible.symm.trans impossible⟩

/-- So can any calls one after the other. -/
theorem always_serveEach_atRest {calls : List Call} (finite : ∀ call ∈ calls, call.Finite)
    (rest : AtRest config w) :
    Always (within (Rough.may config.path)) (fun w' => Recoverable config.path w'.medium)
      (fun _ w' => AtRest config w') (serveEach (serveAt config) calls) w :=
  always_serveEach (fun _ h => h.recoverable)
    (fun call hcall _ h => always_serveAt_atRest (finite call hcall) h) rest

/-! ### Nothing to keep -/

/-- **Where no file can be, contents hold nothing exactly if no call has had anything to keep.** -/
theorem contents_serveEach_eq_empty_iff (impossible : config.path.all nameable = false)
    (calls : List Call) (w : World Rough) :
    (run (onRough config.path) (serveEach (serveAt config) calls) w).2.contents = .empty ↔
      w.contents = .empty ∧ ∀ call ∈ calls, call.KeepsNothing := by
  induction calls generalizing w with
  | nil => exact (and_iff_left nofun).symm
  | cons call later ih =>
    rw [serveEach, run_bind, ih, List.forall_mem_cons, ← and_assoc]
    refine and_congr_left fun _ => ?_
    have served := (always_serveNowhere impossible call w).run (within_onRough config.path)
    rw [serveAt, if_neg (Bool.eq_false_iff.1 impossible)]
    generalize run (onRough config.path) (serveNowhere config call) w = result at served
    obtain ⟨outcome, w'⟩ := result
    obtain ⟨returned, stays⟩ := served
    cases h : call.effect w.contents with
    | ok after =>
      rw [stays after h]
      exact call.effect_empty_iff h
    | error e =>
      have same : w' = w := by
        cases returned with
        | usual _ answered => exact answered.untouched e h
        | astray _ changed => cases h.symm.trans changed
      rw [same]
      refine (and_iff_left_of_imp fun nothing after h' => ?_).symm
      rw [nothing] at h
      cases h.symm.trans h'

/-! ### Crashes -/

/-- What is opened instead of a store is what it lists; and while it serves a call, what was there
before or what comes of the call. -/
structure CrashSafe (config : Config) (w : World Rough) : Prop where
  atRest : ∃ c, opened config.path w.medium.disk = .value c ∧
    (run (onRough config.path) (serveAt config .getAll) w).1 = .value c.snapshot
  inFlight : ∀ call : Call, call.Finite → ∀ n,
    let left := (runFor (onRough config.path) n (serveAt config call) w).medium
    Restores config.path left.disk w.contents ∨
      ∃ after, call.effect w.contents = .ok after ∧ Restores config.path left.disk after

theorem run_getAll (config : Config) (w : World Rough) :
    (run (onRough config.path) (serveAt config .getAll) w).1 = .value w.contents.snapshot := by
  unfold serveAt
  split <;> rfl

/-- A store that has installed its contents is safe. -/
theorem AtRest.crashSafe (rest : AtRest config w) (synced : w.medium.installed = w.contents) :
    CrashSafe config w := by
  refine ⟨?_, fun call finite n => ?_⟩
  · obtain ⟨c, hopened, agree⟩ := rest.recoverable.restores
    rw [synced] at agree
    exact ⟨c, hopened, by rw [run_getAll, Contents.snapshot_congr agree]⟩
  · have possible := within_onRough config.path
    have restores := ((always_serveAt_atRest finite rest).runFor possible n).restores
    rcases ((always_serveAt config call w).runFor possible n).installed with same | effect
    · rw [same, synced] at restores
      exact .inl restores
    · exact .inr ⟨_, effect, restores⟩

/-- **Wherever a store stops, what was installed last is restored**, whichever steps of its writes
have failed.  A store that writes at once is safe exactly if its file can be there, or no call has
had anything to keep. -/
theorem restored_after_crash_iff (config : Config) {disk : Disk} (kept : Kept config.path disk)
    {calls : List Call} (finite : ∀ call ∈ calls, call.Finite) :
    ∃ c, opened config.path disk = .value c ∧
      ∀ (script : List (Option Blow)) (words : Nat → String),
        let start : World Rough := ⟨c, { disk, script, words, installed := c }⟩
        let rest := (run (onRough config.path) (serveEach (serveAt config) calls) start).2
        (∀ n,
          let left :=
            (runFor (onRough config.path) n (serveEach (serveAt config) calls) start).medium
          Restores config.path left.disk left.installed ∧ Kept config.path left.disk) ∧
        (config.immediate = true →
          (CrashSafe config rest ↔
            config.path.all nameable = true ∨ ∀ call ∈ calls, call.KeepsNothing)) := by
  obtain ⟨c, hopened, nothing, atRest⟩ := atRest_of_kept config kept
  refine ⟨c, hopened, fun script words => ?_⟩
  intro start rest
  have possible := within_onRough config.path
  -- One statement about all calls gives both the end of the run and every moment before it.
  have always := always_serveEach_atRest finite (atRest script words)
  have rest' : AtRest config rest := always.run possible
  refine ⟨fun n => ?_, fun immediate => ?_⟩
  · have recoverable := always.runFor possible n
    exact ⟨recoverable.restores, recoverable.kept⟩
  cases named : config.path.all nameable with
  | true => exact iff_of_true (rest'.crashSafe (rest'.synced immediate named)) (.inl rfl)
  | false =>
    have installed := rest'.recoverable.installed_eq named
    have held := contents_serveEach_eq_empty_iff named calls start
    rw [and_iff_right (nothing named)] at held
    refine Iff.trans ⟨fun safe => ?_, fun empty => rest'.crashSafe (installed.trans empty.symm)⟩
      (held.trans (or_iff_right Bool.false_ne_true).symm)
    -- What is opened is what was installed, which is nothing, and it is what is listed.
    obtain ⟨c', opens, listed⟩ := safe.atRest
    obtain ⟨c'', opens', agree⟩ := rest'.recoverable.restores
    cases opens.symm.trans opens'
    rw [installed] at agree
    rw [run_getAll, Contents.snapshot_congr agree, Contents.snapshot_empty] at listed
    exact Contents.eq_empty_of_snapshot (Outcome.value.inj listed)

/-- The case of a file with a counter, where the first call meets a full disk. -/
theorem restored_after_crash_of_full_disk :
    let config : Config := ⟨["data", "metrics.json"], true⟩
    let disk := (Disk.withFolder ["data"]).set config.path
      (.file (document (Contents.empty.setCounter "hits" 4)))
    let calls : List Call := [.updateCounter "hits" 3, .updateGauge "load" .zero, .save]
    Kept config.path disk ∧ (∀ call ∈ calls, call.Finite) ∧
      ∃ c, opened config.path disk = .value c ∧
        let start : World Rough := ⟨c,
          { disk, script := [none, none, some ⟨.system "No space left on device", disk⟩],
            words := fun _ => "k3", installed := c }⟩
        let rest := (run (onRough config.path) (serveEach (serveAt config) calls) start).2
        (∀ n,
          let left :=
            (runFor (onRough config.path) n (serveEach (serveAt config) calls) start).medium
          Restores config.path left.disk left.installed ∧ Kept config.path left.disk) ∧
        CrashSafe config rest := by
  intro config disk calls
  have sayable : (Contents.empty.setCounter "hits" 4).Sayable :=
    Call.sayable_effect (.setCounter "hits" 4) trivial Contents.sayable_empty rfl
  have kept : Kept config.path disk := by
    refine .inr ⟨by decide, _, sayable, ?_⟩
    rw [Disk.node?_set, if_pos rfl]
  have finite : ∀ call ∈ calls, call.Finite := by
    intro call hcall
    simp only [calls, List.mem_cons, List.not_mem_nil, or_false] at hcall
    rcases hcall with rfl | rfl | rfl
    · trivial
    · exact Double.isFinite_finite _ _
    · trivial
  obtain ⟨c, hopened, served⟩ := restored_after_crash_iff config kept finite
  obtain ⟨moments, immediate⟩ := served
    [none, none, some ⟨.system "No space left on device", disk⟩] (fun _ => "k3")
  exact ⟨kept, finite, c, hopened, moments, (immediate rfl).2 (.inl (by decide))⟩

/-- **A gauge that is listed is not restored** where no file can be. -/
theorem not_restored_after_crash_of_null_byte :
    let config : Config := ⟨["data", "metrics\x00.json"], true⟩
    let start : World Rough := ⟨.empty,
      { disk := Disk.withFolder ["data"], words := fun _ => "k3", installed := .empty }⟩
    let rest := (run (onRough config.path)
      (serveEach (serveAt config) [.updateGauge "load" .zero]) start).2
    opened config.path start.medium.disk = .value .empty ∧
      opened config.path rest.medium.disk = .value .empty ∧
      (run (onRough config.path) (serveAt config (.getGauge "load")) rest).1 = .value (some .zero) ∧
      ¬ CrashSafe config rest := by
  intro config start rest
  have opens : opened config.path rest.medium.disk = .value .empty := by rfl
  have kept : rest.contents.gauges.get? "load" = some .zero := by rfl
  refine ⟨rfl, opens, rfl, fun safe => ?_⟩
  obtain ⟨c, opens', listed⟩ := safe.atRest
  cases opens.symm.trans opens'
  rw [run_getAll, Contents.snapshot_empty] at listed
  rw [Contents.eq_empty_of_snapshot (Outcome.value.inj listed)] at kept
  cases kept

end File
end Store
end Telemetry
