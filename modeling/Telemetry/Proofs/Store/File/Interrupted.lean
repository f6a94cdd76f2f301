import Telemetry.Proofs.Store.Brittle
import Telemetry.Proofs.Store.File.Restore

/-!
# Writes that are broken off

On a brittle disk any step of a write may fail, and whoever waits for it may be cancelled.  A write
that is broken off has replaced the file, or leaves it as it was, possibly beside a temporary file
(`always_write`).  Either way the change that it belongs to stays in the contents (`always_change`):
only a failed write takes its change back.

So a change that is broken off keeps contents and file together exactly if its document has reached
the file, or says nothing new, and no temporary file is left (`keepsTogether_iff`).
-/

namespace Telemetry.Store.File

open Dialogue

namespace Interrupted

/-! ### Brittle disks -/

/-- Take a step on a brittle disk, given the words for the names of temporary files. -/
def perform (word : Disk → String) :
    (s : Step) → Brittle Disk Disk.Fault → s.Answer × Brittle Disk Disk.Fault
  | .token, m => (word m.state, m)
  | .occupied path, m => (m.state.occupied path, m)
  | .read path, m => (Outcome.ofExcept (m.state.read path), m)
  | .makeFolders path, m => m.attempt id fun disk => disk.makeFolders path
  | .create path, m => m.attempt id fun disk => disk.create path
  | .fill path content, m => m.attempt id fun disk => disk.fill path content
  | .flush _, m => m.attempt id .ok
  | .sync _, m => m.attempt id .ok
  | .close _, m => m.attempt id .ok
  | .rename source target, m => m.attempt id fun disk => disk.rename source target
  | .remove path, m => m.attempt id fun disk => disk.remove path

/-- What may come of a step on a brittle disk. -/
def may : (s : Step) → World (Brittle Disk Disk.Fault) → s.Answer → Brittle Disk Disk.Fault → Prop
  | .token, w, _, m => m = w.medium
  | .occupied _, w, _, m => m = w.medium
  | .read _, w, _, m => m = w.medium
  | .makeFolders path, w, answer, m =>
      Tried id (fun disk => disk.makeFolders path) w.medium.state answer m.state
  | .create path, w, answer, m =>
      Tried id (fun disk => disk.create path) w.medium.state answer m.state
  | .fill path content, w, answer, m =>
      Tried id (fun disk => disk.fill path content) w.medium.state answer m.state
  | .flush _, w, answer, m => Tried id .ok w.medium.state answer m.state
  | .sync _, w, answer, m => Tried id .ok w.medium.state answer m.state
  | .close _, w, answer, m => Tried id .ok w.medium.state answer m.state
  | .rename source target, w, answer, m =>
      Tried id (fun disk => disk.rename source target) w.medium.state answer m.state
  | .remove path, w, answer, m =>
      Tried id (fun disk => disk.remove path) w.medium.state answer m.state

theorem may_perform (word : Disk → String) (w : World (Brittle Disk Disk.Fault)) (s : Step) :
    may s w (perform word s w.medium).1 (perform word s w.medium).2 := by
  cases s with
  | token | occupied | read => rfl
  | makeFolders | create | fill | flush | sync | close | rename | remove =>
    exact tried_attempt id w.medium _

variable {config : Config} {w : World (Brittle Disk Disk.Fault)} {c : Contents} {disk : Disk}
  {path source : Path} {content : Bytes} {p q : Disk → Prop}

theorem tries_makeFolders (path : Path) :
    Tries may id (fun disk => disk.makeFolders path) (take (.makeFolders path)) :=
  fun _ _ h => always_tried (Step.makeFolders path) h

theorem tries_create (path : Path) :
    Tries may id (fun disk => disk.create path) (take (.create path)) :=
  fun _ _ h => always_tried (Step.create path) h

theorem tries_fill (path : Path) (content : Bytes) :
    Tries may id (fun disk => disk.fill path content) (take (.fill path content)) :=
  fun _ _ h => always_tried (Step.fill path content) h

theorem tries_flush (path : Path) : Tries may id .ok (take (.flush path)) :=
  fun _ _ h => always_tried (Step.flush path) h

theorem tries_sync (path : Path) : Tries may id .ok (take (.sync path)) :=
  fun _ _ h => always_tried (Step.sync path) h

theorem tries_close (path : Path) : Tries may id .ok (take (.close path)) :=
  fun _ _ h => always_tried (Step.close path) h

theorem tries_rename (source target : Path) :
    Tries may id (fun disk => disk.rename source target) (take (.rename source target)) :=
  fun _ _ h => always_tried (Step.rename source target) h

theorem tries_remove (path : Path) :
    Tries may id (fun disk => disk.remove path) (take (.remove path)) :=
  fun _ _ h => always_tried (Step.remove path) h

/-- A step of a write goes from one property of the disk to another, or stops at one of them. -/
theorem always_take {f : Disk → Except Disk.Fault Disk}
    {d : Doing Step.Answer (Outcome Disk.Fault Unit)} (tries : Tries may id f d) (h : At c p w)
    (done : ∀ disk, p disk → ∀ disk', f disk = .ok disk' → q disk') :
    Always (within may) (fun _ => True)
      (Concludes (fun _ => At c q) (fun _ => At c p) (At c fun disk => p disk ∨ q disk)) d w :=
  tries.concludes h done (fun _ h _ _ => h) (fun _ h _ => h) (fun _ => Or.inl) fun _ => Or.inr

/-- A step that changes nothing keeps what is known of the disk. -/
theorem always_take_ok {d : Doing Step.Answer (Outcome Disk.Fault Unit)}
    (tries : Tries may id .ok d) (h : At c p w) :
    Always (within may) (fun _ => True) (Concludes (fun _ => At c p) (fun _ => At c p) (At c p))
      d w :=
  tries.concludes h (fun _ h _ h' => Except.ok.inj h' ▸ h) (fun _ h _ _ => h) (fun _ h _ => h)
    (fun _ h => h) fun _ h => h

/-! ### What a write leaves in its folder -/

/-- No temporary file is beside the file at a path. -/
def Tidy (path : Path) (disk : Disk) : Prop :=
  ∀ word, disk.node? (temporary path word) = none

/-- In the folder of a path, nothing but one file has changed. -/
def Spared (path source : Path) (disk disk' : Disk) : Prop :=
  ∀ other : Path, other.parent = path.parent → other ≠ source → disk'.node? other = disk.node? other

/-- The one file holds some content. -/
def Filled (path source : Path) (content : Bytes) (disk disk' : Disk) : Prop :=
  Spared path source disk disk' ∧ disk'.node? source = some (.file content)

/-- The one file has taken the place of the one at the path. -/
structure Replaced (path source : Path) (content : Bytes) (disk disk' : Disk) : Prop where
  node : disk'.node? path = some (.file content)
  gone : disk'.node? source = none
  others : ∀ other : Path, other.parent = path.parent → other ≠ source → other ≠ path →
    disk'.node? other = disk.node? other

theorem Spared.refl (path source : Path) (disk : Disk) : Spared path source disk disk :=
  fun _ _ _ => rfl

theorem Spared.trans {disk₁ disk₂ : Disk} (h : Spared path source disk disk₁)
    (h' : Spared path source disk₁ disk₂) : Spared path source disk disk₂ :=
  fun other beside ne => (h' other beside ne).trans (h other beside ne)

theorem spared_makeFolders {disk' : Disk} (h : disk.makeFolders path.parent = .ok disk') :
    Spared path source disk disk' := by
  intro other beside _
  rw [← beside] at h
  exact Disk.node?_makeFolders_parent h

theorem spared_set (node : Node) : Spared path source disk (disk.set source node) := by
  intro other _ ne
  rw [Disk.node?_set, if_neg ne.symm]

theorem spared_unset : Spared path source disk (disk.unset source) := by
  intro other _ ne
  rw [Disk.node?_unset, if_neg ne.symm]

theorem Filled.replaced {disk₁ disk₂ : Disk} (h : Filled path source content disk disk₁)
    (ne : source ≠ path) (renamed : disk₁.rename source path = .ok disk₂) :
    Replaced path source content disk disk₂ := by
  obtain ⟨spared, filled⟩ := h
  rw [Disk.rename_eq filled renamed]
  constructor
  · rw [Disk.node?_set, if_pos rfl]
  · rw [Disk.node?_set, if_neg ne.symm, Disk.node?_unset, if_pos rfl]
  · intro other beside other_ne_source other_ne_path
    rw [Disk.node?_set, if_neg other_ne_path.symm, Disk.node?_unset, if_neg other_ne_source.symm]
    exact spared other beside other_ne_source

/-- The file at a path holds some content, and no temporary file has been left beside it. -/
def Installed (path : Path) (content : Bytes) (disk disk' : Disk) : Prop :=
  disk'.node? path = some (.file content) ∧ (Tidy path disk → Tidy path disk')

theorem Replaced.installed {word : String} {disk' : Disk}
    (h : Replaced path (temporary path word) content disk disk') :
    Installed path content disk disk' := by
  refine ⟨h.node, fun tidy other => ?_⟩
  by_cases same : temporary path other = temporary path word
  · rw [same]
    exact h.gone
  · rw [h.others _ (parent_temporary path other) same (temporary_ne path other)]
    exact tidy other

theorem Spared.same {word : String} {disk' : Disk}
    (h : Spared path (temporary path word) disk disk') : disk'.node? path = disk.node? path :=
  h path rfl (temporary_ne path word).symm

/-! ### One write -/

/-- The temporary file is filled, or the file at the path is spared. -/
theorem always_closing (h : At c (Spared path source disk) w) :
    Always (within may) (fun _ => True)
      (Concludes (fun _ => At c (Filled path source content disk))
        (fun _ => At c (Spared path source disk)) (At c (Spared path source disk)))
      (closing source
        ((take (.fill source content)).andThen fun _ =>
        (take (.flush source)).andThen fun _ =>
        take (.sync source))) w := by
  have filled (disk₁ : Disk) (spared : Spared path source disk disk₁) (disk₂ : Disk)
      (h : disk₁.fill source content = .ok disk₂) : Filled path source content disk disk₂ := by
    rw [Disk.fill_eq h]
    exact ⟨spared.trans (spared_set _), by rw [Disk.node?_set, if_pos rfl]⟩
  have spares {w' : World (Brittle Disk Disk.Fault)}
      (h : At c (Filled path source content disk) w') : At c (Spared path source disk) w' :=
    h.mono fun _ => And.left
  have body : Always (within may) (fun _ => True)
      (Concludes (fun _ => At c (Filled path source content disk))
        (fun _ => At c (Spared path source disk)) (At c (Spared path source disk)))
      ((take (.fill source content)).andThen fun _ =>
        (take (.flush source)).andThen fun _ =>
        take (.sync source)) w := by
    refine (always_take (tries_fill source content) h filled).andThen_concludes
      (fun _ w₁ _ h₁ => ?_) (fun _ _ h => h) fun _ h => h.mono fun _ => Or.rec id And.left
    refine (always_take_ok (tries_flush source) h₁).andThen_concludes (fun _ w₂ _ h₂ => ?_)
      (fun _ _ => spares) fun _ => spares
    refine (always_take_ok (tries_sync source) h₂).mono fun outcome w₃ _ h₃ => ?_
    cases outcome with
    | value => exact h₃
    | failure | cancelled => exact spares h₃
  -- The file is closed however the body ends, and a failure to close counts first.
  refine always_bind.2 (body.mono fun outcome w₁ _ h₁ => always_bind.2 ?_)
  cases outcome with
  | value =>
    refine (always_take_ok (tries_close source) h₁).mono fun closed w₂ _ h₂ => ?_
    cases closed with
    | value => exact ⟨trivial, h₂⟩
    | failure | cancelled => exact ⟨trivial, spares h₂⟩
  | failure | cancelled =>
    refine (always_take_ok (tries_close source) h₁).mono fun closed w₂ _ h₂ => ?_
    cases closed <;> exact ⟨trivial, h₂⟩

theorem always_install (ne : source ≠ path) (h : At c (Spared path source disk) w) :
    Always (within may) (fun _ => True)
      (Concludes (fun _ => At c (Replaced path source content disk))
        (fun _ => At c (Spared path source disk))
        (At c fun disk' => Spared path source disk disk' ∨ Replaced path source content disk disk'))
      (install path source content) w := by
  have stops {w' : World (Brittle Disk Disk.Fault)} (h : At c (Spared path source disk) w') :
      At c (fun disk' => Spared path source disk disk' ∨ Replaced path source content disk disk') w' :=
    h.mono fun _ => Or.inl
  refine (always_take (tries_makeFolders path.parent) h fun _ spared _ h =>
    spared.trans (spared_makeFolders h)).andThen_concludes (fun _ w₁ _ h₁ => ?_) (fun _ _ h => h)
    fun _ h => stops (h.mono fun _ => Or.rec id id)
  refine (always_take (tries_create source) h₁ fun _ spared _ h =>
    spared.trans (Disk.create_eq h ▸ spared_set _)).andThen_concludes (fun _ w₂ _ h₂ => ?_)
    (fun _ _ h => h) fun _ h => stops (h.mono fun _ => Or.rec id id)
  refine (always_closing h₂).andThen_concludes (fun _ w₃ _ h₃ => ?_) (fun _ _ h => h) fun _ => stops
  refine (always_take (tries_rename source path) h₃ fun _ filled _ h =>
    filled.replaced ne h).mono fun outcome w₄ _ h₄ => ?_
  cases outcome with
  | value => exact h₄
  | failure => exact h₄.mono fun _ => And.left
  | cancelled => exact h₄.mono fun _ => Or.imp_left And.left

/-- **A write that is broken off has replaced the file, or leaves it as it was.** -/
theorem always_write (h : At c (· = disk) w) (written : Contents) :
    Always (within may) (fun _ => True)
      (Concludes (fun _ => At c (Installed path (document written) disk))
        (fun _ => At c fun disk' => disk'.node? path = disk.node? path)
        (At c fun disk' => disk'.node? path = disk.node? path ∨
          Installed path (document written) disk disk'))
      (write path written) w := by
  refine always_bind.2 (always_step trivial ?_)
  rintro word _ rfl
  refine ⟨trivial, always_inTurn (always_bind.2 ?_)⟩
  have spared : At c (Spared path (temporary path word) disk) w := by
    refine h.mono ?_
    rintro _ rfl
    exact Spared.refl path _ _
  refine (always_install (temporary_ne path word) spared).mono fun outcome w₁ _ h₁ => ?_
  cases outcome with
  | value => exact ⟨trivial, h₁.mono fun _ => Replaced.installed⟩
  | cancelled => exact ⟨trivial, h₁.mono fun _ => Or.imp Spared.same Replaced.installed⟩
  | failure fault =>
    refine always_bind.2 ((always_take (tries_remove (temporary path word)) h₁
      fun _ spared _ h => spared.trans (Disk.remove_eq h ▸ spared_unset)).mono
      fun removed w₂ _ h₂ => ?_)
    cases removed with
    | value | failure => exact ⟨trivial, h₂.mono fun _ => Spared.same⟩
    | cancelled => exact ⟨trivial, h₂.mono fun _ h => .inl (Or.rec Spared.same Spared.same h)⟩

/-! ### Calls -/

/-- How a call ends of a store that writes at once.  One that is broken off has changed the
contents, whether or not it has changed the file. -/
def Ended {α : Type} (path : Path) (effect : Contents → Except Error Contents) (c : Contents)
    (disk : Disk) : Outcome Error α → World (Brittle Disk Disk.Fault) → Prop :=
  Concludes
    (fun _ w' => ∃ after, effect c = .ok after ∧ At after (fun disk' =>
      (after = c ∧ disk' = disk) ∨ Installed path (document after) disk disk') w')
    (fun _ _ => True)
    fun w' => ∃ after, effect c = .ok after ∧ At after (fun disk' =>
      disk'.node? path = disk.node? path ∨ Installed path (document after) disk disk') w'

theorem always_change {effect : Contents → Except Error Contents}
    (immediate : config.immediate = true) (w : World (Brittle Disk Disk.Fault)) :
    Always (within may) (fun _ => True)
      (Ended config.path effect w.contents w.medium.state) (change config effect) w := by
  refine always_locked (always_contents ?_)
  cases h : effect w.contents with
  | error e => exact ⟨trivial, trivial⟩
  | ok after =>
    refine always_setContents trivial ?_
    rw [if_pos immediate]
    have start : At after (· = w.medium.state) { w with contents := after } := ⟨rfl, rfl⟩
    refine always_bind.2 ((always_write start after).mono fun outcome w' _ h' => ?_)
    cases outcome with
    | value => exact ⟨trivial, after, h, h'.mono fun _ => Or.inr⟩
    | failure e => exact always_setContents trivial ⟨trivial, trivial⟩
    | cancelled => exact ⟨trivial, after, h, h'⟩

theorem always_serve (immediate : config.immediate = true) (call : Call)
    (w : World (Brittle Disk Disk.Fault)) :
    Always (within may) (fun _ => True)
      (Ended config.path call.effect w.contents w.medium.state) (serve config call) w := by
  have unchanged : At w.contents (fun disk' => (w.contents = w.contents ∧ disk' = w.medium.state) ∨
      Installed config.path (document w.contents) w.medium.state disk') w :=
    ⟨rfl, .inl ⟨rfl, rfl⟩⟩
  cases call with
  | updateGauge | updateCounter | setCounter => exact always_change immediate w
  | getGauge | getCounter | getAll =>
    exact always_lookUp trivial ⟨w.contents, rfl, unchanged⟩
  | ping => exact ⟨trivial, trivial⟩
  | save =>
    refine always_locked (always_contents ?_)
    have start : At w.contents (· = w.medium.state) w := ⟨rfl, rfl⟩
    refine (always_write start w.contents).mono fun outcome w' _ h => ?_
    cases outcome with
    | value => exact ⟨w.contents, rfl, h.mono fun _ => Or.inr⟩
    | failure => trivial
    | cancelled => exact ⟨w.contents, rfl, h⟩

/-- A write that leads nowhere leaves the file as it was. -/
theorem always_writeNowhere (h : At c (· = disk) w) :
    Always (within may) (fun _ => True)
      (Concludes (fun _ _ => False) (fun _ _ => True)
        (At c fun disk' => disk'.node? path = disk.node? path))
      (writeNowhere path) w := by
  have spares (disk₁ : Disk) (same : disk₁ = disk) (disk₂ : Disk)
      (h : disk₁.makeFolders (path.parent.takeWhile nameable) = .ok disk₂) :
      disk₂.node? path = disk.node? path := by
    rw [same] at h
    exact Disk.node?_makeFolders (List.takeWhile_prefix _) h
  refine always_inTurn (always_bind.2 ?_)
  refine (always_take (tries_makeFolders _) h spares).mono fun outcome w' _ made => ?_
  cases outcome with
  | value | failure => exact ⟨trivial, trivial⟩
  | cancelled => exact ⟨trivial, made.mono fun _ => Or.rec (fun same => by rw [same]) id⟩

/-- A change whose file cannot be there is never done. -/
theorem always_changeNowhere {effect : Contents → Except Error Contents}
    (immediate : config.immediate = true) (w : World (Brittle Disk Disk.Fault)) :
    Always (within may) (fun _ => True)
      (Ended config.path effect w.contents w.medium.state) (changeNowhere config effect) w := by
  refine always_locked (always_contents ?_)
  cases h : effect w.contents with
  | error e => exact ⟨trivial, trivial⟩
  | ok after =>
    refine always_setContents trivial ?_
    rw [if_pos immediate]
    have start : At after (· = w.medium.state) { w with contents := after } := ⟨rfl, rfl⟩
    refine (always_writeNowhere start).mono fun outcome w' _ h' => ?_
    cases outcome with
    | value => exact h'.elim
    | failure => trivial
    | cancelled => exact ⟨after, h, h'.mono fun _ => Or.inl⟩

theorem always_serveAt (immediate : config.immediate = true) (call : Call)
    (w : World (Brittle Disk Disk.Fault)) :
    Always (within may) (fun _ => True)
      (Ended config.path call.effect w.contents w.medium.state) (serveAt config call) w := by
  have served := always_serve immediate call w
  unfold serveAt
  split
  · exact served
  cases call with
  | updateGauge | updateCounter | setCounter => exact always_changeNowhere immediate w
  | getGauge | getCounter | getAll | ping => exact served
  | save =>
    have start : At w.contents (· = w.medium.state) w := ⟨rfl, rfl⟩
    refine always_locked ((always_writeNowhere start).mono fun outcome w' _ h => ?_)
    cases outcome with
    | value => exact h.elim
    | failure => trivial
    | cancelled => exact ⟨w.contents, rfl, h.mono fun _ => Or.inl⟩

/-! ### What comes later -/

/-- A store that writes at once is at rest if its contents are restored from its file, and no
temporary file is left. -/
structure AtRest (config : Config) (w : World (Brittle Disk Disk.Fault)) : Prop where
  sayable : w.contents.Sayable
  restores : Restores config.path w.medium.state w.contents
  tidy : Tidy config.path w.medium.state

/-- Calls that succeed keep a store at rest. -/
theorem always_serveAt_atRest (immediate : config.immediate = true) {call : Call}
    (finite : call.Finite) {w : World (Brittle Disk Disk.Fault)} (rest : AtRest config w) :
    Always (within may) (fun _ => True)
      (fun outcome w' => ∀ result, outcome = .value result → AtRest config w')
      (serveAt config call) w := by
  refine (always_serveAt immediate call w).mono fun outcome w' _ ended => ?_
  rintro result rfl
  obtain ⟨after, effect, hcontents, hstate⟩ := ended
  have sayable : w'.contents.Sayable :=
    hcontents ▸ call.sayable_effect finite rest.sayable effect
  rcases hstate with ⟨rfl, hstate⟩ | ⟨node, tidy⟩
  · refine ⟨sayable, ?_, ?_⟩
    · rw [hcontents, hstate]
      exact rest.restores
    · rw [hstate]
      exact rest.tidy
  · rw [← hcontents] at node
    exact ⟨sayable, opened_document sayable node, tidy rest.tidy⟩

/-- Whatever calls come later, and whatever their steps meet, the contents are restored from the
file after them and no temporary file is left, if all of them succeed. -/
def KeepsTogether (config : Config) (w : World (Brittle Disk Disk.Fault)) : Prop :=
  ∀ (word : Disk → String) (script : List (Option (Hit Disk.Fault))) (calls : List Call),
    (∀ call ∈ calls, call.Finite) →
      let later := run (alone (perform word)) (serveWhileFine (serveAt config) calls)
        ⟨w.contents, { w.medium with script }⟩
      later.1 = true →
        Restores config.path later.2.medium.state later.2.contents ∧
          Tidy config.path later.2.medium.state

/-- The answer of a call, and the world that it leaves. -/
def served (config : Config) (word : Disk → String) (call : Call)
    (w : World (Brittle Disk Disk.Fault)) : call.Answer × World (Brittle Disk Disk.Fault) :=
  run (alone (perform word)) (serveAt config call) w

theorem AtRest.keepsTogether (immediate : config.immediate = true) (rest : AtRest config w) :
    KeepsTogether config w := by
  intro word script calls finite later fine
  have start : AtRest config ⟨w.contents, { w.medium with script }⟩ :=
    ⟨rest.sayable, rest.restores, rest.tidy⟩
  have always : Always (within may) (fun _ => True) (fun fine w' => fine = true → AtRest config w')
      (serveWhileFine (serveAt config) calls) ⟨w.contents, { w.medium with script }⟩ :=
    always_serveWhileFine (fun call hcall _ rest =>
      always_serveAt_atRest immediate (finite call hcall) rest) start
  have after := always.run (fun q w => within_alone (may_perform word w) q) fine
  exact ⟨after.restores, after.tidy⟩

/-- **A call that is broken off keeps contents and file together exactly if its document has reached
the file**, or says nothing new, and no temporary file is left. -/
theorem keepsTogether_iff (word : Disk → String) {call : Call} {after : Contents}
    (immediate : config.immediate = true) (finite : call.Finite) (rest : AtRest config w)
    (effect : call.effect w.contents = .ok after)
    (cancelled : (served config word call w).1 = .cancelled) :
    KeepsTogether config (served config word call w).2 ↔
      Tidy config.path (served config word call w).2.medium.state ∧
        ((served config word call w).2.medium.state.node? config.path = some (.file (document after))
          ∨ after.Agree w.contents) := by
  have ended : Ended config.path call.effect w.contents w.medium.state
      (served config word call w).1 (served config word call w).2 :=
    (always_serveAt immediate call w).run fun q w => within_alone (may_perform word w) q
  rw [cancelled] at ended
  obtain ⟨after', effect', hcontents, left⟩ := ended
  obtain rfl : after' = after := Except.ok.inj (effect'.symm.trans effect)
  generalize (served config word call w).2 = w' at hcontents left
  have sayable := call.sayable_effect finite rest.sayable effect
  constructor
  · intro keeps
    obtain ⟨restores, tidy⟩ : Restores config.path w'.medium.state w'.contents ∧
        Tidy config.path w'.medium.state := keeps word [] [] nofun rfl
    refine ⟨tidy, ?_⟩
    rcases left with same | ⟨node, -⟩
    · -- The file is the one from before, so what it restores is what was there before.
      obtain ⟨before, opens, agree⟩ := rest.restores
      obtain ⟨before', opens', agree'⟩ := restores
      rw [opened_congr same, opens] at opens'
      cases opens'
      rw [hcontents] at agree'
      exact .inr (agree'.symm.trans agree)
    · exact .inl node
  · rintro ⟨tidy, reached⟩
    refine AtRest.keepsTogether immediate ⟨hcontents ▸ sayable, ?_, tidy⟩
    rw [hcontents]
    rcases left with same | ⟨node, -⟩
    · rcases reached with node | nothing
      · exact opened_document sayable node
      · obtain ⟨before, opens, agree⟩ := rest.restores
        exact ⟨before, (opened_congr same).trans opens, agree.trans nothing.symm⟩
    · exact opened_document sayable node

end Interrupted

end Telemetry.Store.File
