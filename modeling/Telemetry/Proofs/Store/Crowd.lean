import Mathlib.Logic.Function.Basic
import Telemetry.Proofs.Lock.Places
import Telemetry.Proofs.Store.Shared
import Telemetry.Store.Concurrent

/-!
# Orderly tasks in a crowd

Tasks that are orderly keep a crowd in order, whichever of them goes on (`went_goOn`).  In an orderly
crowd every task is at the stage that the lock and the turn say it is at, and all that are inside
entered when the contents were the settled ones.  The contents are the settled ones unless a writer
is inside; when it leaves, the ones that it leaves behind are settled.  So a task that ends is
answered as if it had run alone at that moment.
-/

namespace Telemetry.Store

/-- In which mode a call is inside the lock, and what the contents were when it entered. -/
def Stage.entered? : Stage → Option (Lock.Mode × Contents)
  | .inside mode entered => some (mode, entered)
  | .inTurn mode entered => some (mode, entered)
  | _ => none

def Stage.IsInTurn : Stage → Prop
  | .inTurn _ _ => True
  | _ => False

namespace Crowd

variable {S ω : Type} {A : S → Type} {α : Type} {sharing : Sharing A ω}
  {served : Nat → Contents → α → Contents → Prop} {perform : (s : S) → World ω → A s × ω}

/-! ### Order -/

/-- Where a task at a stage is at the lock. -/
def Place (lock : Lock Nat) (i : Nat) : Stage → Prop
  | .outside => lock.visitor? i = none
  | .waiting mode => lock.Waits i mode
  | .inside mode _ => lock.Holds i mode
  | .inTurn mode _ => lock.Holds i mode
  | .gone _ => False

/-- A task that stands at a stage will be orderly when it goes on. -/
def Promise (sharing : Sharing A ω) (served : Contents → α → Contents → Prop) :
    Standing A α → Stage → World ω → Prop
  | .ready rest, stage, w =>
      ∀ w', Disturbed sharing stage w w' → Orderly sharing (Settled served) rest stage w'
  | .atLock next, stage, _ =>
      ∃ mode, stage = .waiting mode ∧
        ∀ w, Orderly sharing (Settled served) (next true) (.inside mode w.contents) w
  | .forTurn next, stage, w =>
      ∃ mode entered, stage = .inside mode entered ∧
        ∀ m, Orderly sharing (Settled served) (next true) (.inTurn mode entered)
          { w with medium := m }
  | .ended _, stage, _ => stage = .outside

/-- The tasks of a crowd are at certain stages, and some contents are settled. -/
structure Frame (c : Crowd A α ω) (stages : Nat → Stage) (settled : Contents) : Prop where
  sound : c.lock.Sound
  place : ∀ i, Place c.lock i (stages i)
  beyond : ∀ i, c.tasks.length ≤ i → stages i = .outside
  /-- The turn is taken if a task is in turn. -/
  taken : ∀ i, (stages i).IsInTurn → c.taken = true
  alone : ∀ i j, (stages i).IsInTurn → (stages j).IsInTurn → i = j
  entered : ∀ i mode entered, (stages i).entered? = some (mode, entered) → entered = settled
  /-- Only a writer that is inside may have changed the contents. -/
  unchanged : (∀ i entered, (stages i).entered? ≠ some (.write, entered)) →
    c.world.contents = settled

/-- Every task but one keeps its promise. -/
def Others (sharing : Sharing A ω) (served : Nat → Contents → α → Contents → Prop) (i : Nat)
    (c : Crowd A α ω) (stages : Nat → Stage) : Prop :=
  ∀ j, j ≠ i → ∀ standing, c.tasks[j]? = some standing →
    Promise sharing (served j) standing (stages j) c.world

/-- All tasks are orderly, given what is settled and how each of them may be served. -/
structure InOrder (sharing : Sharing A ω) (served : Nat → Contents → α → Contents → Prop)
    (c : Crowd A α ω) (stages : Nat → Stage) (settled : Contents) : Prop where
  frame : Frame c stages settled
  tasks : ∀ i standing, c.tasks[i]? = some standing →
    Promise sharing (served i) standing (stages i) c.world

/-- What a task leaves settled that has gone on: if it has ended, something else than before. -/
def Settles (served : Contents → α → Contents → Prop) (settled settled' : Contents) :
    Option (Standing A α) → Prop
  | some (.ended a) => served settled a settled'
  | _ => settled' = settled

/-- What has become of a crowd in which one task has gone on. -/
structure Went (sharing : Sharing A ω) (served : Nat → Contents → α → Contents → Prop) (i : Nat)
    (settled : Contents) (c c' : Crowd A α ω) : Prop where
  length : c'.tasks.length = c.tasks.length
  others : ∀ j, j ≠ i → c'.tasks[j]? = c.tasks[j]?
  /-- The medium has changed by one step at most, given the contents that there are now. -/
  medium : c'.world.medium = c.world.medium ∨
    sharing.step { c'.world with medium := c.world.medium } c'.world
  settles : ∃ settled' stages', InOrder sharing served c' stages' settled' ∧
    Settles (served i) settled settled' c'.tasks[i]?

variable {c c' : Crowd A α ω} {stages : Nat → Stage} {settled : Contents} {i : Nat}

/-! ### One task and the others -/

/-- Promises are kept whatever others do. -/
theorem Promise.disturbed {standing : Standing A α} {stage : Stage} {w w' : World ω}
    (h : Promise sharing (served i) standing stage w) (disturbed : Disturbed sharing stage w w') :
    Promise sharing (served i) standing stage w' := by
  cases standing with
  | ready rest => exact fun w'' more => h w'' (disturbed.trans more)
  | atLock next => exact h
  | forTurn next =>
    obtain ⟨mode, entered, rfl, h⟩ := h
    obtain ⟨c, m⟩ := w
    obtain ⟨c', m'⟩ := w'
    obtain rfl : c' = c := disturbed
    exact ⟨mode, entered, rfl, h⟩
  | ended a => exact h

theorem Place.arrive {lock : Lock Nat} {j : Nat} {stage : Stage} {mode : Lock.Mode}
    (h : Place lock j stage) (ne : j ≠ i) : Place (lock.arrive i mode) j stage := by
  cases stage with
  | outside => exact (Lock.visitor?_arrive ne).trans h
  | waiting => exact Lock.Waits.arrive h ne
  | inside | inTurn => exact Lock.Holds.arrive h ne
  | gone => exact h

theorem Place.resume {lock : Lock Nat} {j : Nat} {stage : Stage} (h : Place lock j stage)
    (ne : j ≠ i) : Place (lock.resume i) j stage := by
  cases stage with
  | outside => exact (Lock.visitor?_resume ne).trans h
  | waiting => exact Lock.Waits.resume h ne
  | inside | inTurn => exact Lock.Holds.resume h ne
  | gone => exact h

theorem Place.leave {lock : Lock Nat} {j : Nat} {stage : Stage} (h : Place lock j stage)
    (ne : j ≠ i) : Place (lock.leave i) j stage := by
  cases stage with
  | outside => exact Lock.visitor?_leave_eq_none h ne
  | waiting => exact Lock.Waits.leave h ne
  | inside | inTurn => exact Lock.Holds.leave h ne
  | gone => exact h

theorem Place.holds {lock : Lock Nat} {stage : Stage} {mode : Lock.Mode} {entered : Contents}
    (h : Place lock i stage) (entry : stage.entered? = some (mode, entered)) :
    lock.Holds i mode := by
  cases stage with
  | outside | waiting | gone => cases entry
  | inside | inTurn =>
    cases entry
    exact h

/-- Only the lock, the turn and the contents matter to the frame. -/
theorem Frame.congr (frame : Frame c stages settled) (lock : c'.lock = c.lock)
    (length : c'.tasks.length = c.tasks.length) (taken : c'.taken = c.taken)
    (contents : c'.world.contents = c.world.contents) : Frame c' stages settled where
  sound := lock ▸ frame.sound
  place i := lock ▸ frame.place i
  beyond i h := frame.beyond i (length ▸ h)
  taken i h := taken ▸ frame.taken i h
  alone := frame.alone
  entered := frame.entered
  unchanged h := contents.trans (frame.unchanged h)

/-- One task goes to another stage. -/
theorem Frame.update (frame : Frame c stages settled) {stage : Stage} {settled' : Contents}
    (known : i < c.tasks.length) (length : c'.tasks.length = c.tasks.length)
    (sound : c'.lock.Sound) (place : Place c'.lock i stage)
    (others : ∀ j, j ≠ i → ∀ stage, Place c.lock j stage → Place c'.lock j stage)
    (turn : stage.IsInTurn → c'.taken = true ∧ ∀ j, j ≠ i → ¬ (stages j).IsInTurn)
    (kept : ∀ j, j ≠ i → (stages j).IsInTurn → c'.taken = true)
    (entered : ∀ mode entered, stage.entered? = some (mode, entered) → entered = settled')
    (same : ∀ j, j ≠ i → (stages j).entered? ≠ none → settled' = settled)
    (unchanged : (∀ entered, stage.entered? ≠ some (.write, entered)) →
      (∀ j, j ≠ i → ∀ entered, (stages j).entered? ≠ some (.write, entered)) →
      c'.world.contents = settled') :
    Frame c' (Function.update stages i stage) settled' := by
  have own : Function.update stages i stage i = stage := Function.update_self ..
  have other {j : Nat} (ne : j ≠ i) : Function.update stages i stage j = stages j :=
    Function.update_of_ne ne ..
  refine ⟨sound, fun j => ?_, fun j h => ?_, fun j h => ?_, fun j k h h' => ?_,
    fun j mode e h => ?_, fun h => ?_⟩
  · rcases eq_or_ne j i with rfl | ne
    · rw [own]
      exact place
    · rw [other ne]
      exact others j ne _ (frame.place j)
  · have ne : j ≠ i := by omega
    rw [other ne]
    exact frame.beyond j (by omega)
  · rcases eq_or_ne j i with rfl | ne
    · rw [own] at h
      exact (turn h).1
    · rw [other ne] at h
      exact kept j ne h
  · rcases eq_or_ne j i with rfl | ne <;> rcases eq_or_ne k j with rfl | ne'
    · rfl
    · rw [own] at h
      rw [other ne'] at h'
      exact absurd h' ((turn h).2 k ne')
    · rfl
    · rw [other ne] at h
      rcases eq_or_ne k i with rfl | ne''
      · rw [own] at h'
        exact absurd h ((turn h').2 j ne)
      · rw [other ne''] at h'
        exact frame.alone j k h h'
  · rcases eq_or_ne j i with rfl | ne
    · rw [own] at h
      exact entered mode e h
    · rw [other ne] at h
      rw [same j ne (by simp [h])]
      exact frame.entered j mode e h
  · refine unchanged (fun e => own ▸ h i e) fun j ne e => ?_
    have h := h j e
    rwa [other ne] at h

theorem Others.update (others : Others sharing served i c stages) {stage : Stage}
    (tasks : ∀ j, j ≠ i → c'.tasks[j]? = c.tasks[j]?)
    (disturbed : ∀ j, j ≠ i → Disturbed sharing (stages j) c.world c'.world) :
    Others sharing served i c' (Function.update stages i stage) := by
  intro j ne standing h
  rw [Function.update_of_ne ne]
  rw [tasks j ne] at h
  exact (others j ne standing h).disturbed (disturbed j ne)

/-- A writer inside is alone. -/
theorem Frame.entered?_eq_none (frame : Frame c stages settled) {entered : Contents}
    (writer : (stages i).entered? = some (.write, entered)) {j : Nat} (ne : j ≠ i) :
    (stages j).entered? = none := by
  cases h : (stages j).entered? with
  | none => rfl
  | some entry =>
    have holds := (frame.place i).holds writer
    exact absurd (holds.eq_of_write ((frame.place j).holds h) frame.sound) ne

/-- Where a task is admitted, the contents are settled. -/
theorem Frame.contents_of_admits (frame : Frame c stages settled) {mode : Lock.Mode}
    (admits : c.lock.admits mode = true) : c.world.contents = settled := by
  refine frame.unchanged fun j entered h => ?_
  exact Lock.not_holds_of_admits frame.sound admits ((frame.place j).holds h)

/-- To a reader inside, the contents are settled. -/
theorem Frame.contents_of_read (frame : Frame c stages settled) {entered : Contents}
    (reader : (stages i).entered? = some (.read, entered)) : c.world.contents = settled := by
  refine frame.unchanged fun j entered' h => ?_
  rcases eq_or_ne i j with rfl | ne
  · rw [reader] at h
    cases h
  · rw [frame.entered?_eq_none h ne] at reader
    cases reader

theorem inOrder_stand (frame : Frame c stages settled)
    (others : Others sharing served i c stages) (known : i < c.tasks.length)
    (standing : Standing A α) (promise : Promise sharing (served i) standing (stages i) c.world) :
    InOrder sharing served (c.stand i standing) stages settled where
  frame := frame.congr rfl (List.length_set ..) rfl rfl
  tasks := by
    intro j other h
    rcases eq_or_ne j i with rfl | ne
    · rw [stand, List.getElem?_set_self known] at h
      cases h
      exact promise
    · rw [stand, List.getElem?_set_ne ne.symm] at h
      exact others j ne other h

/-! ### How stages follow each other -/

/-- A task goes into the lock when the contents are settled. -/
theorem Frame.goIn (frame : Frame c stages settled) (known : i < c.tasks.length) {lock : Lock Nat}
    {mode : Lock.Mode} (admits : c.lock.admits mode = true) (sound : lock.Sound)
    (holds : lock.Holds i mode)
    (others : ∀ j, j ≠ i → ∀ stage, Place c.lock j stage → Place lock j stage) :
    Frame { c with lock } (Function.update stages i (.inside mode c.world.contents)) settled := by
  have contents := frame.contents_of_admits admits
  refine frame.update known rfl sound holds others nofun (fun j _ => frame.taken j) ?_
    (fun _ _ _ => rfl) fun _ _ => contents
  rintro _ _ ⟨⟩
  exact contents

theorem Frame.wait (frame : Frame c stages settled) (known : i < c.tasks.length) {lock : Lock Nat}
    {mode : Lock.Mode} (outside : (stages i).entered? = none) (sound : lock.Sound)
    (waits : lock.Waits i mode)
    (others : ∀ j, j ≠ i → ∀ stage, Place c.lock j stage → Place lock j stage) :
    Frame { c with lock } (Function.update stages i (.waiting mode)) settled := by
  refine frame.update known rfl sound waits others nofun (fun j _ => frame.taken j) nofun
    (fun _ _ _ => rfl) fun _ alone => frame.unchanged fun j e h => ?_
  rcases eq_or_ne j i with rfl | ne
  · rw [outside] at h
    cases h
  · exact alone j ne e h

/-- What a task leaves behind is settled. -/
theorem Frame.leave (frame : Frame c stages settled) (known : i < c.tasks.length)
    {mode : Lock.Mode} {entered : Contents} (inside : stages i = .inside mode entered) :
    Frame (c.leave i) (Function.update stages i .outside) c.world.contents := by
  have holds : c.lock.Holds i mode := by
    have place := frame.place i
    rwa [inside] at place
  refine frame.update known rfl frame.sound.leave (Lock.visitor?_leave_self holds)
    (fun j ne stage h => h.leave ne) nofun (fun j _ => frame.taken j) nofun (fun j ne h => ?_)
    fun _ _ => rfl
  cases mode with
  | read => exact frame.contents_of_read (by rw [inside]; rfl)
  | write => exact absurd (frame.entered?_eq_none (by rw [inside]; rfl) ne) h

/-- A task takes its turn or ends it, and stays inside the lock. -/
theorem Frame.turn (frame : Frame c stages settled) (known : i < c.tasks.length) (stage : Stage)
    (taken : Bool) (place : Place c.lock i stage) (entry : stage.entered? = (stages i).entered?)
    (mine : stage.IsInTurn → taken = true)
    (others : ∀ j, j ≠ i → ¬ (stages j).IsInTurn) :
    Frame { c with taken } (Function.update stages i stage) settled := by
  refine frame.update known rfl frame.sound place (fun _ _ _ h => h) (fun h => ⟨mine h, others⟩)
    (fun j ne h => absurd h (others j ne)) (fun mode e h => frame.entered i mode e (entry ▸ h))
    (fun _ _ _ => rfl) fun own alone => frame.unchanged fun j e h => ?_
  rcases eq_or_ne j i with rfl | ne
  · exact own e (entry ▸ h)
  · exact alone j ne e h

/-- A writer inside may change the contents. -/
theorem Frame.setContents (frame : Frame c stages settled) {entered : Contents}
    (writer : (stages i).entered? = some (.write, entered)) (contents : Contents) :
    Frame { c with world := { c.world with contents } } stages settled where
  sound := frame.sound
  place := frame.place
  beyond := frame.beyond
  taken := frame.taken
  alone := frame.alone
  entered := frame.entered
  unchanged h := absurd writer (h i entered)

/-! ### What others notice -/

/-- A task outside the lock notices nothing. -/
theorem disturbed_of_entered? {stage : Stage} (h : stage.entered? = none) (w w' : World ω) :
    Disturbed sharing stage w w' := by
  cases stage with
  | outside | waiting | gone => trivial
  | inside | inTurn => cases h

/-- What a task may do to the medium disturbs the others no more than they expect. -/
theorem Frame.disturbed (frame : Frame c stages settled) {j : Nat} (ne : j ≠ i) {m : ω}
    (allowed : (stages i).Allows sharing c.world.medium m) :
    Disturbed sharing (stages j) c.world { c.world with medium := m } := by
  cases other : stages j with
  | outside | waiting | gone => trivial
  | inside => rfl
  | inTurn mode entered =>
    refine ⟨rfl, ?_⟩
    cases own : stages i with
    | inTurn =>
      have inTurn : (stages i).IsInTurn := by rw [own]; trivial
      have inTurn' : (stages j).IsInTurn := by rw [other]; trivial
      exact absurd (frame.alone j i inTurn' inTurn) ne
    | outside | waiting | inside | gone =>
      rw [own] at allowed
      exact allowed

/-! ### Going on -/

/-- What has become of a crowd does not depend on what a task did on the way. -/
theorem Went.of {c₁ : Crowd A α ω} (h : Went sharing served i settled c₁ c')
    (tasks : c₁.tasks = c.tasks) (medium : c₁.world.medium = c.world.medium) :
    Went sharing served i settled c c' where
  length := tasks ▸ h.length
  others := tasks ▸ h.others
  medium := medium ▸ h.medium
  settles := h.settles

/-- A task stands again that has not ended. -/
theorem went_stand (frame : Frame c stages settled) (others : Others sharing served i c stages)
    (known : i < c.tasks.length) (standing : Standing A α)
    (promise : Promise sharing (served i) standing (stages i) c.world)
    (goes : ∀ a, standing ≠ .ended a) :
    Went sharing served i settled c (c.stand i standing) where
  length := List.length_set ..
  others j ne := List.getElem?_set_ne ne.symm
  medium := .inl rfl
  settles := by
    refine ⟨settled, stages, inOrder_stand frame others known _ promise, ?_⟩
    rw [stand, List.getElem?_set_self known]
    cases standing with
    | ready | atLock | forTurn => rfl
    | ended a => exact absurd rfl (goes a)

/-- A task that has ended leaves settled what its answer fits. -/
theorem went_end (frame : Frame c stages settled) (others : Others sharing served i c stages)
    (known : i < c.tasks.length) {before : Contents} {a : α} (outside : stages i = .outside)
    (h : served i before a settled) : Went sharing served i before c (c.stand i (.ended a)) where
  length := List.length_set ..
  others j ne := List.getElem?_set_ne ne.symm
  medium := .inl rfl
  settles := by
    refine ⟨settled, stages, inOrder_stand frame others known _ outside, ?_⟩
    rw [stand, List.getElem?_set_self known]
    exact h

/-- After a step a task stands again. -/
theorem went_step (frame : Frame c stages settled) (others : Others sharing served i c stages)
    (known : i < c.tasks.length) {rest : Doing A α} {m : ω}
    (stepped : sharing.step c.world { c.world with medium := m })
    (allowed : (stages i).Allows sharing c.world.medium m)
    (orderly : ∀ w', Disturbed sharing (stages i) { c.world with medium := m } w' →
      Orderly sharing (Settled (served i)) rest (stages i) w') :
    Went sharing served i settled c
      (({ c with world := { c.world with medium := m } }.stand i (.ready rest)).enqueue [i]) := by
  let c₁ : Crowd A α ω := { c with world := { c.world with medium := m } }
  have frame₁ : Frame c₁ stages settled := frame.congr rfl rfl rfl rfl
  have others₁ : Others sharing served i c₁ stages := fun j ne standing h =>
    (others j ne standing h).disturbed (frame.disturbed ne allowed)
  have inOrder := inOrder_stand frame₁ others₁ known (.ready rest) orderly
  refine ⟨List.length_set .., fun j ne => List.getElem?_set_ne ne.symm, .inr stepped, settled,
    stages, ⟨inOrder.frame.congr rfl rfl rfl rfl, inOrder.tasks⟩, ?_⟩
  have standing : (c₁.stand i (.ready rest)).tasks[i]? = some (.ready rest) :=
    List.getElem?_set_self known
  show Settles (served i) settled settled (c₁.stand i (.ready rest)).tasks[i]?
  rw [standing]
  rfl

/-- Whoever keeps to a dialogue keeps the crowd in order. -/
def Keeps (sharing : Sharing A ω) (served : Nat → Contents → α → Contents → Prop)
    (perform : (s : S) → World ω → A s × ω) (i : Nat) (settled : Contents) (d : Doing A α) : Prop :=
  ∀ (c : Crowd A α ω) (stages : Nat → Stage), Frame c stages settled →
    Others sharing served i c stages → i < c.tasks.length →
      Orderly sharing (Settled (served i)) d (stages i) c.world →
        Went sharing served i settled c (proceed perform i d c)

/-- It does so from another stage, if nothing has happened to the tasks and the world. -/
theorem Keeps.goesOn {d : Doing A α} (keeps : Keeps sharing served perform i settled d)
    {stage : Stage} (frame : Frame c' (Function.update stages i stage) settled)
    (others : Others sharing served i c stages) (known : i < c.tasks.length)
    (tasks : c'.tasks = c.tasks) (world : c'.world = c.world)
    (orderly : Orderly sharing (Settled (served i)) d stage c.world) :
    Went sharing served i settled c (proceed perform i d c') := by
  have others' : Others sharing served i c' (Function.update stages i stage) :=
    others.update (fun j _ => by rw [tasks]) fun j _ => world ▸ .refl ..
  refine (keeps _ _ frame others' (tasks ▸ known) ?_).of tasks (congrArg _ world)
  rw [Function.update_self, world]
  exact orderly

theorem keeps_done (a : α) : Keeps sharing served perform i settled (.done a) := by
  intro c stages frame others known orderly
  have place := frame.place i
  cases stage : stages i with
  | outside =>
    rw [stage] at orderly
    exact went_end frame others known stage (orderly settled)
  | gone =>
    rw [stage] at place
    exact place.elim
  | waiting | inside | inTurn =>
    rw [stage] at orderly
    exact orderly.elim

/-- A task at the lock goes in and on, or waits. -/
theorem went_lock {next : Bool → Doing A α}
    (keeps : Keeps sharing served perform i settled (next true))
    (frame : Frame c stages settled) (others : Others sharing served i c stages)
    (known : i < c.tasks.length) {mode : Lock.Mode}
    (orderly : ∀ w, Orderly sharing (Settled (served i)) (next true) (.inside mode w.contents) w)
    (outside : (stages i).entered? = none) {lock : Lock Nat} (sound : lock.Sound)
    (apart : ∀ j, j ≠ i → ∀ stage, Place c.lock j stage → Place lock j stage)
    (place : (c.lock.admits mode = true ∧ lock.Holds i mode) ∨ lock.Waits i mode) :
    Went sharing served i settled c
      (if (lock.tasksIn .inside).contains i then proceed perform i (next true) { c with lock }
      else { c with lock }.stand i (.atLock next)) := by
  rcases place with ⟨admits, holds⟩ | waits
  · have frame' := frame.goIn known admits sound holds apart
    rw [if_pos (Lock.contains_of_holds holds)]
    exact keeps.goesOn frame' others known rfl rfl (orderly c.world)
  · have frame' := frame.wait known outside sound waits apart
    rw [if_neg (Lock.not_contains_of_waits sound waits)]
    exact (went_stand frame' (others.update (fun _ _ => rfl) fun j _ => .refl ..) known
      (.atLock next) ⟨mode, Function.update_self .., orderly⟩ nofun).of rfl rfl

theorem keeps_enter {next : Bool → Doing A α} (mode : Lock.Mode)
    (keeps : Keeps sharing served perform i settled (next true)) :
    Keeps sharing served perform i settled (.ask (.enter mode) next) := by
  rintro c stages frame others known ⟨outside, orderly⟩
  have absent := frame.place i
  rw [outside] at absent
  exact went_lock keeps frame others known orderly (by rw [outside]; rfl)
    (frame.sound.arrive absent) (fun j ne stage h => h.arrive ne) (Lock.place_arrive absent)

theorem keeps_leave (next : Unit → Doing A α) :
    Keeps sharing served perform i settled (.ask .leave next) := by
  rintro c stages frame others known ⟨mode, entered, inside, orderly⟩
  obtain ⟨a, ended, answered⟩ := orderly_gone orderly
  obtain rfl : entered = settled := frame.entered i mode entered (by rw [inside]; rfl)
  have frame' := frame.leave known inside
  show Went sharing served i entered c (proceed perform i (next ()) (c.leave i))
  rw [ended]
  exact (went_end frame' (others.update (fun _ _ => rfl) fun j _ => .refl ..) known
    (Function.update_self ..) answered).of rfl rfl

/-- A task in turn goes on. -/
theorem went_turn {next : Bool → Doing A α}
    (keeps : Keeps sharing served perform i settled (next true))
    (frame : Frame c stages settled) (others : Others sharing served i c stages)
    (known : i < c.tasks.length) {mode : Lock.Mode} {entered : Contents}
    (inside : stages i = .inside mode entered)
    (orderly : ∀ m, Orderly sharing (Settled (served i)) (next true) (.inTurn mode entered)
      { c.world with medium := m })
    (free : c.taken = false) (turns : List Nat) :
    Went sharing served i settled c
      (proceed perform i (next true) { c with taken := true, turns }) := by
  have place := frame.place i
  rw [inside] at place
  have nobody (j : Nat) (h : (stages j).IsInTurn) : False := by
    rw [frame.taken j h] at free
    cases free
  have frame' : Frame { c with taken := true, turns } _ settled :=
    (frame.turn known (.inTurn mode entered) true place (by rw [inside]; rfl) (fun _ => rfl)
      fun j _ => nobody j).congr rfl rfl rfl rfl
  exact keeps.goesOn frame' others known rfl rfl (orderly c.world.medium)

theorem keeps_takeTurn {next : Bool → Doing A α}
    (keeps : Keeps sharing served perform i settled (next true)) :
    Keeps sharing served perform i settled (.ask .takeTurn next) := by
  rintro c stages frame others known ⟨mode, entered, inside, orderly⟩
  show Went sharing served i settled c (if _ then _ else _)
  split
  next free =>
    rw [Bool.and_eq_true, Bool.not_eq_true'] at free
    exact went_turn keeps frame others known inside orderly free.1 c.turns
  next =>
    have frame' : Frame { c with turns := c.turns ++ [i] } stages settled :=
      frame.congr rfl rfl rfl rfl
    exact (went_stand frame' others known (.forTurn next) ⟨mode, entered, inside, orderly⟩
      nofun).of rfl rfl

theorem keeps_endTurn {next : Unit → Doing A α}
    (keeps : Keeps sharing served perform i settled (next ())) :
    Keeps sharing served perform i settled (.ask .endTurn next) := by
  rintro c stages frame others known ⟨mode, entered, inTurn, orderly⟩
  have place := frame.place i
  rw [inTurn] at place
  have alone (j : Nat) (ne : j ≠ i) (h : (stages j).IsInTurn) : False :=
    ne (frame.alone j i h (by rw [inTurn]; trivial))
  let c' := { c with taken := false }.enqueue (c.turns.take 1)
  have frame' : Frame c' _ settled :=
    (frame.turn known (.inside mode entered) false place (by rw [inTurn]; rfl) nofun
      alone).congr rfl rfl rfl rfl
  exact keeps.goesOn frame' others known rfl rfl orderly

theorem keeps_setContents {next : Unit → Doing A α} (contents : Contents)
    (keeps : Keeps sharing served perform i settled (next ())) :
    Keeps sharing served perform i settled (.ask (.setContents contents) next) := by
  rintro c stages frame others known ⟨entered, inside, orderly⟩
  have writer : (stages i).entered? = some (.write, entered) := by rw [inside]; rfl
  have others' : Others sharing served i { c with world := { c.world with contents } } stages :=
    fun j ne standing h => (others j ne standing h).disturbed
      (disturbed_of_entered? (frame.entered?_eq_none writer ne) _ _)
  exact (keeps _ _ (frame.setContents writer contents) others' known orderly).of rfl rfl

/-- **A task that runs keeps the crowd in order.** -/
theorem keeps (possible : ∀ s w, sharing.may s w (perform s w).1 (perform s w).2)
    (d : Doing A α) : Keeps sharing served perform i settled d := by
  induction d with
  | done a => exact keeps_done a
  | ask q next ih =>
    cases q with
    | enter mode => exact keeps_enter mode (ih true)
    | leave => exact keeps_leave next
    | takeTurn => exact keeps_takeTurn (ih true)
    | endTurn => exact keeps_endTurn (ih ())
    | contents =>
      intro c stages frame others known orderly
      exact ih _ c stages frame others known orderly.2
    | setContents contents => exact keeps_setContents contents (ih ())
    | step s =>
      intro c stages frame others known orderly
      obtain ⟨stepped, allowed, orderly⟩ := orderly.2 _ _ (possible s c.world)
      exact went_step frame others known stepped allowed orderly

/-! ### Letting a task go on -/

/-- Whether a task can go on: it is ready, it has been woken at the lock, or its turn is next. -/
def CanGoOn (c : Crowd A α ω) (i : Nat) : Prop :=
  match c.tasks[i]? with
  | some (.ready _) => True
  | some (.atLock _) => c.lock.phase? i = some .woken
  | some (.forTurn _) => c.taken = false ∧ c.turns.head? = some i
  | _ => False

theorem lt_of_getElem? {standing : Standing A α} (h : c.tasks[i]? = some standing) :
    i < c.tasks.length :=
  (List.getElem?_eq_some_iff.1 h).1

/-- A task may stand as it does. -/
theorem stand_self {standing : Standing A α} (h : c.tasks[i]? = some standing) :
    c.stand i standing = c := by
  obtain ⟨known, same⟩ := List.getElem?_eq_some_iff.1 h
  rw [stand, ← same, List.set_getElem_self]

/-- **A task that goes on keeps the crowd in order**, and leaves something else settled only if it
ends. -/
theorem went_goOn (possible : ∀ s w, sharing.may s w (perform s w).1 (perform s w).2)
    (inOrder : InOrder sharing served c stages settled) (can : c.CanGoOn i) :
    Went sharing served i settled c (goOn perform c i) := by
  have frame := inOrder.frame
  have others : Others sharing served i c stages := fun j _ => inOrder.tasks j
  unfold CanGoOn at can
  unfold goOn
  cases found : c.tasks[i]? with
  | none =>
    rw [found] at can
    exact can.elim
  | some standing =>
    have known := lt_of_getElem? found
    have promise := inOrder.tasks i standing found
    rw [found] at can
    cases standing with
    | ready rest => exact keeps possible rest c stages frame others known (promise _ (.refl ..))
    | atLock next =>
      obtain ⟨mode, waiting, orderly⟩ := promise
      have waits := frame.place i
      rw [waiting] at waits
      have same : { c with lock := c.lock.resume i }.stand i (.atLock next)
          = { c with lock := c.lock.resume i } := stand_self found
      have went := went_lock (keeps possible (next true)) frame others known orderly
        (by rw [waiting]; rfl) frame.sound.resume (fun j ne stage h => h.resume ne)
        (Lock.place_resume waits)
      rwa [same] at went
    | forTurn next =>
      obtain ⟨mode, entered, inside, orderly⟩ := promise
      exact went_turn (keeps possible (next true)) frame others known inside orderly can.1 _
    | ended => exact can.elim

end Crowd
end Telemetry.Store
