import Mathlib.Data.List.Induction
import Telemetry.Proofs.Lock.Scene

/-!
# Lost wake-ups

A task that sleeps at a lock relies on others: the last one that goes out wakes it, and if it has
to sleep again, it is because of a task that is awake.  A writer that goes away from the queue
breaks this chain, since it lets the readers behind it in and wakes nobody.  A scene is stranded
if all tasks at the lock sleep: none of them will ever run again by itself.

Tasks can get stranded (`not_neverStrands_of_desertion`), and they do exactly when the last task
that is awake goes away from the queue (`neverStrands_iff`).  That needs a writer that goes away
while nobody is inside.
-/

namespace Telemetry.Lock

variable {ι : Type}

/-- Nobody is inside. -/
def Idle (l : Lock ι) : Prop := l.readers = 0 ∧ l.writing = false

/-- While nobody is inside, no task sleeps that may enter in a mode. -/
def Rested (mode : Mode) (l : Lock ι) : Prop :=
  l.Idle → l.admits mode → ∀ v ∈ l.visitors, v.mode = mode → v.phase ≠ .parked

variable {l : Lock ι} {mode : Mode}

theorem phase_of_mem_wakeAll {v : Visitor ι} (hv : v ∈ l.wakeAll.visitors) : v.phase ≠ .parked := by
  obtain ⟨w, -, rfl⟩ := List.mem_map.1 hv
  exact w.phase_wake_ne_parked

theorem admits_write_iff : l.admits .write ↔ l.Idle := by
  simp [admits, Idle, and_comm]

/-- A lock at which all tasks sleep lets anyone in, for no writer is among them. -/
theorem admits_of_asleep (sound : l.Sound) (rested : l.Rested .write)
    (asleep : ∀ v ∈ l.visitors, v.phase = .parked) (mode : Mode) : l.admits mode := by
  have outside (mode : Mode) : l.inside mode = 0 := by
    refine List.countP_eq_zero.2 fun v hv => ?_
    simp [Visitor.isInside, asleep v hv]
  have idle : l.Idle := by
    refine ⟨sound.readers.trans (outside .read), ?_⟩
    have writing := sound.writing
    rw [outside .write] at writing
    cases h : l.writing
    case false => rfl
    case true => simp [h] at writing
  have admitted : l.admits .write := admits_write_iff.2 idle
  cases mode with
  | write => exact admitted
  | read =>
    have none_waits : l.waitingWriters = 0 := by
      refine sound.waiting.trans (List.countP_eq_zero.2 fun v hv => ?_)
      intro queued
      have writer : v.mode = .write := by
        simp only [Visitor.isQueued, Bool.and_eq_true, decide_eq_true_eq] at queued
        exact queued.1
      exact rested idle admitted v hv writer (asleep v hv)
    simp [admits, idle.2, none_waits]

theorem not_idle_enter : ¬ (l.enter mode).Idle := by
  cases mode <;> simp [enter, Idle]

theorem rested_empty : ({} : Lock ι).Rested mode := by
  rintro - - v hv
  cases hv

/-! ### What the operations do to those that sleep -/

variable {task : ι}

/-- A task that is refused lets nobody in. -/
theorem admits_of_admits_arrive {other : Mode} (refused : ¬ l.admits other)
    (admitted : (l.arrive task other).admits mode) : l.admits mode := by
  rw [arrive, if_neg refused] at admitted
  cases mode with
  | write => exact admitted
  | read =>
    simp only [admits, Bool.and_eq_true, decide_eq_true_eq] at admitted ⊢
    refine ⟨admitted.1, ?_⟩
    cases other <;> simp_all

theorem rested_arrive (rested : l.Rested mode) {other : Mode} :
    (l.arrive task other).Rested mode := by
  obtain admitted | refused := Decidable.em (l.admits other)
  · rw [arrive, if_pos admitted]
    exact fun idle => absurd idle not_idle_enter
  · -- Whoever sleeps now slept before or is the task that was refused.
    intro idle admitted v hv same
    have admitted := admits_of_admits_arrive refused admitted
    rw [arrive, if_neg refused] at idle hv
    obtain old | new := List.mem_append.1 hv
    · exact rested idle admitted v old same
    · cases List.mem_singleton.1 new
      cases same
      exact absurd admitted refused

variable [DecidableEq ι]

theorem rested_resume (rested : l.Rested mode) : (l.resume task).Rested mode := by
  unfold resume
  split
  case h_2 => exact rested
  case h_1 name other found =>
    split
    next => exact fun idle => absurd idle not_idle_enter
    next refused =>
      intro idle admitted v hv same
      have admitted : l.admits mode := admitted
      obtain old | new := List.mem_append.1 hv
      · exact rested idle admitted v (List.mem_filter.1 old).1 same
      · cases List.mem_singleton.1 new
        cases same
        exact absurd admitted refused

theorem rested_leave (rested : l.Rested mode) : (l.leave task).Rested mode := by
  unfold leave
  split
  case h_1 =>
    dsimp only
    split
    next => exact fun _ _ _ hv _ => phase_of_mem_wakeAll hv
    next others => exact fun idle => absurd idle.1 others
  case h_2 => exact fun _ _ _ hv _ => phase_of_mem_wakeAll hv
  case h_3 => exact rested

/-- A writer that goes away from the queue may leave readers asleep that could now enter. -/
theorem rested_cancel (rested : l.Rested mode)
    (stays : mode = .read → l.Idle → ∀ v, l.visitor? task = some v → v.mode ≠ .write) :
    (l.cancel task).Rested mode := by
  unfold cancel
  split
  case h_1 => exact rested_leave rested
  case h_4 => exact rested
  case h_2 =>
    intro idle admitted v hv same
    exact rested idle admitted v (List.mem_filter.1 hv).1 same
  case h_3 found =>
    intro idle admitted v hv same
    cases mode with
    | write => exact rested idle admitted v (List.mem_filter.1 hv).1 same
    | read => exact absurd rfl (stays rfl idle _ found)

theorem cancel_of_inside (inside : l.phase? task = some .inside) :
    l.cancel task = l.leave task := by
  obtain ⟨⟨name, mode, phase⟩, found, rfl⟩ := Option.map_eq_some_iff.1 inside
  simp only [cancel, found]

theorem visitors_cancel (present : l.phase? task ≠ none) (outside : l.phase? task ≠ some .inside) :
    (l.cancel task).visitors = l.others task := by
  obtain ⟨phase, h⟩ := Option.ne_none_iff_exists'.1 present
  obtain ⟨⟨name, mode, phase⟩, found, rfl⟩ := Option.map_eq_some_iff.1 h
  have waits : phase ≠ .inside := by
    rintro rfl
    exact outside h
  cases phase with
  | inside => exact absurd rfl waits
  | parked | woken => cases mode <;> simp only [cancel, found]

/-- Where nobody is inside any more, nobody sleeps. -/
theorem woken_of_leave (inside : l.phase? task = some .inside) (idle : (l.leave task).Idle) :
    ∀ v ∈ (l.leave task).visitors, v.phase ≠ .parked := by
  obtain ⟨⟨name, mode, phase⟩, found, rfl⟩ := Option.map_eq_some_iff.1 inside
  cases mode with
  | read =>
    simp only [leave, found] at idle ⊢
    split at idle
    next last =>
      rw [if_pos last]
      exact fun v => phase_of_mem_wakeAll
    next others => exact absurd idle.1 others
  | write =>
    simp only [leave, found]
    exact fun v => phase_of_mem_wakeAll

namespace Scene

variable {s : Scene ι} {move : Move ι} {moves : List (Move ι)}

/-- All tasks at the lock sleep: there are some, none is inside, and none is about to run, be it
because it was woken or because it was cancelled. -/
def Stranded (s : Scene ι) : Prop :=
  s.lock.visitors ≠ [] ∧ ∀ v ∈ s.lock.visitors, v.phase = .parked ∧ v.task ∉ s.interrupted

instance : Decidable s.Stranded := inferInstanceAs (Decidable (_ ∧ _))

/-- A cancelled task goes away from the queue, and all others at the lock sleep. -/
def Deserts (s : Scene ι) : Move ι → Prop
  | .abandon task =>
      s.lock.phase? task ≠ some .inside ∧ s.lock.others task ≠ [] ∧
      ∀ v ∈ s.lock.others task, v.phase = .parked ∧ v.task ∉ s.interrupted
  | _ => False

/-- A writer goes away from the queue while nobody is inside. -/
def WalksOut (s : Scene ι) : Move ι → Prop
  | .abandon task => s.lock.Idle ∧ ∃ v, s.lock.visitor? task = some v ∧ v.mode = .write
  | _ => False

theorem rested_next (rested : s.lock.Rested mode) (stays : mode = .read → ¬ s.WalksOut move) :
    (s.next move).lock.Rested mode := by
  cases move with
  | arrive task other => exact rested_arrive rested
  | resume task => exact rested_resume rested
  | leave task => exact rested_leave rested
  | interrupt task => exact rested
  | abandon task =>
    refine rested_cancel rested fun read idle v found writer => ?_
    exact stays read ⟨idle, v, found, writer⟩

omit [DecidableEq ι] in
theorem Stranded.admits (stranded : s.Stranded) (sound : s.lock.Sound)
    (rested : s.lock.Rested .write) (mode : Mode) : s.lock.admits mode :=
  admits_of_asleep sound rested (fun v hv => (stranded.2 v hv).1) mode

omit [DecidableEq ι] in
theorem Stranded.idle (stranded : s.Stranded) (sound : s.lock.Sound)
    (rested : s.lock.Rested .write) : s.lock.Idle :=
  admits_write_iff.1 (stranded.admits sound rested .write)

theorem not_stranded_leave (sound : s.lock.Sound) (rested : s.lock.Rested .write)
    (inside : s.lock.phase? task = some .inside) : ¬ (s.next (.leave task)).Stranded := by
  intro stranded
  have idle : (s.lock.leave task).Idle := stranded.idle sound.leave (rested_leave rested)
  obtain ⟨v, hv⟩ := List.exists_mem_of_ne_nil _ stranded.1
  exact woken_of_leave inside idle v hv (stranded.2 v hv).1

/-- Where a task goes away from the queue, the others are left. -/
theorem stranded_abandon_iff (present : s.lock.phase? task ≠ none)
    (outside : s.lock.phase? task ≠ some .inside) :
    (s.next (.abandon task)).Stranded ↔ s.Deserts (.abandon task) := by
  have same (v : Visitor ι) (hv : v ∈ s.lock.others task) :
      v.task ∉ s.interrupted.filter (· ≠ task) ↔ v.task ∉ s.interrupted := by
    have other : v.task ≠ task := of_decide_eq_true (List.mem_filter.1 hv).2
    simp [other]
  simp only [Stranded, Deserts, next, visitors_cancel present outside]
  constructor
  · rintro ⟨left, asleep⟩
    exact ⟨outside, left, fun v hv => ⟨(asleep v hv).1, (same v hv).1 (asleep v hv).2⟩⟩
  · rintro ⟨-, left, asleep⟩
    exact ⟨left, fun v hv => ⟨(asleep v hv).1, (same v hv).2 (asleep v hv).2⟩⟩

/-- A task that comes, runs on, goes out or is cancelled strands nobody; one that goes away from
the queue does if the others sleep. -/
theorem stranded_next_iff (sound : s.lock.Sound) (rested : s.lock.Rested .write)
    (enabled : s.Enabled move) : (s.next move).Stranded ↔ s.Deserts move := by
  have sound' := sound_next sound enabled
  have rested' : (s.next move).lock.Rested .write := rested_next rested nofun
  cases move with
  | arrive task mode =>
    refine ⟨fun stranded => ?_, nofun⟩
    obtain admitted | refused := Decidable.em (s.lock.admits mode)
    · have idle := stranded.idle sound' rested'
      rw [next, arrive, if_pos admitted] at idle
      exact absurd idle not_idle_enter
    · have admitted := stranded.admits sound' rested' mode
      exact absurd (admits_of_admits_arrive refused admitted) refused
  | resume task =>
    refine ⟨fun stranded => ?_, nofun⟩
    obtain ⟨⟨name, mode, phase⟩, found, rfl⟩ := Option.map_eq_some_iff.1 enabled.1
    have admitted := stranded.admits sound' rested' mode
    have idle := stranded.idle sound' rested'
    simp only [next, resume, found] at admitted idle
    split at admitted
    next free =>
      rw [if_pos free] at idle
      exact absurd idle not_idle_enter
    next refused => exact absurd admitted refused
  | leave task => exact ⟨fun stranded => not_stranded_leave sound rested enabled stranded, nofun⟩
  | interrupt task =>
    refine ⟨fun stranded => ?_, nofun⟩
    obtain ⟨phase, present⟩ := Option.ne_none_iff_exists'.1 enabled
    obtain ⟨v, found, -⟩ := Option.map_eq_some_iff.1 present
    have interrupted : v.task ∈ task :: s.interrupted := by
      rw [task_of_visitor? found]
      exact List.mem_cons_self
    exact absurd interrupted (stranded.2 v (mem_of_visitor? found)).2
  | abandon task =>
    obtain inside | outside := Decidable.em (s.lock.phase? task = some .inside)
    · have out : s.next (.abandon task) = s.next (.leave task) := by
        simp only [next, cancel_of_inside inside]
      rw [out]
      refine ⟨fun stranded => absurd stranded (not_stranded_leave sound rested inside), ?_⟩
      rintro ⟨outside, -⟩
      exact absurd inside outside
    · exact stranded_abandon_iff enabled.1 outside

/-- No state of a run is one in which tasks are stranded. -/
def NeverStrands (moves : List (Move ι)) : Prop :=
  ∀ before, before <+: moves → ¬ (after {} before).Stranded

theorem rested_after (legal : Legal {} moves) : (after {} moves : Scene ι).lock.Rested .write :=
  after_induction (p := fun s => s.lock.Rested .write) rested_empty
    (fun _ _ rested _ => rested_next rested nofun) legal

theorem legal_of_part {before : List (Move ι)} (legal : s.Legal moves) (part : before <+: moves) :
    s.Legal before := by
  obtain ⟨rest, rfl⟩ := part
  exact (legal_append.1 legal).1

theorem enabled_of_part {before : List (Move ι)} (legal : s.Legal moves)
    (part : before ++ [move] <+: moves) : (s.after before).Enabled move :=
  (legal_append.1 (legal_of_part legal part)).2.1

theorem after_concat {before : List (Move ι)} :
    s.after (before ++ [move]) = (s.after before).next move :=
  after_append

/-- As long as no writer goes away from the queue while nobody is inside, no reader sleeps that may
enter. -/
theorem rested_of_stay (stay : ∀ before move, before ++ [move] <+: moves →
    ¬ (after {} before).WalksOut move) {before : List (Move ι)} (part : before <+: moves) :
    (after {} before : Scene ι).lock.Rested .read := by
  induction before using List.reverseRecOn with
  | nil => exact rested_empty
  | append_singleton before move ih =>
    rw [after_concat]
    exact rested_next (ih ((List.prefix_append _ _).trans part)) fun _ => stay before move part

omit [DecidableEq ι] in
/-- Tasks are not stranded where nobody sleeps that may enter. -/
theorem not_stranded_of_rested (sound : s.lock.Sound) (rested : ∀ mode, s.lock.Rested mode) :
    ¬ s.Stranded := by
  intro stranded
  obtain ⟨v, hv⟩ := List.exists_mem_of_ne_nil _ stranded.1
  have idle := stranded.idle sound (rested .write)
  have admitted := stranded.admits sound (rested .write) v.mode
  exact rested v.mode idle admitted v hv rfl (stranded.2 v hv).1

/-- **When tasks are stranded**: in a run in which tasks may come, run on, go out and be cancelled
in any order, tasks get stranded exactly if one that is cancelled goes away from the queue while
all others at the lock sleep.  No run strands tasks in which no writer goes away from the queue
while nobody is inside. -/
theorem neverStrands_iff (moves : List (Move ι)) (legal : Legal {} moves) :
    (NeverStrands moves ↔
      ∀ before move, before ++ [move] <+: moves → ¬ (after {} before).Deserts move) ∧
    ((∀ before move, before ++ [move] <+: moves → ¬ (after {} before).WalksOut move) →
      NeverStrands moves) := by
  have step (before : List (Move ι)) (move : Move ι) (part : before ++ [move] <+: moves) :
      (after {} (before ++ [move])).Stranded ↔ (after {} before).Deserts move := by
    have legal' := legal_of_part legal ((List.prefix_append _ _).trans part)
    rw [after_concat]
    have enabled := enabled_of_part legal part
    exact stranded_next_iff (sound_after legal') (rested_after legal') enabled
  refine ⟨⟨fun never before move part deserts => ?_, fun stay before part => ?_⟩, ?_⟩
  · exact never _ part ((step before move part).2 deserts)
  · cases before using List.reverseRecOn with
    | nil => exact fun stranded => stranded.1 rfl
    | append_singleton before move =>
      exact fun stranded => stay before move part ((step before move part).1 stranded)
  · intro stay before part
    have legal := legal_of_part legal part
    refine not_stranded_of_rested (sound_after legal) fun mode => ?_
    cases mode with
    | read => exact rested_of_stay stay part
    | write => exact rested_after legal

/-- A writer is cancelled that keeps a reader out; the reader is woken when the other goes out. -/
def cancelledBarrier : List (Move Nat) :=
  [.arrive 0 .read, .arrive 1 .write, .arrive 2 .read, .interrupt 1, .abandon 1, .leave 0,
    .resume 2]

theorem neverStrands_iff_of_cancelledBarrier :
    Legal {} cancelledBarrier ∧
    (NeverStrands cancelledBarrier ↔
      ∀ before move, before ++ [move] <+: cancelledBarrier → ¬ (after {} before).Deserts move) ∧
    ((∀ before move, before ++ [move] <+: cancelledBarrier → ¬ (after {} before).WalksOut move) →
      NeverStrands cancelledBarrier) :=
  ⟨by decide, neverStrands_iff cancelledBarrier (by decide)⟩

/-- A writer goes out and wakes a reader and another writer.  The other writer is cancelled before
either has run.  The reader runs first, as it came first, and has to sleep again, since the
other writer is still counted; then this one goes away, and the reader is left asleep. -/
def desertion : List (Move Nat) :=
  [.arrive 0 .write, .arrive 1 .read, .arrive 2 .write, .leave 0, .interrupt 2, .resume 1,
    .abandon 2]

theorem not_neverStrands_of_desertion : Legal {} desertion ∧ ¬ NeverStrands desertion :=
  ⟨by decide, fun never => never desertion (List.prefix_refl _) (by decide)⟩

end Scene

end Telemetry.Lock
