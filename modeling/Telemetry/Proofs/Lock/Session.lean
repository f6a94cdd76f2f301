import Telemetry.Lock.Session
import Telemetry.Proofs.Lock.Scene

/-!
# Sessions are runs

What a session does at its lock is a legal run of moves (`handle_runs`), in which a task that is
cancelled runs at once.  The lock of a session is therefore sound.
-/

namespace Telemetry.Lock

variable {ι : Type} [DecidableEq ι] {l : Lock ι} {task : ι} {phase : Phase}

theorem phase?_of_mem_tasksIn (sound : l.Sound) (h : task ∈ l.tasksIn phase) :
    l.phase? task = some phase := by
  obtain ⟨v, hv, rfl⟩ := List.mem_map.1 h
  obtain ⟨hv, same⟩ := List.mem_filter.1 hv
  cases found : l.visitor? v.task with
  | none => exact absurd rfl (visitor?_eq_none_iff.1 found v hv)
  | some w =>
    obtain rfl | other := List.mem_cons.1 ((perm_others sound.distinct found).mem_iff.1 hv)
    · simpa [phase?, found] using same
    · exact absurd (List.mem_map_of_mem other) task_not_mem_others

namespace Session

open Scene (Legal after Move)

/-- A legal run leads from one session's lock to the other's, with nobody about to be cancelled. -/
def Runs (s s' : Session ι) : Prop :=
  ∃ moves, Legal ⟨s.lock, []⟩ moves ∧ after ⟨s.lock, []⟩ moves = ⟨s'.lock, []⟩

variable {s s' s'' : Session ι}

theorem Runs.refl : s.Runs s := ⟨[], trivial, rfl⟩

theorem Runs.trans (first : s.Runs s') (second : s'.Runs s'') : s.Runs s'' := by
  obtain ⟨moves, legal, run⟩ := first
  obtain ⟨more, legal', run'⟩ := second
  refine ⟨moves ++ more, Scene.legal_append.2 ⟨legal, ?_⟩, ?_⟩
  · rw [run]
    exact legal'
  · rw [Scene.after_append, run, run']

theorem Runs.sound (runs : s.Runs s') (sound : s.lock.Sound) : s'.lock.Sound := by
  obtain ⟨moves, legal, run⟩ := runs
  have kept : (after ⟨s.lock, []⟩ moves).lock.Sound :=
    Scene.after_induction (p := fun s => s.lock.Sound) sound (fun _ _ => Scene.sound_next) legal
  rwa [run] at kept

theorem letOut_runs (sound : s.lock.Sound) : s.Runs (s.letOut task) := by
  unfold letOut
  split
  next h =>
    obtain ⟨inside, -⟩ := Bool.and_eq_true_iff.1 h
    have inside := phase?_of_mem_tasksIn sound (List.contains_iff_mem.1 inside)
    exact ⟨[.leave task], ⟨inside, trivial⟩, rfl⟩
  next => exact .refl

theorem step?_runs (sound : s.lock.Sound) (h : s.step? = some s') : s.Runs s' := by
  unfold step? at h
  split at h
  next => cases h
  next task rest first =>
    cases h
    have woken := phase?_of_mem_tasksIn sound (first ▸ List.mem_cons_self)
    have resumed : s.Runs { s with lock := s.lock.resume task } :=
      ⟨[.resume task], ⟨⟨woken, List.not_mem_nil⟩, trivial⟩, rfl⟩
    exact resumed.trans (letOut_runs (resumed.sound sound))

theorem settleWithin_runs (sound : s.lock.Sound) (fuel : Nat) : s.Runs (settleWithin fuel s) := by
  induction fuel generalizing s with
  | zero => exact .refl
  | succ fuel ih =>
    unfold settleWithin
    split
    next => exact .refl
    next first =>
      have runs := step?_runs sound first
      exact runs.trans (ih (runs.sound sound))

theorem cancel_runs {released : List ι} :
    s.Runs { lock := s.lock.cancel task, released } := by
  cases present : s.lock.phase? task with
  | none =>
    have absent : s.lock.visitor? task = none := Option.map_eq_none_iff.1 present
    have same : s.lock.cancel task = s.lock := by simp only [cancel, absent]
    exact ⟨[], trivial, by rw [same]; rfl⟩
  | some phase =>
    have present : s.lock.phase? task ≠ none := by simp [present]
    refine ⟨[.interrupt task, .abandon task], ⟨present, ⟨present, List.mem_cons_self⟩, trivial⟩, ?_⟩
    simp [after, Scene.next]

/-- **Sessions are legal runs**, as long as no task comes that is there already. -/
theorem handle_runs (sound : s.lock.Sound) (event : Event ι)
    (fresh : ∀ task mode, event = .arrive task mode → s.lock.visitor? task = none) :
    s.Runs (s.handle event) := by
  suffices begun : ∃ s', s.Runs s' ∧ s.handle event = s'.settle by
    obtain ⟨s', runs, settled⟩ := begun
    rw [settled]
    exact runs.trans (settleWithin_runs (runs.sound sound) _)
  cases event with
  | arrive task mode =>
    have absent : s.lock.phase? task = none := Option.map_eq_none_iff.2 (fresh task mode rfl)
    have arrived : s.Runs { s with lock := s.lock.arrive task mode } :=
      ⟨[.arrive task mode], ⟨absent, trivial⟩, rfl⟩
    exact ⟨_, arrived.trans (letOut_runs (arrived.sound sound)), rfl⟩
  | release task =>
    simp only [handle]
    split
    next =>
      have let_go : s.Runs { s with released := s.released ++ [task] } := ⟨[], trivial, rfl⟩
      exact ⟨_, let_go.trans (letOut_runs sound), rfl⟩
    next => exact ⟨s, .refl, rfl⟩
  | cancel task => exact ⟨_, cancel_runs, rfl⟩

end Session
end Telemetry.Lock
