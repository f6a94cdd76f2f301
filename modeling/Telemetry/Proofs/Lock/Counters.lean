import Telemetry.Lock

/-!
# The counters of a lock

A lock does not look at the tasks that are at it: it decides by three counters, which every
operation keeps up by itself.  A lock is sound if the counters say what the tasks do, and a writer
that is inside is alone (`Sound`).  Every operation keeps a lock sound.
-/

namespace Telemetry.Lock

variable {ι : Type} {l : Lock ι}

/-- Whether a task is inside in a mode. -/
def Visitor.isInside (mode : Mode) (v : Visitor ι) : Bool := v.mode = mode && v.phase = .inside

/-- Whether a task waits to enter in a mode, asleep or woken. -/
def Visitor.isQueued (mode : Mode) (v : Visitor ι) : Bool := v.mode = mode && v.phase ≠ .inside

/-- The number of tasks that are inside in a mode. -/
def inside (l : Lock ι) (mode : Mode) : Nat := l.visitors.countP (Visitor.isInside mode)

/-- The number of tasks that wait to enter in a mode. -/
def queued (l : Lock ι) (mode : Mode) : Nat := l.visitors.countP (Visitor.isQueued mode)

/-- The counters of a lock count the tasks at it, each of which is there once, and a writer inside
is alone. -/
structure Sound (l : Lock ι) : Prop where
  distinct : (l.visitors.map (·.task)).Nodup
  readers : l.readers = l.inside .read
  writing : l.inside .write = if l.writing then 1 else 0
  waiting : l.waitingWriters = l.queued .write
  alone : l.writing = true → l.readers = 0

theorem sound_empty : Sound ({} : Lock ι) where
  distinct := .nil
  readers := rfl
  writing := rfl
  waiting := rfl
  alone := nofun

/-- In a sound lock a writer inside is alone. -/
theorem Sound.exclusive (sound : l.Sound) :
    l.inside .write = 0 ∨ l.inside .write = 1 ∧ l.inside .read = 0 := by
  have writing := sound.writing
  split at writing
  next h => exact .inr ⟨writing, sound.readers.symm.trans (sound.alone h)⟩
  next => exact .inl writing

theorem Sound.writing_iff (sound : l.Sound) :
    l.writing = true ↔ ∃ v ∈ l.visitors, v.mode = .write ∧ v.phase = .inside := by
  have counted : l.writing = true ↔ 0 < l.inside .write := by
    rw [sound.writing]
    cases l.writing <;> simp
  rw [counted, inside, List.countP_pos_iff]
  simp [Visitor.isInside]

theorem Sound.nodup_tasksIn (sound : l.Sound) (phase : Phase) : (l.tasksIn phase).Nodup :=
  sound.distinct.sublist (List.filter_sublist.map _)

/-! ### Waking -/

@[simp] theorem Visitor.task_wake (v : Visitor ι) : v.wake.task = v.task := by
  unfold wake
  split <;> rfl

@[simp] theorem Visitor.mode_wake (v : Visitor ι) : v.wake.mode = v.mode := by
  unfold wake
  split <;> rfl

@[simp] theorem Visitor.phase_wake_eq_inside (v : Visitor ι) :
    v.wake.phase = .inside ↔ v.phase = .inside := by
  unfold wake
  split <;> simp_all

theorem Visitor.phase_wake_ne_parked (v : Visitor ι) : v.wake.phase ≠ .parked := by
  unfold wake
  split <;> simp_all

@[simp] theorem Visitor.isInside_wake (mode : Mode) (v : Visitor ι) :
    v.wake.isInside mode = v.isInside mode := by
  simp [isInside]

@[simp] theorem Visitor.isQueued_wake (mode : Mode) (v : Visitor ι) :
    v.wake.isQueued mode = v.isQueued mode := by
  simp [isQueued]

@[simp] theorem inside_wakeAll (l : Lock ι) (mode : Mode) :
    l.wakeAll.inside mode = l.inside mode := by
  simp only [inside, wakeAll, List.countP_map, Function.comp_def, Visitor.isInside_wake]

@[simp] theorem queued_wakeAll (l : Lock ι) (mode : Mode) :
    l.wakeAll.queued mode = l.queued mode := by
  simp only [queued, wakeAll, List.countP_map, Function.comp_def, Visitor.isQueued_wake]

theorem Sound.wakeAll (sound : l.Sound) : l.wakeAll.Sound where
  distinct := by
    simpa [Lock.wakeAll, Function.comp_def] using sound.distinct
  readers := by
    rw [inside_wakeAll]
    exact sound.readers
  writing := by
    rw [inside_wakeAll]
    exact sound.writing
  waiting := by
    rw [queued_wakeAll]
    exact sound.waiting
  alone := sound.alone

/-! ### One task and the others -/

theorem nodup_append_visitor {visitors : List (Visitor ι)} {task : ι}
    (distinct : (visitors.map (·.task)).Nodup) (absent : task ∉ visitors.map (·.task))
    (mode : Mode) (phase : Phase) :
    ((visitors ++ [Visitor.mk task mode phase]).map (·.task)).Nodup := by
  have perm := (List.perm_append_singleton (⟨task, mode, phase⟩ : Visitor ι) visitors).map (·.task)
  exact perm.nodup_iff.2 (List.nodup_cons.2 ⟨absent, distinct⟩)

variable [DecidableEq ι] {task : ι} {mode : Mode} {v : Visitor ι}

theorem visitor?_eq_none_iff : l.visitor? task = none ↔ ∀ v ∈ l.visitors, v.task ≠ task := by
  simp [visitor?]

theorem task_of_visitor? (h : l.visitor? task = some v) : v.task = task := by
  simpa using List.find?_some h

theorem mem_of_visitor? (h : l.visitor? task = some v) : v ∈ l.visitors :=
  List.mem_of_find?_eq_some h

theorem task_not_mem_others : task ∉ (l.others task).map (·.task) := by
  simp [others]

/-- A visitor and the others are all the visitors. -/
theorem perm_others (distinct : (l.visitors.map (·.task)).Nodup)
    (h : l.visitor? task = some v) : l.visitors.Perm (v :: l.others task) := by
  obtain ⟨readers, writing, waiting, visitors⟩ := l
  induction visitors with
  | nil => cases h
  | cons w rest ih =>
    obtain ⟨first, distinct⟩ := List.nodup_cons.1 distinct
    simp only [visitor?, List.find?_cons] at h
    split at h
    next same =>
      cases h
      have same : v.task = task := of_decide_eq_true same
      have kept : rest.filter (fun u => u.task ≠ task) = rest := by
        refine List.filter_eq_self.2 fun u hu => decide_eq_true ?_
        intro heq
        exact first (List.mem_map.2 ⟨u, hu, heq.trans same.symm⟩)
      simp only [others]
      rw [List.filter_cons_of_neg (by simp [same]), kept]
    next other =>
      have ih := ih distinct h
      simp only [others] at ih ⊢
      rw [List.filter_cons_of_pos (by simpa using other)]
      exact (ih.cons w).trans (.swap v w _)

/-- What a sound lock counts when one of its visitors is set apart from the others. -/
theorem Sound.apart (sound : l.Sound) (found : l.visitor? task = some v) :
    ((l.others task).map (·.task)).Nodup ∧
    l.readers = (l.others task).countP (Visitor.isInside .read) + (v.isInside .read).toNat ∧
    (l.others task).countP (Visitor.isInside .write) + (v.isInside .write).toNat
      = (if l.writing then 1 else 0) ∧
    l.waitingWriters = (l.others task).countP (Visitor.isQueued .write)
      + (v.isQueued .write).toNat := by
  have count (p : Visitor ι → Bool) :
      l.visitors.countP p = (l.others task).countP p + (p v).toNat := by
    rw [(perm_others sound.distinct found).countP_eq, List.countP_cons]
    cases p v <;> rfl
  refine ⟨sound.distinct.sublist (List.filter_sublist.map _), ?_, ?_, ?_⟩
  · rw [← count]
    exact sound.readers
  · rw [← count]
    exact sound.writing
  · rw [← count]
    exact sound.waiting

/-! ### Operations -/

theorem Sound.arrive (sound : l.Sound) (absent : l.visitor? task = none) :
    (l.arrive task mode).Sound := by
  obtain ⟨distinct, readers, writing, waiting, alone⟩ := sound
  have absent : task ∉ l.visitors.map (·.task) := by
    intro h
    obtain ⟨v, hv, same⟩ := List.mem_map.1 h
    exact visitor?_eq_none_iff.1 absent v hv same
  unfold Lock.arrive
  split
  next admitted =>
    refine ⟨nodup_append_visitor distinct absent _ _, ?_, ?_, ?_, ?_⟩
    all_goals
      cases mode <;> simp_all [admits, enter, inside, queued, Visitor.isInside, Visitor.isQueued]
  next refused =>
    refine ⟨nodup_append_visitor distinct absent _ _, ?_, ?_, ?_, ?_⟩
    all_goals
      cases mode <;> simp_all [inside, queued, Visitor.isInside, Visitor.isQueued]

/-- Where a visitor goes in, the others stay as they are. -/
theorem perm_goIn (distinct : (l.visitors.map (·.task)).Nodup)
    (found : l.visitor? task = some v) :
    (l.visitors.map fun w => if w.task = task then { w with phase := .inside } else w).Perm
      ({ v with phase := .inside } :: l.others task) := by
  refine ((perm_others distinct found).map _).trans ?_
  have same : (l.others task).map
      (fun w => if w.task = task then { w with phase := .inside } else w) = l.others task := by
    refine (List.map_congr_left fun w hw => ?_).trans (List.map_id _)
    exact if_neg (by simpa using (List.mem_filter.1 hw).2)
  rw [List.map_cons, same, if_pos (task_of_visitor? found)]

theorem Sound.resume (sound : l.Sound) : (l.resume task).Sound := by
  unfold Lock.resume
  split
  case h_2 => exact sound
  case h_1 name mode found =>
    cases task_of_visitor? found
    have alone := sound.alone
    obtain ⟨distinct, readers, writing, waiting⟩ := sound.apart found
    split
    next admitted =>
      have perm := perm_goIn sound.distinct found
      generalize l.visitors.map
        (fun w => if w.task = name then { w with phase := .inside } else w) = changed at perm ⊢
      have count := perm.countP_eq
      refine ⟨?_, ?_, ?_, ?_, ?_⟩
      · exact (perm.map _).nodup_iff.2 (List.nodup_cons.2 ⟨task_not_mem_others, distinct⟩)
      all_goals
        cases mode <;> simp_all [admits, enter, inside, queued, Visitor.isInside, Visitor.isQueued]
    next refused =>
      refine ⟨nodup_append_visitor distinct task_not_mem_others _ _, ?_, ?_, ?_, ?_⟩
      all_goals
        cases mode <;> simp_all [inside, queued, Visitor.isInside, Visitor.isQueued]

theorem Sound.leave (sound : l.Sound) : (l.leave task).Sound := by
  unfold Lock.leave
  split
  case h_3 => exact sound
  case h_1 name found =>
    have alone := sound.alone
    obtain ⟨distinct, readers, writing, waiting⟩ := sound.apart found
    have left : Sound { l with readers := l.readers - 1, visitors := l.others task } := by
      refine ⟨distinct, ?_, ?_, ?_, ?_⟩
      all_goals simp_all [inside, queued, Visitor.isInside, Visitor.isQueued]
    dsimp only
    split
    next => exact left.wakeAll
    next => exact left
  case h_2 name found =>
    have alone := sound.alone
    obtain ⟨distinct, readers, writing, waiting⟩ := sound.apart found
    have left : Sound { l with writing := false, visitors := l.others task } := by
      refine ⟨distinct, ?_, ?_, ?_, nofun⟩
      · simpa [inside, Visitor.isInside] using readers
      · cases h : l.writing <;> simp_all [inside, Visitor.isInside]
      · simpa [queued, Visitor.isQueued] using waiting
    exact left.wakeAll

/-- A task that waits goes away, and a writer is no longer counted. -/
theorem Sound.cancel (sound : l.Sound) : (l.cancel task).Sound := by
  unfold Lock.cancel
  split
  case h_1 => exact sound.leave
  case h_4 => exact sound
  case h_2 name phase waits found =>
    obtain ⟨distinct, readers, writing, waiting⟩ := sound.apart found
    refine ⟨distinct, ?_, ?_, ?_, sound.alone⟩
    all_goals simp_all [inside, queued, Visitor.isInside, Visitor.isQueued]
  case h_3 name phase waits found =>
    obtain ⟨distinct, readers, writing, waiting⟩ := sound.apart found
    refine ⟨distinct, ?_, ?_, ?_, sound.alone⟩
    all_goals simp_all [inside, queued, Visitor.isInside, Visitor.isQueued]

end Telemetry.Lock
