import Telemetry.Proofs.Lock.Session

/-!
# Places at a lock

Whether a task is asleep in the queue or has been woken is its own business; to the others it waits.
What a task does at a lock changes the place of no other task in this sense.
-/

namespace Telemetry.Lock

variable {ι : Type} [DecidableEq ι] {l : Lock ι} {task other : ι} {mode mode' : Mode}

/-- A task is inside the lock. -/
def Holds (l : Lock ι) (task : ι) (mode : Mode) : Prop :=
  l.visitor? task = some ⟨task, mode, .inside⟩

/-- A task waits at the lock, asleep or woken. -/
def Waits (l : Lock ι) (task : ι) (mode : Mode) : Prop :=
  ∃ phase, phase ≠ .inside ∧ l.visitor? task = some ⟨task, mode, phase⟩

theorem holds_of_contains (sound : l.Sound) (h : (l.tasksIn .inside).contains task = true) :
    ∃ mode, l.Holds task mode := by
  have inside := phase?_of_mem_tasksIn sound (List.contains_iff_mem.1 h)
  obtain ⟨⟨name, mode, phase⟩, found, rfl⟩ := Option.map_eq_some_iff.1 inside
  cases task_of_visitor? found
  exact ⟨mode, found⟩

theorem contains_of_holds (h : l.Holds task mode) :
    (l.tasksIn .inside).contains task = true := by
  have member : (⟨task, mode, .inside⟩ : Visitor ι) ∈ l.visitors.filter fun v => v.phase = .inside :=
    List.mem_filter.2 ⟨mem_of_visitor? h, rfl⟩
  exact List.contains_iff_mem.2 (List.mem_map_of_mem member)

theorem not_contains_of_waits (sound : l.Sound) (h : l.Waits task mode) :
    ¬ (l.tasksIn .inside).contains task = true := by
  intro inside
  obtain ⟨phase, outside, found⟩ := h
  obtain ⟨mode', holds⟩ := holds_of_contains sound inside
  cases found.symm.trans holds
  exact outside rfl

theorem waits_of_phase? (h : l.phase? task = some .woken) : ∃ mode, l.Waits task mode := by
  obtain ⟨⟨name, mode, phase⟩, found, rfl⟩ := Option.map_eq_some_iff.1 h
  cases task_of_visitor? found
  exact ⟨mode, .woken, nofun, found⟩

theorem mem_tasksIn_of_phase? {phase : Phase} (h : l.phase? task = some phase) :
    task ∈ l.tasksIn phase := by
  obtain ⟨v, found, rfl⟩ := Option.map_eq_some_iff.1 h
  refine List.mem_map.2 ⟨v, List.mem_filter.2 ⟨mem_of_visitor? found, ?_⟩, task_of_visitor? found⟩
  exact decide_eq_true rfl

/-! ### What is inside -/

theorem Holds.writing (h : l.Holds task .write) (sound : l.Sound) : l.writing = true :=
  sound.writing_iff.2 ⟨_, mem_of_visitor? h, rfl, rfl⟩

/-- No writer is inside where a task is admitted. -/
theorem not_holds_of_admits (sound : l.Sound) (admits : l.admits mode = true) :
    ¬ l.Holds other .write := by
  intro h
  have writing := h.writing sound
  cases mode <;> simp [Lock.admits, writing] at admits

/-- **A writer inside is alone.** -/
theorem Holds.eq_of_write (h : l.Holds task .write) (h' : l.Holds other mode) (sound : l.Sound) :
    other = task := by
  refine Decidable.byContradiction fun ne => ?_
  have member : (⟨other, mode, .inside⟩ : Visitor ι) ∈ l.others task :=
    List.mem_filter.2 ⟨mem_of_visitor? h', by simpa using ne⟩
  have counted : 0 < (l.others task).countP (Visitor.isInside mode) :=
    List.countP_pos_iff.2 ⟨_, member, by simp [Visitor.isInside]⟩
  obtain ⟨-, readers, writing, -⟩ := sound.apart h
  have alone := sound.alone (h.writing sound)
  rw [h.writing sound] at writing
  cases mode with
  | read => omega
  | write =>
    have own : (Visitor.mk task .write .inside).isInside .write = true := rfl
    rw [own, Bool.toNat_true, if_pos rfl] at writing
    omega

/-! ### What the operations do to other tasks -/

theorem visitor?_others (ne : other ≠ task) :
    (l.others task).find? (fun v => v.task = other) = l.visitor? other := by
  rw [others, visitor?, List.find?_filter]
  congr 1
  funext v
  by_cases same : v.task = other
  · simp [same, ne]
  · simp [same]

/-- Who is found under a name is found there after a change that keeps all names. -/
theorem find?_map_task {change : Visitor ι → Visitor ι} (names : ∀ v, (change v).task = v.task)
    (visitors : List (Visitor ι)) :
    (visitors.map change).find? (fun v => v.task = task)
      = (visitors.find? fun v => v.task = task).map change := by
  have same : (fun v : Visitor ι => decide (v.task = task)) ∘ change
      = fun v => decide (v.task = task) := by
    funext v
    rw [Function.comp_apply, names]
  rw [List.find?_map, same]

theorem visitor?_wakeAll : l.wakeAll.visitor? task = (l.visitor? task).map Visitor.wake :=
  find?_map_task (fun v => v.task_wake) l.visitors

theorem visitor?_arrive (ne : other ≠ task) :
    (l.arrive task mode).visitor? other = l.visitor? other := by
  unfold arrive
  split <;> simp [visitor?, List.find?_append, ne.symm]

theorem visitor?_resume (ne : other ≠ task) :
    (l.resume task).visitor? other = l.visitor? other := by
  unfold resume
  split
  next name mode found =>
    split
    next =>
      -- The visitor that goes in is another one, and going in changes no name.
      rw [visitor?, visitor?, find?_map_task fun v => by split <;> rfl]
      cases found' : l.visitors.find? fun v => v.task = other with
      | none => rfl
      | some v =>
        have same : v.task = other := task_of_visitor? found'
        simp [same, ne]
    next => simp [visitor?, List.find?_append, visitor?_others ne, ne.symm]
  next => rfl

/-- Leaving may wake other tasks, and does nothing else to them. -/
theorem visitor?_leave (ne : other ≠ task) :
    (l.leave task).visitor? other = l.visitor? other ∨
      (l.leave task).visitor? other = (l.visitor? other).map Visitor.wake := by
  unfold leave
  split
  next name found =>
    dsimp only
    split
    · refine .inr ?_
      rw [visitor?_wakeAll]
      exact congrArg (Option.map Visitor.wake) (visitor?_others ne)
    · exact .inl (visitor?_others ne)
  next name found =>
    refine .inr ?_
    rw [visitor?_wakeAll]
    exact congrArg (Option.map Visitor.wake) (visitor?_others ne)
  next => exact .inl rfl

theorem Holds.arrive (h : l.Holds other mode') (ne : other ≠ task) :
    (l.arrive task mode).Holds other mode' :=
  (visitor?_arrive ne).trans h

theorem Waits.arrive (h : l.Waits other mode') (ne : other ≠ task) :
    (l.arrive task mode).Waits other mode' := by
  obtain ⟨phase, outside, found⟩ := h
  exact ⟨phase, outside, (visitor?_arrive ne).trans found⟩

theorem Holds.resume (h : l.Holds other mode') (ne : other ≠ task) :
    (l.resume task).Holds other mode' :=
  (visitor?_resume ne).trans h

theorem Waits.resume (h : l.Waits other mode') (ne : other ≠ task) :
    (l.resume task).Waits other mode' := by
  obtain ⟨phase, outside, found⟩ := h
  exact ⟨phase, outside, (visitor?_resume ne).trans found⟩

theorem Holds.leave (h : l.Holds other mode') (ne : other ≠ task) :
    (l.leave task).Holds other mode' := by
  rcases visitor?_leave (l := l) ne with same | woken
  · exact same.trans h
  · exact woken.trans (congrArg (Option.map Visitor.wake) h)

theorem Waits.leave (h : l.Waits other mode') (ne : other ≠ task) :
    (l.leave task).Waits other mode' := by
  obtain ⟨phase, outside, found⟩ := h
  rcases visitor?_leave (l := l) ne with same | woken
  · exact ⟨phase, outside, same.trans found⟩
  · rw [found] at woken
    cases phase with
    | inside => exact absurd rfl outside
    | parked | woken => exact ⟨.woken, nofun, woken⟩

/-- Who has been woken stays awake. -/
theorem phase?_leave (h : l.phase? other = some .woken) (ne : other ≠ task) :
    (l.leave task).phase? other = some .woken := by
  obtain ⟨v, found, woken⟩ := Option.map_eq_some_iff.1 h
  unfold phase?
  rcases visitor?_leave (l := l) ne with same | wakes
  · rw [same, found, Option.map_some, woken]
  · rw [wakes, found, Option.map_some, Option.map_some, Visitor.wake, woken]
    exact congrArg some woken

/-- Only who waits is woken. -/
theorem Waits.of_leave (h : (l.leave task).Waits other mode) (ne : other ≠ task) :
    l.Waits other mode := by
  obtain ⟨phase, outside, after⟩ := h
  rcases visitor?_leave (l := l) ne with same | wakes
  · exact ⟨phase, outside, same.symm.trans after⟩
  · rw [wakes] at after
    obtain ⟨⟨name, mode', phase'⟩, found, woken⟩ := Option.map_eq_some_iff.1 after
    cases phase' with
    | inside =>
      cases woken
      exact absurd rfl outside
    | parked =>
      cases woken
      exact ⟨.parked, nofun, found⟩
    | woken =>
      cases woken
      exact ⟨.woken, nofun, found⟩

theorem visitor?_leave_eq_none (h : l.visitor? other = none) (ne : other ≠ task) :
    (l.leave task).visitor? other = none := by
  rcases visitor?_leave (l := l) ne with same | woken
  · exact same.trans h
  · exact woken.trans (congrArg (Option.map Visitor.wake) h)

/-! ### What the operations do to the task -/

/-- A task that comes to the lock is inside if it is admitted, and waits otherwise. -/
theorem place_arrive (absent : l.visitor? task = none) :
    (l.admits mode = true ∧ (l.arrive task mode).Holds task mode) ∨
      (l.arrive task mode).Waits task mode := by
  have found (v : Visitor ι) (h : v.task = task) :
      (l.visitors ++ [v]).find? (fun w => w.task = task) = some v := by
    have absent : l.visitors.find? (fun w => w.task = task) = none := absent
    simp [List.find?_append, absent, h]
  unfold arrive
  split
  next admits => exact .inl ⟨admits, found _ rfl⟩
  next => exact .inr ⟨.parked, nofun, found _ rfl⟩

/-- A task that is resumed is inside if it is admitted, and goes on waiting otherwise. -/
theorem place_resume (waits : l.Waits task mode) :
    (l.admits mode = true ∧ (l.resume task).Holds task mode) ∨ (l.resume task).Waits task mode := by
  obtain ⟨phase, outside, found⟩ := waits
  unfold resume
  rw [found]
  cases phase with
  | inside => exact absurd rfl outside
  | parked => exact .inr ⟨.parked, nofun, found⟩
  | woken =>
    dsimp only
    split
    next admits =>
      have found : l.visitors.find? (fun v => v.task = task) = some ⟨task, mode, .woken⟩ := found
      refine .inl ⟨admits, ?_⟩
      rw [Holds, visitor?, find?_map_task fun v => by split <;> rfl, found]
      simp
    next =>
      have gone : (l.others task).find? (fun v => v.task = task) = none := by
        simp [others]
      refine .inr ⟨.parked, nofun, ?_⟩
      simp [visitor?, List.find?_append, gone]

/-- A task that leaves is gone. -/
theorem visitor?_leave_self (h : l.Holds task mode) : (l.leave task).visitor? task = none := by
  have gone : (l.others task).find? (fun v => v.task = task) = none := by
    simp [others]
  unfold leave
  rw [h]
  cases mode with
  | read =>
    dsimp only
    split
    · rw [visitor?_wakeAll]
      exact congrArg (Option.map Visitor.wake) gone
    · exact gone
  | write =>
    dsimp only
    rw [visitor?_wakeAll]
    exact congrArg (Option.map Visitor.wake) gone

end Telemetry.Lock
