import Mathlib.Data.List.Induction
import Telemetry.Proofs.Store.Schedule

/-!
# Calls that are made together

Tasks that are let go on first come, first served give one interleaving of their calls
(`exists_legal_of_gather`): whatever is in the queue can go on, so that no task is ever let go on that
could not.  A task is in the queue once, for it is put there only where it begins to be able to go
on: when it has taken a step, when it is woken at the lock, and when its turn comes.
-/

namespace Telemetry.Store.Crowd

variable {S ω : Type} {A : S → Type} {α : Type} {sharing : Sharing A ω}
  {perform : (s : S) → World ω → A s × ω} {c c' : Crowd A α ω} {i j : Nat}

/-! ### The queue -/

/-- The tasks in the queue can go on, apart from the one that runs; and who waits for something
stands there waiting for it. -/
structure Queued (running : Option Nat) (c : Crowd A α ω) : Prop where
  distinct : c.queue.Nodup
  ready : ∀ j ∈ c.queue, running ≠ some j ∧ c.CanGoOn j
  turns : ∀ j ∈ c.turns, running ≠ some j ∧ ∃ next, c.tasks[j]? = some (.forTurn next)
  waits : ∀ j mode, running ≠ some j → c.lock.Waits j mode →
    ∃ next, c.tasks[j]? = some (.atLock next)

/-- Another task than the one that runs. -/
theorem ne_of_running (h : some i ≠ some j) : j ≠ i := by
  rintro rfl
  exact h rfl

theorem canGoOn_ready {rest : Doing A α} (h : c.tasks[i]? = some (.ready rest)) : c.CanGoOn i := by
  rw [CanGoOn, h]
  trivial

theorem canGoOn_atLock {next : Bool → Doing A α} (h : c.tasks[i]? = some (.atLock next)) :
    c.CanGoOn i ↔ c.lock.phase? i = some .woken := by
  rw [CanGoOn, h]

theorem canGoOn_forTurn {next : Bool → Doing A α} (h : c.tasks[i]? = some (.forTurn next)) :
    c.CanGoOn i ↔ c.taken = false ∧ c.turns.head? = some i := by
  rw [CanGoOn, h]

/-- A task can still go on that is still woken, and whose turn it still is. -/
theorem CanGoOn.mono (can : c.CanGoOn j) (task : c'.tasks[j]? = c.tasks[j]?)
    (woken : c.lock.phase? j = some .woken → c'.lock.phase? j = some .woken)
    (turn : c.taken = false → c.turns.head? = some j →
      c'.taken = false ∧ c'.turns.head? = some j) : c'.CanGoOn j := by
  unfold CanGoOn at can ⊢
  rw [task]
  cases found : c.tasks[j]? with
  | none =>
    rw [found] at can
    exact can
  | some standing =>
    rw [found] at can
    cases standing with
    | ready => trivial
    | atLock => exact woken can
    | forTurn => exact turn can.1 can.2
    | ended => exact can

section

variable {running : Option Nat}

/-- Tasks may join the queue that can go on and are not in it. -/
theorem Queued.enqueue (queued : Queued running c) {tasks : List Nat} (distinct : tasks.Nodup)
    (joins : ∀ j ∈ tasks, j ∉ c.queue ∧ running ≠ some j ∧ c.CanGoOn j) :
    Queued running (c.enqueue tasks) where
  distinct := by
    refine List.nodup_append.2 ⟨queued.distinct, distinct, ?_⟩
    rintro j mem _ mem' rfl
    exact (joins j mem').1 mem
  ready j mem := by
    rcases List.mem_append.1 mem with mem | mem
    · exact queued.ready j mem
    · exact (joins j mem).2
  turns := queued.turns
  waits := queued.waits

/-- A task comes to the lock or is resumed there. -/
theorem Queued.atLock (queued : Queued (some i) c) {lock : Lock Nat}
    (same : ∀ j, j ≠ i → lock.visitor? j = c.lock.visitor? j) :
    Queued (some i) { c with lock } where
  distinct := queued.distinct
  ready j mem := by
    obtain ⟨ne, can⟩ := queued.ready j mem
    refine ⟨ne, can.mono rfl (fun woken => ?_) fun free first => ⟨free, first⟩⟩
    rw [Lock.phase?, same j (ne_of_running ne)]
    exact woken
  turns := queued.turns
  waits j mode ne := by
    rintro ⟨phase, outside, found⟩
    rw [same j (ne_of_running ne)] at found
    exact queued.waits j mode ne ⟨phase, outside, found⟩

/-- A task leaves the lock, and whom it wakes joins the queue. -/
theorem Queued.leave (queued : Queued (some i) c) (sound : c.lock.Sound) {mode : Lock.Mode}
    (holds : c.lock.Holds i mode) : Queued (some i) (c.leave i) := by
  have gone := Lock.visitor?_leave_self holds
  have left : Queued (some i) { c with lock := c.lock.leave i } :=
    { distinct := queued.distinct
      ready := fun j mem => by
        obtain ⟨ne, can⟩ := queued.ready j mem
        refine ⟨ne, can.mono rfl (fun woken => ?_) fun free first => ⟨free, first⟩⟩
        exact Lock.phase?_leave woken (ne_of_running ne)
      turns := queued.turns
      waits := fun j mode ne waits =>
        queued.waits j mode ne (waits.of_leave (ne_of_running ne)) }
  refine left.enqueue ((sound.leave.nodup_tasksIn .woken).sublist List.filter_sublist) fun j mem => ?_
  obtain ⟨woken, asleep⟩ := List.mem_filter.1 mem
  have woken := Lock.phase?_of_mem_tasksIn sound.leave woken
  have ne : some i ≠ some j := by
    rintro ⟨⟩
    rw [Lock.phase?, gone] at woken
    cases woken
  obtain ⟨mode', waits⟩ := Lock.waits_of_phase? woken
  obtain ⟨next, stands⟩ := left.waits j mode' ne waits
  refine ⟨fun queuedAlready => ?_, ne, (canGoOn_atLock stands).2 woken⟩
  have stands : c.tasks[j]? = some (.atLock next) := stands
  have early := (canGoOn_atLock stands).1 (queued.ready j queuedAlready).2
  have contains := List.contains_iff_mem.2 (Lock.mem_tasksIn_of_phase? early)
  rw [contains] at asleep
  cases asleep

/-- A task takes its turn if nobody waits for it. -/
theorem Queued.takeTurn (queued : Queued (some i) c) (nobody : c.turns.isEmpty = true) :
    Queued (some i) { c with taken := true } where
  distinct := queued.distinct
  ready j mem := by
    obtain ⟨ne, can⟩ := queued.ready j mem
    refine ⟨ne, can.mono rfl id fun _ first => ?_⟩
    rw [List.isEmpty_iff.1 nobody] at first
    cases first
  turns := queued.turns
  waits := queued.waits

/-- A task ends its turn, and the next one joins the queue. -/
theorem Queued.endTurn (queued : Queued (some i) c) (taken : c.taken = true) :
    Queued (some i) ({ c with taken := false }.enqueue (c.turns.take 1)) := by
  have ended : Queued (some i) { c with taken := false } :=
    { distinct := queued.distinct
      ready := fun j mem => by
        obtain ⟨ne, can⟩ := queued.ready j mem
        refine ⟨ne, can.mono rfl id fun free _ => ?_⟩
        rw [taken] at free
        cases free
      turns := queued.turns
      waits := queued.waits }
  refine ended.enqueue ?_ fun j mem => ?_
  · cases c.turns with
    | nil => exact List.nodup_nil
    | cons first later => exact List.pairwise_singleton _ first
  · have first : c.turns.head? = some j := by
      cases turns : c.turns with
      | nil =>
        rw [turns] at mem
        cases mem
      | cons first later =>
        rw [turns] at mem
        rw [List.mem_singleton.1 mem, List.head?_cons]
    obtain ⟨ne, next, stands⟩ := queued.turns j (List.mem_of_mem_head? first)
    refine ⟨fun queuedAlready => ?_, ne,
      (canGoOn_forTurn (c := { c with taken := false }) stands).2 ⟨rfl, first⟩⟩
    have free := ((canGoOn_forTurn stands).1 (queued.ready j queuedAlready).2).1
    rw [taken] at free
    cases free

/-- A task stands again, where it waits for what it stands waiting for. -/
theorem Queued.stand (queued : Queued (some i) c) (known : i < c.tasks.length)
    (standing : Standing A α)
    (waits : ∀ mode, c.lock.Waits i mode → ∃ next, standing = .atLock next) :
    Queued none (c.stand i standing) where
  distinct := queued.distinct
  ready j mem := by
    obtain ⟨ne, can⟩ := queued.ready j mem
    refine ⟨nofun, can.mono ?_ id fun free first => ⟨free, first⟩⟩
    exact List.getElem?_set_ne (ne_of_running ne).symm
  turns j mem := by
    obtain ⟨ne, next, stands⟩ := queued.turns j mem
    refine ⟨nofun, next, ?_⟩
    rw [Crowd.stand, List.getElem?_set_ne (ne_of_running ne).symm]
    exact stands
  waits j mode _ hwaits := by
    rcases eq_or_ne j i with rfl | ne
    · obtain ⟨next, rfl⟩ := waits mode hwaits
      exact ⟨next, List.getElem?_set_self known⟩
    · obtain ⟨next, stands⟩ := queued.waits j mode (fun h => ne (Option.some.inj h).symm) hwaits
      refine ⟨next, ?_⟩
      rw [Crowd.stand, List.getElem?_set_ne ne.symm]
      exact stands

end

/-- A task joins those that wait for their turn. -/
theorem Queued.wait (queued : Queued none c) {next : Bool → Doing A α}
    (stands : c.tasks[i]? = some (.forTurn next)) :
    Queued none { c with turns := c.turns ++ [i] } where
  distinct := queued.distinct
  ready j mem := by
    obtain ⟨-, can⟩ := queued.ready j mem
    refine ⟨nofun, can.mono rfl id fun free first => ⟨free, ?_⟩⟩
    show (c.turns ++ [i]).head? = some j
    rw [List.head?_append, first, Option.some_or]
  turns j mem := by
    rcases List.mem_append.1 mem with mem | mem
    · exact queued.turns j mem
    · rw [List.mem_singleton.1 mem]
      exact ⟨nofun, next, stands⟩
  waits := queued.waits

/-! ### Going on -/

theorem Place.not_waits {lock : Lock Nat} {stage : Stage} {mode : Lock.Mode}
    (place : Place lock i stage) (apart : ∀ mode, stage ≠ .waiting mode) :
    ¬ lock.Waits i mode := by
  rintro ⟨phase, outside, found⟩
  cases stage with
  | outside => cases found.symm.trans place
  | waiting mode => exact apart mode rfl
  | inside | inTurn =>
    cases found.symm.trans place
    exact outside rfl
  | gone => exact place

/-- Whoever keeps to a dialogue keeps the queue in order. -/
def Minds (sharing : Sharing A ω) (served : Contents → α → Contents → Prop)
    (perform : (s : S) → World ω → A s × ω) (i : Nat) (d : Doing A α) : Prop :=
  ∀ (c : Crowd A α ω) (stage : Stage), i < c.tasks.length → c.lock.Sound →
    Place c.lock i stage → (stage.IsInTurn → c.taken = true) →
      Orderly sharing (Settled served) d stage c.world → Queued (some i) c →
        Queued none (proceed perform i d c)

variable {served : Contents → α → Contents → Prop}

theorem minds_done (a : α) : Minds sharing served perform i (.done a) := by
  intro c stage known sound place inTurn orderly queued
  cases stage with
  | outside => exact queued.stand known _ fun _ waits => absurd waits (place.not_waits nofun)
  | gone => exact place.elim
  | waiting | inside | inTurn => exact orderly.elim

/-- A task at the lock goes in and on, or waits. -/
theorem queued_lock {next : Bool → Doing A α}
    (minds : Minds sharing served perform i (next true)) (known : i < c.tasks.length)
    {mode : Lock.Mode}
    (orderly : ∀ w, Orderly sharing (Settled served) (next true) (.inside mode w.contents) w)
    {lock : Lock Nat} (sound : lock.Sound) (queued : Queued (some i) { c with lock })
    (place : lock.Holds i mode ∨ lock.Waits i mode) :
    Queued none
      (if (lock.tasksIn .inside).contains i then proceed perform i (next true) { c with lock }
      else { c with lock }.stand i (.atLock next)) := by
  rcases place with holds | waits
  · rw [if_pos (Lock.contains_of_holds holds)]
    exact minds _ (.inside mode c.world.contents) known sound holds nofun (orderly c.world) queued
  · rw [if_neg (Lock.not_contains_of_waits sound waits)]
    exact queued.stand known _ fun _ _ => ⟨next, rfl⟩

theorem minds_enter {next : Bool → Doing A α} (mode : Lock.Mode)
    (minds : Minds sharing served perform i (next true)) :
    Minds sharing served perform i (.ask (.enter mode) next) := by
  rintro c _ known sound absent - ⟨rfl, orderly⟩ queued
  exact queued_lock minds known orderly (sound.arrive absent)
    (queued.atLock fun j ne => Lock.visitor?_arrive ne) ((Lock.place_arrive absent).imp_left And.right)

theorem minds_leave (next : Unit → Doing A α) :
    Minds sharing served perform i (.ask .leave next) := by
  rintro c _ known sound holds - ⟨mode, entered, rfl, orderly⟩ queued
  obtain ⟨a, ended, -⟩ := orderly_gone orderly
  show Queued none (proceed perform i (next ()) (c.leave i))
  rw [ended]
  have gone : Place (c.leave i).lock i .outside := Lock.visitor?_leave_self holds
  exact (queued.leave sound holds).stand known _ fun _ waits =>
    absurd waits (gone.not_waits nofun)

theorem minds_takeTurn {next : Bool → Doing A α}
    (minds : Minds sharing served perform i (next true)) :
    Minds sharing served perform i (.ask .takeTurn next) := by
  rintro c _ known sound holds - ⟨mode, entered, rfl, orderly⟩ queued
  show Queued none (if _ then _ else _)
  split
  next free =>
    rw [Bool.and_eq_true] at free
    exact minds _ (.inTurn mode entered) known sound holds (fun _ => rfl)
      (orderly c.world.medium) (queued.takeTurn free.2)
  next =>
    have place : Place c.lock i (.inside mode entered) := holds
    have stands := queued.stand known (.forTurn next) fun _ waits =>
      absurd waits (place.not_waits nofun)
    exact stands.wait (List.getElem?_set_self known)

/-- A task that has taken a step can go on. -/
theorem minds_step {s : S} {next : A s → Doing A α} :
    Minds sharing served perform i (.ask (.step s) next) := by
  rintro c stage known sound place - ⟨inside, -⟩ queued
  have apart : ∀ mode, stage ≠ .waiting mode := by
    rintro mode rfl
    exact inside
  let c₁ : Crowd A α ω := { c with world := { c.world with medium := (perform s c.world).2 } }
  have queued₁ : Queued (some i) c₁ := ⟨queued.distinct, queued.ready, queued.turns, queued.waits⟩
  have stands := queued₁.stand known (.ready (next (perform s c.world).1)) fun _ waits =>
    absurd waits (place.not_waits apart)
  refine stands.enqueue (List.pairwise_singleton _ i) fun j mem => ?_
  rw [List.mem_singleton.1 mem]
  exact ⟨fun already => (queued.ready i already).1 rfl, nofun,
    canGoOn_ready (List.getElem?_set_self known)⟩

/-- **A task that runs keeps the queue in order.** -/
theorem minds (d : Doing A α) : Minds sharing served perform i d := by
  induction d with
  | done a => exact minds_done a
  | ask q next ih =>
    cases q with
    | enter mode => exact minds_enter mode (ih true)
    | leave => exact minds_leave next
    | takeTurn => exact minds_takeTurn (ih true)
    | endTurn =>
      rintro c _ known sound holds inTurn ⟨mode, entered, rfl, orderly⟩ queued
      exact ih () _ (.inside mode entered) known sound holds nofun orderly
        (queued.endTurn (inTurn trivial))
    | contents =>
      intro c stage known sound place inTurn orderly queued
      exact ih _ c stage known sound place inTurn orderly.2 queued
    | setContents contents =>
      rintro c _ known sound holds inTurn ⟨entered, rfl, orderly⟩ queued
      exact ih () { c with world := { c.world with contents } } _ known sound holds inTurn orderly
        ⟨queued.distinct, queued.ready, queued.turns, queued.waits⟩
    | step s => exact minds_step

/-- The first task of the queue runs. -/
theorem Queued.pop (queued : Queued none c) {queue : List Nat} (first : c.queue = i :: queue)
    (apart : i ∉ c.turns) : Queued (some i) { c with queue } where
  distinct := (List.nodup_cons.1 (first ▸ queued.distinct)).2
  ready j mem := by
    have absent := (List.nodup_cons.1 (first ▸ queued.distinct)).1
    refine ⟨?_, (queued.ready j (first ▸ List.mem_cons_of_mem i mem)).2⟩
    rintro ⟨⟩
    exact absent mem
  turns j mem := by
    refine ⟨?_, (queued.turns j mem).2⟩
    rintro ⟨⟩
    exact apart mem
  waits j mode _ := queued.waits j mode nofun

/-- The first task of the queue runs, which has waited for its turn. -/
theorem Queued.popTurn (queued : Queued none c) {queue : List Nat} (first : c.queue = i :: queue)
    (turn : c.turns.head? = some i) :
    Queued (some i) { c with queue, taken := true, turns := c.turns.filter (· ≠ i) } where
  distinct := (List.nodup_cons.1 (first ▸ queued.distinct)).2
  ready j mem := by
    have absent := (List.nodup_cons.1 (first ▸ queued.distinct)).1
    have ne : j ≠ i := by
      rintro rfl
      exact absent mem
    obtain ⟨-, can⟩ := queued.ready j (first ▸ List.mem_cons_of_mem i mem)
    refine ⟨fun h => ne (Option.some.inj h).symm, can.mono rfl id fun _ first' => ?_⟩
    exact absurd (Option.some.inj (first'.symm.trans turn)) ne
  turns j mem := by
    obtain ⟨mem, ne⟩ := List.mem_filter.1 mem
    refine ⟨fun h => ?_, (queued.turns j mem).2⟩
    exact of_decide_eq_true ne (Option.some.inj h).symm
  waits j mode _ := queued.waits j mode nofun

variable {served' : Nat → Contents → α → Contents → Prop} {stages : Nat → Stage}
  {settled : Contents}

/-- **A task that goes on keeps the queue in order.** -/
theorem queued_goOn (inOrder : InOrder sharing served' c stages settled) (queued : Queued none c)
    {queue : List Nat} (first : c.queue = i :: queue) :
    Queued none (goOn perform { c with queue } i) := by
  have can := (queued.ready i (first ▸ List.mem_cons_self)).2
  have place := inOrder.frame.place i
  unfold CanGoOn at can
  unfold goOn
  dsimp only
  cases found : c.tasks[i]? with
  | none =>
    rw [found] at can
    exact can.elim
  | some standing =>
    have known := lt_of_getElem? found
    have promise := inOrder.tasks i standing found
    have apart (other : ∀ next, standing ≠ .forTurn next) : i ∉ c.turns := by
      intro mem
      obtain ⟨-, next, stands⟩ := queued.turns i mem
      exact other next (Option.some.inj (found.symm.trans stands))
    rw [found] at can
    cases standing with
    | ready rest =>
      exact minds rest _ (stages i) known inOrder.frame.sound place (inOrder.frame.taken i)
        (promise _ (.refl ..)) (queued.pop first (apart nofun))
    | atLock next =>
      obtain ⟨mode, waiting, orderly⟩ := promise
      rw [waiting] at place
      have queued' : Queued (some i) { c with queue, lock := c.lock.resume i } :=
        (queued.pop first (apart nofun)).atLock fun j ne => Lock.visitor?_resume ne
      have same : { c with queue, lock := c.lock.resume i }.stand i (.atLock next)
          = { c with queue, lock := c.lock.resume i } := stand_self found
      have mindful : Minds sharing (served' i) perform i (next true) := minds (next true)
      have went := queued_lock (c := { c with queue }) mindful known orderly
        inOrder.frame.sound.resume queued' ((Lock.place_resume place).imp_left And.right)
      rwa [same] at went
    | forTurn next =>
      obtain ⟨mode, entered, inside, orderly⟩ := promise
      rw [inside] at place
      exact minds (next true) _ (.inTurn mode entered) known inOrder.frame.sound place
        (fun _ => rfl) (orderly c.world.medium) (queued.popTurn first can.2)
    | ended => exact can.elim

/-! ### Running together -/

/-- What is in the queue makes no difference to a task that runs. -/
theorem proceed_queue (d : Doing A α) (c : Crowd A α ω) (queue : List Nat) :
    ∃ queue', proceed perform i d { c with queue }
      = { proceed perform i d c with queue := queue' } := by
  induction d generalizing c queue with
  | done a => exact ⟨queue, rfl⟩
  | ask q next ih =>
    cases q with
    | enter mode =>
      unfold proceed
      dsimp only
      split
      · exact ih true { c with lock := c.lock.arrive i mode } queue
      · exact ⟨queue, rfl⟩
    | leave => exact ih () (c.leave i) _
    | takeTurn =>
      unfold proceed
      dsimp only
      split
      · exact ih true { c with taken := true } queue
      · exact ⟨queue, rfl⟩
    | endTurn => exact ih () ({ c with taken := false }.enqueue (c.turns.take 1)) _
    | contents => exact ih _ c queue
    | setContents contents => exact ih () { c with world := { c.world with contents } } queue
    | step s => exact ⟨_, rfl⟩

theorem goOn_queue (perform : (s : S) → World ω → A s × ω) (c : Crowd A α ω) (i : Nat)
    (queue : List Nat) :
    ∃ queue', goOn perform { c with queue } i = { goOn perform c i with queue := queue' } := by
  unfold goOn
  dsimp only
  cases c.tasks[i]? with
  | none => exact ⟨queue, rfl⟩
  | some standing =>
    cases standing with
    | ready rest => exact proceed_queue rest c queue
    | atLock next =>
      dsimp only
      split
      · exact proceed_queue (next true) { c with lock := c.lock.resume i } queue
      · exact ⟨queue, rfl⟩
    | forTurn next =>
      exact proceed_queue (next true)
        { c with taken := true, turns := c.turns.filter (· ≠ i) } queue
    | ended => exact ⟨queue, rfl⟩

section

variable {serve : (call : Call) → Doing A call.Answer} {c : Crowd A Reply ω}
  {served : Nat → Contents → Reply → Contents → Prop} {stages : Nat → Stage} {settled : Contents}

/-- **A queue lets tasks go on that can.** -/
theorem runWithin_eq (serve : (call : Call) → Doing A call.Answer)
    (possible : ∀ s w, sharing.may s w (perform s w).1 (perform s w).2)
    (inOrder : InOrder sharing served c stages settled) (queued : Queued none c) (fuel : Nat) :
    ∃ tasks : List Nat, ∀ queue,
      Legal perform serve { c with queue } (tasks.map .goOn) ∧
        ∃ queue', runWithin perform fuel c
          = { after perform serve { c with queue } (tasks.map .goOn) with queue := queue' } := by
  induction fuel generalizing c stages settled with
  | zero => exact ⟨[], fun queue => ⟨trivial, c.queue, rfl⟩⟩
  | succ fuel ih =>
    cases first : c.queue with
    | nil =>
      have stays : runWithin perform (fuel + 1) c = c := by rw [runWithin, first]
      exact ⟨[], fun queue => ⟨trivial, c.queue, stays⟩⟩
    | cons i later =>
      have can := (queued.ready i (first ▸ List.mem_cons_self)).2
      have inOrder' : InOrder sharing served { c with queue := later } stages settled :=
        ⟨inOrder.frame.congr rfl rfl rfl rfl, inOrder.tasks⟩
      obtain ⟨settled', stages', inOrder'', -⟩ := (went_goOn possible inOrder' can).settles
      obtain ⟨tasks, rest⟩ := ih inOrder'' (queued_goOn inOrder queued first)
      refine ⟨i :: tasks, fun queue => ?_⟩
      obtain ⟨queue', same⟩ := goOn_queue perform { c with queue := later } i queue
      obtain ⟨legal, queue'', ran⟩ := rest queue'
      rw [← same] at legal ran
      refine ⟨⟨can, legal⟩, queue'', ?_⟩
      rw [runWithin, first]
      exact ran

/-- Calls that are made together are in the queue in the order in which they are made. -/
theorem after_calls (w : World ω) (made : List Call) :
    after perform serve (idle w) (made.map .call)
      = { world := w
          tasks := made.map fun call => .ready (taskFor serve call)
          queue := List.range made.length } := by
  induction made using List.reverseRecOn with
  | nil => rfl
  | append_singleton made call ih =>
    rw [List.map_append, after_append, ih, List.map_append, List.length_append, List.length_singleton,
      List.range_succ]
    show enqueue _ _ = _
    rw [List.length_map]
    rfl

theorem gather_eq_runWithin (w : World ω) (made : List Call) (fuel : Nat) :
    gather perform fuel (made.map (taskFor serve)) w
      = ((runWithin perform fuel (after perform serve (idle w) (made.map .call))).results,
        (runWithin perform fuel (after perform serve (idle w) (made.map .call))).world) := by
  rw [after_calls, gather, List.map_map, List.length_map]
  rfl

theorem calls_together (made : List Call) (tasks : List Nat) :
    calls (made.map .call ++ tasks.map .goOn) = made := by
  have made' : calls (made.map .call) = made := by
    rw [calls, List.filterMap_map]
    exact List.filterMap_some
  have none : calls (tasks.map .goOn) = [] :=
    List.filterMap_eq_nil_iff.2 fun move mem => by
      obtain ⟨i, -, rfl⟩ := List.mem_map.1 mem
      rfl
  rw [calls, List.filterMap_append, ← calls, ← calls, made', none, List.append_nil]

theorem legal_calls (c : Crowd A Reply ω) (made : List Call) :
    Legal perform serve c (made.map .call) := by
  induction made generalizing c with
  | nil => trivial
  | cons call made ih => exact ⟨trivial, ih _⟩

theorem queued_calls (w : World ω) (made : List Call) :
    Queued none (after perform serve (idle w) (made.map .call)) := by
  rw [after_calls]
  refine ⟨List.nodup_range, fun j mem => ⟨nofun, ?_⟩, nofun, ?_⟩
  · have known : j < made.length := List.mem_range.1 mem
    have stands : (made.map fun call => Standing.ready (taskFor serve call))[j]?
        = some (.ready (taskFor serve made[j])) := by
      simp [known]
    exact canGoOn_ready stands
  · rintro j mode - ⟨phase, -, found⟩
    cases found

end

/-- **Calls that are made together are interleaved**, whether all of them end in time or not. -/
theorem exists_legal_of_gather {serve : (call : Call) → Doing A call.Answer}
    {served : (call : Call) → Contents → call.Answer → Contents → Prop}
    (possible : ∀ s w, sharing.may s w (perform s w).1 (perform s w).2)
    (orderly : ∀ call w, Orderly sharing (Settled (served call)) (serve call) .outside w)
    (made : List Call) (w : World ω) (fuel : Nat) :
    ∃ moves, calls moves = made ∧ Legal perform serve (idle w) moves ∧
      gather perform fuel (made.map (taskFor serve)) w
        = ((after perform serve (idle w) moves).results,
          (after perform serve (idle w) moves).world) := by
  have legal : Legal perform serve (idle w) (made.map .call) := legal_calls _ made
  obtain ⟨settled, ran⟩ := ran_after possible orderly (List.nil_append _).symm rfl (inOrder_idle w)
    legal
  obtain ⟨stages, inOrder⟩ := ran.inOrder
  obtain ⟨tasks, rest⟩ := runWithin_eq serve possible inOrder (queued_calls w made) fuel
  obtain ⟨legal', queue, same⟩ := rest (after perform serve (idle w) (made.map .call)).queue
  refine ⟨made.map .call ++ tasks.map .goOn, calls_together made tasks,
    legal_append.2 ⟨legal, legal'⟩, ?_⟩
  rw [gather_eq_runWithin, same, after_append]
  rfl

end Telemetry.Store.Crowd
