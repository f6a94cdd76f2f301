import Telemetry.Proofs.Store.Crowd
import Telemetry.Proofs.Store.Serial

/-!
# Calls in any interleaving

A schedule is a list of moves: a call is made, or a task goes on that can.  Every interleaving of
calls is one.  If all calls are orderly, those that have ended were served one after the other, in
the order in which they ended (`ran_after`).  That order respects real time: what has ended
before some move comes before everything that ends after it (`endings_append`).
-/

namespace Telemetry.Store

namespace Crowd

/-- What can happen next in a crowd. -/
inductive Move
  /-- A call is made. -/
  | call (call : Call)
  /-- A task goes on. -/
  | goOn (task : Nat)
  deriving DecidableEq

variable {S ω : Type} {A : S → Type}

/-- The task that makes a call. -/
def taskFor (serve : (call : Call) → Doing A call.Answer) (call : Call) : Doing A Reply := do
  let answer ← serve call
  pure ⟨call, answer⟩

/-- A store that nobody has called. -/
def idle (world : World ω) : Crowd A Reply ω := { world, tasks := [], queue := [] }

/-- The reply of a task that has ended. -/
def reply? (c : Crowd A Reply ω) (i : Nat) : Option Reply :=
  match c.tasks[i]? with
  | some (.ended reply) => some reply
  | _ => none

/-- No task is on its way. -/
def AllEnded (c : Crowd A Reply ω) : Prop := ∀ i, i < c.tasks.length → (c.reply? i).isSome

instance (c : Crowd A Reply ω) (i : Nat) : Decidable (c.CanGoOn i) :=
  match h : c.tasks[i]? with
  | some (.ready _) => .isTrue (by simp [CanGoOn, h])
  | some (.atLock _) => decidable_of_iff (c.lock.phase? i = some .woken) (by simp [CanGoOn, h])
  | some (.forTurn _) =>
      decidable_of_iff (c.taken = false ∧ c.turns.head? = some i) (by simp [CanGoOn, h])
  | some (.ended _) => .isFalse (by simp [CanGoOn, h])
  | none => .isFalse (by simp [CanGoOn, h])

def Enabled (c : Crowd A Reply ω) : Move → Prop
  | .call _ => True
  | .goOn i => c.CanGoOn i

instance (c : Crowd A Reply ω) : DecidablePred c.Enabled
  | .call _ => inferInstanceAs (Decidable True)
  | .goOn i => inferInstanceAs (Decidable (c.CanGoOn i))

/-- The calls that are made, in order. -/
def calls (moves : List Move) : List Call :=
  moves.filterMap fun
    | .call call => some call
    | .goOn _ => none

section

variable (perform : (s : S) → World ω → A s × ω) (serve : (call : Call) → Doing A call.Answer)

def next (c : Crowd A Reply ω) : Move → Crowd A Reply ω
  | .call call =>
      { c with tasks := c.tasks ++ [Standing.ready (taskFor serve call)] }.enqueue [c.tasks.length]
  | .goOn i => goOn perform c i

/-- Whether moves can happen one after the other. -/
def Legal : Crowd A Reply ω → List Move → Prop
  | _, [] => True
  | c, move :: later => c.Enabled move ∧ Legal (next perform serve c move) later

/-- The crowd after some moves. -/
def after (c : Crowd A Reply ω) (moves : List Move) : Crowd A Reply ω :=
  moves.foldl (next perform serve) c

/-- The task that a move ends, and its reply. -/
def ending (c : Crowd A Reply ω) : Move → List (Nat × Reply)
  | .call _ => []
  | .goOn i => ((goOn perform c i).reply? i).toList.map fun reply => (i, reply)

/-- The tasks that end, in the order in which they do, and their replies. -/
def endings : Crowd A Reply ω → List Move → List (Nat × Reply)
  | _, [] => []
  | c, move :: later => ending perform c move ++ endings (next perform serve c move) later

instance instDecidableLegal :
    (c : Crowd A Reply ω) → (moves : List Move) → Decidable (Legal perform serve c moves)
  | _, [] => inferInstanceAs (Decidable True)
  | c, move :: later =>
      have := instDecidableLegal (next perform serve c move) later
      inferInstanceAs (Decidable (c.Enabled move ∧ Legal perform serve _ later))

end

variable {perform : (s : S) → World ω → A s × ω} {serve : (call : Call) → Doing A call.Answer}
  {c : Crowd A Reply ω} {moves later : List Move} {move : Move}

theorem after_append :
    after perform serve c (moves ++ later)
      = after perform serve (after perform serve c moves) later :=
  List.foldl_append

theorem legal_append :
    Legal perform serve c (moves ++ later) ↔
      Legal perform serve c moves ∧ Legal perform serve (after perform serve c moves) later := by
  induction moves generalizing c with
  | nil => simp [Legal, after]
  | cons move moves ih =>
    simp only [List.cons_append, Legal, ih, and_assoc]
    exact Iff.rfl

/-- **What has ended by some move comes first.** -/
theorem endings_append :
    endings perform serve c (moves ++ later)
      = endings perform serve c moves
        ++ endings perform serve (after perform serve c moves) later := by
  induction moves generalizing c with
  | nil => rfl
  | cons move moves ih =>
    rw [List.cons_append, endings, endings, ih, List.append_assoc]
    rfl

/-! ### Making a call -/

variable {sharing : Sharing A ω} {served : Nat → Contents → Reply → Contents → Prop}
  {stages : Nat → Stage} {settled settled' settled'' : Contents} {i : Nat}

theorem inOrder_idle (w : World ω) :
    InOrder sharing served (idle w) (fun _ => .outside) w.contents where
  frame :=
    { sound := Lock.sound_empty
      place := fun _ => rfl
      beyond := fun _ _ => rfl
      taken := fun _ inTurn => inTurn.elim
      alone := fun _ _ inTurn => inTurn.elim
      entered := fun _ _ _ inside => by cases inside
      unchanged := fun _ => rfl }
  tasks := fun _ _ found => by cases found

/-- A crowd stays in order when a task joins it that is orderly. -/
theorem InOrder.call (inOrder : InOrder sharing served c stages settled) {call : Call}
    (orderly : ∀ w, Orderly sharing (Settled (served c.tasks.length)) (taskFor serve call)
      .outside w) :
    InOrder sharing served (next perform serve c (.call call)) stages settled where
  frame :=
    { inOrder.frame with
      beyond := fun i h => inOrder.frame.beyond i <| by
        have length : (c.tasks ++ [Standing.ready (taskFor serve call)]).length ≤ i := h
        rw [List.length_append] at length
        omega }
  tasks := by
    intro i standing h
    have h : (c.tasks ++ [Standing.ready (taskFor serve call)])[i]? = some standing := h
    rcases Nat.lt_or_ge i c.tasks.length with known | new
    · rw [List.getElem?_append_left known] at h
      exact inOrder.tasks i standing h
    · have last : i = c.tasks.length := by
        have := (List.getElem?_eq_some_iff.1 h).1
        rw [List.length_append, List.length_singleton] at this
        omega
      subst last
      rw [List.getElem?_concat_length] at h
      cases h
      rw [inOrder.frame.beyond _ (Nat.le_refl _)]
      exact fun w _ => orderly w

/-! ### Running -/

/-- What has come of a crowd in which some tasks have ended. -/
structure Ran (sharing : Sharing A ω) (served : Nat → Contents → Reply → Contents → Prop)
    (c : Crowd A Reply ω) (settled : Contents) (ended : List (Nat × Reply))
    (c' : Crowd A Reply ω) (settled' : Contents) : Prop where
  inOrder : ∃ stages, InOrder sharing served c' stages settled'
  serves : Serves (fun c e c' => served e.1 c e.2 c') settled ended settled'
  replies : ∀ i reply, c'.reply? i = some reply ↔ c.reply? i = some reply ∨ (i, reply) ∈ ended
  fresh : ∀ e ∈ ended, c.reply? e.1 = none
  distinct : (ended.map Prod.fst).Nodup

theorem Ran.refl (inOrder : InOrder sharing served c stages settled) :
    Ran sharing served c settled [] c settled where
  inOrder := ⟨stages, inOrder⟩
  serves := .nil settled
  replies i reply := by simp
  fresh _ mem := absurd mem List.not_mem_nil
  distinct := List.nodup_nil

theorem Ran.trans {c' c'' : Crowd A Reply ω} {ended ended' : List (Nat × Reply)}
    (h : Ran sharing served c settled ended c' settled')
    (h' : Ran sharing served c' settled' ended' c'' settled'') :
    Ran sharing served c settled (ended ++ ended') c'' settled'' where
  inOrder := h'.inOrder
  serves := h.serves.append h'.serves
  replies i reply := by
    rw [h'.replies, h.replies, List.mem_append, or_assoc]
  fresh e he := by
    rcases List.mem_append.1 he with he | he
    · exact h.fresh e he
    · -- What had ended before would still have ended in between.
      cases before : c.reply? e.1 with
      | none => rfl
      | some reply =>
        have still := (h.replies e.1 reply).2 (.inl before)
        rw [h'.fresh e he] at still
        cases still
  distinct := by
    rw [List.map_append, List.nodup_append]
    refine ⟨h.distinct, h'.distinct, ?_⟩
    rintro _ mem _ mem' rfl
    obtain ⟨e, he, rfl⟩ := List.mem_map.1 mem
    obtain ⟨e', he', same⟩ := List.mem_map.1 mem'
    have ended := (h.replies e.1 e.2).2 (.inr he)
    rw [← same, h'.fresh e' he'] at ended
    cases ended

theorem reply?_eq_none_of_canGoOn (can : c.CanGoOn i) : c.reply? i = none := by
  unfold CanGoOn at can
  unfold reply?
  cases found : c.tasks[i]? with
  | none => rfl
  | some standing =>
    cases standing with
    | ready | atLock | forTurn => rfl
    | ended =>
      rw [found] at can
      exact can.elim

theorem lt_of_reply? {reply : Reply} (h : c.reply? i = some reply) : i < c.tasks.length := by
  refine Nat.lt_of_not_le fun unknown => ?_
  rw [reply?, List.getElem?_eq_none unknown] at h
  cases h

/-- What a task leaves settled, in terms of its reply. -/
theorem Settles.serves (h : Settles (served i) settled settled' c.tasks[i]?) :
    Serves (fun c e c' => served e.1 c e.2 c') settled
      ((c.reply? i).toList.map fun reply => (i, reply)) settled' := by
  unfold reply?
  cases found : c.tasks[i]? with
  | none =>
    rw [found] at h
    cases h
    exact .nil settled
  | some standing =>
    rw [found] at h
    cases standing with
    | ready | atLock | forTurn =>
      cases h
      exact .nil settled
    | ended reply => exact .cons h (.nil settled')

theorem ran_goOn (possible : ∀ s w, sharing.may s w (perform s w).1 (perform s w).2)
    (inOrder : InOrder sharing served c stages settled) (can : c.CanGoOn i) :
    ∃ settled', Ran sharing served c settled (ending perform c (.goOn i)) (goOn perform c i)
      settled' := by
  have went := went_goOn possible inOrder can
  obtain ⟨settled', stages', inOrder', settles⟩ := went.settles
  refine ⟨settled', ⟨stages', inOrder'⟩, settles.serves, fun j reply => ?_, fun e he => ?_, ?_⟩
  · rcases eq_or_ne j i with rfl | ne
    · simp [ending, reply?_eq_none_of_canGoOn can]
    · have same : (goOn perform c i).reply? j = c.reply? j := by
        rw [reply?, went.others j ne, reply?]
      simp [same, ending, ne.symm]
  · obtain ⟨reply, -, rfl⟩ := List.mem_map.1 he
    exact reply?_eq_none_of_canGoOn can
  · rw [ending, List.map_map]
    cases (goOn perform c i).reply? i with
    | none => exact List.nodup_nil
    | some reply => exact List.pairwise_singleton _ i

/-- A call that is made ends nothing. -/
theorem ran_call (inOrder : InOrder sharing served c stages settled) {call : Call}
    (orderly : ∀ w, Orderly sharing (Settled (served c.tasks.length)) (taskFor serve call)
      .outside w) :
    Ran sharing served c settled [] (next perform serve c (.call call)) settled where
  inOrder := ⟨stages, inOrder.call orderly⟩
  serves := .nil settled
  replies j reply := by
    have same : (next perform serve c (.call call)).reply? j = c.reply? j := by
      show (match (c.tasks ++ [Standing.ready (taskFor serve call)])[j]? with
        | some (.ended reply) => some reply
        | _ => none) = c.reply? j
      unfold reply?
      rcases Nat.lt_trichotomy j c.tasks.length with known | rfl | new
      · rw [List.getElem?_append_left known]
      · rw [List.getElem?_concat_length, List.getElem?_eq_none (Nat.le_refl _)]
      · rw [List.getElem?_eq_none (by rw [List.length_append]; exact new),
          List.getElem?_eq_none (Nat.le_of_lt new)]
    simp [same]
  fresh _ mem := absurd mem List.not_mem_nil
  distinct := List.nodup_nil

/-! ### Whole schedules -/

/-- How the tasks of a crowd may be served that make certain calls. -/
def servedAs (served : (call : Call) → Contents → call.Answer → Contents → Prop)
    (made : List Call) (i : Nat) (c : Contents) (reply : Reply) (c' : Contents) : Prop :=
  made[i]? = some reply.call ∧ served reply.call c reply.answer c'

variable {served : (call : Call) → Contents → call.Answer → Contents → Prop} {made : List Call}

theorem orderly_taskFor {call : Call} (named : made[i]? = some call)
    {w : World ω} (orderly : Orderly sharing (Settled (served call)) (serve call) .outside w) :
    Orderly sharing (Settled (servedAs served made i)) (taskFor serve call) .outside w := by
  refine orderly.bind fun answer stage w settled => ?_
  cases stage with
  | outside => exact fun c => ⟨named, settled c⟩
  | gone entered => exact ⟨named, settled⟩
  | waiting | inside | inTurn => exact settled

/-- **Whatever the interleaving, calls that are orderly are served one after the other.** -/
theorem ran_after (possible : ∀ s w, sharing.may s w (perform s w).1 (perform s w).2)
    (orderly : ∀ call w, Orderly sharing (Settled (served call)) (serve call) .outside w)
    {before : List Call} (hmade : made = before ++ calls moves)
    (length : before.length = c.tasks.length)
    (inOrder : InOrder sharing (servedAs served made) c stages settled)
    (legal : Legal perform serve c moves) :
    ∃ settled', Ran sharing (servedAs served made) c settled (endings perform serve c moves)
      (after perform serve c moves) settled' := by
  induction moves generalizing c stages settled before with
  | nil => exact ⟨settled, .refl inOrder⟩
  | cons move moves ih =>
    obtain ⟨enabled, legal⟩ := legal
    cases move with
    | call call =>
      have named : made[c.tasks.length]? = some call := by
        rw [hmade, ← length]
        simp [calls]
      have first : Ran sharing (servedAs served made) c settled []
          (next perform serve c (.call call)) settled :=
        ran_call inOrder fun w => orderly_taskFor named (orderly call w)
      obtain ⟨stages', inOrder'⟩ := first.inOrder
      have hmade' : made = (before ++ [call]) ++ calls moves := by
        rw [hmade]
        simp [calls]
      have length' : (before ++ [call]).length
          = (next perform serve c (.call call)).tasks.length := by
        show _ = (c.tasks ++ _).length
        simp [length]
      obtain ⟨settled', rest⟩ := ih hmade' length' inOrder' legal
      exact ⟨settled', first.trans rest⟩
    | goOn i =>
      have went := went_goOn possible inOrder enabled
      obtain ⟨settled₁, first⟩ := ran_goOn possible inOrder enabled
      obtain ⟨stages', inOrder'⟩ := first.inOrder
      obtain ⟨settled', rest⟩ := ih hmade (length.trans went.length.symm)
        inOrder' legal
      exact ⟨settled', first.trans rest⟩

/-- Between any two moves the medium changes by one step at most, given the contents that there are
at that moment. -/
theorem medium_next (serve : (call : Call) → Doing A call.Answer)
    (possible : ∀ s w, sharing.may s w (perform s w).1 (perform s w).2)
    (inOrder : InOrder sharing (servedAs served made) c stages settled)
    (enabled : c.Enabled move) :
    let c' := next perform serve c move
    c'.world.medium = c.world.medium ∨
      sharing.step { c'.world with medium := c.world.medium } c'.world := by
  cases move with
  | call call => exact .inl rfl
  | goOn i => exact (went_goOn possible inOrder enabled).medium

/-- Where all tasks have ended, the contents are settled. -/
theorem InOrder.contents_of_ended {served : Nat → Contents → Reply → Contents → Prop}
    (inOrder : InOrder sharing served c stages settled)
    (ended : c.AllEnded) : c.world.contents = settled := by
  refine inOrder.frame.unchanged fun i entered entry => ?_
  have outside : stages i = .outside := by
    rcases Nat.lt_or_ge i c.tasks.length with known | unknown
    · obtain ⟨reply, replied⟩ := Option.isSome_iff_exists.1 (ended i known)
      have found : c.tasks[i]? = some (.ended reply) := by
        unfold reply? at replied
        split at replied
        next found =>
          cases replied
          exact found
        next => cases replied
      exact inOrder.tasks i _ found
    · exact inOrder.frame.beyond i unknown
  rw [outside] at entry
  cases entry

end Crowd
end Telemetry.Store
