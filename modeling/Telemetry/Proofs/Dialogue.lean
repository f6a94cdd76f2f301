import Telemetry.Outcome

/-!
# What holds however a dialogue is answered

A `Manner` says what may come of each question in each state, so it leaves room for faults.
`Always may during after d s` says of a dialogue that `during` holds at every moment of it and
`after` of its result, whichever of the possible answers it gets.  It composes along the
dialogue (`always_bind`), and a handler whose answers are possible inherits it for whole runs
(`Always.run`) and for runs that are broken off (`Always.runFor`).
-/

namespace Telemetry.Dialogue

variable {Q : Type} {A : Q → Type} {ε α β σ : Type}

/-- What may come of a question: the answer to it, and the state after it. -/
abbrev Manner (A : Q → Type) (σ : Type) : Type := (q : Q) → σ → A q → σ → Prop

/-- However the questions are answered, `during` holds at every moment and `after` at the end. -/
def Always (may : Manner A σ) (during : σ → Prop) (after : α → σ → Prop) :
    Dialogue Q A α → σ → Prop
  | done a, s => during s ∧ after a s
  | ask q next, s =>
      during s ∧ ∀ answer t, may q s answer t → Always may during after (next answer) t

/-! ### Composition -/

section

variable {may : Manner A σ} {during : σ → Prop} {after : α → σ → Prop}

@[simp] theorem always_done {a : α} {s : σ} :
    Always may during after (done a) s ↔ during s ∧ after a s := Iff.rfl

theorem always_ask {q : Q} {next : A q → Dialogue Q A α} {s : σ} :
    Always may during after (ask q next) s ↔
      during s ∧ ∀ answer t, may q s answer t → Always may during after (next answer) t := Iff.rfl

theorem Always.now {d : Dialogue Q A α} {s : σ} (h : Always may during after d s) : during s := by
  cases d with
  | done a => exact h.1
  | ask q next => exact h.1

/-- A weaker statement about every moment follows. -/
theorem Always.weaken {d : Dialogue Q A α} {s : σ} {during' : σ → Prop}
    (h : Always may during after d s) (weaken : ∀ t, during t → during' t) :
    Always may during' after d s := by
  induction d generalizing s with
  | done a => exact ⟨weaken s h.1, h.2⟩
  | ask q next ih =>
    exact ⟨weaken s h.1, fun answer t possible => ih answer (h.2 answer t possible)⟩

/-- A weaker statement about the result follows. -/
theorem Always.mono {d : Dialogue Q A α} {s : σ} {after' : α → σ → Prop}
    (h : Always may during after d s) (weaken : ∀ a t, during t → after a t → after' a t) :
    Always may during after' d s := by
  induction d generalizing s with
  | done a => exact ⟨h.1, weaken a s h.1 h.2⟩
  | ask q next ih => exact ⟨h.1, fun answer t possible => ih answer (h.2 answer t possible)⟩

/-- **A sequence is known by its parts**: whatever comes of the first dialogue, the second one
goes on from there. -/
theorem always_bind {d : Dialogue Q A α} {f : α → Dialogue Q A β} {s : σ}
    {after : β → σ → Prop} :
    Always may during after (d >>= f) s ↔
      Always may during (fun a t => Always may during after (f a) t) d s := by
  induction d generalizing s with
  | done a => exact ⟨fun h => ⟨h.now, h⟩, fun h => h.2⟩
  | ask q next ih =>
    rw [ask_bind, always_ask, always_ask]
    refine and_congr_right fun _ => forall_congr' fun answer => forall_congr' fun t => ?_
    exact imp_congr_right fun _ => ih answer

/-- The rule for a step that is followed by another one where it has a value. -/
theorem Always.andThen {d : Dialogue Q A (Outcome ε α)} {f : α → Dialogue Q A (Outcome ε β)}
    {s : σ} {between : Outcome ε α → σ → Prop} {after : Outcome ε β → σ → Prop}
    (first : Always may during between d s)
    (value : ∀ a t, during t → between (.value a) t → Always may during after (f a) t)
    (failure : ∀ e t, during t → between (.failure e) t → after (.failure e) t)
    (cancelled : ∀ t, during t → between .cancelled t → after .cancelled t) :
    Always may during after (d.andThen f) s := by
  rw [Dialogue.andThen, always_bind]
  refine first.mono fun outcome t now h => ?_
  cases outcome with
  | value a => exact value a t now h
  | failure e => exact ⟨now, failure e t now h⟩
  | cancelled => exact ⟨now, cancelled t now h⟩

/-- Something ends with a value or in a failure, and is not cancelled. -/
def Ends (done : α → σ → Prop) (failed : ε → σ → Prop) : Outcome ε α → σ → Prop
  | .value a, s => done a s
  | .failure e, s => failed e s
  | .cancelled, _ => False

/-- The rule for a sequence of two dialogues that are not cancelled. -/
theorem Always.andThen_ends {d : Dialogue Q A (Outcome ε α)}
    {f : α → Dialogue Q A (Outcome ε β)} {s : σ} {between : α → σ → Prop} {done : β → σ → Prop}
    {failed failed' : ε → σ → Prop} (first : Always may during (Ends between failed') d s)
    (value : ∀ a t, during t → between a t → Always may during (Ends done failed) (f a) t)
    (failure : ∀ e t, failed' e t → failed e t) :
    Always may during (Ends done failed) (d.andThen f) s :=
  first.andThen value (fun e t _ h => failure e t h) fun _ _ h => h

/-- Something ends with a value, in a failure, or cancelled. -/
def Concludes (done : α → σ → Prop) (failed : ε → σ → Prop) (stopped : σ → Prop) :
    Outcome ε α → σ → Prop
  | .value a, s => done a s
  | .failure e, s => failed e s
  | .cancelled, s => stopped s

/-- The rule for a sequence of two dialogues that may be cancelled. -/
theorem Always.andThen_concludes {d : Dialogue Q A (Outcome ε α)}
    {f : α → Dialogue Q A (Outcome ε β)} {s : σ} {between : α → σ → Prop} {done : β → σ → Prop}
    {failed failed' : ε → σ → Prop} {stopped stopped' : σ → Prop}
    (first : Always may during (Concludes between failed' stopped') d s)
    (value : ∀ a t, during t → between a t →
      Always may during (Concludes done failed stopped) (f a) t)
    (failure : ∀ e t, failed' e t → failed e t) (cancelled : ∀ t, stopped' t → stopped t) :
    Always may during (Concludes done failed stopped) (d.andThen f) s :=
  first.andThen value (fun e t _ h => failure e t h) fun t _ h => cancelled t h

theorem always_say {q : Q} {s : σ} {after : A q → σ → Prop} (now : during s)
    (h : ∀ answer t, may q s answer t → during t ∧ after answer t) :
    Always may during after (say q) s :=
  ⟨now, h⟩

end

/-! ### Steps -/

/-- However the questions are answered, each of them leads on by a step, and `after` holds at the
end. -/
def Stepwise (may : Manner A σ) (step : σ → σ → Prop) (after : α → σ → Prop) :
    Dialogue Q A α → σ → Prop
  | done a, s => after a s
  | ask q next, s =>
      ∀ answer t, may q s answer t → step s t ∧ Stepwise may step after (next answer) t

section

variable {may : Manner A σ} {step : σ → σ → Prop} {after : α → σ → Prop}

theorem Stepwise.mono {d : Dialogue Q A α} {s : σ} {after' : α → σ → Prop}
    (h : Stepwise may step after d s) (weaken : ∀ a t, after a t → after' a t) :
    Stepwise may step after' d s := by
  induction d generalizing s with
  | done a => exact weaken a s h
  | ask q next ih =>
    intro answer t possible
    obtain ⟨stepped, rest⟩ := h answer t possible
    exact ⟨stepped, ih answer rest⟩

theorem stepwise_bind {d : Dialogue Q A α} {f : α → Dialogue Q A β} {s : σ}
    {after : β → σ → Prop} :
    Stepwise may step after (d >>= f) s ↔
      Stepwise may step (fun a t => Stepwise may step after (f a) t) d s := by
  induction d generalizing s with
  | done a => exact Iff.rfl
  | ask q next ih =>
    refine forall_congr' fun answer => forall_congr' fun t => imp_congr_right fun _ => ?_
    exact and_congr_right fun _ => ih answer

/-- The rule for a sequence of two dialogues that are not cancelled. -/
theorem Stepwise.andThen_ends {d : Dialogue Q A (Outcome ε α)}
    {f : α → Dialogue Q A (Outcome ε β)} {s : σ} {between : α → σ → Prop} {done : β → σ → Prop}
    {failed failed' : ε → σ → Prop} (first : Stepwise may step (Ends between failed') d s)
    (value : ∀ a t, between a t → Stepwise may step (Ends done failed) (f a) t)
    (failure : ∀ e t, failed' e t → failed e t) :
    Stepwise may step (Ends done failed) (d.andThen f) s := by
  rw [Dialogue.andThen, stepwise_bind]
  refine first.mono fun outcome t h => ?_
  cases outcome with
  | value a => exact value a t h
  | failure e => exact failure e t h
  | cancelled => exact h.elim

/-- What every step keeps holds at every moment. -/
theorem Stepwise.always {d : Dialogue Q A α} {s : σ} {during : σ → Prop}
    (h : Stepwise may step after d s) (kept : ∀ t u, during t → step t u → during u)
    (now : during s) : Always may during after d s := by
  induction d generalizing s with
  | done a => exact ⟨now, h⟩
  | ask q next ih =>
    refine ⟨now, fun answer t possible => ?_⟩
    obtain ⟨stepped, rest⟩ := h answer t possible
    exact ih answer rest (kept s t now stepped)

end

/-! ### Questions -/

section

variable {p : Q → Prop}

/-- Whatever the answers, all questions of a dialogue are of one sort. -/
def Asks (p : Q → Prop) : Dialogue Q A α → Prop
  | done _ => True
  | ask q next => p q ∧ ∀ answer, Asks p (next answer)

theorem asks_bind {d : Dialogue Q A α} {f : α → Dialogue Q A β} (first : d.Asks p)
    (rest : ∀ a, (f a).Asks p) : (d >>= f).Asks p := by
  induction d with
  | done a => exact rest a
  | ask q next ih => exact ⟨first.1, fun answer => ih answer (first.2 answer)⟩

theorem asks_andThen {d : Dialogue Q A (Outcome ε α)} {f : α → Dialogue Q A (Outcome ε β)}
    (first : d.Asks p) (rest : ∀ a, (f a).Asks p) : (d.andThen f).Asks p := by
  refine asks_bind first fun outcome => ?_
  cases outcome with
  | value a => exact rest a
  | failure | cancelled => trivial

theorem Asks.mono {d : Dialogue Q A α} {p' : Q → Prop} (h : d.Asks p) (weaken : ∀ q, p q → p' q) :
    d.Asks p' := by
  induction d with
  | done a => trivial
  | ask q next ih => exact ⟨weaken q h.1, fun answer => ih answer (h.2 answer)⟩

/-- What no question of its sort changes is what it was, at every moment. -/
theorem Asks.always {d : Dialogue Q A α} (h : d.Asks p) {may : Manner A σ} {keeps : σ → Prop}
    (kept : ∀ q, p q → ∀ s, keeps s → ∀ answer t, may q s answer t → keeps t) {s : σ}
    (now : keeps s) : Always may keeps (fun _ t => keeps t) d s := by
  induction d generalizing s with
  | done a => exact ⟨now, now⟩
  | ask q next ih =>
    exact ⟨now, fun answer t possible =>
      ih answer (h.2 answer) (kept q h.1 s now answer t possible)⟩

end

/-! ### Runs -/

/-- The run of a sequence goes on where the first part has its value. -/
theorem run_andThen_value {handler : (q : Q) → σ → A q × σ} {d : Dialogue Q A (Outcome ε α)}
    {f : α → Dialogue Q A (Outcome ε β)} {s t : σ} {a : α}
    (h : run handler d s = (.value a, t)) :
    run handler (d.andThen f) s = run handler (f a) t := by
  rw [Dialogue.andThen, run_bind, h]

/-- The run of a sequence that ends with a function of what comes first. -/
theorem run_bind_pure (handler : (q : Q) → σ → A q × σ) (d : Dialogue Q A α) (f : α → β) (s : σ) :
    run handler (d >>= fun a => pure (f a)) s = (f (run handler d s).1, (run handler d s).2) :=
  run_bind handler d (fun a => pure (f a)) s

/-- The questions that are asked in a run, in order. -/
def asked (handler : (q : Q) → σ → A q × σ) : Dialogue Q A α → σ → List Q
  | done _, _ => []
  | ask q next, s => q :: asked handler (next (handler q s).1) (handler q s).2

theorem asked_bind (handler : (q : Q) → σ → A q × σ) (d : Dialogue Q A α) (f : α → Dialogue Q A β)
    (s : σ) :
    asked handler (d >>= f) s
      = asked handler d s ++ asked handler (f (run handler d s).1) (run handler d s).2 := by
  induction d generalizing s with
  | done a => rfl
  | ask q next ih => exact congrArg (List.cons q) (ih _ _)

/-- The questions that are asked in a run with their answers, in order. -/
def heard (handler : (q : Q) → σ → A q × σ) : Dialogue Q A α → σ → List ((q : Q) × A q)
  | done _, _ => []
  | ask q next, s =>
      ⟨q, (handler q s).1⟩ :: heard handler (next (handler q s).1) (handler q s).2

theorem heard_bind (handler : (q : Q) → σ → A q × σ) (d : Dialogue Q A α) (f : α → Dialogue Q A β)
    (s : σ) :
    heard handler (d >>= f) s
      = heard handler d s ++ heard handler (f (run handler d s).1) (run handler d s).2 := by
  induction d generalizing s with
  | done a => rfl
  | ask q next ih => exact congrArg (List.cons _) (ih _ _)

/-- What is to be told of the questions and answers of a run, in order. -/
def told {D : Type} (handler : (q : Q) → σ → A q × σ) (tell : (q : Q) × A q → Option D)
    (d : Dialogue Q A α) (s : σ) : List D :=
  (heard handler d s).filterMap tell

theorem told_bind {D : Type} (handler : (q : Q) → σ → A q × σ) (tell : (q : Q) × A q → Option D)
    (d : Dialogue Q A α) (f : α → Dialogue Q A β) (s : σ) :
    told handler tell (d >>= f) s
      = told handler tell d s ++ told handler tell (f (run handler d s).1) (run handler d s).2 := by
  rw [told, heard_bind, List.filterMap_append]
  rfl

/-- A value may be changed at the end of a run. -/
theorem run_andThen_map (handler : (q : Q) → σ → A q × σ) (d : Dialogue Q A (Outcome ε α))
    (g : α → β) (s : σ) :
    run handler (d.andThen fun a => pure (.value (g a))) s
      = ((run handler d s).1.map g, (run handler d s).2) := by
  rw [Dialogue.andThen, run_bind]
  cases (run handler d s).1 <;> rfl

theorem told_andThen_map {D : Type} (handler : (q : Q) → σ → A q × σ)
    (tell : (q : Q) × A q → Option D) (d : Dialogue Q A (Outcome ε α)) (g : α → β) (s : σ) :
    told handler tell (d.andThen fun a => pure (.value (g a))) s = told handler tell d s := by
  rw [Dialogue.andThen, told_bind]
  cases (run handler d s).1 <;> exact List.append_nil _

/-- Answer the first questions, at most so many, and give the state that they leave. -/
def runFor (handler : (q : Q) → σ → A q × σ) : Nat → Dialogue Q A α → σ → σ
  | 0, _, s => s
  | _ + 1, done _, s => s
  | n + 1, ask q next, s => runFor handler n (next (handler q s).1) (handler q s).2

section

variable {may : Manner A σ} {during : σ → Prop} {after : α → σ → Prop}
  {handler : (q : Q) → σ → A q × σ}

/-- Whatever always holds of the result holds of the result of a run. -/
theorem Always.run (possible : ∀ q s, may q s (handler q s).1 (handler q s).2)
    {d : Dialogue Q A α} {s : σ} (h : Always may during after d s) :
    after (run handler d s).1 (run handler d s).2 := by
  induction d generalizing s with
  | done a => exact h.2
  | ask q next ih => exact ih _ (h.2 _ _ (possible q s))

/-- Whatever holds at every moment holds where a run is broken off. -/
theorem Always.runFor (possible : ∀ q s, may q s (handler q s).1 (handler q s).2)
    {d : Dialogue Q A α} {s : σ} (h : Always may during after d s) (n : Nat) :
    during (runFor handler n d s) := by
  induction n generalizing d s with
  | zero => exact h.now
  | succ n ih =>
    cases d with
    | done a => exact h.1
    | ask q next => exact ih (h.2 _ _ (possible q s))

end

end Telemetry.Dialogue
