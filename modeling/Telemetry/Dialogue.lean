/-!
# Dialogues

A dialogue asks its surroundings one question at a time and goes on with the answer,
until it has a result.  Everything in this library that touches a disk, a database, a
network or a clock is a dialogue.  One definition can then be answered by a working
system, by a script of faults, or one question at a time among other dialogues.

The two ways to read a dialogue are `Dialogue.run`, which answers every question from a
state, and `Dialogue.answerWith`, which answers every question by another dialogue.  Both
commute with sequencing: `run_bind` and `answerWith_bind`.
-/

namespace Telemetry

/-- A computation that asks questions from `Q`, where `A q` is the type of answers to `q`. -/
inductive Dialogue (Q : Type) (A : Q → Type) (α : Type) : Type
  | done (result : α)
  | ask (question : Q) (next : A question → Dialogue Q A α)

namespace Dialogue

variable {Q R : Type} {A : Q → Type} {B : R → Type} {α β γ σ : Type}

/-! ### Sequencing -/

/-- Go on with `f` where `d` ends. -/
protected def bind (d : Dialogue Q A α) (f : α → Dialogue Q A β) : Dialogue Q A β :=
  match d with
  | done a => f a
  | ask q next => ask q fun answer => (next answer).bind f

instance : Monad (Dialogue Q A) where
  pure := done
  bind := Dialogue.bind

def say (q : Q) : Dialogue Q A (A q) := ask q done

@[simp] theorem pure_eq (a : α) : (pure a : Dialogue Q A α) = done a := rfl

@[simp] theorem done_bind (a : α) (f : α → Dialogue Q A β) : (done a >>= f) = f a := rfl

@[simp] theorem ask_bind (q : Q) (next : A q → Dialogue Q A α) (f : α → Dialogue Q A β) :
    (ask q next >>= f) = ask q fun answer => next answer >>= f := rfl

@[simp] theorem say_bind (q : Q) (f : A q → Dialogue Q A β) : (say q >>= f) = ask q f := rfl

theorem bind_done (d : Dialogue Q A α) : (d >>= done) = d := by
  induction d with
  | done a => rfl
  | ask q next ih => exact congrArg (ask q) (funext ih)

theorem bind_assoc (d : Dialogue Q A α) (f : α → Dialogue Q A β) (g : β → Dialogue Q A γ) :
    (d >>= f >>= g) = d >>= fun a => f a >>= g := by
  induction d with
  | done a => rfl
  | ask q next ih => exact congrArg (ask q) (funext ih)

instance : LawfulMonad (Dialogue Q A) :=
  LawfulMonad.mk' _ bind_done (fun _ _ => rfl) bind_assoc

/-! ### Answering from a state -/

/-- Answer every question by `handler`, which may change the state. -/
def run (handler : (q : Q) → σ → A q × σ) : Dialogue Q A α → σ → α × σ
  | done a, s => (a, s)
  | ask q next, s => run handler (next (handler q s).1) (handler q s).2

variable (handler : (q : Q) → σ → A q × σ)

@[simp] theorem run_done (a : α) (s : σ) : run handler (done a) s = (a, s) := rfl

@[simp] theorem run_ask (q : Q) (next : A q → Dialogue Q A α) (s : σ) :
    run handler (ask q next) s = run handler (next (handler q s).1) (handler q s).2 := rfl

theorem run_bind (d : Dialogue Q A α) (f : α → Dialogue Q A β) (s : σ) :
    run handler (d >>= f) s = run handler (f (run handler d s).1) (run handler d s).2 := by
  induction d generalizing s with
  | done a => rfl
  | ask q next ih => exact ih _ _

/-! ### Answering by another dialogue -/

def answerWith (f : (q : Q) → Dialogue R B (A q)) : Dialogue Q A α → Dialogue R B α
  | done a => done a
  | ask q next => f q >>= fun answer => answerWith f (next answer)

variable (f : (q : Q) → Dialogue R B (A q))

@[simp] theorem answerWith_done (a : α) : answerWith f (done a : Dialogue Q A α) = done a := rfl

@[simp] theorem answerWith_ask (q : Q) (next : A q → Dialogue Q A α) :
    answerWith f (ask q next) = f q >>= fun answer => answerWith f (next answer) := rfl

theorem answerWith_bind (d : Dialogue Q A α) (g : α → Dialogue Q A β) :
    answerWith f (d >>= g) = answerWith f d >>= fun a => answerWith f (g a) := by
  induction d with
  | done a => rfl
  | ask q next ih => simp only [ask_bind, answerWith_ask, bind_assoc, ih]

end Dialogue
end Telemetry
