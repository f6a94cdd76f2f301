import Mathlib.Algebra.Ring.Int.Defs
import Telemetry.Proofs.Store.Effect

/-!
# Calls one after the other

What calls leave that are served one after the other is what has landed of them: the effects of those
that have succeeded, in order, and of no others (`Serves.landed`).  So what a call finds was landed
by calls before it (`Serves.found`), and the sum of a counter is the one that it was last set to
and what has been added to it since (`Serves.total`).
-/

namespace Telemetry.Store

/-- A call with its answer. -/
structure Reply where
  call : Call
  answer : call.Answer

/-- Calls were served one after the other, from some contents to others. -/
inductive Serves {α : Type} (served : Contents → α → Contents → Prop) :
    Contents → List α → Contents → Prop
  | nil (c : Contents) : Serves served c [] c
  | cons {c c' c'' : Contents} {a : α} {later : List α} (first : served c a c')
      (rest : Serves served c' later c'') : Serves served c (a :: later) c''

section

variable {α β : Type} {served : Contents → α → Contents → Prop} {c c' c'' : Contents}
  {replies later : List α}

theorem Serves.append (h : Serves served c replies c') (h' : Serves served c' later c'') :
    Serves served c (replies ++ later) c'' := by
  induction h with
  | nil => exact h'
  | cons first _ ih => exact .cons first (ih h')

theorem serves_append :
    Serves served c (replies ++ later) c'' ↔
      ∃ c', Serves served c replies c' ∧ Serves served c' later c'' := by
  refine ⟨fun h => ?_, fun ⟨c', h, h'⟩ => h.append h'⟩
  induction replies generalizing c with
  | nil => exact ⟨c, .nil c, h⟩
  | cons a replies ih =>
    obtain _ | ⟨first, rest⟩ := h
    obtain ⟨c', h, h'⟩ := ih rest
    exact ⟨c', .cons first h, h'⟩

theorem Serves.of_mem (h : Serves served c replies c') {a : α} (mem : a ∈ replies) :
    ∃ before after, served before a after := by
  induction h with
  | nil => cases mem
  | cons first _ ih =>
    rcases List.mem_cons.1 mem with rfl | mem
    · exact ⟨_, _, first⟩
    · exact ih mem

/-- What is known of every one of them is known of all. -/
theorem Serves.map (h : Serves served c replies c') {f : α → β}
    {served' : Contents → β → Contents → Prop}
    (weaken : ∀ a ∈ replies, ∀ c c', served c a c' → served' c (f a) c') :
    Serves served' c (replies.map f) c' := by
  induction h with
  | nil => exact .nil _
  | cons first _ ih =>
    refine .cons (weaken _ List.mem_cons_self _ _ first) (ih fun a h => ?_)
    exact weaken a (List.mem_cons_of_mem _ h)

end

/-- Answer calls one after the other. -/
def answerEach {S : Type} {A : S → Type} (serve : (call : Call) → Doing A call.Answer) :
    List Call → Doing A (List Reply)
  | [] => pure []
  | call :: later => do
      let answer ← serve call
      let replies ← answerEach serve later
      pure (⟨call, answer⟩ :: replies)

/-! ### What has landed -/

/-- A reply fits what its call does to the contents, or tells of a failure and nothing is done. -/
def Fits (c : Contents) (reply : Reply) (c' : Contents) : Prop :=
  Served reply.call.effect reply.call.found c reply.answer c' ∨
    (∃ e, reply.answer = .failure e) ∧ c' = c

/-- The contents after a call that was answered: its effect is had if it has succeeded. -/
def Reply.land (c : Contents) (reply : Reply) : Contents :=
  match reply.answer with
  | .value _ => (reply.call.effect c).toOption.getD c
  | _ => c

/-- What has landed of calls, on top of some contents. -/
def landed (c : Contents) (replies : List Reply) : Contents := replies.foldl Reply.land c

theorem Fits.land {c c' : Contents} {reply : Reply} (h : Fits c reply c') :
    c' = reply.land c := by
  obtain ⟨call, answer⟩ := reply
  have fits : Served call.effect call.found c answer c' ∨ (∃ e, answer = .failure e) ∧ c' = c := h
  rcases fits with served | ⟨⟨e, rfl⟩, rfl⟩
  · cases served with
    | done effect => simp [Reply.land, effect, Except.toOption]
    | refused | failed => rfl
  · rfl

variable {c c' : Contents} {replies earlier later : List Reply}

/-- **What is left is what has landed.** -/
theorem Serves.landed (h : Serves Fits c replies c') : c' = landed c replies := by
  induction h with
  | nil => rfl
  | cons first _ ih => rw [ih, first.land, Store.landed, Store.landed, List.foldl_cons]

/-- **What a call finds has landed before it.** -/
theorem Serves.found {call : Call} {result : call.Result}
    (h : Serves Fits c (earlier ++ ⟨call, .value result⟩ :: later) c') :
    result = call.found (Store.landed c earlier) := by
  obtain ⟨c₁, before, rest⟩ := serves_append.1 h
  obtain _ | ⟨first, -⟩ := rest
  rw [← before.landed]
  rcases first with served | ⟨⟨e, impossible⟩, -⟩
  case inr => cases impossible
  have served : Served call.effect call.found c₁ (.value result) _ := served
  cases served with
  | done effect =>
    cases call with
    | updateGauge | updateCounter | setCounter | save | ping => rfl
    | getGauge | getCounter | getAll =>
      cases effect
      rfl

/-! ### Counters -/

/-- What a reply says has been added to a counter. -/
def Reply.added (name : String) : Reply → Int
  | ⟨.updateCounter other delta, .value _⟩ => if other = name then delta else 0
  | _ => 0

/-- What a reply says a counter has been set to, if it says so. -/
def Reply.replaced? (name : String) : Reply → Option Int
  | ⟨.setCounter other value, .value _⟩ => if other = name then some value else none
  | _ => none

theorem total_setCounter (c : Contents) (name other : String) (value : Int) :
    (c.setCounter other value).total name = if other = name then value else c.total name := by
  rw [Contents.total, Contents.setCounter, Table.get?_put]
  split <;> rfl

/-- **A counter is set or added to by calls that have succeeded, and by no others.** -/
theorem Fits.total {reply : Reply} (h : Fits c reply c') (name : String) :
    c'.total name = (reply.replaced? name).getD (c.total name + reply.added name) := by
  obtain ⟨call, answer⟩ := reply
  have fits : Served call.effect call.found c answer c' ∨ (∃ e, answer = .failure e) ∧ c' = c := h
  rcases fits with served | ⟨⟨e, rfl⟩, rfl⟩
  case inr => cases call <;> exact (Int.add_zero _).symm
  cases served with
  | done effect =>
    cases call with
    | updateCounter other delta =>
      obtain ⟨-, rfl⟩ := setCounter_checked effect
      rw [total_setCounter]
      simp only [Reply.replaced?, Reply.added, Option.getD_none]
      split
      next same => rw [same]
      next => exact (Int.add_zero _).symm
    | setCounter other value =>
      obtain ⟨-, rfl⟩ := setCounter_checked effect
      rw [total_setCounter]
      simp only [Reply.replaced?, Reply.added, Int.add_zero]
      split <;> rfl
    | updateGauge =>
      cases effect
      exact (Int.add_zero _).symm
    | getGauge | getCounter | getAll | save | ping =>
      cases effect
      exact (Int.add_zero _).symm
  | refused | failed => cases call <;> exact (Int.add_zero _).symm

/-- **A counter that is not set is what it was before and what has been added to it.** -/
theorem Serves.total (h : Serves Fits c replies c') {name : String}
    (kept : ∀ reply ∈ replies, reply.replaced? name = none) :
    c'.total name = c.total name + (replies.map (·.added name)).sum := by
  induction h with
  | nil => exact (Int.add_zero _).symm
  | cons first _ ih =>
    have none := kept _ List.mem_cons_self
    rw [ih fun reply h => kept reply (List.mem_cons_of_mem _ h), first.total name, none,
      Option.getD_none, List.map_cons, List.sum_cons, Int.add_assoc]

/-- **A counter is what it was last set to and what has been added to it since.** -/
theorem Serves.total_of_replaced {reply : Reply} {name : String} {value : Int}
    (h : Serves Fits c (earlier ++ reply :: later) c') (set : reply.replaced? name = some value)
    (last : ∀ reply ∈ later, reply.replaced? name = none) :
    c'.total name = value + (later.map (·.added name)).sum := by
  obtain ⟨c₁, -, rest⟩ := serves_append.1 h
  obtain _ | ⟨first, rest⟩ := rest
  rw [rest.total last, first.total name, set, Option.getD_some]

end Telemetry.Store
