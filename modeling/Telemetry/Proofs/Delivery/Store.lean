import Telemetry.Proofs.Ingest
import Telemetry.Proofs.Store.Relational.Rollback
import Telemetry.Store.Refusing

/-!
# Stores behind a collector

A collector updates its store and reads counters back.  A `Lawful` store is anything whose updates
have their effect or none, whatever fails and when, and whose counters can be read.  So are the
three backends at work (`Lawful.ofAtWork`), a memory store that does not take some names
(`Lawful.ofRefusing`), and a relational store whose rollbacks are refused as well as its statements
and commits (`Lawful.ofUnruly`).

An update that fails for a reason that nothing expects may have its effect all the same.  A store
where that does not happen undoes what fails (`Lawful.Undoes`); a store at work does, if its file
can be where it keeps it.
-/

namespace Telemetry.Store

open Dialogue
open Ingest (callOf)

/-- An update is done, or it fails and changes nothing, or it goes astray: it is done, and fails for
a reason that nothing expects. -/
inductive Taken {ρ : Type} (effect : Contents → Except Error Contents) (found : Contents → ρ)
    (c : Contents) : Outcome Error ρ → Contents → Prop
  | done {after : Contents} (h : effect c = .ok after) :
      Taken effect found c (.value (found after)) after
  | failed (e : Error) : Taken effect found c (.failure e) c
  | astray {after : Contents} (h : effect c = .ok after) (failure : Failure) :
      Taken effect found c (.failure (.unexpected failure)) after

theorem Served.taken {ρ : Type} {effect : Contents → Except Error Contents} {found : Contents → ρ}
    {c c' : Contents} {outcome : Outcome Error ρ} (h : Served effect found c outcome c') :
    Taken effect found c outcome c' := by
  cases h with
  | done h => exact .done h
  | refused => exact .failed _
  | failed => exact .failed _

/-- A store as a collector uses it. -/
structure Lawful where
  State : Type
  contents : State → Contents
  answer : (call : Call) → State → call.Answer × State
  updated : ∀ (r : Reading) (s : State), r.Sound →
    Taken (callOf r).effect (callOf r).found (contents s) (answer (callOf r) s).1
      (contents (answer (callOf r) s).2)
  counted : ∀ (name : String) (s : State),
    (answer (.getCounter name) s).1 = .value ((contents s).counters.get? name) ∧
      contents (answer (.getCounter name) s).2 = contents s

namespace Lawful

/-- A store that fails only where a counter would leave its range. -/
def Unfailing (S : Lawful) : Prop :=
  ∀ (r : Reading) (s : S.State) (e : Error), r.Sound → (S.answer (callOf r) s).1 = .failure e →
    (callOf r).effect (S.contents s) = .error e

/-- A store in which an update that fails has changed nothing. -/
def Undoes (S : Lawful) : Prop :=
  ∀ (r : Reading) (s : S.State) (e : Error), r.Sound → (S.answer (callOf r) s).1 = .failure e →
    S.contents (S.answer (callOf r) s).2 = S.contents s

/-- **A store that fails for no reason that nothing expects undoes what fails.** -/
theorem undoes_of_expected {S : Lawful}
    (expected : ∀ (r : Reading) (s : S.State) (failure : Failure), r.Sound →
      (S.answer (callOf r) s).1 ≠ .failure (.unexpected failure)) : S.Undoes := by
  intro r s e sound failed
  have taken := S.updated r s sound
  have expected := expected r s
  rw [failed] at taken expected
  generalize S.contents (S.answer (callOf r) s).2 = after at taken
  cases taken with
  | failed => rfl
  | astray _ failure => exact absurd rfl (expected failure sound)

/-! ### The three backends -/

theorem taken_callOf (store : AtWork) {r : Reading} (sound : r.Sound) :
    Taken (callOf r).effect (callOf r).found store.contents (store.answer (callOf r)).1
      (store.answer (callOf r)).2.contents := by
  by_cases astray : store.LeadsAstray (callOf r)
  · obtain ⟨failed, effect⟩ := AtWork.answer_of_astray astray
    rw [failed]
    exact .astray effect _
  · exact (store.answered (Ingest.bindable_callOf sound) astray).1.taken

/-- A backend whose medium may fail. -/
def ofAtWork : Lawful where
  State := AtWork
  contents := AtWork.contents
  answer call store := store.answer call
  updated _ store sound := taken_callOf store sound
  counted name store := by
    rw [AtWork.answer_getCounter]
    exact ⟨rfl, rfl⟩

/-- A backend whose file can be where it keeps it, if it keeps one. -/
def ofPlaced : Lawful where
  State := { store : AtWork // store.Placed }
  contents store := store.1.contents
  answer call store := ((store.1.answer call).1, ⟨(store.1.answer call).2,
    AtWork.placed_answer store.2 call⟩)
  updated _ store sound := taken_callOf store.1 sound
  counted name store := ofAtWork.counted name store.1

/-- **A store at work undoes what fails**, if its file can be where it keeps it. -/
theorem undoes_ofPlaced : ofPlaced.Undoes := by
  refine undoes_of_expected ?_
  rintro r ⟨store, placed⟩ failure sound (failed : (store.answer (callOf r)).1 = _)
  have served := (store.answered (Ingest.bindable_callOf sound) (placed.arrives _)).1
  rw [failed] at served
  exact served.expected

/-! ### A store that does not take some names -/

/-- Answer a call to a memory store that does not take updates of some names. -/
def refuse (names : List String) (call : Call) (w : World Unit) : call.Answer × World Unit :=
  run (alone Memory.perform) (refusing names Memory.serve call) w

theorem refusing_callOf {S : Type} {A : S → Type} (names : List String)
    (serve : (call : Call) → Doing A call.Answer) (r : Reading) :
    refusing names serve (callOf r)
      = if names.contains r.name then pure (.failure (.storage (.refused r.name)))
        else serve (callOf r) := by
  cases r with
  | gauge => rfl
  | counter => rfl

/-- An update is refused, or it is one of a memory store. -/
theorem refuse_cases (names : List String) (r : Reading) (w : World Unit) :
    (∃ fault, refuse names (callOf r) w = (.failure (.storage fault), w)) ∨
      Served (callOf r).effect (callOf r).found w.contents (refuse names (callOf r) w).1
        (refuse names (callOf r) w).2.contents := by
  rw [refuse, refusing_callOf]
  split
  · exact .inl ⟨_, rfl⟩
  · have answered : Answered (callOf r).effect (callOf r).found w
        (run (alone Memory.perform) (Memory.serve (callOf r)) w).1
        (run (alone Memory.perform) (Memory.serve (callOf r)) w).2 :=
      (Memory.always_serve (callOf r)).run fun q w => within_alone (fun s => nomatch s) q
    exact .inr answered.served

theorem taken_refuse (names : List String) (r : Reading) (w : World Unit) :
    Taken (callOf r).effect (callOf r).found w.contents (refuse names (callOf r) w).1
      (refuse names (callOf r) w).2.contents := by
  rcases refuse_cases names r w with ⟨fault, refused⟩ | served
  · rw [refused]
    exact .failed _
  · exact served.taken

def ofRefusing (names : List String) : Lawful where
  State := World Unit
  contents := World.contents
  answer := refuse names
  updated r w _ := taken_refuse names r w
  counted _ _ := ⟨rfl, rfl⟩

theorem undoes_ofRefusing (names : List String) : (ofRefusing names).Undoes := by
  refine undoes_of_expected fun r w failure _ failed => ?_
  have failed : (refuse names (callOf r) w).1 = .failure (.unexpected failure) := failed
  rcases refuse_cases names r w with ⟨fault, refused⟩ | served
  · rw [refused] at failed
    cases failed
  · rw [failed] at served
    exact served.expected

/-- A memory store that takes every name does not fail. -/
theorem unfailing_ofRefusing_nil : (ofRefusing []).Unfailing := by
  intro r w e _ failed
  have changed (effect : Contents → Except Error Contents)
      (failed : (run (alone Memory.perform) (Memory.change effect) w).1 = .failure e) :
      effect w.contents = .error e :=
    Memory.always_change_unless_refused.run (fun q w => within_alone (fun s => nomatch s) q) e failed
  cases r with
  | gauge name value => exact changed (fun c => .ok (c.setGauge name value)) failed
  | counter name amount =>
    exact changed (fun c => c.setCounter name <$> checked name (c.total name + amount)) failed

/-! ### A relational store with refused rollbacks -/

theorem taken_changed {statement : Statement} {f : Contents → Except Error Contents}
    {w w' : World Relational.Unruly} {outcome : Outcome Error Unit}
    (h : Relational.Unruly.Changed statement f w outcome w') :
    Taken f (fun _ => ()) w.contents outcome w'.contents := by
  cases h with
  | done h _ contents => exact contents ▸ .done h
  | refused => exact .failed _
  | failed _ drifted => exact drifted.contents ▸ .failed _

theorem taken_unruly (r : Reading) (w : World Relational.Unruly) :
    Taken (callOf r).effect (callOf r).found w.contents (Relational.Unruly.served (callOf r) w).1
      (Relational.Unruly.served (callOf r) w).2.contents := by
  have changed {kind : Kind} {name : String} (statement : Statement)
      (f : Contents → Except Error Contents)
      (opens : Database.Statement.opens statement = true) :
      Taken f (fun _ => ()) w.contents
        (run (alone Relational.Unruly.perform) (Relational.change kind name statement f) w).1
        (run (alone Relational.Unruly.perform) (Relational.change kind name statement f) w).2.contents :=
    taken_changed ((Relational.Unruly.always_change opens).run
      fun q w => within_alone (Relational.Unruly.may_perform w) q)
  cases r with
  | gauge name value =>
    exact changed (.putGauge name value) (fun c => .ok (c.setGauge name value)) rfl
  | counter name amount =>
    exact changed (.addCounter name amount)
      (fun c => c.setCounter name <$> checked name (c.total name + amount)) rfl

def ofUnruly : Lawful where
  State := World Relational.Unruly
  contents := World.contents
  answer := Relational.Unruly.served
  updated r w _ := taken_unruly r w
  counted _ _ := ⟨rfl, rfl⟩

end Lawful
end Telemetry.Store
