import Telemetry.Proofs.Store.File.Calls
import Telemetry.Proofs.Store.Memory
import Telemetry.Proofs.Store.Relational.WriteThrough

/-!
# Stores at work

A store at work is one of the three backends with its contents and its medium, which may fail.  A
relational store rests between its calls.  Whatever the backend, a call is answered as its effect
is (`AtWork.answered`), unless it goes astray: a call that comes to a write fails at a file store
whose file cannot be there, and has its effect all the same (`AtWork.answer_of_astray`).

The transcript of a dialogue with a store lists its calls with their answers, and how many steps
each has tried on the medium.
-/

namespace Telemetry.Store

open Dialogue

/-- A store with its contents and its medium. -/
inductive AtWork
  | memory (world : World Unit)
  | file (config : File.Config) (world : World File.Rough)
  | relational (world : World Relational.Faulty) (rest : Relational.AtRest world)

namespace AtWork

def contents : AtWork → Contents
  | memory world => world.contents
  | file _ world => world.contents
  | relational world _ => world.contents

/-- The number of steps that have been tried on the medium. -/
def tried : AtWork → Nat
  | memory _ => 0
  | file _ world => world.medium.tried
  | relational world _ => world.medium.tried

/-- A relational store rests again after a call. -/
theorem atRest_run (call : Call) {world : World Relational.Faulty}
    (rest : Relational.AtRest world) :
    Relational.AtRest (run (alone Relational.Faulty.perform) (Relational.serve call) world).2 :=
  ((Relational.always_serve call rest).run fun q w =>
    within_alone (Relational.Faulty.may_perform w) q).1

def answer (call : Call) : AtWork → call.Answer × AtWork
  | memory world =>
      let result := run (alone Memory.perform) (Memory.serve call) world
      (result.1, memory result.2)
  | file config world =>
      let result := run (File.onRough config.path) (File.serveAt config call) world
      (result.1, file config result.2)
  | relational world rest =>
      let result := run (alone Relational.Faulty.perform) (Relational.serve call) world
      (result.1, relational result.2 (atRest_run call rest))

/-- A call comes to a write, and no file can be where the store would write it. -/
def LeadsAstray (call : Call) : AtWork → Prop
  | file config world => config.LeadsAstray call world.contents
  | memory _ | relational .. => False

theorem returned_file (config : File.Config) (world : World File.Rough) (call : Call) :
    File.Returned (config.LeadsAstray call world.contents) call.effect call.found world
      (run (File.onRough config.path) (File.serveAt config call) world).1
      (run (File.onRough config.path) (File.serveAt config call) world).2 :=
  (File.always_serveAt config call world).run (File.within_onRough config.path)

/-- **Every backend answers a call as its effect is**, unless it goes astray, and one that is
refused leaves the store as it was. -/
theorem answered (store : AtWork) {call : Call} (bindable : call.Bindable)
    (arrives : ¬ store.LeadsAstray call) :
    Served call.effect call.found store.contents (store.answer call).1
        (store.answer call).2.contents ∧
      ∀ e, call.effect store.contents = .error e → (store.answer call).2 = store := by
  cases store with
  | memory world =>
    have h : Answered call.effect call.found world
        (run (alone Memory.perform) (Memory.serve call) world).1
        (run (alone Memory.perform) (Memory.serve call) world).2 :=
      (Memory.always_serve call).run fun q w => within_alone (fun s => nomatch s) q
    refine ⟨h.served, fun e he => ?_⟩
    rw [answer, h.untouched e he]
  | file config world =>
    have returned := returned_file config world call
    simp only [answer]
    generalize run (File.onRough config.path) (File.serveAt config call) world = result at returned
    obtain ⟨outcome, world'⟩ := result
    cases returned with
    | astray strays => exact absurd strays arrives
    | usual _ h => exact ⟨h.served, fun e he => congrArg (file config) (h.untouched e he)⟩
  | relational world rest =>
    have h := ((Relational.always_serve call rest).run fun q w =>
      within_alone (Relational.Faulty.may_perform w) q).2 bindable
    refine ⟨h.served, fun e he => ?_⟩
    have same := h.untouched e he
    simp only [answer]
    congr

/-- **A call that goes astray fails, and has its effect.** -/
theorem answer_of_astray {store : AtWork} {call : Call} (astray : store.LeadsAstray call) :
    (store.answer call).1 = .failure File.nowhere ∧
      call.effect store.contents = .ok (store.answer call).2.contents := by
  cases store with
  | memory | relational => exact astray.elim
  | file config world =>
    have returned := returned_file config world call
    simp only [answer]
    generalize run (File.onRough config.path) (File.serveAt config call) world = result at returned
    obtain ⟨outcome, world'⟩ := result
    cases returned with
    | astray _ changed => exact ⟨rfl, changed⟩
    | usual arrives => exact absurd astray arrives

/-- A file can be where the store keeps one. -/
def Placed : AtWork → Prop
  | file config _ => config.path.all File.nameable = true
  | memory _ | relational .. => True

/-- Only a store whose file cannot be there leads a call astray. -/
theorem Placed.arrives {store : AtWork} (placed : store.Placed) (call : Call) :
    ¬ store.LeadsAstray call := by
  cases store with
  | memory | relational => exact id
  | file config world => exact fun astray => nomatch placed.symm.trans astray.1

/-- A store stays where it is. -/
theorem placed_answer {store : AtWork} (placed : store.Placed) (call : Call) :
    (store.answer call).2.Placed := by
  cases store with
  | memory | file | relational => exact placed

theorem answer_getAll (store : AtWork) :
    (store.answer .getAll).1 = .value store.contents.snapshot := by
  cases store with
  | memory => rfl
  | relational => rfl
  | file =>
    simp only [answer, File.serveAt]
    split <;> rfl

/-- Looking up a gauge leaves a store as it is. -/
theorem answer_getGauge (store : AtWork) (name : String) :
    store.answer (.getGauge name) = (.value (store.contents.gauges.get? name), store) := by
  cases store with
  | memory => rfl
  | relational => rfl
  | file =>
    simp only [answer, File.serveAt]
    split <;> rfl

/-- Looking up a counter leaves a store as it is. -/
theorem answer_getCounter (store : AtWork) (name : String) :
    store.answer (.getCounter name) = (.value (store.contents.counters.get? name), store) := by
  cases store with
  | memory => rfl
  | relational => rfl
  | file =>
    simp only [answer, File.serveAt]
    split <;> rfl

end AtWork

/-! ### Transcripts -/

/-- A call with its answer. -/
structure Exchange where
  call : Call
  answer : call.Answer
  /-- The number of steps that the call has tried on the medium. -/
  tried : Nat

/-- The call has returned. -/
def Exchange.Succeeded (e : Exchange) : Prop := ∃ result, e.answer = .value result

/-- The medium has failed. -/
def Exchange.Unsaved (e : Exchange) : Prop := ∃ fault, e.answer = .failure (.storage fault)

/-- The call has come to a write where no file can be. -/
def Exchange.Astray (e : Exchange) : Prop := e.answer = .failure File.nowhere

/-- The calls of a dialogue with a store, and their answers. -/
def AtWork.transcript {α : Type} : Dialogue Call Call.Answer α → AtWork → List Exchange
  | .done _, _ => []
  | .ask call next, store =>
      let (answer, store') := store.answer call
      ⟨call, answer, store'.tried - store.tried⟩ :: transcript (next answer) store'

/-- The transcript of a sequence is made of those of its parts. -/
theorem AtWork.transcript_bind {α β : Type} (d : Dialogue Call Call.Answer α)
    (f : α → Dialogue Call Call.Answer β) (store : AtWork) :
    transcript (d >>= f) store = transcript d store
      ++ transcript (f (run AtWork.answer d store).1) (run AtWork.answer d store).2 := by
  induction d generalizing store with
  | done a => rfl
  | ask call next ih => exact congrArg (List.cons _) (ih _ _)

def askEach : List Call → Dialogue Call Call.Answer Unit
  | [] => pure ()
  | call :: later => do
      let _ ← Dialogue.say call
      askEach later

end Telemetry.Store
